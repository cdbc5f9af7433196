import TypeFlow.Fault

/-!
# Field values and dropdown choices

A field holds nothing, a text or a list.  A dropdown choice is a list of a
label, a value and optionally the types the value stands for; more items may
follow.
-/

namespace TypeFlow

inductive FieldValue where
  | nothing
  | text (content : String)
  | list (items : List FieldValue)
  deriving Repr

namespace FieldValue

instance : Inhabited FieldValue := ⟨.nothing⟩

mutual

def decEq : (left right : FieldValue) → Decidable (left = right)
  | .nothing, .nothing => isTrue rfl
  | .text left, .text right =>
      if same : left = right then isTrue (by rw [same])
        else isFalse (by simp [same])
  | .list left, .list right =>
      match decEqList left right with
      | isTrue same => isTrue (by rw [same])
      | isFalse differ => isFalse (by simp [differ])
  | .nothing, .text _ | .nothing, .list _ | .text _, .nothing | .text _, .list _
  | .list _, .nothing | .list _, .text _ => isFalse (by simp)

def decEqList : (left right : List FieldValue) → Decidable (left = right)
  | [], [] => isTrue rfl
  | left :: lefts, right :: rights =>
      match decEq left right, decEqList lefts rights with
      | isTrue same, isTrue sames => isTrue (by rw [same, sames])
      | isFalse differ, _ => isFalse (by simp [differ])
      | _, isFalse differ => isFalse (by simp [differ])
  | [], _ :: _ | _ :: _, [] => isFalse (by simp)

end

instance : DecidableEq FieldValue := decEq

/-- Nothing, an empty text or an empty list. -/
def isBlank : FieldValue → Bool
  | .nothing => true
  | .text content => content = ""
  | .list items => items.isEmpty

def text? : FieldValue → Option String
  | .text content => some content
  | _ => none

mutual

/-- The value as it is shown to a user. -/
def display : FieldValue → String
  | .nothing => "None"
  | .text content => Text.quoted content
  | .list items => Text.bracketed (displayAll items)

def displayAll : List FieldValue → List String
  | [] => []
  | item :: rest => display item :: displayAll rest

end

end FieldValue

/-- A label, a value, optionally a list of types, and anything more. -/
abbrev Choice := List FieldValue

namespace Choice

def value (choice : Choice) : Except Fault FieldValue :=
  match choice[1]? with
  | some value => .ok value
  | none => .error .choiceTooShort

/-- The types the choice stands for. -/
def types (choice : Choice) : TypeList :=
  match (choice[2]? : Option FieldValue) with
  | some (.list items) => items.filterMap FieldValue.text?
  | some (.text content) => content.toList.map Char.toString
  | _ => []

/-- The first choice with this value. -/
def search (wanted : FieldValue) : List Choice → Except Fault (Option Choice)
  | [] => .ok none
  | choice :: rest => do
      if (← choice.value) = wanted then return some choice
      search wanted rest

/-- The choice that a value selects; a whole choice selects by its own value,
and a blank value selects nothing. -/
def find (choices : List Choice) (selector : FieldValue) : Except Fault
    (Option Choice) := do
  let wanted ← match selector with
    | .list items => Choice.value items
    | single => pure single
  if wanted.isBlank then return none
  search wanted choices

/-- The types of the selected choice, none if nothing is selected. -/
def typesOf : Option Choice → TypeList
  | none => []
  | some choice => choice.types

end Choice

end TypeFlow
