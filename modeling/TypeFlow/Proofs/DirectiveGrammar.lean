import Mathlib.Data.List.TakeWhile
import TypeFlow.Directive.Basic

/-!
# The grammar of directives

A body is a name, alone or followed by the symbol of a modifier and any text.
A name is not empty and has no symbol in it, so it ends at the first symbol,
and whatever follows belongs to the higher type.  `Proper` are the directives
that can be written like this.  Reading a body and writing a proper directive
are inverse to each other.
-/

namespace TypeFlow.Directive

variable {character : Char}

/-- No symbol of a modifier occurs. -/
def FreeOfSymbols (text : List Char) : Prop :=
  '+' ∉ text ∧ '-' ∉ text ∧ '^' ∉ text

/-- The longest start of a text in which no symbol occurs. -/
structure LongestFree (text name : List Char) : Prop where
  starts : name <+: text
  free : FreeOfSymbols name
  longest : ∀ other, other <+: text → FreeOfSymbols other →
    other.length ≤ name.length

/-- The directive has a name without symbols, and a higher type just when it
has a modifier. -/
structure Proper (directive : Directive) : Prop where
  named : directive.source ≠ ""
  free : FreeOfSymbols directive.source.toList
  paired : directive.modifier.isSome ↔ directive.higher.isSome

section Names

theorem isNameChar_iff :
    isNameChar character = true ↔ character ≠ '+' ∧ character ≠ '-' ∧
      character ≠ '^' := by
  unfold isNameChar Modifier.ofChar?
  split
  · simp_all
  · split
    · simp_all
    · split <;> simp_all

theorem freeOfSymbols_iff {text : List Char} :
    FreeOfSymbols text ↔ ∀ character ∈ text, isNameChar character = true := by
  constructor
  · rintro ⟨noPlus, noMinus, noCaret⟩ character member
    rw [isNameChar_iff]
    refine ⟨?_, ?_, ?_⟩
    all_goals
      rintro rfl
      contradiction
  · intro names
    refine ⟨?_, ?_, ?_⟩
    all_goals
      intro member
      have isName := isNameChar_iff.mp (names _ member)
      simp at isName

/-- A character that cannot be part of a name is a symbol. -/
theorem exists_symbol (ends : isNameChar character = false) :
    ∃ modifier, Modifier.symbol modifier = character := by
  unfold isNameChar at ends
  cases found : Modifier.ofChar? character with
  | none =>
      rw [found] at ends
      cases ends
  | some modifier => exact ⟨modifier, Modifier.symbol_of_ofChar? found⟩

theorem isNameChar_symbol (modifier : Modifier) :
    isNameChar modifier.symbol = false := by
  rw [isNameChar, Modifier.ofChar?_symbol]
  rfl

theorem toList_text (modifier : Modifier) :
    modifier.text.toList = [modifier.symbol] := by
  cases modifier <;> decide

theorem longestFree_takeWhile (text : List Char) :
    LongestFree text (text.takeWhile isNameChar) := by
  constructor
  · exact List.takeWhile_prefix isNameChar
  · rw [freeOfSymbols_iff]
    exact fun _ => List.mem_takeWhile_imp
  · intro other starts free
    obtain ⟨rest, rfl⟩ := starts
    rw [List.takeWhile_append_of_pos (freeOfSymbols_iff.mp free),
      List.length_append]
    exact Nat.le_add_right _ _

end Names

section Reading

variable {body : String} {directive : Directive}

/-- A name alone is read as it stands. -/
theorem parse?_bare {name : List Char} (named : name ≠ [])
    (free : FreeOfSymbols name) :
    parse? (String.ofList name) = some ⟨String.ofList name, none, none⟩ := by
  have names := freeOfSymbols_iff.mp free
  unfold parse?
  rw [String.toList_ofList, List.takeWhile_eq_self_iff.mpr names,
    List.dropWhile_eq_nil_iff.mpr names]
  cases name with
  | nil => exact absurd rfl named
  | cons first rest => rfl

theorem parse?_modified {name : List Char} (named : name ≠ [])
    (free : FreeOfSymbols name) (modifier : Modifier) (higher : List Char) :
    parse? (String.ofList (name ++ modifier.symbol :: higher)) =
      some ⟨String.ofList name, some modifier,
        some (String.ofList higher)⟩ := by
  have names := freeOfSymbols_iff.mp free
  have ends : ¬ isNameChar modifier.symbol = true := by
    rw [isNameChar_symbol]
    exact Bool.false_ne_true
  unfold parse?
  rw [String.toList_ofList, List.takeWhile_append_of_pos names,
    List.dropWhile_append_of_pos names, List.takeWhile_cons_of_neg ends,
    List.dropWhile_cons_of_neg ends, List.append_nil]
  cases name with
  | nil => exact absurd rfl named
  | cons first rest =>
      dsimp only
      rw [Modifier.ofChar?_symbol]

theorem text_modified (name higher : List Char) (modifier : Modifier) :
    text ⟨String.ofList name, some modifier, some (String.ofList higher)⟩ =
      String.ofList (name ++ modifier.symbol :: higher) := by
  rw [← String.toList_inj]
  simp [text, toList_text]

/-- What was written is read back. -/
theorem parse?_text (proper : directive.Proper) :
    parse? directive.text = some directive := by
  obtain ⟨source, modifier, higher⟩ := directive
  obtain ⟨named, free, paired⟩ := proper
  have nonempty : source.toList ≠ [] := by
    rw [Ne, String.toList_eq_nil_iff]
    exact named
  cases modifier with
  | none =>
      cases higher with
      | none =>
          have read := parse?_bare nonempty free
          rwa [String.ofList_toList] at read
      | some higher => exact absurd (paired.mpr rfl) Bool.false_ne_true
  | some modifier =>
      cases higher with
      | none => exact absurd (paired.mp rfl) Bool.false_ne_true
      | some higher =>
          have read := parse?_modified nonempty free modifier higher.toList
          rwa [← text_modified, String.ofList_toList,
            String.ofList_toList] at read

/-- A body is a name, up to the first symbol, and what follows it. -/
theorem body_cases (body : String) :
    body.toList = body.toList.takeWhile isNameChar ∨
      ∃ modifier higher, body.toList =
        body.toList.takeWhile isNameChar ++ Modifier.symbol modifier ::
          higher := by
  have whole := List.takeWhile_append_dropWhile (p := isNameChar)
      (l := body.toList)
  have stops := List.head?_dropWhile_not isNameChar body.toList
  cases rest : body.toList.dropWhile isNameChar with
  | nil =>
      rw [rest, List.append_nil] at whole
      exact Or.inl whole.symm
  | cons first higher =>
      rw [rest] at whole stops
      obtain ⟨modifier, isFirst⟩ := exists_symbol stops
      rw [← isFirst] at whole
      exact Or.inr ⟨modifier, higher, whole.symm⟩

theorem parse?_eq_none (unnamed : body.toList.takeWhile isNameChar = []) :
    parse? body = none := by
  unfold parse?
  rw [unnamed]

/-- A body with a name is read.  Writing what was read gives the body again, and
the source is the part of the body before the first symbol. -/
theorem exists_parse? (named : body.toList.takeWhile isNameChar ≠ []) :
    ∃ directive, parse? body = some directive ∧ directive.Proper ∧
      directive.text = body ∧
      directive.source.toList = body.toList.takeWhile isNameChar := by
  have free := (longestFree_takeWhile body.toList).free
  have isBody : String.ofList body.toList = body := String.ofList_toList
  have shape := body_cases body
  generalize body.toList.takeWhile isNameChar = name at named free shape
  have proper : ∀ modifier higher, (modifier.isSome ↔ higher.isSome) →
      Proper ⟨String.ofList name, modifier, higher⟩ := by
    intro modifier higher paired
    refine ⟨?_, ?_, paired⟩
    · rwa [Ne, ← String.toList_eq_nil_iff, String.toList_ofList]
    · rwa [String.toList_ofList]
  rcases shape with bare | ⟨modifier, higher, modified⟩
  · rw [bare] at isBody
    refine ⟨_, ?_, proper none none Iff.rfl, isBody, String.toList_ofList⟩
    rw [← isBody, parse?_bare named free]
  · rw [modified, ← text_modified] at isBody
    refine ⟨_, ?_, proper (some modifier) (some (String.ofList higher))
      (iff_of_true rfl rfl), isBody, String.toList_ofList⟩
    rw [← isBody, text_modified, parse?_modified named free]

theorem of_parse? (read : parse? body = some directive) :
    directive.Proper ∧ directive.text = body ∧
      directive.source.toList = body.toList.takeWhile isNameChar := by
  have named : body.toList.takeWhile isNameChar ≠ [] := by
    intro unnamed
    rw [parse?_eq_none unnamed] at read
    cases read
  obtain ⟨other, readOther, holds⟩ := exists_parse? named
  rw [read] at readOther
  cases readOther
  exact holds

/-- A body can be read if there is something before the first symbol. -/
theorem parse?_isSome_iff :
    (parse? body).isSome ↔ body ≠ "" ∧
      ∀ first ∈ body.toList.head?, first ≠ '+' ∧ first ≠ '-' ∧ first ≠ '^' := by
  have isSome_iff : (parse? body).isSome ↔
      body.toList.takeWhile isNameChar ≠ [] := by
    constructor
    · intro isRead unnamed
      rw [parse?_eq_none unnamed] at isRead
      cases isRead
    · intro named
      obtain ⟨directive, read, _⟩ := exists_parse? named
      rw [read]
      rfl
  rw [isSome_iff, Ne, Ne, ← String.toList_eq_nil_iff]
  cases body.toList with
  | nil => simp
  | cons first rest =>
      simp only [List.head?_cons, Option.mem_def, Option.some.injEq, forall_eq',
        ← isNameChar_iff, List.takeWhile_cons]
      split <;> simp_all

/-- There is no modifier if the name is all there is. -/
theorem modifier_eq_none_iff (proper : directive.Proper) :
    directive.modifier = none ↔ directive.source = directive.text := by
  obtain ⟨source, modifier, higher⟩ := directive
  cases modifier with
  | none => exact iff_of_true rfl rfl
  | some modifier =>
      refine iff_of_false (Option.some_ne_none modifier) ?_
      intro same
      have sameLength := congrArg (fun text => text.toList.length) same
      simp [text, toList_text] at sameLength

end Reading

/-- A body is read exactly if it starts with something else than a symbol.  It
is the text of the directive that is read, whose source is the longest start
without symbols.  Every directive that has a name without symbols and a higher
type just when it has a modifier is read back from its text. -/
theorem reading_inverts_writing :
    (∀ body : String,
      ((parse? body).isSome ↔ body ≠ "" ∧
        ∀ first ∈ body.toList.head?, first ≠ '+' ∧ first ≠ '-' ∧ first ≠ '^') ∧
      ∀ directive, parse? body = some directive →
        directive.text = body ∧
          LongestFree body.toList directive.source.toList ∧
          (directive.modifier = none ↔ directive.source = body)) ∧
    ∀ directive : Directive, directive.source ≠ "" →
      FreeOfSymbols directive.source.toList →
      (directive.modifier.isSome ↔ directive.higher.isSome) →
        parse? directive.text = some directive := by
  constructor
  · intro body
    refine ⟨parse?_isSome_iff, ?_⟩
    intro directive read
    obtain ⟨proper, written, source⟩ := of_parse? read
    refine ⟨written, ?_, ?_⟩
    · rw [source]
      exact longestFree_takeWhile body.toList
    · rw [modifier_eq_none_iff proper, written]
  · intro directive named free paired
    exact parse?_text ⟨named, free, paired⟩

/-- A higher type may hold symbols, a separator and a line break. -/
theorem reading_inverts_writing_nested :
    parse? "IN^a+b\n-:c" = some ⟨"IN", some .both, some "a+b\n-:c"⟩ ∧
      text ⟨"IN", some .both, some "a+b\n-:c"⟩ = "IN^a+b\n-:c" ∧
      LongestFree "IN^a+b\n-:c".toList "IN".toList := by
  have read : parse? (text ⟨"IN", some .both, some "a+b\n-:c"⟩) =
      some ⟨"IN", some .both, some "a+b\n-:c"⟩ :=
    reading_inverts_writing.2 ⟨"IN", some .both, some "a+b\n-:c"⟩ (by decide)
      (by unfold FreeOfSymbols; decide) (by decide)
  have isText : text ⟨"IN", some .both, some "a+b\n-:c"⟩ =
      "IN^a+b\n-:c" := by decide
  rw [isText] at read
  exact ⟨read, isText, ((reading_inverts_writing.1 _).2 _ read).2.1⟩

end TypeFlow.Directive
