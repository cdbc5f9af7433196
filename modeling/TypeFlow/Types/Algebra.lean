import TypeFlow.Types.Check

/-!
# Modifiers of type lists

A modifier derives a type list from another one with the help of a higher
type: `wrap` puts simple tags inside it, `unwrap` takes tags out of it, and
`both` does both and leaves out its wildcard.  Without a modifier or without
a higher type the list stays as it is.
-/

namespace TypeFlow

inductive Modifier where
  | wrap
  | unwrap
  | both
  deriving DecidableEq, Repr

namespace Modifier

def symbol : Modifier → Char
  | .wrap => '+'
  | .unwrap => '-'
  | .both => '^'

def text (modifier : Modifier) : String :=
  modifier.symbol.toString

def ofChar? (character : Char) : Option Modifier :=
  if character = '+' then some .wrap
  else if character = '-' then some .unwrap
  else if character = '^' then some .both
  else none

def ofText? (text : String) : Option Modifier :=
  match text.toList with
  | [character] => ofChar? character
  | _ => none

@[simp] theorem ofChar?_symbol (modifier : Modifier) :
    ofChar? modifier.symbol = some modifier := by
  cases modifier <;> rfl

theorem symbol_of_ofChar? {character : Char} {modifier : Modifier}
    (found : ofChar? character = some modifier) :
    modifier.symbol = character := by
  unfold ofChar? at found
  split at found
  · cases found
    simp_all [symbol]
  · split at found
    · cases found
      simp_all [symbol]
    · split at found
      · cases found
        simp_all [symbol]
      · cases found

end Modifier

namespace TypeList

/-- Puts every tag without a namespace inside the higher type. -/
def wrapIn (higher : String) (types : TypeList) : TypeList :=
  types.map fun tag => if Tag.isNamespaced tag then tag
    else Tag.inside higher tag

/-- Takes one tag out of the higher type; its wildcard disappears. -/
def unwrapTag (higher : String) (tag : Tag) : Option Tag :=
  match Tag.cut? tag with
  | none => some tag
  | some (outer, inner) =>
      if outer = higher then (if inner = Tag.wildcard then none else some inner)
      else some tag

def unwrapFrom (higher : String) (types : TypeList) : TypeList :=
  types.filterMap (unwrapTag higher)

def dropWildcard (higher : String) (types : TypeList) : TypeList :=
  types.filter fun tag => tag ≠ Tag.wildcardOf higher

/-- The effect of a modifier with a higher type. -/
def derive (modifier : Modifier) (higher : String) (types : TypeList) :
    TypeList :=
  match modifier with
  | .wrap =>
      match wrapIn higher types with
      | [] => [Tag.wildcardOf higher]
      | wrapped => distinct wrapped
  | .unwrap => distinct (unwrapFrom higher types)
  | .both =>
      dropWildcard higher
        (distinct (wrapIn higher types ++ unwrapFrom higher types))

/-- The effect of an optional modifier with an optional higher type. -/
def modify (types : TypeList) : Option Modifier → Option String → TypeList
  | some modifier, some higher =>
      if higher = "" then types else derive modifier higher types
  | _, _ => types

end TypeList

end TypeFlow
