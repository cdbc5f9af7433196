import TypeFlow.Types.Tag

/-!
# Type lists and checks

A type list is an ordered list of tags that is read as a set.  A check is a
type list, or `none` when a slot accepts every type; the empty list is a
check of its own, which no type passes.
-/

namespace TypeFlow

abbrev TypeList := List Tag

namespace TypeList

/-- Each tag at its first occurrence. -/
def distinct : TypeList → TypeList
  | [] => []
  | tag :: rest => tag :: (distinct rest).filter fun other => other ≠ tag

/-- Equality as sets. -/
def same (left right : TypeList) : Bool :=
  left.all right.contains && right.all left.contains

theorem mem_distinct {tag : Tag} {types : TypeList} :
    tag ∈ distinct types ↔ tag ∈ types := by
  induction types with
  | nil => simp [distinct]
  | cons head rest ih =>
      by_cases first : tag = head <;> simp [distinct, first, ih]

theorem nodup_distinct (types : TypeList) : (distinct types).Nodup := by
  induction types with
  | nil => simp [distinct]
  | cons head rest ih =>
      refine List.nodup_cons.mpr ⟨?_, ih.filter _⟩
      simp

theorem same_eq_true_iff {left right : TypeList} :
    same left right = true ↔ ∀ tag, tag ∈ left ↔ tag ∈ right := by
  simp only [same, Bool.and_eq_true, List.all_eq_true, List.contains_iff_mem]
  exact ⟨fun both tag => ⟨both.1 tag, both.2 tag⟩,
    fun agree => ⟨fun tag => (agree tag).mp, fun tag => (agree tag).mpr⟩⟩

end TypeList

/-- The types a slot accepts; `none` accepts all. -/
abbrev Check := Option TypeList

namespace Check

def isUnrestricted (check : Check) : Bool :=
  check.isNone

/-- The listed types; an unrestricted check lists none. -/
def types (check : Check) : TypeList :=
  check.getD []

/-- Distinct types; a list without types becomes unrestricted. -/
def ofTypes (types : TypeList) : Check :=
  match TypeList.distinct types with
  | [] => none
  | unique => some unique

def normalize (check : Check) : Check :=
  check.bind ofTypes

/-- The list itself, or unrestricted when it is empty. -/
def ofList : TypeList → Check
  | [] => none
  | types => some types

def distinct (check : Check) : Check :=
  check.map TypeList.distinct

/-- Equality as sets, with unrestricted equal to itself only. -/
def same : Check → Check → Bool
  | none, none => true
  | some left, some right => TypeList.same left right
  | _, _ => false

/-- The check derived for a slot: its regular types, then the types derived
from each source; unrestricted if there are none. -/
def derived (regular : TypeList) (derived : List TypeList) : Check :=
  ofTypes (regular ++ derived.flatten)

end Check

end TypeFlow
