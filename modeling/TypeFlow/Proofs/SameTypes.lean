import Mathlib.Data.List.Forall2
import TypeFlow.Directive.Basic

/-!
# Type lists read as sets

Checks are compared as sets, so everything that is derived from a check has to
depend on its set of types only.  `Agree` is equality of type lists as sets;
modifiers, directives and derived checks respect it.
-/

namespace TypeFlow

namespace TypeList

variable {left right : TypeList}

/-- The lists have the same tags. -/
def Agree (left right : TypeList) : Prop :=
  ∀ tag, tag ∈ left ↔ tag ∈ right

namespace Agree

variable {left middle right : TypeList}

theorem refl (types : TypeList) : Agree types types :=
  fun _ => Iff.rfl

theorem symm (agree : Agree left right) : Agree right left :=
  fun tag => (agree tag).symm

theorem trans (first : Agree left middle) (second : Agree middle right) :
    Agree left right :=
  fun tag => (first tag).trans (second tag)

theorem nil_iff (agree : Agree left right) : left = [] ↔ right = [] := by
  simp only [List.eq_nil_iff_forall_not_mem]
  constructor
  · intro empty tag member
    exact empty tag ((agree tag).mpr member)
  · intro empty tag member
    exact empty tag ((agree tag).mp member)

theorem append {left' right' : TypeList} (first : Agree left right)
    (second : Agree left' right') : Agree (left ++ left')
      (right ++ right') := by
  intro tag
  rw [List.mem_append, List.mem_append, first tag, second tag]

theorem distinct_left (types : TypeList) : Agree (distinct types) types :=
  fun _ => mem_distinct

section Agree

variable (agree : Agree left right)

include agree

theorem distinct :
    Agree (TypeList.distinct left) (TypeList.distinct right) :=
  (distinct_left left).trans (agree.trans (distinct_left right).symm)

theorem map (change : Tag → Tag) :
    Agree (left.map change) (right.map change) := by
  intro tag
  simp only [List.mem_map, agree _]

theorem filter (test : Tag → Bool) :
    Agree (left.filter test) (right.filter test) := by
  intro tag
  simp only [List.mem_filter, agree _]

theorem filterMap (change : Tag → Option Tag) :
    Agree (left.filterMap change) (right.filterMap change) := by
  intro tag
  simp only [List.mem_filterMap, agree _]

end Agree

end Agree

theorem same_iff_agree : same left right = true ↔ Agree left right :=
  same_eq_true_iff

theorem derive_wrap_agree (higher : String) (agree : Agree left right) :
    Agree (derive .wrap higher left) (derive .wrap higher right) := by
  have wrapped : Agree (wrapIn higher left) (wrapIn higher right) := agree.map _
  simp only [derive]
  cases leftWrapped : wrapIn higher left with
  | nil =>
      have rightWrapped : wrapIn higher right = [] :=
        wrapped.nil_iff.mp leftWrapped
      rw [rightWrapped]
      exact Agree.refl _
  | cons head rest =>
      cases rightWrapped : wrapIn higher right with
      | nil =>
          have contradiction := wrapped.nil_iff.mpr rightWrapped
          rw [leftWrapped] at contradiction
          cases contradiction
      | cons head' rest' =>
          rw [leftWrapped, rightWrapped] at wrapped
          exact wrapped.distinct

theorem derive_agree (modifier : Modifier) (higher : String)
    (agree : Agree left right) :
    Agree (derive modifier higher left) (derive modifier higher right) := by
  cases modifier with
  | wrap => exact derive_wrap_agree higher agree
  | unwrap => exact (agree.filterMap _).distinct
  | both => exact (((agree.map _).append (agree.filterMap _)).distinct).filter _

theorem modify_agree (agree : Agree left right) :
    ∀ (modifier : Option Modifier) (higher : Option String),
      Agree (modify left modifier higher) (modify right modifier higher)
  | some modifier, some higher => by
      simp only [modify]
      split
      · exact agree
      · exact derive_agree modifier higher agree
  | none, _ => agree
  | some _, none => agree

end TypeList

theorem Directive.derive_agree (directive : Directive) {left right : TypeList}
    (agree : TypeList.Agree left right) :
    TypeList.Agree (directive.derive left) (directive.derive right) :=
  TypeList.modify_agree agree directive.modifier directive.higher

namespace Check

variable {left right : Check}

open TypeList (Agree)

theorem same_iff :
    same left right = true ↔ (left = none ↔ right = none) ∧
      Agree left.types right.types := by
  cases left with
  | none =>
      cases right with
      | none => simp [same, Agree]
      | some types => simp [same]
  | some left =>
      cases right with
      | none => simp [same]
      | some right => simp [same, types, TypeList.same_iff_agree]

theorem same_refl (check : Check) : same check check = true :=
  same_iff.mpr ⟨Iff.rfl, Agree.refl _⟩

theorem same_symm (equal : same left right = true) :
    same right left = true := by
  obtain ⟨restriction, agree⟩ := same_iff.mp equal
  exact same_iff.mpr ⟨restriction.symm, agree.symm⟩

theorem same_trans {middle : Check} (first : same left middle = true)
    (second : same middle right = true) : same left right = true := by
  obtain ⟨firstRestriction, firstAgree⟩ := same_iff.mp first
  obtain ⟨secondRestriction, secondAgree⟩ := same_iff.mp second
  exact same_iff.mpr ⟨firstRestriction.trans secondRestriction,
    firstAgree.trans secondAgree⟩

theorem types_agree_of_same (equal : same left right = true) :
    Agree left.types right.types :=
  (same_iff.mp equal).2

theorem same_distinct (check : Check) : same check.distinct check = true := by
  cases check with
  | none => rfl
  | some types =>
      exact TypeList.same_iff_agree.mpr (Agree.distinct_left types)

theorem types_ofTypes (types : TypeList) :
    (ofTypes types).types = TypeList.distinct types := by
  unfold ofTypes
  cases TypeList.distinct types <;> rfl

theorem ofTypes_eq_none_iff (types : TypeList) : ofTypes types = none ↔
    types = [] := by
  rw [← (Agree.distinct_left types).nil_iff]
  unfold ofTypes
  cases TypeList.distinct types <;> simp

theorem same_ofTypes {left right : TypeList} (agree : Agree left right) :
    same (ofTypes left) (ofTypes right) = true := by
  refine same_iff.mpr ⟨?_, ?_⟩
  · rw [ofTypes_eq_none_iff, ofTypes_eq_none_iff, agree.nil_iff]
  · rw [types_ofTypes, types_ofTypes]
    exact agree.distinct

/-- Derived checks depend on the derived lists as sets. -/
theorem same_derived (regular : TypeList) {left right : List TypeList}
    (agree : List.Forall₂ Agree left right) :
    same (derived regular left) (derived regular right) = true := by
  refine same_ofTypes ((Agree.refl regular).append ?_)
  induction agree with
  | nil => exact Agree.refl []
  | cons first _ induction => exact first.append induction

end Check

end TypeFlow
