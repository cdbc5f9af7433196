import Mathlib.Data.List.Nodup
import TypeFlow.Proofs.SameTypes

/-!
# What a derived check is made of

Repeated tags are left out by taking each tag where it first occurs.  So the
check that is derived for a slot lists its regular types first and then the
types that its sources add, and it is unrestricted when there are none of
either.
-/

namespace TypeFlow

namespace TypeList

/-- The list has the tags of `source`, each once, in the order in which they
first occur there. -/
structure FirstOccurrences (source types : TypeList) : Prop where
  mem : ∀ tag, tag ∈ types ↔ tag ∈ source
  nodup : types.Nodup
  order : types.Pairwise fun earlier later =>
    source.idxOf earlier < source.idxOf later

theorem firstOccurrences_distinct (source : TypeList) :
    FirstOccurrences source (distinct source) := by
  refine ⟨fun _ => mem_distinct, nodup_distinct source, ?_⟩
  induction source with
  | nil => exact List.Pairwise.nil
  | cons head rest induction =>
      have shifted : ∀ tag, tag ≠ head →
          (head :: rest).idxOf tag = rest.idxOf tag + 1 :=
        fun tag differs => List.idxOf_cons_ne rest (Ne.symm differs)
      refine List.pairwise_cons.mpr ⟨?_, ?_⟩
      · intro later member
        rw [List.idxOf_cons_self,
          shifted later (by simpa using (List.mem_filter.mp member).2)]
        exact Nat.succ_pos _
      · refine (induction.filter _).imp_of_mem ?_
        intro earlier later isEarlier isLater before
        rw [shifted earlier (by simpa using (List.mem_filter.mp isEarlier).2),
          shifted later (by simpa using (List.mem_filter.mp isLater).2)]
        exact Nat.succ_lt_succ before

theorem distinct_filter (test : Tag → Bool) (types : TypeList) :
    distinct (types.filter test) = (distinct types).filter test := by
  induction types with
  | nil => rfl
  | cons head rest induction =>
      by_cases passes : test head = true
      · rw [List.filter_cons_of_pos passes, distinct, distinct,
          List.filter_cons_of_pos passes, induction, List.filter_comm]
      · rw [List.filter_cons_of_neg passes, distinct,
          List.filter_cons_of_neg passes, induction, List.filter_filter]
        refine List.filter_congr ?_
        intro tag _
        by_cases isHead : tag = head <;> simp_all

/-- What occurs in the first list already is left out of the second one. -/
theorem distinct_append (front rest : TypeList) :
    distinct (front ++ rest) =
      distinct front ++ distinct (rest.filter fun tag => tag ∉ front) := by
  induction front with
  | nil => simp [distinct]
  | cons head front induction =>
      have leaves : (rest.filter fun tag => tag ∉ head :: front) =
          (rest.filter fun tag => tag ∉ front).filter fun tag =>
            tag ≠ head := by
        rw [List.filter_filter]
        refine List.filter_congr ?_
        intro tag _
        simp [List.mem_cons]
      rw [List.cons_append, distinct, distinct, induction, List.filter_append,
        leaves, distinct_filter (fun tag => tag ≠ head), List.cons_append]

theorem distinct_of_nodup {types : TypeList} (nodup : types.Nodup) :
    distinct types = types := by
  induction types with
  | nil => rfl
  | cons head rest induction =>
      obtain ⟨absent, nodup⟩ := List.nodup_cons.mp nodup
      rw [distinct, induction nodup, List.filter_eq_self.mpr]
      intro tag member
      have differs : tag ≠ head := by
        rintro rfl
        exact absent member
      simpa using differs

end TypeList

namespace Check

open TypeList (FirstOccurrences)

/-- Unrestricted, or a list that is not empty and repeats nothing. -/
def Clean (check : Check) : Prop :=
  ∀ types, check = some types → types ≠ [] ∧ types.Nodup

/-- The check has the regular types and then those that the sources add.  It is
unrestricted when there are no types at all. -/
structure Composed (regular : TypeList) (derived : List TypeList)
    (check : Check) : Prop where
  unrestricted : check = none ↔ regular = [] ∧ ∀ types ∈ derived, types = []
  listed : ∀ types, check = some types → ∃ front rest, types = front ++ rest ∧
    FirstOccurrences regular front ∧
    FirstOccurrences (derived.flatten.filter fun tag => tag ∉ regular) rest

theorem eq_distinct_of_ofTypes {source types : TypeList}
    (isSome : ofTypes source = some types) :
    types = TypeList.distinct source := by
  rw [← types_ofTypes, isSome]
  rfl

theorem clean_ofTypes (source : TypeList) : (ofTypes source).Clean := by
  intro types isSome
  have isDistinct := eq_distinct_of_ofTypes isSome
  constructor
  · rintro rfl
    have empty : source = [] := (TypeList.Agree.distinct_left source).nil_iff.mp
      isDistinct.symm
    rw [(ofTypes_eq_none_iff source).mpr empty] at isSome
    cases isSome
  · rw [isDistinct]
    exact TypeList.nodup_distinct source

theorem distinct_ofTypes (source : TypeList) :
    (ofTypes source).distinct = ofTypes source := by
  cases isCheck : ofTypes source with
  | none => rfl
  | some types =>
      have nodup := (clean_ofTypes source types isCheck).2
      exact congrArg some (TypeList.distinct_of_nodup nodup)

theorem distinct_ofList (source : TypeList) :
    (ofList source).distinct = ofTypes source := by
  cases source <;> rfl

theorem composed_derived (regular : TypeList) (derived : List TypeList) :
    Composed regular derived (Check.derived regular derived) := by
  constructor
  · rw [Check.derived, ofTypes_eq_none_iff, List.append_eq_nil_iff,
      List.flatten_eq_nil_iff]
  · intro types isSome
    refine ⟨TypeList.distinct regular,
      TypeList.distinct (derived.flatten.filter fun tag => tag ∉ regular), ?_,
      TypeList.firstOccurrences_distinct _,
      TypeList.firstOccurrences_distinct _⟩
    rw [eq_distinct_of_ofTypes isSome, TypeList.distinct_append]

end Check

end TypeFlow
