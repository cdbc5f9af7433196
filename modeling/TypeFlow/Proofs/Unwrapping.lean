import TypeFlow.Proofs.DerivedCheck
import TypeFlow.Proofs.OwnNamespace

/-!
# Taking wrapped types out again

A higher type without a separator is cut off again at the separator that was put
after it.  So unwrapping undoes wrapping tag by tag, except that a bare `*` is
lost, which wrapping turns into the wildcard.  Repetitions may be left out in
between, since only the first occurrence of a tag counts in the end.
-/

namespace TypeFlow

namespace Tag

variable {mark : Char}

theorem of_cutChars {characters front rest : List Char}
    (cut : cutChars mark characters = some (front, rest)) :
    mark ∉ front ∧ characters = front ++ mark :: rest := by
  induction characters generalizing front with
  | nil => cases cut
  | cons character characters induction =>
      rw [cutChars] at cut
      by_cases isMark : character = mark
      · rw [if_pos isMark] at cut
        cases cut
        exact ⟨List.not_mem_nil, congrArg (· :: rest) isMark⟩
      · rw [if_neg isMark, Option.map_eq_some_iff] at cut
        obtain ⟨parts, cutLater, isCut⟩ := cut
        cases isCut
        obtain ⟨absent, whole⟩ := induction cutLater
        refine ⟨?_, congrArg (character :: ·) whole⟩
        rw [List.mem_cons, not_or]
        exact ⟨Ne.symm isMark, absent⟩

theorem cutChars_append {front : List Char} (absent : mark ∉ front)
    (rest : List Char) :
    cutChars mark (front ++ mark :: rest) = some (front, rest) := by
  induction front with
  | nil => simp [cutChars]
  | cons character front induction =>
      rw [List.mem_cons, not_or] at absent
      simp [cutChars, Ne.symm absent.1, induction absent.2]

theorem cut?_inside {higher : String} (plain : ':' ∉ higher.toList)
    (inner : String) :
    cut? (inside higher inner) = some (higher, inner) := by
  rw [cut?, toList_inside, separator, cutChars_append plain]
  simp

theorem of_cut? {tag outer inner : String}
    (cut : cut? tag = some (outer, inner)) :
    ':' ∉ outer.toList ∧ tag = inside outer inner := by
  obtain ⟨parts, cutParts, isCut⟩ := Option.map_eq_some_iff.mp cut
  cases isCut
  obtain ⟨absent, whole⟩ := of_cutChars cutParts
  rw [String.toList_ofList]
  refine ⟨absent, String.toList_injective ?_⟩
  rw [toList_inside, String.toList_ofList, String.toList_ofList]
  exact whole

theorem isNamespaced_inside (higher inner : String) :
    isNamespaced (inside higher inner) = true := by
  rw [isNamespaced, toList_inside, List.contains_iff_mem]
  exact List.mem_append_right _ List.mem_cons_self

/-- The tag is a type inside the higher type.  Nothing is inside a higher type
with a separator in its name, because a tag is cut at its first separator. -/
def Within (higher : String) (tag : Tag) : Prop :=
  ':' ∉ higher.toList ∧ ∃ inner, tag = inside higher inner

theorem not_within_of_simple {higher : String} {tag : Tag}
    (simple : isNamespaced tag = false) :
    ¬ Within higher tag := by
  rintro ⟨_, inner, rfl⟩
  rw [isNamespaced_inside] at simple
  cases simple

end Tag

namespace TypeList

variable {tag : Tag}

/-- A tag that is mapped to nothing may be left out before. -/
theorem filterMap_leave_out {change : Tag → Option Tag}
    (isNone : change tag = none) (types : TypeList) :
    (types.filter fun other => other ≠ tag).filterMap change = types.filterMap
      change := by
  rw [List.filterMap_filter]
  refine List.filterMap_congr ?_
  intro other _
  by_cases same : other = tag
  · simp [same, isNone]
  · simp [same]

/-- Repetitions may be left out before a partial map as well. -/
theorem distinct_filterMap_distinct (change : Tag → Option Tag)
    (types : TypeList) :
    distinct ((distinct types).filterMap change) = distinct
      (types.filterMap change) := by
  induction types with
  | nil => rfl
  | cons tag rest induction =>
      cases isChanged : change tag with
      | none =>
          rw [distinct, List.filterMap_cons_none isChanged,
            List.filterMap_cons_none isChanged, filterMap_leave_out isChanged,
            induction]
      | some changed =>
          -- What comes from the first tag again is left out afterwards anyway.
          have agree :
              (((distinct rest).filter fun other => other ≠ tag).filterMap
                change).filter
              (fun other => other ≠ changed) =
                ((distinct rest).filterMap change).filter fun other =>
                  other ≠ changed := by
            rw [List.filter_filterMap, List.filter_filterMap]
            refine filterMap_leave_out ?_ _
            simp [isChanged]
          rw [distinct, List.filterMap_cons_some isChanged,
            List.filterMap_cons_some isChanged, distinct, distinct,
            ← distinct_filter, agree, distinct_filter, induction]

section Unwrap

variable {higher : String}

theorem unwrapTag_outside (outside : ¬ Tag.Within higher tag) :
    unwrapTag higher tag = some tag := by
  unfold unwrapTag
  split
  · rfl
  · rename_i outer inner cut
    obtain ⟨plain, isInside⟩ := Tag.of_cut? cut
    apply if_neg
    rintro rfl
    exact outside ⟨plain, inner, isInside⟩

theorem unwrapTag_inside (plain : ':' ∉ higher.toList) (inner : Tag) :
    unwrapTag higher (Tag.inside higher inner) =
      if inner = Tag.wildcard then none else some inner := by
  rw [unwrapTag, Tag.cut?_inside plain]
  exact if_pos rfl

/-- A tag that is wrapped and unwrapped is as if it had only been unwrapped, and
a bare `*` is lost. -/
theorem unwrapTag_wrapped (plain : ':' ∉ higher.toList) (tag : Tag) :
    unwrapTag higher (if Tag.isNamespaced tag then tag
      else Tag.inside higher tag) =
      if tag = Tag.wildcard then none else unwrapTag higher tag := by
  by_cases namespaced : Tag.isNamespaced tag = true
  · have notBare : tag ≠ Tag.wildcard := by
      rintro rfl
      exact absurd namespaced (by decide)
    rw [if_pos namespaced, if_neg notBare]
  · have simple : Tag.isNamespaced tag = false := by simpa using namespaced
    rw [if_neg namespaced, unwrapTag_inside plain,
      unwrapTag_outside (Tag.not_within_of_simple simple)]

theorem unwrapFrom_wrapIn (plain : ':' ∉ higher.toList) (types : TypeList) :
    unwrapFrom higher (wrapIn higher types) =
      unwrapFrom higher (types.filter fun tag => tag ≠ Tag.wildcard) := by
  rw [unwrapFrom, unwrapFrom, wrapIn, List.filterMap_map, List.filterMap_filter]
  refine List.filterMap_congr ?_
  intro tag _
  rw [Function.comp_apply, unwrapTag_wrapped plain]
  by_cases isBare : tag = Tag.wildcard
  · simp [isBare]
  · simp [isBare]

/-- Tags outside the higher type stay as they are. -/
theorem unwrapFrom_outside {types : TypeList}
    (outside : ∀ tag ∈ types, ¬ Tag.Within higher tag) :
    unwrapFrom higher types = types := by
  rw [unwrapFrom, List.filterMap_congr fun tag listed =>
    unwrapTag_outside (outside tag listed)]
  exact List.filterMap_some

theorem unwrapFrom_simple {types : TypeList}
    (simple : ∀ tag ∈ types, Tag.isNamespaced tag = false) :
    unwrapFrom higher types = types :=
  unwrapFrom_outside fun tag listed =>
    Tag.not_within_of_simple (simple tag listed)

variable (nonempty : higher ≠ "")

include nonempty

theorem modify_unwrap (types : TypeList) :
    modify types (some .unwrap) (some higher) = distinct
      (unwrapFrom higher types) := by
  rw [modify, if_neg nonempty, derive]

theorem modify_wrap_nil :
    modify [] (some .wrap) (some higher) = [Tag.wildcardOf higher] := by
  rw [modify, if_neg nonempty]
  rfl

theorem modify_wrap {types : TypeList} (listed : types ≠ []) :
    modify types (some .wrap) (some higher) = distinct
      (wrapIn higher types) := by
  rw [modify, if_neg nonempty, derive]
  split
  · rename_i isEmpty
    exact absurd (List.map_eq_nil_iff.mp isEmpty) listed
  · rfl

end Unwrap

/-- Unwrapping what was wrapped gives the list that unwrapping alone gives
without the bare `*`.  That is the list itself, each tag once, if its tags have
no namespaces, and nothing is left of the wildcard that an empty list is wrapped
into. -/
theorem unwrap_undoes_wrap {higher : String} (nonempty : higher ≠ "")
    (plain : ':' ∉ higher.toList) (types : TypeList) :
    modify (modify types (some .wrap) (some higher)) (some .unwrap)
      (some higher) =
        modify (types.filter fun tag => tag ≠ Tag.wildcard) (some .unwrap)
          (some higher) ∧
      ((∀ tag ∈ types, Tag.isNamespaced tag = false ∧ tag ≠ Tag.wildcard) →
        modify (modify types (some .wrap) (some higher)) (some .unwrap)
          (some higher) =
          distinct types) ∧
      modify [] (some .wrap) (some higher) = [Tag.wildcardOf higher] ∧
      modify (modify [] (some .wrap) (some higher)) (some .unwrap)
        (some higher) = [] := by
  have wildcardLost : modify [Tag.wildcardOf higher] (some .unwrap)
      (some higher) = [] := by
    have lost : unwrapTag higher (Tag.wildcardOf higher) = none :=
      unwrapTag_inside plain "*"
    rw [modify_unwrap nonempty, unwrapFrom, List.filterMap_cons_none lost]
    rfl
  have undone : modify (modify types (some .wrap) (some higher)) (some .unwrap)
      (some higher) =
      modify (types.filter fun tag => tag ≠ Tag.wildcard) (some .unwrap)
        (some higher) := by
    rw [modify_unwrap nonempty (types.filter _)]
    by_cases isEmpty : types = []
    · rw [isEmpty, modify_wrap_nil nonempty, wildcardLost]
      rfl
    · rw [modify_wrap nonempty isEmpty, modify_unwrap nonempty, unwrapFrom,
        distinct_filterMap_distinct, ← unwrapFrom, unwrapFrom_wrapIn plain]
  refine ⟨undone, ?_, modify_wrap_nil nonempty, ?_⟩
  · intro simple
    have none_bare : (types.filter fun tag => tag ≠ Tag.wildcard) = types :=
      List.filter_eq_self.mpr fun tag listed =>
        decide_eq_true (simple tag listed).2
    rw [undone, none_bare, modify_unwrap nonempty,
      unwrapFrom_simple fun tag listed => (simple tag listed).1]
  · rw [modify_wrap_nil nonempty, wildcardLost]

/-- Simple and nested tags, another namespace, a bare `*` and repetitions. -/
theorem unwrap_undoes_wrap_mixed :
    "Many" ≠ "" ∧ ':' ∉ "Many".toList ∧
      modify
          (modify ["B", "*", "Many:B", "Set:A", "Many:Many:B", "Many:*", "A"]
            (some .wrap) (some "Many")) (some .unwrap) (some "Many") =
        ["B", "Set:A", "Many:B", "A"] ∧
      modify (modify ["B", "", "B"] (some .wrap) (some "Many")) (some .unwrap)
        (some "Many") =
        ["B", ""] := by
  have nonempty : "Many" ≠ "" := by decide
  have plain : ':' ∉ "Many".toList := by decide
  refine ⟨nonempty, plain, ?_, ?_⟩
  · rw [(unwrap_undoes_wrap nonempty plain _).1]
    decide
  · rw [(unwrap_undoes_wrap nonempty plain _).2.1 (by decide)]
    decide

end TypeList

end TypeFlow
