import TypeFlow.Proofs.TagByTag

/-!
# Repeating a modifier

Once a list is wrapped, every tag has a namespace and further wrapping leaves it
alone.  Unwrapping and doing both can be repeated without effect as long as no
tag stands inside the higher type twice: then nothing that was taken out of the
higher type is inside it still.
-/

namespace TypeFlow

namespace Tag

/-- What is taken out of a tag is outside the higher type, unless the tag stands
inside it twice. -/
theorem not_within_inner {higher inner : String}
    (single : startsWith (higher ++ ":" ++ higher ++ ":")
      (inside higher inner) = false) :
    ¬ Within higher inner := by
  rintro ⟨_, innermost, rfl⟩
  have starts : startsWith (higher ++ ":" ++ higher ++ ":")
      (inside higher (inside higher innermost)) = true := by
    refine startsWith_iff.mpr ⟨innermost, String.toList_injective ?_⟩
    simp [toList_inside]
  rw [single] at starts
  cases starts

end Tag

namespace TypeList

section Rules

variable {higher : String} {tag middle result : Tag}

/-- Nothing but the wildcard is lost by doing both. -/
theorem yields_both_self (notWildcard : tag ≠ Tag.wildcardOf higher) :
    Yields higher .both tag tag := by
  cases namespaced : Tag.isNamespaced tag with
  | true => exact .bothWrapped (.kept namespaced) notWildcard
  | false =>
      exact .bothUnwrapped (.outside (Tag.not_within_of_simple namespaced))
        notWildcard

/-- What both modifiers make of their own results they make at once. -/
theorem yields_both_trans (plain : ':' ∉ higher.toList)
    (single : Tag.startsWith (higher ++ ":" ++ higher ++ ":") tag = false)
    (first : Yields higher .both tag middle)
    (second : Yields higher .both middle result) :
    Yields higher .both tag result := by
  obtain ⟨wraps | unwraps, _⟩ := yields_both_iff.mp first
  · cases wraps with
    | kept namespaced => exact second
    | wrapped simple =>
        -- The tag was put inside; it stays there or is taken out again.
        obtain ⟨again | back, notWildcard⟩ := yields_both_iff.mp second
        · rw [yields_wrap_iff, if_pos (Tag.isNamespaced_inside higher tag)]
            at again
          rw [← again] at notWildcard ⊢
          exact .bothWrapped (.wrapped simple) notWildcard
        · rw [yields_unwrap_iff, unwrapTag_inside plain] at back
          obtain ⟨_, isTag⟩ := Option.ite_none_left_eq_some.mp back
          cases isTag
          exact yields_both_self notWildcard
  · cases unwraps with
    | outside apart => exact second
    | unwrapped plain notBare =>
        -- The tag was taken out; it stays outside or is put in again.
        obtain ⟨back | again, notWildcard⟩ := yields_both_iff.mp second
        · cases back with
          | wrapped simple => exact yields_both_self notWildcard
          | kept namespaced =>
              exact .bothUnwrapped (.unwrapped plain notBare) notWildcard
        · rw [yields_unwrap_iff,
            unwrapTag_outside (Tag.not_within_inner single)] at again
          cases again
          exact .bothUnwrapped (.unwrapped plain notBare) notWildcard

end Rules

section Lists

variable {higher : String}

theorem wrapIn_namespaced {types : TypeList}
    (namespaced : ∀ tag ∈ types, Tag.isNamespaced tag = true) :
    wrapIn higher types = types := by
  rw [wrapIn, List.map_congr_left fun tag listed =>
    if_pos (namespaced tag listed)]
  exact List.map_id' types

variable (nonempty : higher ≠ "")

include nonempty

/-- A wrapped list is not empty, repeats nothing and has namespaces throughout.
-/
theorem modify_wrap_settled (types : TypeList) :
    modify types (some .wrap) (some higher) ≠ [] ∧
      (modify types (some .wrap) (some higher)).Nodup ∧
      ∀ tag ∈ modify types (some .wrap) (some higher),
        Tag.isNamespaced tag = true := by
  by_cases isEmpty : types = []
  · rw [isEmpty, modify_wrap_nil nonempty]
    refine ⟨List.cons_ne_nil _ _, List.nodup_singleton _, ?_⟩
    intro tag isWildcard
    rw [List.mem_singleton.mp isWildcard]
    exact Tag.isNamespaced_inside higher Tag.wildcard
  · refine ⟨?_, ?_, ?_⟩
    · rw [modify_wrap nonempty isEmpty, Ne, (Agree.distinct_left _).nil_iff,
        wrapIn, List.map_eq_nil_iff]
      exact isEmpty
    · rw [modify_wrap nonempty isEmpty]
      exact nodup_distinct _
    · intro result listed
      obtain ⟨tag, _, yields⟩ :=
        (mem_modify_iff nonempty (fun _ => isEmpty) result).mp listed
      cases yields with
      | wrapped simple => exact Tag.isNamespaced_inside higher tag
      | kept namespaced => exact namespaced

theorem modify_unwrap_outside {types : TypeList}
    (single : ∀ tag ∈ types, Tag.startsWith (higher ++ ":" ++ higher ++ ":")
      tag = false) :
    ∀ tag ∈ modify types (some .unwrap) (some higher),
      ¬ Tag.Within higher tag := by
  intro result listed
  obtain ⟨tag, listedTag, yields⟩ :=
    (mem_modify_unwrap_iff nonempty result).mp listed
  cases yields with
  | unwrapped plain notBare => exact Tag.not_within_inner (single _ listedTag)
  | outside apart => exact apart

end Lists

/-- Wrapping again, in whatever higher type, changes nothing.  If no tag stands
inside the higher type twice, unwrapping again changes nothing, and doing both
again gives the same set of tags. -/
theorem modify_twice :
    (∀ inner outer : String, inner ≠ "" → outer ≠ "" → ∀ types,
      modify (modify types (some .wrap) (some inner))
          (some .wrap) (some outer) =
        modify types (some .wrap) (some inner)) ∧
    ∀ higher : String, higher ≠ "" → ':' ∉ higher.toList → ∀ types : TypeList,
      (∀ tag ∈ types,
        Tag.startsWith (higher ++ ":" ++ higher ++ ":") tag = false) →
        modify (modify types (some .unwrap) (some higher))
            (some .unwrap) (some higher) =
          modify types (some .unwrap) (some higher) ∧
        Agree (modify (modify types (some .both) (some higher))
            (some .both) (some higher))
          (modify types (some .both) (some higher)) := by
  constructor
  · intro inner outer nonempty nonemptyOuter types
    obtain ⟨listed, nodup, namespaced⟩ := modify_wrap_settled nonempty types
    rw [modify_wrap nonemptyOuter listed, wrapIn_namespaced namespaced,
      distinct_of_nodup nodup]
  · intro higher nonempty plain types single
    constructor
    · have outside := modify_unwrap_outside nonempty single
      rw [modify_unwrap nonempty (modify types _ _), unwrapFrom_outside outside,
        modify_unwrap nonempty, distinct_of_nodup (nodup_distinct _)]
    · intro result
      rw [mem_modify_both_iff nonempty]
      constructor
      · rintro ⟨middle, isMiddle, second⟩
        obtain ⟨tag, listed, first⟩ :=
          (mem_modify_both_iff nonempty middle).mp isMiddle
        rw [mem_modify_both_iff nonempty]
        exact ⟨tag, listed, yields_both_trans plain
          (single tag listed) first second⟩
      · intro made
        have notWildcard :=
          ((mem_modify_both_iff_either nonempty types result).mp made).2
        exact ⟨result, made, yields_both_self notWildcard⟩

/-- Simple and nested tags, the empty tag, a bare `*` and another namespace. -/
theorem modify_twice_mixed :
    "Many" ≠ "" ∧ "Set" ≠ "" ∧ ':' ∉ "Many".toList ∧
      (∀ tag ∈ ["B", "", "*", "Many:Set:A", "Many:*"],
        Tag.startsWith ("Many" ++ ":" ++ "Many" ++ ":") tag = false) ∧
      modify (modify ["B", "*"] (some .wrap) (some "Many"))
          (some .wrap) (some "Set") =
        ["Many:B", "Many:*"] ∧
      modify (modify ["B", "", "*", "Many:Set:A", "Many:*"]
          (some .unwrap) (some "Many")) (some .unwrap) (some "Many") =
        ["B", "", "*", "Set:A"] ∧
      Agree (modify (modify ["B", "", "*", "Many:Set:A", "Many:*"]
          (some .both) (some "Many")) (some .both) (some "Many"))
        ["Many:B", "Many:", "Many:Set:A", "B", "", "*", "Set:A"] := by
  have nonempty : "Many" ≠ "" := by decide
  have other : "Set" ≠ "" := by decide
  have plain : ':' ∉ "Many".toList := by decide
  have single : ∀ tag ∈ ["B", "", "*", "Many:Set:A", "Many:*"],
      Tag.startsWith ("Many" ++ ":" ++ "Many" ++ ":") tag = false := by decide
  obtain ⟨unwraps, both⟩ := modify_twice.2 "Many" nonempty plain _ single
  refine ⟨nonempty, other, plain, single, ?_, ?_, ?_⟩
  · rw [modify_twice.1 "Many" "Set" nonempty other]
    decide
  · rw [unwraps]
    decide
  · exact both.trans (same_iff_agree.mp (by decide))

end TypeList

end TypeFlow
