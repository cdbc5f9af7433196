import TypeFlow.Proofs.Unwrapping

/-!
# What a modifier makes of each tag

A modifier works on a list tag by tag.  `Yields` gives the rules for one tag,
and the result for a list has what the rules give for any of its tags.  Only
wrapping makes something out of no tag at all, the wildcard.  So a result
depends on the set of tags alone, and the results for two lists can be put
together.

The rules also tell when unwrapping leaves the wildcard of its higher type.  If
the name of the higher type has no separator, the wildcard comes out of the tag
in which it is wrapped once more.  If the name has a separator, nothing is ever
found inside the higher type, and the wildcard stays where it is.
-/

namespace TypeFlow

namespace Tag

variable {tag : Tag}

/-- A tag that does not start with the higher type and a separator is nothing
that stands inside it. -/
theorem ne_inside_of_elsewhere {higher : String}
    (elsewhere : startsWith (higher ++ ":") tag = false) (inner : String) :
    tag ≠ inside higher inner := by
  intro isInside
  have starts : startsWith (higher ++ ":") tag = true :=
    startsWith_iff.mpr ⟨inner, isInside⟩
  rw [elsewhere] at starts
  cases starts

theorem not_within_of_elsewhere {higher : String}
    (elsewhere : startsWith (higher ++ ":") tag = false) :
    ¬ Within higher tag := by
  rintro ⟨_, inner, isInside⟩
  exact ne_inside_of_elsewhere elsewhere inner isInside

end Tag

namespace TypeList

variable {tag : Tag} {types : TypeList}

open Tag (Within)

/-- What a modifier with a higher type makes of one tag. -/
inductive Yields (higher : String) : Modifier → Tag → Tag → Prop
  | wrapped {tag : Tag} : Tag.isNamespaced tag = false →
      Yields higher .wrap tag (Tag.inside higher tag)
  | kept {tag : Tag} : Tag.isNamespaced tag = true → Yields higher .wrap tag tag
  | unwrapped {inner : Tag} : ':' ∉ higher.toList → inner ≠ Tag.wildcard →
      Yields higher .unwrap (Tag.inside higher inner) inner
  | outside {tag : Tag} : ¬ Within higher tag → Yields higher .unwrap tag tag
  | bothWrapped {tag result : Tag} : Yields higher .wrap tag result →
      result ≠ Tag.wildcardOf higher → Yields higher .both tag result
  | bothUnwrapped {tag result : Tag} : Yields higher .unwrap tag result →
      result ≠ Tag.wildcardOf higher → Yields higher .both tag result

section Rules

variable {higher : String} {result : Tag}

theorem yields_wrap_iff :
    Yields higher .wrap tag result ↔
      (if Tag.isNamespaced tag then tag else Tag.inside higher tag) =
        result := by
  constructor
  · intro yields
    cases yields with
    | wrapped simple => simp [simple]
    | kept namespaced => simp [namespaced]
  · rintro rfl
    cases namespaced : Tag.isNamespaced tag with
    | false => exact .wrapped namespaced
    | true => exact .kept namespaced

theorem yields_unwrap_iff :
    Yields higher .unwrap tag result ↔ unwrapTag higher tag = some result := by
  constructor
  · intro yields
    cases yields with
    | unwrapped plain notBare => rw [unwrapTag_inside plain, if_neg notBare]
    | outside apart => exact unwrapTag_outside apart
  · intro unwraps
    by_cases within : Within higher tag
    · obtain ⟨plain, inner, rfl⟩ := within
      rw [unwrapTag_inside plain] at unwraps
      split at unwraps
      · cases unwraps
      · rename_i notBare
        cases unwraps
        exact .unwrapped plain notBare
    · rw [unwrapTag_outside within] at unwraps
      cases unwraps
      exact .outside within

theorem yields_both_iff :
    Yields higher .both tag result ↔
      (Yields higher .wrap tag result ∨ Yields higher .unwrap tag result) ∧
        result ≠ Tag.wildcardOf higher := by
  constructor
  · intro yields
    cases yields with
    | bothWrapped wraps differs => exact ⟨.inl wraps, differs⟩
    | bothUnwrapped unwraps differs => exact ⟨.inr unwraps, differs⟩
  · rintro ⟨wraps | unwraps, differs⟩
    · exact .bothWrapped wraps differs
    · exact .bothUnwrapped unwraps differs

/-- A tag of another namespace stays, whatever the modifier. -/
theorem yields_self_of_elsewhere (namespaced : Tag.isNamespaced tag = true)
    (elsewhere : Tag.startsWith (higher ++ ":") tag = false)
    (modifier : Modifier) :
    Yields higher modifier tag tag := by
  cases modifier with
  | wrap => exact .kept namespaced
  | unwrap => exact .outside (Tag.not_within_of_elsewhere elsewhere)
  | both =>
      apply Yields.bothWrapped (.kept namespaced)
      exact Tag.ne_inside_of_elsewhere elsewhere Tag.wildcard

/-- Unwrapping makes the wildcard of the tag in which it is wrapped once more,
or of itself if its higher type has a separator. -/
theorem yields_unwrap_wildcardOf_iff :
    Yields higher .unwrap tag (Tag.wildcardOf higher) ↔
      ':' ∉ higher.toList ∧ tag = Tag.inside higher (Tag.wildcardOf higher) ∨
        ':' ∈ higher.toList ∧ tag = Tag.wildcardOf higher := by
  constructor
  · generalize isWildcard : Tag.wildcardOf higher = wildcard
    intro yields
    cases yields with
    | unwrapped plain _ => exact .inl ⟨plain, rfl⟩
    | outside apart =>
        refine .inr ⟨?_, rfl⟩
        by_contra plain
        exact apart ⟨plain, Tag.wildcard, isWildcard.symm⟩
  · rintro (⟨plain, rfl⟩ | ⟨divided, rfl⟩)
    · apply Yields.unwrapped plain
      intro isBare
      have namespaced : Tag.isNamespaced (Tag.wildcardOf higher) = true :=
        Tag.isNamespaced_inside higher Tag.wildcard
      rw [isBare] at namespaced
      exact absurd namespaced (by decide)
    · exact .outside fun within => within.1 divided

end Rules

section Lists

variable {higher : String} (nonempty : higher ≠ "")

include nonempty

theorem modify_both (types : TypeList) :
    modify types (some .both) (some higher) =
      dropWildcard higher
        (distinct (wrapIn higher types ++ unwrapFrom higher types)) := by
  rw [modify, if_neg nonempty, derive]

/-- The result has what the modifier makes of any tag of the list.  Wrapping an
empty list is the exception. -/
theorem mem_modify_iff {modifier : Modifier}
    (listed : modifier = .wrap → types ≠ []) (result : Tag) :
    result ∈ modify types (some modifier) (some higher) ↔
      ∃ tag ∈ types, Yields higher modifier tag result := by
  have wraps : result ∈ wrapIn higher types ↔
      ∃ tag ∈ types, Yields higher .wrap tag result := by
    simp only [wrapIn, List.mem_map, yields_wrap_iff]
  have unwraps : result ∈ unwrapFrom higher types ↔
      ∃ tag ∈ types, Yields higher .unwrap tag result := by
    simp only [unwrapFrom, List.mem_filterMap, yields_unwrap_iff]
  cases modifier with
  | wrap => rw [modify_wrap nonempty (listed rfl), mem_distinct, wraps]
  | unwrap => rw [modify_unwrap nonempty, mem_distinct, unwraps]
  | both =>
      rw [modify_both nonempty, dropWildcard, List.mem_filter, mem_distinct,
        List.mem_append, wraps, unwraps, decide_eq_true_iff]
      simp only [yields_both_iff, ← exists_or, ← and_or_left, ← and_assoc,
        exists_and_right]

theorem mem_modify_unwrap_iff (result : Tag) :
    result ∈ modify types (some .unwrap) (some higher) ↔
      ∃ tag ∈ types, Yields higher .unwrap tag result := by
  apply mem_modify_iff nonempty
  intro isWrap
  cases isWrap

theorem mem_modify_both_iff (result : Tag) :
    result ∈ modify types (some .both) (some higher) ↔
      ∃ tag ∈ types, Yields higher .both tag result := by
  apply mem_modify_iff nonempty
  intro isWrap
  cases isWrap

/-- The results for two lists together are the results for both together. -/
theorem mem_modify_append_iff {modifier : Modifier} {left right : TypeList}
    (listed : modifier = .wrap → left ≠ [] ∧ right ≠ []) (result : Tag) :
    result ∈ modify (left ++ right) (some modifier) (some higher) ↔
      result ∈ modify left (some modifier) (some higher) ∨
        result ∈ modify right (some modifier) (some higher) := by
  have whole : modifier = .wrap → left ++ right ≠ [] :=
    fun isWrap => List.append_ne_nil_of_left_ne_nil (listed isWrap).1 right
  rw [mem_modify_iff nonempty whole, mem_modify_iff nonempty fun isWrap =>
    (listed isWrap).1, mem_modify_iff nonempty fun isWrap => (listed isWrap).2]
  simp only [List.mem_append, or_and_right, exists_or]

/-- Doing both gives what either gives, without the wildcard. -/
theorem mem_modify_both_iff_either (types : TypeList) (result : Tag) :
    result ∈ modify types (some .both) (some higher) ↔
      (result ∈ modify types (some .wrap) (some higher) ∨
        result ∈ modify types (some .unwrap) (some higher)) ∧
          result ≠ Tag.wildcardOf higher := by
  by_cases isEmpty : types = []
  · -- All that is made of no tag is the wildcard, which is left out here.
    rw [isEmpty, modify_wrap_nil nonempty, modify_unwrap nonempty,
      modify_both nonempty]
    simp [wrapIn, unwrapFrom, distinct, dropWildcard]
  · rw [mem_modify_both_iff nonempty, mem_modify_unwrap_iff nonempty,
      mem_modify_iff nonempty fun _ => isEmpty]
    simp only [yields_both_iff, ← exists_or, ← and_or_left, ← and_assoc,
      exists_and_right]

theorem mem_modify_of_elsewhere (listed : tag ∈ types)
    (namespaced : Tag.isNamespaced tag = true)
    (elsewhere : Tag.startsWith (higher ++ ":") tag = false)
    (modifier : Modifier) :
    tag ∈ modify types (some modifier) (some higher) := by
  rw [mem_modify_iff nonempty fun _ => List.ne_nil_of_mem listed]
  exact ⟨tag, listed, yields_self_of_elsewhere namespaced elsewhere modifier⟩

end Lists

/-- A modifier acts on sets of tags.  Lists with the same tags have results with
the same tags, in particular the lists of checks that count as the same.  The
result for two lists is made of their results, except that an empty list must
not be wrapped.  Doing both is wrapping and unwrapping without the wildcard.
Tags of other namespaces are in every result. -/
theorem modify_acts_on_sets {higher : String} (nonempty : higher ≠ "") :
    (∀ modifier left right, Agree left right →
      Agree (modify left (some modifier) (some higher))
        (modify right (some modifier) (some higher))) ∧
    (∀ modifier (near far : Check), Check.same near far = true →
      Agree (modify near.types (some modifier) (some higher))
        (modify far.types (some modifier) (some higher))) ∧
    (∀ modifier left right, (modifier = .wrap → left ≠ [] ∧ right ≠ []) →
      ∀ tag, tag ∈ modify (left ++ right) (some modifier) (some higher) ↔
        tag ∈ modify left (some modifier) (some higher) ∨
          tag ∈ modify right (some modifier) (some higher)) ∧
    (∀ types tag, tag ∈ modify types (some .both) (some higher) ↔
      (tag ∈ modify types (some .wrap) (some higher) ∨
        tag ∈ modify types (some .unwrap) (some higher)) ∧
        tag ≠ Tag.wildcardOf higher) ∧
    ∀ types, ∀ tag ∈ types, Tag.isNamespaced tag = true →
      Tag.startsWith (higher ++ ":") tag = false →
        ∀ modifier, tag ∈ modify types (some modifier) (some higher) := by
  refine ⟨?_, ?_, ?_, mem_modify_both_iff_either nonempty, ?_⟩
  · intro modifier left right agree
    exact modify_agree agree _ _
  · intro modifier near far same
    exact modify_agree (Check.types_agree_of_same same) _ _
  · intro modifier left right listed
    exact mem_modify_append_iff nonempty listed
  · intro types tag listed namespaced elsewhere
    exact mem_modify_of_elsewhere nonempty listed namespaced elsewhere

/-- The name of a higher type may have a separator itself. -/
theorem modify_acts_on_sets_dividedName :
    "A:B" ≠ "" ∧
      Agree (modify ["x", "A:C", "x"] (some .both) (some "A:B"))
        (modify ["A:C", "x"] (some .both) (some "A:B")) ∧
      Agree
        (modify (Check.types (some ["x", "*", "x"])) (some .wrap) (some "A:B"))
        (modify (Check.types (some ["*", "x"])) (some .wrap) (some "A:B")) ∧
      "A:B:x" ∈ modify (["A:C"] ++ ["x"]) (some .wrap) (some "A:B") ∧
      "A:B:*" ∉ modify ["*", "A:B:*"] (some .both) (some "A:B") ∧
      "A:C" ∈ modify ["x", "A:C"] (some .unwrap) (some "A:B") := by
  have nonempty : "A:B" ≠ "" := by decide
  obtain ⟨agrees, checks, joins, either, elsewhere⟩ :=
    modify_acts_on_sets nonempty
  refine ⟨nonempty, ?_, ?_, ?_, ?_, ?_⟩
  · exact agrees .both _ _ (same_iff_agree.mp (by decide))
  · exact checks .wrap _ _ (by decide)
  · exact (joins .wrap ["A:C"] ["x"] (by decide) "A:B:x").mpr
      (Or.inr (by decide))
  · exact fun left => ((either _ _).mp left).2 rfl
  · exact elsewhere _ "A:C" (by decide) (by decide) (by decide) .unwrap

/-- Unwrapping leaves no wildcard of its higher type exactly if the wildcard is
not wrapped once more in a higher type without a separator, and is not there
itself if the higher type has one.  Doing both never leaves it. -/
theorem unwrap_leaves_no_wildcard_iff {higher : String} (nonempty : higher ≠ "")
    (types : TypeList) :
    Tag.wildcardOf higher ∉ modify types (some .both) (some higher) ∧
    (':' ∉ higher.toList →
      (Tag.wildcardOf higher ∉ modify types (some .unwrap) (some higher) ↔
        Tag.inside higher (Tag.wildcardOf higher) ∉ types)) ∧
    (':' ∈ higher.toList →
      (Tag.wildcardOf higher ∉ modify types (some .unwrap) (some higher) ↔
        Tag.wildcardOf higher ∉ types)) := by
  rw [mem_modify_both_iff_either nonempty, mem_modify_unwrap_iff nonempty]
  simp only [yields_unwrap_wildcardOf_iff]
  refine ⟨fun either => either.2 rfl, ?_, ?_⟩
  · intro plain
    simp [plain]
  · intro divided
    simp [divided]

/-- A name without a separator, inside which other nested tags are left, and one
with a separator. -/
theorem unwrap_leaves_no_wildcard_nested :
    "Many" ≠ "" ∧ "A:B" ≠ "" ∧
      Tag.wildcardOf "Many" ∉
        modify ["Many:*", "Many:Many:B", "*"] (some .both) (some "Many") ∧
      Tag.wildcardOf "Many" ∉
        modify ["Many:*", "Many:Many:B", "*"] (some .unwrap) (some "Many") ∧
      Tag.wildcardOf "A:B" ∉ modify ["A:*", "A:B:C"] (some .unwrap)
        (some "A:B") := by
  have nonempty : "Many" ≠ "" := by decide
  have divided : "A:B" ≠ "" := by decide
  obtain ⟨both, plain, _⟩ :=
    unwrap_leaves_no_wildcard_iff nonempty ["Many:*", "Many:Many:B", "*"]
  refine ⟨nonempty, divided, both, ?_, ?_⟩
  · exact (plain (by decide)).mpr (by decide)
  · exact ((unwrap_leaves_no_wildcard_iff divided _).2.2 (by decide)).mpr
      (by decide)

/-- A directive can name a higher type with a separator.  Unwrapping leaves the
wildcard of such a type, and the wildcard of any other type if it is nested. -/
theorem unwrap_leaves_wildcard :
    Directive.parse? "IN-A:B" = some ⟨"IN", some .unwrap, some "A:B"⟩ ∧
      modify ["A:B:*"] (some .unwrap) (some "A:B") = [Tag.wildcardOf "A:B"] ∧
      modify ["Many:Many:*"] (some .unwrap)
        (some "Many") = [Tag.wildcardOf "Many"] := by
  decide

end TypeList

end TypeFlow
