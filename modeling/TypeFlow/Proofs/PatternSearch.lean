import TypeFlow.Proofs.WildcardName
import TypeFlow.Wildcard.Cache

/-!
# Searching for the pattern of wildcards

A search goes through the places of a text from left to right.  At each place it
takes letters as long as there are any and gives them back one by one until `:*`
follows.  Giving back never helps, since a letter is no colon, so the search
ends at the first `:*` with all the letters right before it.
-/

namespace TypeFlow.Wildcard

variable {text gap letters : List Char} {first : Char}

/-- The text begins with `:*`. -/
def marks : List Char → Bool
  | ':' :: '*' :: _ => true
  | _ => false

/-- The letters of a match at the beginning of the text.  Taking a letter is
tried before going on to the `:*`. -/
def matchHere? : List Char → Option (List Char)
  | [] => none
  | first :: rest =>
      (if first.isAlpha then (matchHere? rest).map (first :: ·) else none).or
        (if marks (first :: rest) then some [] else none)

/-- The letters of the match that is found first. -/
def search? : List Char → Option (List Char)
  | [] => none
  | first :: rest => (matchHere? (first :: rest)).or (search? rest)

/-- What comes before the first `:*` of the text. -/
structure FirstMark (text gap : List Char) : Prop where
  marked : ∃ after, text = gap ++ ':' :: '*' :: after
  earliest : ∀ gap' after, text = gap' ++ ':' :: '*' :: after →
    gap.length ≤ gap'.length

/-- The longest run of letters at the end of the text. -/
structure LongestRun (text letters : List Char) : Prop where
  ending : letters <:+ text
  alphabetic : ∀ character ∈ letters, character.isAlpha = true
  longest : ∀ letters', letters' <:+ text →
    (∀ character ∈ letters', character.isAlpha = true) →
      letters'.length ≤ letters.length

section Search

theorem beforeMark_cons (first : Char) (rest : List Char) :
    beforeMark (first :: rest) =
      if marks (first :: rest) then some [] else (beforeMark rest).map
        (first :: ·) := by
  cases rest with
  | nil => simp [beforeMark, marks]
  | cons second rest =>
      rw [beforeMark]
      by_cases isMark : first = ':' ∧ second = '*'
      · obtain ⟨rfl, rfl⟩ := isMark
        rfl
      · have unmarked : marks (first :: second :: rest) = false := by
          unfold marks
          split
          · rename_i same
            injection same with isColon isRest
            injection isRest with isStar
            exact absurd ⟨isColon, isStar⟩ isMark
          · rfl
        rw [if_neg isMark, unmarked]
        rfl

theorem not_isAlpha_of_marks {rest : List Char}
    (isMark : marks (first :: rest) = true) :
    first.isAlpha = false := by
  unfold marks at isMark
  split at isMark
  · rename_i same
    injection same with isColon
    rw [isColon]
    rfl
  · cases isMark

/-- A match at the beginning takes everything before the first `:*`. -/
theorem matchHere?_eq (text : List Char) :
    matchHere? text = (beforeMark text).filter (·.all Char.isAlpha) := by
  induction text with
  | nil => rfl
  | cons first rest induction =>
      rw [matchHere?, beforeMark_cons, induction]
      cases isMark : marks (first :: rest) with
      | true => simp [not_isAlpha_of_marks isMark, Option.filter]
      | false =>
          cases beforeMark rest with
          | none => simp [Option.filter]
          | some gap =>
              cases isLetter : first.isAlpha <;> simp [Option.filter, isLetter]

/-- As long as some character is no letter, one more in front changes nothing.
-/
theorem endLetters_cons (first : Char)
    (mixed : (first :: gap).all Char.isAlpha = false) :
    endLetters (first :: gap) = endLetters gap := by
  obtain ⟨other, member, noLetter⟩ := List.all_eq_false.mp mixed
  obtain ⟨before, rest, isText⟩ := List.append_of_mem member
  cases before with
  | nil =>
      injection isText with isFirst isGap
      rw [isFirst, isGap]
      exact endLetters_cons_of_not_isAlpha [] noLetter rest
  | cons head before =>
      have isGap : gap = before ++ other :: rest := (List.cons.inj isText).2
      rw [isGap, endLetters_cons_of_not_isAlpha before noLetter rest]
      exact endLetters_cons_of_not_isAlpha (first :: before) noLetter rest

/-- The search finds the letters right before the first `:*`. -/
theorem search?_eq (text : List Char) : search? text = (beforeMark text).map
    endLetters := by
  induction text with
  | nil => rfl
  | cons first rest induction =>
      rw [search?, matchHere?_eq, induction, beforeMark_cons]
      cases isMark : marks (first :: rest) with
      | true => rfl
      | false =>
          cases beforeMark rest with
          | none => rfl
          | some gap =>
              -- Either the match here takes the whole gap, or it fails and the
              -- letters that end the gap are found from a later place.
              cases alphabetic : (first :: gap).all Char.isAlpha with
              | true =>
                  have whole := endLetters_of_alphabetic
                    (List.all_eq_true.mp alphabetic)
                  simp [Option.filter, alphabetic, whole]
              | false =>
                  simp [Option.filter, alphabetic,
                    endLetters_cons first alphabetic]

theorem toList_name (tag : Tag) : (name tag).toList = (search? tag.toList).getD
    [] := by
  rw [name_eq, search?_eq]
  cases beforeMark tag.toList with
  | none => rfl
  | some gap => exact String.toList_ofList

end Search

section Description

theorem FirstMark.beforeMark_eq (isFirst : FirstMark text gap) :
    beforeMark text = some gap := by
  obtain ⟨after, isText⟩ := isFirst.marked
  cases marked : beforeMark text with
  | none => exact absurd isText (beforeMark_eq_none marked gap after)
  | some found =>
      obtain ⟨⟨after', isText'⟩, leftmost⟩ := beforeMark_eq_some marked
      have sameLength : found.length = gap.length :=
        Nat.le_antisymm (leftmost gap after isText)
          (isFirst.earliest found after' isText')
      rw [(List.append_inj (isText'.symm.trans isText) sameLength).1]

theorem longestRun_endLetters (text : List Char) : LongestRun text
    (endLetters text) where
  ending := by
    obtain ⟨before, isText⟩ := eq_append_endLetters text
    exact ⟨before, isText.symm⟩
  alphabetic := fun _ => isAlpha_of_mem_endLetters
  longest := by
    rintro letters' ⟨before, rfl⟩ alphabetic
    rw [endLetters_append before alphabetic, List.length_append]
    exact Nat.le_add_left _ _

theorem name_of_unmarked {tag : Tag} (unmarked : ¬ [':', '*'] <:+: tag.toList) :
    name tag = "" := by
  rw [name_eq]
  cases marked : beforeMark tag.toList with
  | none => rfl
  | some gap =>
      obtain ⟨⟨after, isText⟩, _⟩ := beforeMark_eq_some marked
      exact absurd ⟨gap, after, by rw [isText, List.append_assoc]; rfl⟩ unmarked

theorem FirstMark.longestRun_name {tag : Tag}
    (isFirst : FirstMark tag.toList gap) :
    LongestRun gap (name tag).toList := by
  rw [name_eq, isFirst.beforeMark_eq]
  dsimp only
  rw [String.toList_ofList]
  exact longestRun_endLetters gap

end Description

theorem Cache.find_of_uncached {cache : Cache} {tag : Tag}
    (uncached : cache.peek tag = none) :
    (cache.find tag).1 = name tag := by
  unfold find
  rw [uncached]

/-- What is looked up for the first time is the run of letters before the first
`:*`, and nothing if there is none.  The search finds the same, and so does the
leftmost match with as many letters as it can have. -/
theorem uncached_name_exact (cache : Cache) (tag : Tag)
    (uncached : cache.peek tag = none) :
    (¬ [':', '*'] <:+: tag.toList → (cache.find tag).1 = "") ∧
    (∀ gap, FirstMark tag.toList gap →
      LongestRun gap (cache.find tag).1.toList) ∧
    (cache.find tag).1.toList = (search? tag.toList).getD [] ∧
    ∀ letters, (cache.find tag).1 = letters ↔
      Extracted tag.toList letters.toList := by
  rw [Cache.find_of_uncached uncached]
  refine ⟨name_of_unmarked, fun _ => FirstMark.longestRun_name,
    toList_name tag, ?_⟩
  intro letters
  rw [extracted_iff]
  exact eq_comm

/-- Of two wildcards in a tag the first one counts, and of its name the letters
after the last other character. -/
theorem uncached_name_exact_nested :
    ({} : Cache).peek "Set:2Many:*List:*" = none ∧
    FirstMark "Set:2Many:*List:*".toList "Set:2Many".toList ∧
    LongestRun "Set:2Many".toList "Many".toList ∧
    Extracted "Set:2Many:*List:*".toList "Many".toList := by
  have isName : (({} : Cache).find "Set:2Many:*List:*").1 = "Many" := by
    decide +kernel
  have isFirst : FirstMark "Set:2Many:*List:*".toList "Set:2Many".toList := by
    have marked : beforeMark "Set:2Many:*List:*".toList =
        some "Set:2Many".toList := by
      decide +kernel
    obtain ⟨isMark, leftmost⟩ := beforeMark_eq_some marked
    exact ⟨isMark, leftmost⟩
  obtain ⟨_, runs, _, extracts⟩ :=
    uncached_name_exact {} "Set:2Many:*List:*" rfl
  have run := runs _ isFirst
  rw [isName] at run
  exact ⟨rfl, isFirst, run, (extracts "Many").mp isName⟩

end TypeFlow.Wildcard
