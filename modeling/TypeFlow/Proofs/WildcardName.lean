import TypeFlow.Wildcard.Name

/-!
# What the name of a wildcard is

The pattern of wildcards is any number of letters followed by `:*`.  A name is
extracted from the first place where the pattern matches, with as many letters
as can be taken there.  `Extracted` says so without a scan; the scan finds the
part before the first `:*` and keeps the letters at its end.
-/

namespace TypeFlow.Wildcard

variable {text before letters letters' : List Char} {character : Char}

/-- A match of the pattern: after `before` come the letters and then `:*`. -/
structure MatchesAt (text before letters : List Char) : Prop where
  alphabetic : ∀ character ∈ letters, character.isAlpha = true
  marked : ∃ after, text = before ++ letters ++ ':' :: '*' :: after

/-- The match that starts first, with as many letters as a match has there. -/
structure FirstMatch (text before letters : List Char) : Prop
    extends MatchesAt text before letters where
  leftmost : ∀ before' letters', MatchesAt text before' letters' →
    before.length ≤ before'.length
  greedy : ∀ letters', MatchesAt text before letters' →
    letters'.length ≤ letters.length

/-- The letters of the first match, or none if the pattern does not match. -/
def Extracted (text letters : List Char) : Prop :=
  (∃ before, FirstMatch text before letters) ∨
    letters = [] ∧ ∀ before letters', ¬ MatchesAt text before letters'

section Unique

theorem FirstMatch.unique {before' : List Char}
    (first : FirstMatch text before letters)
    (second : FirstMatch text before' letters') : letters = letters' := by
  obtain ⟨after, isText⟩ := first.marked
  obtain ⟨after', isText'⟩ := second.marked
  have sameStart : before.length = before'.length :=
    Nat.le_antisymm (first.leftmost _ _ second.toMatchesAt)
      (second.leftmost _ _ first.toMatchesAt)
  have split : before ++ (letters ++ ':' :: '*' :: after) =
      before' ++ (letters' ++ ':' :: '*' :: after') := by
    rw [← List.append_assoc, ← List.append_assoc, ← isText, ← isText']
  obtain ⟨sameBefore, sameRest⟩ := List.append_inj split sameStart
  subst sameBefore
  have sameLength : letters.length = letters'.length :=
    Nat.le_antisymm (second.greedy _ first.toMatchesAt)
      (first.greedy _ second.toMatchesAt)
  exact (List.append_inj sameRest sameLength).1

theorem Extracted.unique (first : Extracted text letters)
    (second : Extracted text letters') :
    letters = letters' := by
  rcases first with ⟨before, isFirst⟩ | ⟨isEmpty, unmatched⟩
  · rcases second with ⟨before', isFirst'⟩ | ⟨_, unmatched⟩
    · exact isFirst.unique isFirst'
    · exact absurd isFirst.toMatchesAt (unmatched _ _)
  · rcases second with ⟨before', isFirst'⟩ | ⟨isEmpty', _⟩
    · exact absurd isFirst'.toMatchesAt (unmatched _ _)
    · rw [isEmpty, isEmpty']

end Unique

/-- The letters at the end of a text. -/
def endLetters (text : List Char) : List Char :=
  (text.reverse.takeWhile Char.isAlpha).reverse

section EndLetters

theorem isAlpha_of_mem_endLetters (member : character ∈ endLetters text) :
    character.isAlpha = true := by
  have taken : (text.reverse.takeWhile Char.isAlpha).all Char.isAlpha = true :=
    List.all_takeWhile
  exact List.all_eq_true.mp taken character (List.mem_reverse.mp member)

theorem endLetters_append (before : List Char)
    (alphabetic : ∀ character ∈ letters, character.isAlpha = true) :
    endLetters (before ++ letters) = endLetters before ++ letters := by
  have reversed : ∀ character ∈ letters.reverse, character.isAlpha = true :=
    fun character member => alphabetic character (List.mem_reverse.mp member)
  simp only [endLetters, List.reverse_append,
    List.takeWhile_append_of_pos reversed, List.reverse_reverse]

theorem endLetters_of_alphabetic
    (alphabetic : ∀ character ∈ letters, character.isAlpha = true) :
    endLetters letters = letters :=
  endLetters_append [] alphabetic

/-- Only what follows the last character that is no letter counts. -/
theorem endLetters_cons_of_not_isAlpha (before : List Char)
    (other : ¬ character.isAlpha = true) (rest : List Char) : endLetters
      (before ++ character :: rest) = endLetters rest := by
  simp only [endLetters, List.reverse_append, List.reverse_cons,
    List.append_assoc, List.singleton_append, List.takeWhile_append,
    List.takeWhile_cons_of_neg other, List.append_nil]
  split
  · rename_i whole
    have same := List.takeWhile_sublist Char.isAlpha (l := rest.reverse)
    rw [same.eq_of_length whole]
  · rfl

theorem eq_append_endLetters (text : List Char) :
    ∃ before, text = before ++ endLetters text := by
  refine ⟨(text.reverse.dropWhile Char.isAlpha).reverse, ?_⟩
  rw [endLetters, ← List.reverse_append, List.takeWhile_append_dropWhile,
    List.reverse_reverse]

end EndLetters

/-- The part before the first `:*`. -/
def beforeMark : List Char → Option (List Char)
  | [] => none
  | [_] => none
  | first :: second :: rest =>
      if first = ':' ∧ second = '*' then some []
      else (beforeMark (second :: rest)).map (first :: ·)

theorem scanName_eq (run text : List Char)
    (alphabetic : ∀ character ∈ run, character.isAlpha = true) :
    scanName run text =
      match beforeMark text with
      | none => []
      | some gap => endLetters (run.reverse ++ gap) := by
  fun_induction scanName run text with
  | case1 run => rfl
  | case2 run character => rfl
  | case3 run first second rest marked =>
      have reversed : ∀ character ∈ run.reverse, character.isAlpha = true :=
        fun character member => alphabetic character
          (List.mem_reverse.mp member)
      rw [beforeMark, if_pos marked]
      simp only [List.append_nil, endLetters_of_alphabetic reversed]
  | case4 run first second rest unmarked induction =>
      rw [beforeMark, if_neg unmarked, induction]
      · cases beforeMark (second :: rest) with
        | none => rfl
        | some gap =>
            simp only [Option.map_some]
            by_cases letter : first.isAlpha = true
            · simp only [letter, if_true, List.reverse_cons, List.append_assoc,
                List.singleton_append]
            · simp only [letter, if_false, List.reverse_nil, List.nil_append,
                endLetters_cons_of_not_isAlpha run.reverse letter gap,
                Bool.false_eq_true]
      · intro character member
        split at member
        · rename_i letter
          rcases List.mem_cons.mp member with isFirst | earlier
          · rw [isFirst]
            exact letter
          · exact alphabetic character earlier
        · cases member

theorem name_eq (tag : Tag) :
    name tag =
      match beforeMark tag.toList with
      | none => ""
      | some gap => String.ofList (endLetters gap) := by
  rw [name, scanName_eq [] tag.toList (fun _ member => by cases member)]
  cases beforeMark tag.toList <;> rfl

section Mark

theorem beforeMark_eq_none (unmarked : beforeMark text = none) :
    ∀ gap after, text ≠ gap ++ ':' :: '*' :: after := by
  fun_induction beforeMark text with
  | case1 => simp
  | case2 character =>
      intro gap after isText
      have lengths := congrArg List.length isText
      simp only [List.length_cons, List.length_nil, List.length_append]
        at lengths
      omega
  | case3 => cases unmarked
  | case4 first second rest differs induction =>
      intro gap after isText
      have later := induction (Option.map_eq_none_iff.mp unmarked)
      cases gap with
      | nil =>
          injection isText with isColon isRest
          injection isRest with isStar
          exact differs ⟨isColon, isStar⟩
      | cons head gap =>
          injection isText with _ isRest
          exact later gap after isRest

theorem beforeMark_eq_some {gap : List Char}
    (marked : beforeMark text = some gap) :
    (∃ after, text = gap ++ ':' :: '*' :: after) ∧
      ∀ gap' after', text = gap' ++ ':' :: '*' :: after' →
        gap.length ≤ gap'.length := by
  fun_induction beforeMark text generalizing gap with
  | case1 => cases marked
  | case2 => cases marked
  | case3 first second rest isMark =>
      cases marked
      rw [isMark.1, isMark.2]
      exact ⟨⟨rest, rfl⟩, fun _ _ _ => Nat.zero_le _⟩
  | case4 first second rest differs induction =>
      obtain ⟨later, isLater, rfl⟩ := Option.map_eq_some_iff.mp marked
      obtain ⟨⟨after, isRest⟩, leftmost⟩ := induction isLater
      refine ⟨⟨after, by rw [isRest, List.cons_append]⟩, ?_⟩
      intro gap' after' isText
      cases gap' with
      | nil =>
          injection isText with isColon isRest'
          injection isRest' with isStar
          exact absurd ⟨isColon, isStar⟩ differs
      | cons head gap' =>
          injection isText with _ isRest'
          exact Nat.succ_le_succ (leftmost gap' after' isRest')

/-- Letters end where the first `:*` begins. -/
theorem alphabetic_unique {rest rest' : List Char}
    (alphabetic : ∀ character ∈ letters, character.isAlpha = true)
    (alphabetic' : ∀ character ∈ letters', character.isAlpha = true)
    (same : letters ++ ':' :: rest = letters' ++ ':' :: rest') :
    letters = letters' := by
  rcases List.append_eq_append_iff.mp same with ⟨extra, isMore, isRest⟩
    | ⟨extra, isMore, isRest⟩
  · cases extra with
    | nil => simpa using isMore.symm
    | cons head extra =>
        injection isRest with isColon
        have letter := alphabetic' head (by simp [isMore])
        rw [← isColon] at letter
        cases letter
  · cases extra with
    | nil => simpa using isMore
    | cons head extra =>
        injection isRest with isColon
        have letter := alphabetic head (by simp [isMore])
        rw [← isColon] at letter
        cases letter

/-- A match ends at the first `:*`, or it starts after the text before that. -/
theorem gap_of_matchesAt {gap : List Char} (marked : beforeMark text = some gap)
    (matched : MatchesAt text before letters) :
    gap = before ++ letters ∨ gap.length ≤ before.length := by
  obtain ⟨⟨after, isText⟩, leftmost⟩ := beforeMark_eq_some marked
  obtain ⟨after', isText'⟩ := matched.marked
  have noLater := leftmost _ _ isText'
  have parts := isText'.symm.trans isText
  rcases List.append_eq_append_iff.mp parts with ⟨extra, isGap, _⟩
    | ⟨extra, isLonger, isRest⟩
  · have lengths := congrArg List.length isGap
    rw [List.length_append] at lengths
    have isEmpty : extra = [] := List.eq_nil_of_length_eq_zero (by omega)
    rw [isEmpty, List.append_nil] at isGap
    exact Or.inl isGap
  · cases extra with
    | nil =>
        rw [List.append_nil] at isLonger
        exact Or.inl isLonger.symm
    | cons head extra =>
        -- The colon of the first mark is no letter, so it stands before the
        -- letters.
        injection isRest with isColon
        rcases List.append_eq_append_iff.mp isLonger with
          ⟨middle, _, isLetters⟩ | ⟨middle, isBefore, _⟩
        · have letter := matched.alphabetic head (by simp [isLetters])
          rw [← isColon] at letter
          cases letter
        · rw [isBefore, List.length_append]
          exact Or.inr (Nat.le_add_right _ _)

theorem firstMatch_of_beforeMark {gap : List Char}
    (marked : beforeMark text = some gap)
    (isGap : gap = before ++ endLetters gap) : FirstMatch text before
      (endLetters gap) := by
  obtain ⟨⟨after, isText⟩, _⟩ := beforeMark_eq_some marked
  have alphabetic : ∀ character ∈ endLetters gap, character.isAlpha = true :=
    fun _ => isAlpha_of_mem_endLetters
  have gapLength : gap.length = before.length + (endLetters gap).length := by
    rw [← List.length_append, ← isGap]
  rw [isGap] at isText
  refine ⟨⟨alphabetic, after, isText⟩, ?_, ?_⟩
  · intro before' letters' matched
    rcases gap_of_matchesAt marked matched with isWhole | isLater
    · have ending :=
        congrArg List.length (endLetters_append before' matched.alphabetic)
      have lengths := congrArg List.length isWhole
      rw [← isWhole, List.length_append] at ending
      rw [List.length_append] at lengths
      omega
    · omega
  · intro letters' matched
    obtain ⟨after', isText'⟩ := matched.marked
    have same := isText.symm.trans isText'
    rw [List.append_assoc, List.append_assoc] at same
    have sameLetters := alphabetic_unique alphabetic matched.alphabetic
      (List.append_cancel_left same)
    exact Nat.le_of_eq (congrArg List.length sameLetters.symm)

end Mark

/-- The name of a tag is what the pattern extracts. -/
theorem extracted_iff (tag : Tag) (letters : String) :
    Extracted tag.toList letters.toList ↔ letters = name tag := by
  have extracted : Extracted tag.toList (name tag).toList := by
    rw [name_eq]
    cases marked : beforeMark tag.toList with
    | none =>
        refine Or.inr ⟨rfl, ?_⟩
        intro before letters' matched
        obtain ⟨after, isText⟩ := matched.marked
        exact beforeMark_eq_none marked _ _ isText
    | some gap =>
        obtain ⟨before, isGap⟩ := eq_append_endLetters gap
        rw [String.toList_ofList]
        exact Or.inl ⟨before, firstMatch_of_beforeMark marked isGap⟩
  constructor
  · intro other
    exact String.toList_injective (other.unique extracted)
  · intro isName
    rw [isName]
    exact extracted

theorem beforeMark_cons_of_ne {first : Char} (differs : first ≠ ':')
    (rest : List Char) :
    beforeMark (first :: rest) = (beforeMark rest).map (first :: ·) := by
  cases rest with
  | nil => rfl
  | cons second rest => simp [beforeMark, differs]

/-- Where there is no colon before it, a colon decides by what follows it. -/
theorem beforeMark_append_colon (plain : ':' ∉ before) (next : Char) :
    beforeMark (before ++ [':', next]) = if next = '*' then some before
      else none := by
  induction before with
  | nil => simp [beforeMark]
  | cons first rest induction =>
      rw [List.mem_cons, not_or] at plain
      have differs : first ≠ ':' := fun same => plain.1 same.symm
      rw [List.cons_append, beforeMark_cons_of_ne differs, induction plain.2]
      split <;> rfl

theorem beforeMark_of_plain (plain : ':' ∉ text) : beforeMark text = none := by
  cases marked : beforeMark text with
  | none => rfl
  | some gap =>
      obtain ⟨⟨after, isText⟩, _⟩ := beforeMark_eq_some marked
      exact absurd (by simp [isText]) plain

end TypeFlow.Wildcard
