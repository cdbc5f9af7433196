import TypeFlow.Proofs.Following

/-!
# Journals of calls

A journaled editor remembers which listeners were called, each with the state
that the call met.  Nothing else is different: an action that keeps a journal
mirrors the same action without one, call by call.
-/

namespace TypeFlow

/-- A call of a listener, with the state at that time. -/
structure Call (σ : Type) where
  listener : Listener
  seen : Editor σ

/-- What belongs to the outside, and the calls so far. -/
structure Journaled (σ : Type) where
  outer : σ
  calls : List (Call σ)

namespace Editor

variable {σ α β : Type} {editor : Editor (Journaled σ)}
  {journaled : EditM (Journaled σ) α} {plain : EditM σ α}

/-- The editor together with a journal. -/
def journal (editor : Editor σ) (calls : List (Call σ)) :
    Editor (Journaled σ) :=
  { editor with outer := ⟨editor.outer, calls⟩ }

/-- The editor without its journal. -/
def forget (editor : Editor (Journaled σ)) : Editor σ :=
  { editor with outer := editor.outer.outer }

abbrev calls (editor : Editor (Journaled σ)) : List (Call σ) :=
  editor.outer.calls

@[simp] theorem forget_journal (editor : Editor σ) (calls : List (Call σ)) :
    (editor.journal calls).forget = editor := rfl

@[simp] theorem journal_forget (editor : Editor (Journaled σ)) :
    editor.forget.journal editor.calls = editor := rfl

/-- The editor with one more call in its journal. -/
def withCall (editor : Editor (Journaled σ)) (listener : Listener) :
    Editor (Journaled σ) :=
  editor.forget.journal (editor.calls ++ [⟨listener, editor.forget⟩])

/-- Enters a call into the journal. -/
def note (listener : Listener) : EditM (Journaled σ) Unit :=
  modify (·.withCall listener)

/-- An action of the outside, which enters nothing itself. -/
def unjournaled (action : EditM σ α) : EditM (Journaled σ) α :=
  fun editor => ((action editor.forget).1,
    (action editor.forget).2.journal editor.calls)

theorem leads_unjournaled (action : EditM σ α)
    {returned : α → Editor (Journaled σ) → Prop}
    {raised : Fault → Editor (Journaled σ) → Prop} :
    Leads (unjournaled action) editor returned raised ↔
      Leads action editor.forget
        (fun value after => returned value (after.journal editor.calls))
        (fun fault after => raised fault (after.journal editor.calls)) := by
  unfold Leads unjournaled
  rcases action editor.forget with ⟨fault | value, after⟩ <;> rfl

/-- Calls a listener and keeps a journal.  Callbacks are run by `outside`. -/
def journaling (outside : Callbacks (Journaled σ)) :
    (fuel : Nat) → Reaction (Journaled σ)
  | 0, _ => throw .unsettled
  | fuel + 1, listener => do
      note listener
      match listener with
      | .callback callback => outside callback
      | .recompute wiring target =>
          discard (recompute (journaling outside fuel) wiring target)

/-- The journal has not lost anything. -/
def Grown (before after : Editor (Journaled σ)) : Prop :=
  ∃ calls, after.calls = before.calls ++ calls

/-- A call that passes the test was made between the two states. -/
def CalledSince (before after : Editor (Journaled σ)) (test : Call σ → Prop) :
    Prop :=
  ∃ calls, after.calls = before.calls ++ calls ∧ ∃ call ∈ calls, test call

section Growth

variable {before middle after : Editor (Journaled σ)} {test : Call σ → Prop}

theorem Grown.of_eq (same : after.calls = before.calls) : Grown before after :=
  ⟨[], by rw [same, List.append_nil]⟩

theorem Grown.trans (first : Grown before middle)
    (second : Grown middle after) :
    Grown before after := by
  obtain ⟨early, hMiddle⟩ := first
  obtain ⟨late, hAfter⟩ := second
  exact ⟨early ++ late, by rw [hAfter, hMiddle, List.append_assoc]⟩

theorem CalledSince.grown (called : CalledSince before after test) :
    Grown before after := by
  obtain ⟨calls, hAfter, _⟩ := called
  exact ⟨calls, hAfter⟩

theorem CalledSince.later (called : CalledSince before middle test)
    (grown : Grown middle after) :
    CalledSince before after test := by
  obtain ⟨early, hMiddle, call, member, passes⟩ := called
  obtain ⟨late, hAfter⟩ := grown
  exact ⟨early ++ late, by rw [hAfter, hMiddle, List.append_assoc], call,
    List.mem_append_left late member, passes⟩

theorem CalledSince.earlier (grown : Grown before middle)
    (called : CalledSince middle after test) :
    CalledSince before after test := by
  obtain ⟨early, hMiddle⟩ := grown
  obtain ⟨late, hAfter, call, member, passes⟩ := called
  exact ⟨early ++ late, by rw [hAfter, hMiddle, List.append_assoc], call,
    List.mem_append_right early member, passes⟩

theorem calledSince_withCall {listener : Listener}
    (passes : test ⟨listener, editor.forget⟩) :
    CalledSince editor (editor.withCall listener) test :=
  ⟨[⟨listener, editor.forget⟩], rfl, _, List.mem_singleton_self _, passes⟩

end Growth

/-- From this state the two actions end alike, but for the journal. -/
def Mirrors (journaled : EditM (Journaled σ) α) (plain : EditM σ α)
    (editor : Editor (Journaled σ)) : Prop :=
  plain editor.forget = ((journaled editor).1, (journaled editor).2.forget)

/-- Calling a listener is the same with and without a journal. -/
def MirrorsCalls (journaled : Reaction (Journaled σ)) (plain : Reaction σ) :
    Prop :=
  ∀ listener editor, Mirrors (journaled listener) (plain listener) editor

section Rules

theorem mirrors_iff_follows :
    Mirrors journaled plain editor ↔
      Follows False Journaled.outer journaled plain editor := by
  unfold Follows
  rw [false_and, false_or]
  exact Iff.rfl

theorem MirrorsCalls.follows {journaled : Reaction (Journaled σ)}
    {plain : Reaction σ} (same : MirrorsCalls journaled plain) :
    FollowsCalls False Journaled.outer journaled plain :=
  fun listener editor => mirrors_iff_follows.mp (same listener editor)

theorem Mirrors.run {start : Editor σ} {before : List (Call σ)}
    (mirrors : Mirrors journaled plain (start.journal before))
    {outcome : Except Fault α} {after : Editor σ}
    (run : plain start = (outcome, after)) :
    ∃ calls, journaled
      (start.journal before) = (outcome, after.journal calls) := by
  unfold Mirrors at mirrors
  rw [forget_journal, run] at mirrors
  obtain ⟨sameOutcome, sameState⟩ := Prod.mk.inj mirrors
  refine ⟨(journaled (start.journal before)).2.calls,
    Prod.ext sameOutcome.symm ?_⟩
  rw [sameState, journal_forget]

theorem mirrors_unjournaled (action : EditM σ α) :
    Mirrors (unjournaled action) action editor :=
  rfl

theorem mirrors_pure (value : α) : Mirrors (pure value) (pure value) editor :=
  rfl

theorem mirrors_throw (fault : Fault) :
    Mirrors (throw fault : EditM (Journaled σ) α) (throw fault) editor := rfl

theorem mirrors_bind {first : EditM (Journaled σ) α} {first' : EditM σ α}
    {next : α → EditM (Journaled σ) β} {next' : α → EditM σ β}
    (starts : Mirrors first first' editor)
    (goesOn : ∀ value after, Mirrors (next value) (next' value) after) :
    Mirrors (first >>= next) (first' >>= next') editor :=
  mirrors_iff_follows.mpr (follows_bind (mirrors_iff_follows.mp starts)
    fun value after => mirrors_iff_follows.mp (goesOn value after))

theorem mirrors_discard {action : EditM (Journaled σ) α} {action' : EditM σ α}
    (mirrors : Mirrors action action' editor) :
    Mirrors (discard action) (discard action') editor :=
  mirrors_iff_follows.mpr (follows_discard (mirrors_iff_follows.mp mirrors))

theorem mirrors_get {next : Editor (Journaled σ) → EditM (Journaled σ) α}
    {next' : Editor σ → EditM σ α}
    (goesOn : Mirrors (next editor) (next' editor.forget) editor) :
    Mirrors (get >>= next) (get >>= next') editor := goesOn

theorem mirrors_note {listener : Listener}
    (mirrors : Mirrors journaled plain (editor.withCall listener)) :
    Mirrors (note listener >>= fun _ => journaled) plain editor := mirrors

end Rules

section Calls

variable {react : Reaction (Journaled σ)} {react' : Reaction σ}
  (same : MirrorsCalls react react')

include same

theorem mirrors_setValue (field : FieldId) (value : FieldValue) :
    Mirrors (setValue react field value) (setValue react' field value) editor :=
  mirrors_iff_follows.mpr (follows_setValue same.follows field value)

theorem mirrors_setTypes (slot : Slot) (check : Check) :
    Mirrors (setTypes react slot check) (setTypes react' slot check) editor :=
  mirrors_iff_follows.mpr (follows_setTypes same.follows slot check)

theorem mirrors_recompute (wiring : WiringId) (target : SlotKey) :
    Mirrors (recompute react wiring target) (recompute react' wiring target)
      editor :=
  mirrors_iff_follows.mpr (follows_recompute same.follows wiring target)

theorem mirrors_disconnect (this : ConnectionId) :
    Mirrors (disconnect react this) (disconnect react' this) editor :=
  mirrors_iff_follows.mpr (follows_disconnect same.follows this)

theorem mirrors_connect (this other : ConnectionId) :
    Mirrors (connect react this other) (connect react' this other) editor :=
  mirrors_iff_follows.mpr (follows_connect same.follows this other)

end Calls

/-- Keeping a journal changes nothing about a cascade, however deep. -/
theorem mirrorsCalls_journaling {noted : Callbacks (Journaled σ)}
    {outside : Callbacks σ}
    (same : ∀ callback editor, Mirrors (noted callback) (outside callback)
      editor)
    (fuel : Nat) : MirrorsCalls (journaling noted fuel)
      (reaction outside fuel) := by
  induction fuel with
  | zero => exact fun _ _ => mirrors_throw _
  | succ fuel induction =>
      intro listener editor
      cases listener with
      | callback callback => exact mirrors_note (same callback _)
      | recompute wiring target =>
          exact mirrors_note
            (mirrors_discard (mirrors_recompute induction wiring target))

end Editor

end TypeFlow
