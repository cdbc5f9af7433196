import TypeFlow.Proofs.Journal

/-!
# Callbacks that use the editor

A callback follows a script.  It may do things of its own, and it may set
checks and values and recompute bindings, which calls further listeners and
among them callbacks.
-/

namespace TypeFlow

/-- What a callback does. -/
inductive Script (σ : Type) where
  | done
  /-- Something of its own, which calls no listener. -/
  | act (action : EditM σ Unit) (next : Script σ)
  | setTypes (slot : Slot) (check : Check) (next : Script σ)
  | setValue (field : FieldId) (value : FieldValue) (next : Script σ)
  | recompute (wiring : WiringId) (target : SlotKey) (next : Script σ)
  /-- Goes on as the state suggests. -/
  | choose (next : Editor σ → Script σ)

namespace Script

variable {σ : Type}

def run (react : Reaction σ) : Script σ → EditM σ Unit
  | .done => return
  | .act action next => do
      action
      next.run react
  | .setTypes slot check next => do
      discard (Editor.setTypes react slot check)
      next.run react
  | .setValue field value next => do
      Editor.setValue react field value
      next.run react
  | .recompute wiring target next => do
      discard (Editor.recompute react wiring target)
      next.run react
  | .choose next => do
      (next (← get)).run react

/-- The same script in an editor with a journal. -/
def journaled : Script σ → Script (Journaled σ)
  | .done => .done
  | .act action next => .act (Editor.unjournaled action) next.journaled
  | .setTypes slot check next => .setTypes slot check next.journaled
  | .setValue field value next => .setValue field value next.journaled
  | .recompute wiring target next => .recompute wiring target next.journaled
  | .choose next => .choose fun editor => (next editor.forget).journaled

/-- Runs the script of a callback.  `calling` says how listeners are called,
given how callbacks are run; the fuel bounds the nesting of scripts. -/
def respond (calling : Callbacks σ → Reaction σ)
    (scripts : CallbackId → Script σ) : (fuel : Nat) → Callbacks σ
  | 0, _ => throw .unsettled
  | fuel + 1, callback =>
      (scripts callback).run (calling (respond calling scripts fuel))

/-- How listeners are called when callbacks follow scripts. -/
def calling (scripts : CallbackId → Script σ) (limit fuel : Nat) : Reaction σ :=
  Editor.reaction (respond (Editor.reaction · limit) scripts fuel) limit

/-- The same with a journal of the calls. -/
def noting (scripts : CallbackId → Script σ) (limit fuel : Nat) :
    Reaction (Journaled σ) :=
  Editor.journaling
    (respond (Editor.journaling · limit)
      (fun callback => (scripts callback).journaled) fuel) limit

open Editor

theorem mirrors_run {react : Reaction (Journaled σ)} {react' : Reaction σ}
    (same : MirrorsCalls react react') (script : Script σ) :
    ∀ editor, Mirrors (script.journaled.run react)
      (script.run react') editor := by
  induction script with
  | done => exact fun _ => mirrors_pure ()
  | act action next induction =>
      exact fun _ => mirrors_bind (mirrors_unjournaled action)
        fun _ => induction
  | setTypes slot check next induction =>
      exact fun _ => mirrors_bind
        (mirrors_discard (mirrors_setTypes same slot check)) fun _ => induction
  | setValue field value next induction =>
      exact fun _ => mirrors_bind (mirrors_setValue same field value)
        fun _ => induction
  | recompute wiring target next induction =>
      exact fun _ => mirrors_bind
        (mirrors_discard (mirrors_recompute same wiring target))
        fun _ => induction
  | choose next induction =>
      exact fun editor => mirrors_get (induction editor.forget editor)

theorem mirrors_respond (scripts : CallbackId → Script σ) (limit fuel : Nat) :
    ∀ callback editor, Mirrors
      (respond (journaling · limit)
        (fun callback => (scripts callback).journaled) fuel callback)
      (respond (reaction · limit) scripts fuel callback) editor := by
  induction fuel with
  | zero => exact fun _ _ => mirrors_throw _
  | succ fuel induction =>
      exact fun callback =>
        mirrors_run (mirrorsCalls_journaling induction limit) _

/-- Calls are the same with and without a journal when callbacks follow
scripts. -/
theorem mirrorsCalls_noting (scripts : CallbackId → Script σ)
    (limit fuel : Nat) :
    MirrorsCalls (noting scripts limit fuel) (calling scripts limit fuel) :=
  mirrorsCalls_journaling (mirrors_respond scripts limit fuel) limit

end Script

end TypeFlow
