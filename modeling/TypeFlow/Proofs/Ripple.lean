import TypeFlow.Proofs.Steady

/-!
# How far a cascade reaches

However a cascade ends, it leaves a state that is steady, and every check that
it changed belongs to the target of a binding of a wiring that is open.  The
main statement is `ripplesOnly_reaction`, by induction on how deep
recomputations are nested.
-/

namespace TypeFlow

theorem Guard.maxDepth_of_enter {guard entered : Guard} {key : SlotKey}
    (enters : guard.enter key = .ok entered) :
    entered.maxDepth = guard.maxDepth := by
  obtain ⟨_, _, rfl⟩ := Guard.of_enter enters
  rfl

namespace Editor

variable {σ α : Type} {before after editor : Editor σ} {wiring : WiringId}
  {binding : Binding} {slot : Slot} {react : Reaction σ}

/-- A wiring that was not disposed keeps this binding under the key. -/
def OpenBinding (editor : Editor σ) (wiring : WiringId) (key : SlotKey)
    (binding : Binding) :
    Prop :=
  (editor.wiring wiring).disposed = false ∧
    (editor.wiring wiring).bindings.get? key = some binding

def OpenTarget (editor : Editor σ) (slot : Slot) : Prop :=
  ∃ wiring key binding, editor.OpenBinding wiring key binding ∧
    binding.target = slot

/-- A slot that has a check of its own: a connection or a variable field. -/
def HasCheck (editor : Editor σ) : Slot → Prop
  | .connection _ => True
  | .field field => (editor.field field).kind.bare = .reference none

theorem Steady.openBinding (steady : Steady before after) {key : SlotKey} :
    after.OpenBinding wiring key binding ↔
      before.OpenBinding wiring key binding := by
  simp only [OpenBinding, steady.wiring]

theorem Steady.openTarget (steady : Steady before after) :
    after.OpenTarget slot ↔ before.OpenTarget slot := by
  simp only [OpenTarget, steady.openBinding]

/-- The states are steady, and a check that differs was written directly or
belongs to the target of an open binding. -/
structure Rippled (direct : Slot → Prop) (before after : Editor σ) : Prop
    extends Steady before after where
  written : ∀ slot, after.slotCheck slot ≠ before.slotCheck slot →
    direct slot ∨ before.OpenTarget slot

namespace Rippled

variable {direct : Slot → Prop} {before middle after : Editor σ}

theorem refl (editor : Editor σ) : Rippled direct editor editor where
  toSteady := Steady.refl editor
  written := fun _ differs => absurd rfl differs

theorem trans (first : Rippled direct before middle)
    (second : Rippled direct middle after) :
    Rippled direct before after where
  toSteady := first.toSteady.trans second.toSteady
  written := by
    intro slot differs
    by_cases early : middle.slotCheck slot = before.slotCheck slot
    · rw [← early] at differs
      exact (second.written slot differs).imp_right first.toSteady.openTarget.mp
    · exact first.written slot early

theorem absorb {direct' : Slot → Prop} (rippled : Rippled direct before after)
    (covered : ∀ slot, direct slot → direct' slot ∨ before.OpenTarget slot) :
    Rippled direct' before after where
  toSteady := rippled.toSteady
  written := by
    intro slot differs
    rcases rippled.written slot differs with written | isTarget
    · exact covered slot written
    · exact Or.inr isTarget

/-- A steady change that writes no check. -/
theorem of_checks (steady : Steady before after)
    (checks : ∀ slot, after.slotCheck slot = before.slotCheck slot) :
    Rippled direct before after where
  toSteady := steady
  written := fun slot differs => absurd (checks slot) differs

end Rippled

/-- Only cascades: nothing is written directly. -/
abbrev Echoed (before after : Editor σ) : Prop :=
  Rippled (fun _ => False) before after

/-- What a cascade relies on: registered recomputations belong to open
wirings, and targets and filed variables exist. -/
structure Responsive (editor : Editor σ) : Prop where
  listenerOpen : ∀ workspace key wiring target,
    .recompute wiring target ∈ (editor.workspace workspace).registry.listenersAt
      key →
      (editor.wiring wiring).disposed = false
  targetKnown : ∀ wiring key binding, editor.OpenBinding wiring key binding →
    editor.Known binding.target
  filedKnown : ∀ workspace place,
    place ∈ Variables.places (editor.workspace workspace).variableIndex →
      editor.pool.contains place

theorem Steady.responsive (steady : Steady before after)
    (responsive : before.Responsive) :
    after.Responsive where
  listenerOpen := by
    intro workspace key wiring target listed
    rw [steady.wiring]
    rw [steady.registry] at listed
    exact responsive.listenerOpen workspace key wiring target listed
  targetKnown := by
    intro wiring key binding isOpen
    rw [steady.known]
    exact responsive.targetKnown wiring key binding
      (steady.openBinding.mp isOpen)
  filedKnown := by
    intro workspace place member
    rw [OrderedMap.contains_congr steady.poolKeys]
    exact responsive.filedKnown workspace place
      (steady.filed workspace place member)

/-- A listener that may be called: a recomputation must be that of an open
wiring. -/
def Callable (editor : Editor σ) : Listener → Prop
  | .recompute wiring _ => (editor.wiring wiring).disposed = false
  | .callback _ => True

theorem Steady.callable (steady : Steady before after) {listener : Listener}
    (callable : before.Callable listener) : after.Callable listener := by
  cases listener with
  | recompute wiring target =>
      simp only [Callable, steady.wiring] at callable ⊢
      exact callable
  | callback callback => trivial

theorem Responsive.callable (responsive : editor.Responsive)
    {workspace : WorkspaceId} {key : SlotKey} {listener : Listener}
    (listed : listener ∈ (editor.workspace workspace).registry.listenersAt
      key) :
    editor.Callable listener := by
  cases listener with
  | recompute wiring target =>
      exact responsive.listenerOpen workspace key wiring target listed
  | callback callback => trivial

/-- Calling a listener sets off a cascade and nothing more. -/
def RipplesOnly (react : Reaction σ) : Prop :=
  ∀ listener editor, editor.Responsive → editor.Callable listener →
    Ends (react listener) editor (Echoed editor)

theorem slotCheck_setCheck_of_ne (editor : Editor σ) {connection : ConnectionId}
    (check : Check) (differs : slot ≠ .connection connection) :
    (editor.setCheck connection check).slotCheck slot = editor.slotCheck
      slot := by
  cases slot with
  | connection other =>
      have different : ¬ connection = other := by
        intro equal
        exact differs (by rw [equal])
      simp [slotCheck, setCheck, different]
  | field field => rfl

theorem slotCheck_setKind_of_ne (editor : Editor σ) {field : FieldId}
    (check : Check) (differs : slot ≠ .field field) :
    (editor.updateField field fun entry =>
      { entry with kind := .reference check }).slotCheck slot =
          editor.slotCheck slot := by
  cases slot with
  | connection other => rfl
  | field other =>
      have different : ¬ field = other := by
        intro equal
        exact differs (by rw [equal])
      simp [slotCheck, different]

theorem retypeVariable_echoed (responsive : editor.Responsive) (field : FieldId)
    (check : Check) : Ends (retypeVariable field check) editor
      (Echoed editor) := by
  simp only [Ends, retypeVariable, leads_bind, leads_get]
  split
  · rename_i type types place block _ found attached
    simp only [leads_bind, leads_set, leads_pure]
    have filed : place ∈ Variables.places
        (editor.workspace (editor.block block).workspace).variableIndex := by
      unfold variableOf at found
      simp only [attached] at found
      split at found
      · rename_i sameBlock _
        cases sameBlock
        exact (Variables.mem_filed_of_findById? found).1
      · cases found
    refine Rippled.of_checks (steady_retype editor _ _ filed
      (responsive.filedKnown _ place filed)) ?_
    intro slot
    cases slot <;> rfl
  · exact Rippled.refl editor

section Calls

variable (ripples : RipplesOnly react) (responsive : editor.Responsive)

include ripples responsive

theorem forM_echoed (listeners : List Listener)
    (callable : ∀ listener ∈ listeners, editor.Callable listener) :
    Ends (listeners.forM react) editor (Echoed editor) := by
  refine leads_forM (fun _ current => Echoed editor current) listeners ?_
    (Rippled.refl editor)
  intro listener _ current member echoed
  exact Ends.mono (ripples listener current
    (echoed.toSteady.responsive responsive)
    (echoed.toSteady.callable (callable listener member))) fun _ step =>
    echoed.trans step

theorem notify_echoed (workspace : WorkspaceId) (key : SlotKey) :
    Ends (notify react workspace key) editor (Echoed editor) := by
  simp only [Ends, notify, leads_bind, leads_look, leads_pure]
  exact forM_echoed ripples responsive _ fun _ listed =>
    responsive.callable listed

theorem setConnectionTypes_rippled {connection : ConnectionId} (check : Check)
    (known : editor.connections.contains connection) :
    Ends (setConnectionTypes react connection check) editor
      (Rippled (· = .connection connection) editor) := by
  have steady := steady_setCheck editor check.distinct known
  have written : Rippled (· = .connection connection) editor
      (editor.setCheck connection check.distinct) := by
    refine ⟨steady, ?_⟩
    intro slot differs
    by_cases here : slot = .connection connection
    · exact Or.inl here
    · exact absurd (slotCheck_setCheck_of_ne editor _ here) differs
  simp only [Ends, setConnectionTypes, leads_bind, leads_look, leads_modify]
  split
  · exact written
  · split
    · exact written
    · simp only [leads_bind, leads_look, leads_discard, leads_pure]
      refine Ends.mono (notify_echoed ripples
        (steady.responsive responsive) _ _) ?_
      intro after echoed
      exact written.trans (echoed.absorb (by simp))

theorem notifyField_echoed
    (field : FieldId) : Ends (notifyField react field) editor
      (Echoed editor) := by
  simp only [Ends, notifyField, leads_bind, leads_look]
  split
  · exact Rippled.refl editor
  · simp only [leads_bind, leads_look, leads_lookup, leads_discard]
    refine ⟨?_, ?_⟩
    · intro key _
      exact notify_echoed ripples responsive _ key
    · intro _ _
      exact Rippled.refl editor

theorem setFieldTypes_rippled
    {field : FieldId} (check : Check) (known : editor.fields.contains field) :
    Ends (setFieldTypes react field check) editor
      (Rippled (· = .field field) editor) := by
  simp only [Ends, setFieldTypes, leads_bind, leads_look]
  split
  · rename_i previous isReference
    have steady := steady_setKind editor check.distinct known isReference
    have written : Rippled (· = .field field) editor
        (editor.updateField field fun entry =>
          { entry with kind := .reference check.distinct }) := by
      refine ⟨steady, ?_⟩
      intro slot differs
      by_cases here : slot = .field field
      · exact Or.inl here
      · exact absurd (slotCheck_setKind_of_ne editor _ here) differs
    simp only [leads_bind, leads_modify]
    refine Leads.mono (retypeVariable_echoed (steady.responsive responsive)
      field check) ?_ ?_
    · intro retyped middle echoed
      have sofar := written.trans (echoed.absorb (by simp))
      split
      · simp only [leads_bind, leads_pure]
        refine Ends.mono (notifyField_echoed ripples
          (sofar.toSteady.responsive responsive) field) ?_
        intro after later
        exact sofar.trans (later.absorb (by simp))
      · exact sofar
    · intro _ after echoed
      exact written.trans (echoed.absorb (by simp))
  · exact Rippled.refl editor

theorem setTypes_rippled (check : Check) (known : editor.Known slot) :
    Ends (setTypes react slot check) editor (Rippled (· = slot) editor) := by
  cases slot with
  | connection connection =>
      exact setConnectionTypes_rippled ripples responsive check known
  | field field => exact setFieldTypes_rippled ripples responsive check known

end Calls

/-- A guarded action runs with the slot on the stack, which is taken off again
however the action ends. -/
theorem leads_guarded (engine : EngineId) (key : SlotKey)
    (action : Nat → EditM σ α) (editor : Editor σ)
    {returned : α → Editor σ → Prop} {raised : Fault → Editor σ → Prop} :
    Leads (guarded engine key action) editor returned raised ↔
      (∀ entered, (editor.engine engine).guard.enter key = .ok entered →
        Leads (action entered.depth) (editor.setGuard engine entered)
          (fun value after =>
            returned value (after.setGuard engine
              ((after.engine engine).guard.leave key)))
          (fun fault after =>
            raised fault (after.setGuard engine
              ((after.engine engine).guard.leave key)))) ∧
        ∀ fault, (editor.engine engine).guard.enter key = .error fault →
            raised fault editor := by
  simp only [guarded, leads_bind, leads_lookup, leads_modify, leads_attempt]
  refine and_congr_left fun _ => forall_congr' fun entered =>
    imp_congr_right fun _ => ?_
  constructor
  · intro leads
    refine Leads.mono leads ?_ ?_
    · intro value after both
      exact both.1 value rfl
    · intro fault after both
      exact both.2 fault rfl
  · intro leads
    refine Leads.mono leads ?_ ?_
    · intro value after holds
      refine ⟨?_, ?_⟩
      · intro _ same
        cases same
        exact holds
      · intro _ impossible
        cases impossible
    · intro fault after holds
      refine ⟨?_, ?_⟩
      · intro _ impossible
        cases impossible
      · intro _ same
        cases same
        exact holds

/-- Where engines play no part, a recomputation comes down to a write. -/
theorem leads_recompute_aside {target : SlotKey} {returned : Editor σ → Prop}
    {raised : Fault → Editor σ → Prop}
    (returnedAside : ∀ current engines, returned current →
      returned { current with engines })
    (raisedAside : ∀ fault current engines, raised fault current →
      raised fault { current with engines })
    (missing : (editor.wiring wiring).bindings.get? target = none →
      returned editor)
    (fails : ∀ fault, raised fault editor)
    (writes : ∀ binding check engines,
      (editor.wiring wiring).bindings.get? target = some binding →
      editor.computed binding = .ok check →
        Leads (setTypes react binding.target check) { editor with engines }
          (fun _ after => returned after) raised) :
    Leads (recompute react wiring target) editor (fun _ after => returned after)
      raised := by
  simp only [recompute, leads_bind, leads_look]
  split
  · rename_i isMissing
    exact missing isMissing
  · rename_i binding found
    simp only [recomputeBinding, leads_bind, leads_lookup, leads_guarded,
      leads_modify]
    refine ⟨fun key _ => ?_, fun fault _ => fails fault⟩
    refine ⟨fun entered _ => ?_, fun fault _ => fails fault⟩
    refine ⟨fun check computes => ?_, fun fault _ => raisedAside fault editor
      _ (fails fault)⟩
    apply Leads.mono (writes binding check _ found computes)
    · intro changed after holds
      cases changed with
      | true => exact returnedAside after _ holds
      | false => exact returnedAside after _ holds
    · intro fault after holds
      exact raisedAside fault after _ holds

/-- Recomputing one target after the other. -/
theorem leads_recomputeEach {raised : Fault → Editor σ → Prop}
    (holds : List SlotKey → Editor σ → Prop)
    (step : ∀ target rest current, holds (target :: rest) current →
      Leads (recompute react wiring target) current
        (fun _ after => holds rest after) raised)
    (targets : List SlotKey) :
    ∀ {editor : Editor σ}, holds targets editor →
      Leads (recomputeEach react wiring targets) editor
        (fun _ after => holds [] after) raised := by
  induction targets with
  | nil => exact fun start => start
  | cons target rest induction =>
      intro editor start
      simp only [recomputeEach, leads_bind, leads_pure]
      exact Leads.mono (step target rest editor start)
        (fun _ _ => induction) fun _ _ => id

@[simp] theorem engine_setGuard (editor : Editor σ) (engine other : EngineId)
    (guard : Guard) :
    (editor.setGuard engine guard).engine other =
      if engine = other then { editor.engine engine with
        guard } else editor.engine other :=
  engine_updateEngine editor engine other _

/-- Between entering and leaving the guard a cascade is as if the guard had
not been touched. -/
theorem Rippled.guarded {direct : Slot → Prop} {engine : EngineId}
    {key : SlotKey} {entered : Guard}
    (enters : (before.engine engine).guard.enter key = .ok entered)
    (rippled : Rippled direct (before.setGuard engine entered) after) :
    Rippled direct before
      (after.setGuard engine ((after.engine engine).guard.leave key)) := by
  have stack : (after.engine engine).guard.stack = entered.stack := by
    simpa using rippled.toSteady.stack engine
  have active : (after.engine engine).guard.active = entered.active := by
    simpa using rippled.toSteady.active engine
  have restored := Guard.leave_restores enters stack active
  have sameEngines := rippled.engine
  refine { rippled with engine := ?_ }
  intro other
  by_cases here : engine = other
  · subst here
    have inside := sameEngines engine
    rw [engine_setGuard, if_pos rfl] at inside
    have maxDepth : (after.engine engine).guard.maxDepth = entered.maxDepth :=
      (congrArg (fun entry : Engine => entry.guard.maxDepth) inside :)
    have sameConfig : (after.engine engine).config =
        (before.engine engine).config :=
      (congrArg (fun entry : Engine => entry.config) inside :)
    have sameChecker :
        (after.engine engine).checker = (before.engine engine).checker :=
      (congrArg (fun entry : Engine => entry.checker) inside :)
    have sameStats : (after.engine engine).bare.stats =
        (before.engine engine).bare.stats :=
      (congrArg (fun entry : Engine => entry.stats) inside :)
    have sameWirings :
        (after.engine engine).wirings = (before.engine engine).wirings :=
      (congrArg (fun entry : Engine => entry.wirings) inside :)
    rw [engine_setGuard, if_pos rfl]
    simp only [Engine.bare] at sameStats ⊢
    rw [sameConfig, sameChecker, sameStats, sameWirings, restored.1, restored.2]
    simp only [Guard.leave, maxDepth, Guard.maxDepth_of_enter enters]
  · have outside := sameEngines other
    rw [engine_setGuard, if_neg here] at outside
    rw [engine_setGuard, if_neg here]
    exact outside

theorem recomputeBinding_rippled (ripples : RipplesOnly react)
    (responsive : editor.Responsive) (engine : EngineId)
    (known : editor.Known binding.target) :
    Ends (recomputeBinding react engine binding) editor
      (Rippled (· = binding.target) editor) := by
  simp only [Ends, recomputeBinding, leads_bind, leads_lookup, leads_guarded]
  refine ⟨?_, fun _ _ => Rippled.refl editor⟩
  intro key _
  refine ⟨?_, fun _ _ => Rippled.refl editor⟩
  intro entered enters
  simp only [leads_modify]
  -- Counting the recomputation writes no check.
  let inside := editor.setGuard engine entered
  let counted := inside.updateStats engine (·.countRecompute entered.depth)
  have counts : Rippled (· = binding.target) inside counted :=
    Rippled.of_checks (steady_updateStats inside engine _ fun _ => ⟨rfl, rfl⟩)
      (by intro slot; cases slot <;> rfl)
  have insideResponsive : inside.Responsive :=
    ⟨responsive.listenerOpen, responsive.targetKnown, responsive.filedKnown⟩
  refine ⟨?_, fun _ _ => Rippled.guarded enters counts⟩
  intro check _
  refine Leads.mono (setTypes_rippled ripples
    (counts.toSteady.responsive insideResponsive) check
    ((counts.toSteady.known _).mpr known)) ?_ ?_
  · intro changed middle rippled
    have sofar := counts.trans rippled
    split
    · simp only [leads_bind, leads_modify, leads_pure]
      have writes : Rippled (· = binding.target) middle
          (middle.updateStats engine Stats.countWrite) :=
        Rippled.of_checks (steady_updateStats middle engine _ fun _ =>
          ⟨rfl, rfl⟩) (by intro slot; cases slot <;> rfl)
      exact Rippled.guarded enters (sofar.trans writes)
    · exact Rippled.guarded enters sofar
  · intro _ middle rippled
    exact Rippled.guarded enters (counts.trans rippled)

theorem recomputeBinding_echoed (ripples : RipplesOnly react)
    (responsive : editor.Responsive) (engine : EngineId)
    (isTarget : editor.OpenTarget binding.target) :
    Ends (recomputeBinding react engine binding) editor (Echoed editor) := by
  have known : editor.Known binding.target := by
    obtain ⟨wiring, other, known, isOpen, same⟩ := isTarget
    rw [← same]
    exact responsive.targetKnown wiring other known isOpen
  refine Ends.mono (recomputeBinding_rippled ripples responsive engine known) ?_
  intro after rippled
  refine rippled.absorb ?_
  intro slot here
  subst here
  exact Or.inr isTarget

theorem recompute_echoed (ripples : RipplesOnly react)
    (responsive : editor.Responsive) (target : SlotKey)
    (isOpen : (editor.wiring wiring).disposed = false) :
    Ends (recompute react wiring target) editor (Echoed editor) := by
  simp only [Ends, recompute, leads_bind, leads_look]
  split
  · exact Rippled.refl editor
  · rename_i binding found
    exact recomputeBinding_echoed ripples responsive _ ⟨wiring, target, binding,
      ⟨isOpen, found⟩, rfl⟩

/-- The outside does no more than change its own part of the state. -/
def KeepsOut (outside : Callbacks σ) : Prop :=
  ∀ callback editor, Ends (outside callback) editor fun after =>
    ∃ outer, after = { editor with outer }

/-- Calling listeners sets off cascades and nothing more, however deep. -/
theorem ripplesOnly_reaction {outside : Callbacks σ}
    (keepsOut : KeepsOut outside) (fuel : Nat) : RipplesOnly
      (reaction outside fuel) := by
  induction fuel with
  | zero =>
      intro listener editor _ _
      exact Rippled.refl editor
  | succ fuel induction =>
      intro listener editor responsive callable
      cases listener with
      | callback callback =>
          refine Ends.mono (keepsOut callback editor) ?_
          rintro _ ⟨outer, rfl⟩
          exact Rippled.of_checks (steady_outer editor outer)
            (by intro slot; cases slot <;> rfl)
      | recompute wiring target =>
          simp only [Ends, reaction, leads_discard]
          exact recompute_echoed induction responsive target callable

theorem recomputeEach_echoed (ripples : RipplesOnly react)
    (targets : List SlotKey) :
    ∀ {editor : Editor σ}, editor.Responsive →
      (editor.wiring wiring).disposed = false →
      Ends (recomputeEach react wiring targets) editor (Echoed editor) := by
  intro editor responsive isOpen
  refine leads_recomputeEach (fun _ => Echoed editor) ?_ targets
    (Rippled.refl editor)
  intro target _ current sofar
  have steady := sofar.toSteady
  exact Ends.mono (recompute_echoed ripples
    (steady.responsive responsive) target
    (by rwa [steady.wiring])) fun _ => sofar.trans

end Editor

end TypeFlow
