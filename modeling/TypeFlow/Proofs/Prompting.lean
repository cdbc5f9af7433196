import TypeFlow.Proofs.Faults
import TypeFlow.Proofs.Plugging
import TypeFlow.Proofs.SlotWrite

/-!
# Cascades that go in no circle

A recomputation calls those that listen where its target is heard.  Such a call
stays on the block and follows a dependency on a field, or it goes on to a
block that this one is plugged into.  If there are no circles of either kind,
no slot is reached again while it is being recomputed.
-/

namespace TypeFlow

open Relation (TransGen)

/-- Steps that rise, or that stay level and follow another relation, form no
circle if there is none of either kind. -/
theorem Acyclic.of_levels {α β : Type} {relation beside : α → α → Prop}
    {above : β → β → Prop} (level : α → β) (rising : Acyclic above)
    (staying : Acyclic beside) (step : ∀ first second, relation first second →
      above (level first) (level second) ∨
        level first = level second ∧ beside first second) :
        Acyclic relation := by
  have paths : ∀ first last, TransGen relation first last →
      TransGen above (level first) (level last) ∨
        level first = level last ∧ TransGen beside first last := by
    intro first last path
    induction path with
    | single next =>
        rcases step _ _ next with rises | ⟨sameLevel, stays⟩
        · exact Or.inl (Relation.TransGen.single rises)
        · exact Or.inr ⟨sameLevel, Relation.TransGen.single stays⟩
    | tail _ next induction =>
        rcases induction with risen | ⟨sameSoFar, stayed⟩
        · rcases step _ _ next with rises | ⟨sameLevel, _⟩
          · exact Or.inl (risen.tail rises)
          · exact Or.inl (sameLevel ▸ risen)
        · rcases step _ _ next with rises | ⟨sameLevel, stays⟩
          · exact Or.inl (Relation.TransGen.single (sameSoFar ▸ rises))
          · exact Or.inr ⟨sameSoFar.trans sameLevel, stayed.tail stays⟩
  intro item circle
  rcases paths item item circle with risen | ⟨_, stayed⟩
  · exact rising _ risen
  · exact staying _ stayed

/-- A slot was reached again while it was being recomputed. -/
def Fault.IsAlarm : Fault → Prop
  | .cyclicPropagation .. => True
  | _ => False

/-- The fault is no alarm, whatever state it leaves. -/
abbrev NotAlarm {σ : Type} (fault : Fault) (_ : Editor σ) : Prop :=
  ¬ fault.IsAlarm

theorem Guard.active_of_enter {guard entered : Guard} {key : SlotKey}
    (enters : guard.enter key = .ok entered) :
    entered.active = key :: guard.active := by
  obtain ⟨_, _, rfl⟩ := Guard.of_enter enters
  rfl

/-- The guard raises an alarm only at a slot that is on its stack. -/
theorem Guard.mem_of_alarm {guard : Guard} {key : SlotKey} {fault : Fault}
    (fails : guard.enter key = .error fault) (alarm : fault.IsAlarm) :
    key ∈ guard.active := by
  unfold Guard.enter at fails
  split at fails
  · rename_i isActive
    exact List.contains_iff_mem.mp isActive
  · split at fails <;> cases fails
    exact absurd alarm id

namespace Editor

variable {σ : Type} {workspace : WorkspaceId} {engine : EngineId}
  {editor before after : Editor σ} {wiring : WiringId} {binding : Binding}

/-- Recomputing the first binding calls for the second one to be recomputed. -/
def Prompts (workspace : WorkspaceId) (editor : Editor σ)
    (caller called : WiringId × SlotKey) : Prop :=
  ∃ binding key, editor.OpenBinding caller.1 caller.2 binding ∧
    editor.echoKey? binding.target = some key ∧
    .recompute called.1 called.2 ∈
      (editor.workspace workspace).registry.listenersAt key

/-- The second binding is of the same open wiring and reads the field that the
first one writes. -/
def FollowsField (editor : Editor σ) (first second : WiringId × SlotKey) :
    Prop :=
  (editor.wiring first.1).disposed = false ∧ first.1 = second.1 ∧
    editor.FieldEdge first.1 second.2 first.2

section Circles

variable {settings : Settings} {pending : Option WiringId}

theorem acyclic_followsField (home : AtHome workspace engine pending editor)
    (rejects : (editor.engine engine).config.rejectCycles = true) :
    Acyclic editor.FollowsField := by
  have paths : ∀ first last, TransGen editor.FollowsField first last →
      (editor.wiring first.1).disposed = false ∧ first.1 = last.1 ∧
        TransGen (editor.FieldEdge first.1) last.2 first.2 := by
    intro first last path
    induction path with
    | single next => exact ⟨next.1, next.2.1, Relation.TransGen.single next.2.2⟩
    | tail _ next induction =>
        obtain ⟨isOpen, sameSoFar, edges⟩ := induction
        obtain ⟨_, same, edge⟩ := next
        exact ⟨isOpen, sameSoFar.trans same,
          Relation.TransGen.head (sameSoFar ▸ edge) edges⟩
  intro call circle
  obtain ⟨isOpen, _, edges⟩ := paths call call circle
  exact home.acyclic rejects call.1 isOpen call.2 edges

variable (sound : Sound settings workspace engine pending editor)
  (home : AtHome workspace engine pending editor)

include sound home

/-- The key of a binding names the block of its wiring. -/
theorem Sound.blockId_of_openBinding {key : SlotKey}
    (isOpen : editor.OpenBinding wiring key binding) :
    editor.slotKey binding.target = .ok key ∧
      key.blockId = (editor.block (editor.wiring wiring).block).id := by
  have fits := sound.wired.target wiring key binding isOpen
  cases hTarget : binding.target with
  | connection connection =>
      rw [hTarget] at fits
      obtain ⟨known, sameBlock, sameKey⟩ := fits
      subst sameKey
      exact ⟨rfl, sameBlock ▸ sound.layout.homeKey connection known⟩
  | field field =>
      obtain ⟨attached, hasKey⟩ :=
        home.target wiring key binding isOpen field hTarget
      refine ⟨hasKey, ?_⟩
      rw [fieldKey_of_attached attached] at hasKey
      cases hasKey
      rfl

/-- Two bindings of one key are of one wiring. -/
theorem Sound.wiring_eq_of_key (ids : editor.UniqueIds) {wiring' : WiringId}
    {key : SlotKey} {binding' : Binding}
    (isOpen : editor.OpenBinding wiring key binding)
    (isOpen' : editor.OpenBinding wiring' key binding') : wiring = wiring' := by
  refine sound.sameWiring isOpen isOpen' (ids _ _ ?_ ?_ ?_)
  · exact sound.wired.block wiring (contains_of_openBinding isOpen)
  · exact sound.wired.block wiring' (contains_of_openBinding isOpen')
  · rw [← (sound.blockId_of_openBinding home isOpen).2,
      ← (sound.blockId_of_openBinding home isOpen').2]

/-- Only inputs and fields are listened to. -/
theorem Sound.listened {key target : SlotKey}
    (listed : .recompute wiring target ∈
      (editor.workspace workspace).registry.listenersAt key) :
    ∃ binding, editor.OpenBinding wiring target binding ∧
      ((∃ input, editor.connections.contains input ∧
          (editor.connection input).block = (editor.wiring wiring).block ∧
          (editor.connection input).key.kind = .input ∧
          (editor.connection input).key = key) ∨
        ∃ link ∈ binding.links, ∃ field, link.source = .field field ∧
          (editor.field field).block = some (editor.wiring wiring).block ∧
          editor.fieldKey field = .ok key) := by
  obtain ⟨binding, isOpen⟩ := sound.heard.bound key wiring target listed
  obtain ⟨link, member, hasKey⟩ :=
    home.answers key wiring target listed binding isOpen
  refine ⟨binding, isOpen, ?_⟩
  cases hSource : link.source with
  | connection input =>
      have fits := sound.wired.source wiring target binding isOpen link member
      rw [hSource] at fits hasKey
      exact Or.inl ⟨input, fits.1, fits.2.1, fits.2.2,
        slotKey_connection hasKey⟩
  | field field =>
      rw [hSource] at hasKey
      exact Or.inr ⟨link, member, field, hSource,
        home.source wiring target binding isOpen link member field
          hSource, hasKey⟩

/-- A call goes on to a block that this one is plugged into, or stays and
follows a field. -/
theorem Sound.prompts_cases (ids : editor.UniqueIds)
    {caller called : WiringId × SlotKey}
    (prompts : Prompts workspace editor caller called) :
    editor.Plugged (editor.wiring caller.1).block
      (editor.wiring called.1).block ∨
      (editor.wiring caller.1).block = (editor.wiring called.1).block ∧
        editor.FollowsField caller called := by
  obtain ⟨binding, key, isOpen, echoes, listed⟩ := prompts
  obtain ⟨other, isOther, heard⟩ := sound.listened home listed
  cases hTarget : binding.target with
  | connection output =>
      have fits := sound.wired.target caller.1 caller.2 binding isOpen
      rw [hTarget] at fits echoes
      obtain ⟨far, linked, sameKey⟩ := Option.map_eq_some_iff.mp echoes
      have knownFar := contains_of_target (sound.linking.back output far linked)
      rcases heard with ⟨input, known, sameBlock, isInput, hasKey⟩
        | ⟨_, _, field, _, _, hasKey⟩
      · have sameHome := ids.sameBlock sound.layout known knownFar
          (hasKey.trans sameKey.symm)
        refine Or.inl ⟨output, far, linked, ?_, fits.2.1,
          sameHome.symm.trans sameBlock⟩
        have differs := (sound.linking.faces output far linked).2
        rw [hasKey, ← sameKey] at isInput
        simpa [Connection.isOutput, isInput] using differs
      · have isField :=
          (slotKey_field (hasKey : editor.slotKey (.field field) = .ok key)).1
        rw [← sameKey] at isField
        exact absurd isField (sound.layout.kind far knownFar)
  | field field =>
      obtain ⟨attached, ownKey⟩ :=
        home.target caller.1 caller.2 binding isOpen field hTarget
      rw [hTarget] at echoes
      have sameKey : caller.2 = key := by
        simpa [echoKey?, ownKey, Except.toOption] using echoes
      subst sameKey
      rcases heard with ⟨input, known, _, _, hasKey⟩ |
        ⟨link, member, source, isField, attached', hasKey⟩
      · have isField :=
          (slotKey_field (ownKey : editor.slotKey (.field field) =
            .ok caller.2)).1
        rw [← hasKey] at isField
        exact absurd isField (sound.layout.kind input known)
      · have sameBlock :
            (editor.wiring caller.1).block =
              (editor.wiring called.1).block := by
          refine ids _ _ (sound.layout.fieldHome field _ attached)
            (sound.layout.fieldHome source _ attached') ?_
          rw [fieldKey_of_attached attached] at ownKey
          rw [fieldKey_of_attached attached', ← ownKey] at hasKey
          exact (congrArg SlotKey.blockId (Except.ok.inj hasKey)).symm
        refine Or.inr ⟨sameBlock, isOpen.1, sound.sameWiring isOpen isOther
          sameBlock, ?_⟩
        rw [sound.sameWiring isOpen isOther sameBlock]
        exact ⟨other, isOther.2, link, member, source, isField, hasKey⟩

theorem Sound.acyclic_prompts (ids : editor.UniqueIds)
    (rejects : (editor.engine engine).config.rejectCycles = true)
    (plugs : Acyclic editor.Plugged) :
    Acyclic (Prompts workspace editor) :=
  Acyclic.of_levels (fun call => (editor.wiring call.1).block) plugs
    (acyclic_followsField home rejects) fun _ _ => sound.prompts_cases home ids

end Circles

theorem Steady.echoKey? (steady : Steady before after) (slot : Slot) :
    after.echoKey? slot = before.echoKey? slot := by
  cases slot with
  | connection connection =>
      simp only [Editor.echoKey?, steady.connectionTarget, steady.connectionKey]
  | field field => simp only [Editor.echoKey?, steady.fieldKey]

theorem Steady.prompts (steady : Steady before after)
    {caller called : WiringId × SlotKey} :
    Prompts workspace after caller called ↔
      Prompts workspace before caller called := by
  simp only [Prompts, steady.openBinding, steady.echoKey?, steady.registry]

/-- Recomputations are told apart by their keys and call each other in no
circle. -/
structure Layered (workspace : WorkspaceId) (engine : EngineId)
    (editor : Editor σ) : Prop extends Grounded workspace editor where
  engineOf : ∀ wiring key binding, editor.OpenBinding wiring key binding →
    (editor.wiring wiring).engine = engine
  ownKey : ∀ wiring key binding, editor.OpenBinding wiring key binding →
    editor.slotKey binding.target = .ok key
  sameWiring : ∀ wiring wiring' key binding binding',
    editor.OpenBinding wiring key binding →
    editor.OpenBinding wiring' key binding' → wiring = wiring'
  listeners : ∀ key listener,
    listener ∈ (editor.workspace workspace).registry.listenersAt key →
      ∃ wiring target binding, listener = .recompute wiring target ∧
        editor.OpenBinding wiring target binding
  acyclic : Acyclic (Prompts workspace editor)

section Layered

variable {settings : Settings} {pending : Option WiringId}

theorem Sound.layered (sound : Sound settings workspace engine pending editor)
    (home : AtHome workspace engine pending editor) (ids : editor.UniqueIds)
    (rejects : settings.rejectCycles = true) (plugs : Acyclic editor.Plugged) :
    Layered workspace engine editor where
  toGrounded := sound.grounded
  engineOf := fun wiring _ _ isOpen => sound.wired.engineOf wiring
    (contains_of_openBinding isOpen)
  ownKey := fun _ _ _ isOpen => (sound.blockId_of_openBinding home isOpen).1
  sameWiring := fun _ _ _ _ _ isOpen isOpen' => sound.wiring_eq_of_key home ids
    isOpen isOpen'
  listeners := by
    intro key listener listed
    cases listener with
    | callback callback => exact absurd listed (home.recomputes key callback)
    | recompute wiring target =>
        obtain ⟨binding, isOpen⟩ := sound.heard.bound key wiring target listed
        exact ⟨wiring, target, binding, rfl, isOpen⟩
  acyclic := by
    refine sound.acyclic_prompts home ids ?_ plugs
    rw [sound.desk.config]
    exact rejects

theorem Layered.steady (layered : Layered workspace engine before)
    (steady : Steady before after) : Layered workspace engine after where
  toGrounded := layered.toGrounded.steady steady
  engineOf := by
    intro wiring key binding isOpen
    rw [steady.wiring]
    exact layered.engineOf wiring key binding (steady.openBinding.mp isOpen)
  ownKey := by
    intro wiring key binding isOpen
    rw [steady.slotKey]
    exact layered.ownKey wiring key binding (steady.openBinding.mp isOpen)
  sameWiring := fun wiring wiring' key binding binding' isOpen isOpen' =>
    layered.sameWiring wiring wiring' key binding binding'
      (steady.openBinding.mp isOpen) (steady.openBinding.mp isOpen')
  listeners := by
    intro key listener listed
    rw [steady.registry] at listed
    obtain ⟨wiring, target, binding, isListener, isOpen⟩ :=
      layered.listeners key listener listed
    exact ⟨wiring, target, binding, isListener, steady.openBinding.mpr isOpen⟩
  acyclic := layered.acyclic.mono fun _ _ => steady.prompts.mp

theorem Layered.engines (layered : Layered workspace engine editor)
    (engines : OrderedMap EngineId Engine) : Layered workspace engine
      { editor with engines } where
  toGrounded := layered.toGrounded.engines engines
  engineOf := layered.engineOf
  ownKey := layered.ownKey
  sameWiring := layered.sameWiring
  listeners := layered.listeners
  acyclic := layered.acyclic

end Layered

/-- Every slot on the stack of the guard is being recomputed, and that has led
to this call. -/
def LedTo (workspace : WorkspaceId) (engine : EngineId) (editor : Editor σ)
    (call : WiringId × SlotKey) : Prop :=
  ∀ key ∈ (editor.engine engine).guard.active, ∃ wiring binding,
    editor.OpenBinding wiring key binding ∧
      TransGen (Prompts workspace editor) (wiring, key) call

theorem Steady.ledTo (steady : Steady before after) {call : WiringId × SlotKey}
    (led : LedTo workspace engine before call) :
    LedTo workspace engine after call := by
  intro key isActive
  rw [steady.active] at isActive
  obtain ⟨wiring, binding, isOpen, path⟩ := led key isActive
  exact ⟨wiring, binding, steady.openBinding.mpr isOpen,
    Relation.TransGen.mono (fun _ _ => steady.prompts.mpr) _ _ path⟩

theorem ledTo_of_idle (idle : (editor.engine engine).guard.active = [])
    (call : WiringId × SlotKey) : LedTo workspace engine editor call := by
  intro key isActive
  rw [idle] at isActive
  cases isActive

/-- Calls that do not go round in a circle raise no alarm. -/
def Unalarmed (workspace : WorkspaceId) (engine : EngineId)
    (react : Reaction σ) : Prop :=
  ∀ wiring target binding editor, Layered workspace engine editor →
    editor.OpenBinding wiring target binding →
      LedTo workspace engine editor (wiring, target) →
      Leads (react (.recompute wiring target)) editor (fun _ _ => True) NotAlarm

section Cascade

variable {react : Reaction σ}

section Calls

variable (unalarmed : Unalarmed workspace engine react)
  (ripples : RipplesOnly react) (layered : Layered workspace engine editor)

include unalarmed ripples layered

theorem notify_unalarmed (key : SlotKey) (led : ∀ wiring target,
      .recompute wiring target ∈
        (editor.workspace workspace).registry.listenersAt key →
        LedTo workspace engine editor (wiring, target)) :
    Leads (notify react workspace key) editor (fun _ _ => True) NotAlarm := by
  simp only [notify, leads_bind, leads_look, leads_pure]
  refine Leads.imp (leads_forM (fun _ current => Steady editor current) _ ?_
    (Steady.refl editor)) (fun _ _ _ => True.intro)
  intro listener _ current listed steady
  obtain ⟨wiring, target, binding, rfl, isOpen⟩ :=
    layered.listeners key listener listed
  have callable := steady.callable (layered.responsive.callable listed)
  refine Leads.mono
    ((unalarmed wiring target binding current (layered.steady steady)
    (steady.openBinding.mpr isOpen)
    (steady.ledTo (led wiring target listed))).and
      (ripples _ current (steady.responsive layered.responsive) callable)) ?_
    (fun _ _ both => both.1)
  rintro _ after ⟨_, echoed⟩
  exact steady.trans echoed.toSteady

theorem setTypes_unalarmed {slot : Slot} (known : editor.Known slot)
    (check : Check) (led : ∀ key, editor.echoKey? slot = some key →
      ∀ wiring target,
      .recompute wiring target ∈
        (editor.workspace workspace).registry.listenersAt key →
        LedTo workspace engine editor (wiring, target)) :
    Leads (setTypes react slot check) editor (fun _ _ => True) NotAlarm := by
  refine leads_setTypes layered.toGrounded known (fun _ _ _ => True.intro) ?_
  intro key after written
  have steady := written.toSteady
  refine Leads.imp (notify_unalarmed unalarmed ripples
    (layered.steady steady) key ?_) (fun _ _ _ _ => True.intro)
  intro wiring target listed
  rw [steady.registry] at listed
  exact steady.ledTo (led key (written.heard key rfl) wiring target listed)

/-- The guard lets a recomputation in, as its key is not on the stack.  What is
called from inside has one more key before it. -/
theorem recompute_unalarmed {target : SlotKey}
    (isOpen : editor.OpenBinding wiring target binding)
    (led : LedTo workspace engine editor (wiring, target)) :
    Leads (recompute react wiring target) editor (fun _ _ => True)
      NotAlarm := by
  have ownKey := layered.ownKey wiring target binding isOpen
  have known := layered.responsive.targetKnown wiring target binding isOpen
  simp only [recompute, leads_bind, leads_look, isOpen.2, recomputeBinding,
    leads_lookup, leads_guarded, leads_modify, layered.engineOf wiring target
      binding isOpen, ownKey]
  refine ⟨?_, fun _ impossible => by cases impossible⟩
  rintro _ ⟨rfl⟩
  refine ⟨?_, ?_⟩
  · intro entered enters
    refine ⟨?_, ?_⟩
    · intro check _
      have layeredInside :
          Layered workspace engine ((editor.setGuard engine entered).updateStats
          engine (·.countRecompute entered.depth)) := layered.engines _
      refine Leads.imp (setTypes_unalarmed unalarmed ripples layeredInside
        known check ?_) ?_
      · intro key echoes other otherKey listed
        have prompts : Prompts workspace editor
            (wiring, target) (other, otherKey) :=
          ⟨binding, key, isOpen, echoes, listed⟩
        -- Inside, the stack holds this key on top of those that led here.
        intro active isActive
        have isEntered : active ∈ entered.active := by
          simpa [updateStats, engine_updateEngine] using isActive
        rw [Guard.active_of_enter enters] at isEntered
        rcases List.mem_cons.mp isEntered with rfl | earlier
        · exact ⟨wiring, binding, isOpen, Relation.TransGen.single prompts⟩
        · obtain ⟨first, firstBinding, firstOpen, path⟩ := led active earlier
          exact ⟨first, firstBinding, firstOpen, path.tail prompts⟩
      · intro changed after _
        split <;> trivial
    · intro fault fails
      rw [computed_error fails]
      exact id
  · intro fault fails alarm
    -- A slot that is found again has led to itself.
    obtain ⟨first, firstBinding, firstOpen, path⟩ :=
      led target (Guard.mem_of_alarm fails alarm)
    have same := layered.sameWiring first wiring target firstBinding binding
      firstOpen isOpen
    subst same
    exact layered.acyclic _ path

end Calls

/-- Cascades raise no alarm, however deep. -/
theorem unalarmed_reaction {outside : Callbacks σ} (keepsOut : KeepsOut outside)
    (fuel : Nat) : Unalarmed workspace engine (reaction outside fuel) := by
  induction fuel with
  | zero =>
      intro wiring target binding editor _ _ _
      exact id
  | succ fuel induction =>
      intro wiring target binding editor layered isOpen led
      simp only [reaction, leads_discard]
      exact recompute_unalarmed induction (ripplesOnly_reaction keepsOut fuel)
        layered isOpen led

theorem recomputeEach_unalarmed (unalarmed : Unalarmed workspace engine react)
    (ripples : RipplesOnly react) (targets : List SlotKey) :
    ∀ {editor : Editor σ}, Layered workspace engine editor →
      (editor.engine engine).guard.active = [] →
        (editor.wiring wiring).disposed = false →
        Leads (recomputeEach react wiring targets) editor (fun _ _ => True)
          NotAlarm := by
  intro editor layered idle isOpen
  refine Leads.imp (leads_recomputeEach (fun _ => Steady editor) ?_ targets
    (Steady.refl editor)) (fun _ _ _ => True.intro)
  intro target _ current steady
  have layeredHere := layered.steady steady
  have isOpenHere : (current.wiring wiring).disposed = false := by
    rwa [steady.wiring]
  have quiet : Leads (recompute react wiring target) current (fun _ _ => True)
      NotAlarm := by
    cases found : (current.wiring wiring).bindings.get? target with
    | none => simp [recompute, found]
    | some binding =>
        exact recompute_unalarmed unalarmed ripples layeredHere
          ⟨isOpenHere, found⟩
          (ledTo_of_idle ((steady.active engine).trans idle) _)
  exact Leads.mono (quiet.and (recompute_echoed ripples layeredHere.responsive
    target isOpenHere))
    (fun _ _ both => steady.trans both.2.toSteady) (fun _ _ both => both.1)

end Cascade

end Editor

end TypeFlow
