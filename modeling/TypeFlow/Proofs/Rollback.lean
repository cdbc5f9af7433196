import TypeFlow.Proofs.Host.Reached

/-!
# Failed wirings leave nothing behind

While a block is being wired, targets are written, listeners are added and
cascades run through other blocks.  If any of this fails, the listeners of the
new wiring are removed again and all its targets get their lists back.
-/

namespace TypeFlow.Editor

variable {σ : Type} {slot : Slot}

/-- How far the wiring of a block has come: what the new wiring did since it
was begun, apart from steady changes. -/
structure Underway (slots : Slot → Prop) (engine : EngineId) (wiring : WiringId)
    (start current : Editor σ) : Prop where
  targets : ∀ id, (current.connection id).target = (start.connection id).target
  fieldKind : ∀ id, (current.field id).kind.bare = (start.field id).kind.bare
  recorded : (current.engine engine).wirings = (start.engine engine).wirings
  stack : (current.engine engine).guard.stack =
    (start.engine engine).guard.stack
  listeners : ∀ id key,
    ((current.workspace id).registry.listenersAt key).filter (fun listener =>
        !listener.isOf wiring) =
      ((start.workspace id).registry.listenersAt key).filter fun listener =>
        !listener.isOf wiring
  active : ∀ id ∈ (current.wiring wiring).subscriptions,
    current.isActive id = true
  counted : (current.engine engine).stats.liveSubscriptions =
    (start.engine engine).stats.liveSubscriptions +
      (current.wiring wiring).subscriptions.length
  openTargets : ∀ slot, current.OpenTarget slot → slots slot ∨
    start.OpenTarget slot
  checks : ∀ slot, current.slotCheck slot ≠ start.slotCheck slot →
    slots slot ∨ start.OpenTarget slot

namespace Underway

variable {slots : Slot → Prop} {workspace : WorkspaceId} {engine : EngineId}
  {wiring : WiringId} {start before after : Editor σ}

theorem refl (fresh : (start.wiring wiring).subscriptions = []) :
    Underway slots engine wiring start start where
  targets := fun _ => rfl
  fieldKind := fun _ => rfl
  recorded := rfl
  stack := rfl
  listeners := fun _ _ => rfl
  active := by
    rw [fresh]
    intro id member
    cases member
  counted := by
    rw [fresh]
    simp
  openTargets := fun _ => Or.inr
  checks := fun _ differs => absurd rfl differs

theorem isActive_congr (registry : ∀ id, (after.workspace id).registry =
    (before.workspace id).registry) (id : SubscriptionId) :
    after.isActive id = before.isActive id := by
  unfold isActive subscription?
  rw [registry]

/-- A cascade, with writes to the targets, goes on as far as it may. -/
theorem ripple (underway : Underway slots engine wiring start before)
    (rippled : Rippled slots before after) :
    Underway slots engine wiring start after where
  targets := fun id => (rippled.toSteady.connectionTarget id).trans
    (underway.targets id)
  fieldKind := fun id => (rippled.toSteady.fieldKind id).trans
    (underway.fieldKind id)
  recorded := (rippled.toSteady.recorded engine).trans underway.recorded
  stack := (rippled.toSteady.stack engine).trans underway.stack
  listeners := by
    intro id key
    rw [rippled.toSteady.registry]
    exact underway.listeners id key
  active := by
    intro id member
    rw [rippled.toSteady.wiring] at member
    rw [isActive_congr rippled.toSteady.registry]
    exact underway.active id member
  counted := by
    rw [rippled.toSteady.liveSubscriptions, rippled.toSteady.wiring]
    exact underway.counted
  openTargets := by
    intro slot isTarget
    exact underway.openTargets slot (rippled.toSteady.openTarget.mp isTarget)
  checks := by
    intro slot differs
    by_cases same : after.slotCheck slot = before.slotCheck slot
    · rw [same] at differs
      exact underway.checks slot differs
    · rcases rippled.written slot same with direct | isTarget
      · exact Or.inl direct
      · exact underway.openTargets slot isTarget

theorem bind (underway : Underway slots engine wiring start before)
    {key : SlotKey} {binding : Binding} (isSlot : slots binding.target) :
    Underway slots engine wiring start (before.addBinding wiring key binding)
      where
  targets := underway.targets
  fieldKind := underway.fieldKind
  recorded := underway.recorded
  stack := underway.stack
  listeners := underway.listeners
  active := by
    intro id member
    rw [addBinding, wiring_updateWiring, if_pos rfl] at member
    exact underway.active id member
  counted := by
    have sameSubscriptions :
        ((before.addBinding wiring key binding).wiring wiring).subscriptions =
        (before.wiring wiring).subscriptions := by
      rw [addBinding, wiring_updateWiring, if_pos rfl]
    rw [sameSubscriptions]
    exact underway.counted
  openTargets := by
    rintro slot ⟨other, otherKey, found, isOpen, rfl⟩
    rcases openBinding_addBinding isOpen with ⟨_, _, rfl⟩ | earlier
    · exact Or.inl isSlot
    · exact underway.openTargets _ ⟨other, otherKey, found, earlier, rfl⟩
  checks := by
    intro slot differs
    refine underway.checks slot ?_
    cases slot <;> exact differs

theorem isActive_addListener (editor : Editor σ) (workspace : WorkspaceId)
    (engine : EngineId) (wiring : WiringId) (key source : SlotKey)
    {id : SubscriptionId} (active : editor.isActive id = true ∨
      id = ⟨workspace, (editor.workspace workspace).registry.nextNumber⟩) :
    (editor.addListener workspace engine wiring key source).isActive id =
      true := by
  unfold isActive subscription? at *
  rw [workspace_addListener]
  by_cases here : workspace = id.workspace
  · rw [if_pos here]
    dsimp only
    rw [Registry.subscription?_subscribe]
    by_cases isNew : id.number =
      (editor.workspace workspace).registry.nextNumber
    · rw [if_pos isNew]
    · rw [if_neg isNew]
      rcases active with wasActive | isNext
      · rw [← here] at wasActive
        exact wasActive
      · rw [isNext] at isNew
        exact absurd rfl isNew
  · rw [if_neg here]
    rcases active with wasActive | isNext
    · exact wasActive
    · rw [isNext] at here
      exact absurd rfl here

theorem listen (underway : Underway slots engine wiring start before)
    (key source : SlotKey) :
    Underway slots engine wiring start
      (before.addListener workspace engine wiring key source) where
  targets := underway.targets
  fieldKind := underway.fieldKind
  recorded := by
    rw [addListener, updateStats, engine_updateEngine, if_pos rfl]
    exact underway.recorded
  stack := by
    rw [addListener, updateStats, engine_updateEngine, if_pos rfl]
    exact underway.stack
  listeners := by
    intro id otherKey
    rw [listenersAt_addListener, List.filter_append,
      ← underway.listeners id otherKey]
    split
    · simp [Listener.isOf]
    · simp
  active := by
    intro id member
    refine isActive_addListener before workspace engine wiring key source ?_
    rw [wiring_addListener, if_pos rfl] at member
    rcases List.mem_append.mp member with earlier | isNew
    · exact Or.inl (underway.active id earlier)
    · exact Or.inr (List.mem_singleton.mp isNew)
  counted := by
    have one : ((before.addListener workspace engine wiring key source).engine
        engine).stats.liveSubscriptions =
          (before.engine engine).stats.liveSubscriptions + 1 := by
      rw [addListener, updateStats, engine_updateEngine, if_pos rfl]
      simp only [Stats.liveSubscriptions]
      change (before.engine engine).stats.subscriptions + 1 -
        (before.engine engine).stats.released = _
      omega
    rw [one, wiring_addListener, if_pos rfl, underway.counted]
    simp only [List.length_append, List.length_singleton]
    omega
  openTargets := by
    rintro slot ⟨other, otherKey, found, isOpen, rfl⟩
    refine underway.openTargets _ ⟨other, otherKey, found, ?_, rfl⟩
    exact (openBinding_of_bare (bare_wiring_addListener before workspace engine
      wiring other key source)).mp isOpen
  checks := by
    intro slot differs
    refine underway.checks slot ?_
    cases slot <;> exact differs

end Underway

theorem AssemblyCourse.underway {slots : Slot → Prop} {workspace : WorkspaceId}
    {engine : EngineId} {wiring : WiringId} {start current : Editor σ}
    (course : AssemblyCourse workspace engine slots wiring start current)
    (fresh : (start.wiring wiring).subscriptions = []) :
    Underway slots engine wiring start current := by
  induction course with
  | refl => exact Underway.refl fresh
  | tail _ step induction =>
      cases step with
      | ripple rippled => exact induction.ripple rippled
      | bind isSlot => exact induction.bind isSlot
      | @listen key source => exact induction.listen key source

section Undo

variable {editor : Editor σ}

theorem slotCheck_resetTypes_self (check : Check)
    (hasCheck : editor.HasCheck slot) :
    (editor.resetTypes slot check).slotCheck slot = check := by
  cases slot with
  | connection connection => simp [resetTypes, slotCheck, setCheck]
  | field field =>
      obtain ⟨types, isReference⟩ := FieldKind.bare_eq_reference.mp hasCheck
      simp [resetTypes, resetFieldTypes, isReference, slotCheck, Field.check]

theorem hasCheck_resetTypes {other : Slot} (check : Check)
    (hasCheck : editor.HasCheck other) :
    (editor.resetTypes slot check).HasCheck other := by
  cases other with
  | connection connection => trivial
  | field field =>
      cases slot with
      | connection connection => exact hasCheck
      | field written =>
          simp only [resetTypes, resetFieldTypes]
          split
          · simp only [HasCheck, field_updateField]
            split
            · rfl
            · exact hasCheck
          · exact hasCheck

/-- Undoing puts back the lists of the targets and leaves all others. -/
theorem slotCheck_undo {check : Check} (targets : List Target) :
    ∀ {editor : Editor σ}, (∀ target ∈ targets, editor.HasCheck target.slot) →
      (∀ target ∈ targets, target.slot = slot → some target.types = check) →
      (¬ TargetSlot targets slot → editor.slotCheck slot = check) →
        (undo targets editor).slotCheck slot = check := by
  induction targets with
  | nil =>
      intro editor _ _ untouched
      exact untouched (by simp [TargetSlot])
  | cons target rest induction =>
      intro editor hasCheck lists untouched
      refine induction ?_
        (fun other member => lists other (by simp [member])) ?_
      · intro other member
        exact hasCheck_resetTypes _ (hasCheck other (by simp [member]))
      · intro notInRest
        by_cases here : target.slot = slot
        · subst here
          rw [slotCheck_resetTypes_self _ (hasCheck target (by simp))]
          exact lists target (by simp) rfl
        · rw [slotCheck_resetTypes_of_ne _ _ (Ne.symm here)]
          refine untouched ?_
          rintro ⟨other, member, isSlot⟩
          rcases List.mem_cons.mp member with rfl | inRest
          · exact here isSlot
          · exact notInRest ⟨other, inRest, isSlot⟩

end Undo

/-- What a failed wiring of a block leaves as it was.  A variable field of the
block may be the target of an open binding only if it was moved there from a
wired block. -/
structure RolledBack (engine : EngineId) (block : BlockId)
    (before after : Editor σ) : Prop where
  connections : ∀ id, (before.connection id).block = block →
    (after.connection id).check = (before.connection id).check
  fields : ∀ id, id ∈ (before.block block).fields ∨
    (before.field id).block = some block →
    ¬ before.OpenTarget (.field id) →
      (after.field id).check = (before.field id).check
  listeners : ∀ workspace key,
    (after.workspace workspace).registry.listenersAt key =
    (before.workspace workspace).registry.listenersAt key
  recorded : (after.engine engine).wirings = (before.engine engine).wirings
  stack : (after.engine engine).guard.stack = (before.engine engine).guard.stack
  links : ∀ id, (after.connection id).target = (before.connection id).target
  subscriptions : (after.engine engine).stats.liveSubscriptions =
    (before.engine engine).stats.liveSubscriptions

section Failed

variable {settings : Settings} {workspace : WorkspaceId} {engine : EngineId}
  {block : BlockId} {before broken : Editor σ}

theorem openTarget_beginWiring {mode : WiringMode}
    (isTarget : (before.beginWiring engine block mode).OpenTarget slot) :
    before.OpenTarget slot := by
  obtain ⟨wiring, key, binding, isOpen, isSlot⟩ := isTarget
  have same := wiring_beginWiring_of_bound isOpen.2
  unfold OpenBinding at isOpen
  rw [same] at isOpen
  exact ⟨wiring, key, binding, isOpen, isSlot⟩

/-- The wiring of an open binding is live. -/
theorem Sound.live_of_openBinding
    (sound : Sound settings workspace engine none before) {wiring : WiringId}
    {key : SlotKey} {binding : Binding}
    (isOpen : before.OpenBinding wiring key binding) :
    before.liveWiringFor? engine
      (before.wiring wiring).block = some wiring := by
  rw [liveWiringFor?, wiringFor?, sound.wired.onRecord wiring key binding
    isOpen (by simp)]
  simp [isOpen.1]

/-- A block without a live wiring has no connection that a binding writes. -/
theorem Sound.not_openTarget
    (sound : Sound settings workspace engine none before)
    (idle : before.liveWiringFor? engine block = none)
    {connection : ConnectionId}
    (onBlock : (before.connection connection).block = block) :
    ¬ before.OpenTarget (.connection connection) := by
  rintro ⟨wiring, key, binding, isOpen, isTarget⟩
  have fits := sound.wired.target wiring key binding isOpen
  rw [isTarget] at fits
  have live := sound.live_of_openBinding isOpen
  rw [← fits.2.1, onBlock, idle] at live
  cases live

variable (sound : Sound settings workspace engine none before)
  (known : before.blocks.contains block)
  (idle : before.liveWiringFor? engine block = none)
  (course : AssemblyCourse workspace engine
    (TargetSlot (before.targetsFor engine block))
    before.nextWiring (before.beginWiring engine block .live) broken)

include sound known idle course

/-- Checks that no binding of another wiring writes are put back. -/
theorem slotCheck_undo_close (notTarget : ¬ before.OpenTarget slot) :
    (undo (before.targetsFor engine block)
      (broken.closeWiring before.nextWiring)).slotCheck slot = before.slotCheck
      slot := by
  have ready := ready_beginWiring sound known idle .live
  have underway := course.underway (by rw [wiring_beginWiring, if_pos rfl])
  refine slotCheck_undo _ ?_ ?_ ?_
  · intro target member
    have offered := ready.offered target.slot ⟨target, member, rfl⟩
    cases hSlot : target.slot with
    | connection connection => trivial
    | field field =>
        rw [hSlot] at offered
        have sameKind := underway.fieldKind field
        rw [offered.2] at sameKind
        simpa [HasCheck, Editor.field] using sameKind
  · intro target member isSlot
    rw [← isSlot]
    exact (targets_offered member).2.symm
  · intro untouched
    rw [slotCheck_closeWiring]
    by_cases same : broken.slotCheck slot =
        (before.beginWiring engine block .live).slotCheck slot
    · rw [same]
      cases slot <;> rfl
    · rcases underway.checks slot same with isSlot | isTarget
      · exact absurd isSlot untouched
      · exact absurd (openTarget_beginWiring isTarget) notTarget

/-- No listener of the failed wiring stays behind and none gets lost. -/
theorem listenersAt_closeWiring_begun (key : SlotKey) :
    ((broken.closeWiring before.nextWiring).workspace
      workspace).registry.listenersAt key =
      (before.workspace workspace).registry.listenersAt key := by
  have ready := ready_beginWiring sound known idle .live
  have underway := course.underway (by rw [wiring_beginWiring, if_pos rfl])
  have brokenSound := course.sound ready.offered ready.sound
  rw [brokenSound.heard.listenersAt_closeWiring,
    underway.listeners workspace key]
  refine List.filter_eq_self.mpr ?_
  intro listener listed
  cases listener with
  | callback callback => rfl
  | recompute wiring target =>
      -- A wiring that has just been begun is nobody's listener.
      obtain ⟨binding, isOpen⟩ := sound.heard.bound key wiring target listed
      have differs : wiring ≠ before.nextWiring := by
        rintro rfl
        exact sound.tables.wiring_next (contains_of_openBinding isOpen)
      simpa [Listener.isOf] using differs

/-- The subscriptions that were made are counted as released. -/
theorem liveSubscriptions_closeWiring_begun :
    ((broken.closeWiring before.nextWiring).engine
      engine).stats.liveSubscriptions =
      (before.engine engine).stats.liveSubscriptions := by
  have ready := ready_beginWiring sound known idle .live
  have underway := course.underway (by rw [wiring_beginWiring, if_pos rfl])
  have brokenSound := course.sound ready.offered ready.sound
  have sameEngine :=
    brokenSound.wired.engineOf _ (brokenSound.wired.pending _ rfl).1
  have allActive : (broken.wiring before.nextWiring).subscriptions.filter
      broken.isActive =
      (broken.wiring before.nextWiring).subscriptions :=
    List.filter_eq_self.mpr underway.active
  have counted := underway.counted
  rw [engine_closeWiring, sameEngine, if_pos rfl, allActive]
  simp only [Stats.liveSubscriptions] at counted ⊢
  change (broken.engine engine).stats.subscriptions -
    (broken.engine engine).stats.released =
    (before.engine engine).stats.subscriptions -
      (before.engine engine).stats.released +
      (broken.wiring before.nextWiring).subscriptions.length at counted
  omega

theorem rolledBack_undo_close :
    RolledBack engine block before
      (undo (before.targetsFor engine block)
        (broken.closeWiring before.nextWiring)) := by
  have ready := ready_beginWiring sound known idle .live
  have underway := course.underway (by rw [wiring_beginWiring, if_pos rfl])
  have undone := steady_undo_close ready course
  have restored : ∀ {slot}, ¬ before.OpenTarget slot → _ :=
    slotCheck_undo_close sound known idle course
  have closes : Course Liberties.all workspace engine
      (some before.nextWiring, before.beginWiring engine block .live)
      (none, undo (before.targetsFor engine block)
        (broken.closeWiring before.nextWiring)) :=
    course_undo ready course
  have after := closes.sound ready.sound
  constructor
  · intro id onBlock
    exact restored (sound.not_openTarget idle onBlock)
  · intro id _ notTarget
    exact restored notTarget
  · intro other key
    by_cases here : other = workspace
    · rw [here, undone.registry]
      exact listenersAt_closeWiring_begun sound known idle course key
    · rw [after.heard.silent other here, sound.heard.silent other here]
  · rw [undone.recorded, engine_closeWiring]
    refine Eq.trans ?_ underway.recorded
    split
    · rename_i same
      rw [same]
    · rfl
  · rw [after.desk.stack, sound.desk.stack]
  · intro id
    rw [undone.connectionTarget]
    have sameConnection : (broken.closeWiring before.nextWiring).connection id =
        broken.connection id := by simp [Editor.connection]
    rw [sameConnection]
    exact underway.targets id
  · rw [undone.liveSubscriptions]
    exact liveSubscriptions_closeWiring_begun sound known idle course

end Failed

/-- If a block cannot be wired, everything is as it was, whatever the fault and
wherever it arose. -/
theorem wire_failure_rolledBack {outside : Callbacks σ}
    (keepsOut : KeepsOut outside) {settings : Settings}
    {workspace : WorkspaceId} {before after : Editor σ}
    (reached : Reached outside (fun _ _ _ _ => True) settings workspace before)
    {block : BlockId} (known : before.blocks.contains block) {limit : Nat}
    {fault : Fault}
    (fails : wire (reaction outside limit) (before.workspace workspace).engine
      block .live before = (.error fault, after)) :
    RolledBack (before.workspace workspace).engine block before after := by
  have sound := reached.sound keepsOut
  rw [sound.desk.engineOf] at fails ⊢
  have wiring : Leads (wire (reaction outside limit) ⟨0⟩ block .live)
      before _ _ :=
    leads_wire Liberties.all sound known (ripplesOnly_reaction keepsOut limit)
      (fun _ => True.intro) (fun _ => Walk.trivial)
  obtain ⟨_, _, broke⟩ := wiring.raises fails
  obtain ⟨idle, broken, course, rfl⟩ := broke rfl
  exact rolledBack_undo_close sound known idle course

/-- Two linked blocks.  The second one is wired and follows the first, whose
last input takes its types from a dropdown without choices to choose. -/
def faultyPair : List HostOperation :=
  [.newBlock "source" (some "A") [], .setOutput ⟨0⟩ (some ["From:ITEM"]),
    .appendInput ⟨0⟩ "ITEM" none, .appendInput ⟨0⟩ "BAD" (some ["From:D"]),
    .newField "D" (.dropdown [[.text "short"]]) (.text "v"),
    .appendField ⟨0⟩ 1 ⟨0⟩, .newBlock "follower" (some "B") [],
    .appendInput ⟨1⟩ "IN" none,
    .newField "F" (.reference (some ["From:IN-From"])) .nothing,
    .appendField ⟨1⟩ 0 ⟨1⟩, .connect ⟨0⟩ ⟨3⟩, .wire ⟨1⟩ .live]

/-- Wiring the first block of the pair fails after the cascade has reached the
second one. -/
theorem wire_failure_rolledBack_faultyPair :
    ∃ before after : Editor Unit, ∃ fault,
      Reached idle (fun _ _ _ _ => True) {} ⟨0⟩ before ∧
      wire (reaction idle 20) (before.workspace ⟨0⟩).engine ⟨0⟩ .live before =
        (.error fault, after) ∧
      RolledBack (before.workspace ⟨0⟩).engine ⟨0⟩ before after := by
  have reached : Reached idle (fun _ _ _ _ => True) {} ⟨0⟩
      (HostOperation.performAll idle 20 ⟨0⟩ faultyPair freshWorkspace) :=
    reached_freshWorkspace.performAll 20 faultyPair (by decide +kernel)
  generalize isBefore : HostOperation.performAll idle 20 ⟨0⟩ faultyPair
    freshWorkspace = before at reached
  have known : before.blocks.contains ⟨0⟩ := by
    rw [← isBefore]
    decide +kernel
  have raises : (wire (reaction idle 20) (before.workspace ⟨0⟩).engine
    ⟨0⟩ .live before).1 =
      .error .choiceTooShort := by
    rw [← isBefore]
    decide +kernel
  exact ⟨before, _, _, reached, eq_of_outcome raises,
    wire_failure_rolledBack keepsOut_idle reached known (eq_of_outcome raises)⟩

/-- A variable field that was moved from a wired block is still written by the
wiring of that block, and is not put back. -/
theorem wire_failure_changes_moved_field :
    ∃ before after : Editor Unit, ∃ fault field,
      Reached idle (fun _ _ _ _ => True) {} ⟨0⟩ before ∧
      wire (reaction idle 20) (before.workspace ⟨0⟩).engine ⟨0⟩ .live before =
        (.error fault, after) ∧
      field ∈ (before.block ⟨0⟩).fields ∧
      (before.field field).block = some ⟨0⟩ ∧
      (after.field field).check ≠ (before.field field).check := by
  refine ⟨HostOperation.performAll idle 20 ⟨0⟩
    (faultyPair ++ [.appendField ⟨0⟩ 0 ⟨1⟩])
    freshWorkspace, _, .choiceTooShort, ⟨1⟩, ?_, eq_of_outcome ?_, ?_, ?_, ?_⟩
  · exact reached_freshWorkspace.performAll 20 _ (by decide +kernel)
  all_goals decide +kernel

end TypeFlow.Editor
