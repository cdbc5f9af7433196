import TypeFlow.Proofs.Coherence
import TypeFlow.Proofs.Prompting

/-!
# No false alarms

As long as blocks are plugged together in no circle, no operation finds a slot
again that is being recomputed.  Inputs may well name each other as sources:
nobody listens to the output at the far end, so writing an input calls no
listener.
-/

namespace TypeFlow.Editor

open HostOperation (performAll)

variable {σ : Type} {editor : Editor σ} {this : ConnectionId}
  {settings : Settings} {workspace : WorkspaceId} {engine : EngineId}
  {react : Reaction σ}

/-- Blocks differ in their ids and are plugged together in no circle. -/
structure UniqueAcyclic (editor : Editor σ) : Prop where
  ids : editor.UniqueIds
  plugs : Acyclic editor.Plugged

section UniqueAcyclic

variable {before after : Editor σ}

theorem Steady.plugged (steady : Steady before after)
    {source target : BlockId} :
    after.Plugged source target ↔ before.Plugged source target := by
  simp only [Plugged, Connection.isOutput, steady.connectionTarget,
    steady.connectionKey, steady.connectionBlock]

theorem UniqueAcyclic.steady (acyclic : before.UniqueAcyclic)
    (steady : Steady before after) :
    after.UniqueAcyclic where
  ids := by
    intro left right knownLeft knownRight sameId
    rw [steady.blockId, steady.blockId] at sameId
    exact acyclic.ids left right ((steady.knownBlock left).mp knownLeft)
      ((steady.knownBlock right).mp knownRight) sameId
  plugs := acyclic.plugs.mono fun _ _ => steady.plugged.mp

theorem UniqueAcyclic.tables (acyclic : before.UniqueAcyclic)
    (blocks : after.blocks = before.blocks)
    (connections : after.connections = before.connections) :
    after.UniqueAcyclic where
  ids := by
    intro left right
    unfold Editor.block
    rw [blocks]
    exact acyclic.ids left right
  plugs := by
    refine acyclic.plugs.mono fun source target => ?_
    unfold Plugged Editor.connection
    rw [connections]
    exact id

theorem UniqueAcyclic.unlink (acyclic : editor.UniqueAcyclic)
    (linking : editor.Linking) {other : ConnectionId}
    (linked : (editor.connection this).target = some other) :
    (editor.unlink this other).UniqueAcyclic where
  ids := acyclic.ids
  plugs := by
    have layout : SameLayout editor (editor.unlink this other) :=
      sameLayout_setTargets (contains_of_target linked)
        (contains_of_target (linking.back this other linked)) none none
    refine acyclic.plugs.mono ?_
    rintro source target ⟨output, input, stillLinked, isOutput,
      onSource, onTarget⟩
    rw [target_unlink] at stillLinked
    split at stillLinked
    · cases stillLinked
    · rw [Connection.isOutput, layout.connectionKey] at isOutput
      rw [layout.connectionBlock] at onSource onTarget
      exact ⟨output, input, stillLinked, isOutput, onSource, onTarget⟩

end UniqueAcyclic

/-- A sound state between two operations, without a circle of blocks. -/
structure SoundAcyclic (settings : Settings) (workspace : WorkspaceId)
    (engine : EngineId) (editor : Editor σ) : Prop where
  sound : Sound settings workspace engine none editor
  home : AtHome workspace engine none editor
  acyclic : editor.UniqueAcyclic

section SoundAcyclic

variable {before after : Editor σ}

theorem SoundAcyclic.layered
    (held : SoundAcyclic settings workspace engine editor)
    (rejects : settings.rejectCycles = true) :
    Layered workspace engine editor :=
  held.sound.layered held.home held.acyclic.ids rejects held.acyclic.plugs

theorem SoundAcyclic.steady
    (held : SoundAcyclic settings workspace engine before)
    (steady : Steady before after) :
    SoundAcyclic settings workspace engine after where
  sound := held.sound.steady steady
  home := held.home.steady held.sound steady
  acyclic := held.acyclic.steady steady

theorem SoundAcyclic.course
    (held : SoundAcyclic settings workspace engine before)
    (course : Course Liberties.plain workspace engine
      (none, before) (none, after)) (acyclic : after.UniqueAcyclic) :
      SoundAcyclic settings workspace engine after where
  sound := course.sound held.sound
  home := course.atHome id id held.sound held.home
  acyclic := acyclic

theorem SoundAcyclic.releaseWiring
    (held : SoundAcyclic settings workspace engine editor) (block : BlockId) :
    Leads (releaseWiring engine block) editor
      (fun _ => SoundAcyclic settings workspace engine) NotAlarm := by
  have released : Leads (Editor.releaseWiring engine block) editor
      (fun _ after => after.UniqueAcyclic) NotAlarm := by
    refine leads_releaseWiring (fun _ => held.acyclic) fun wiring _ => ?_
    refine leads_disposeWiring wiring _ (fun _ => held.acyclic.tables rfl rfl)
      ?_
    intro _ _
    exact held.acyclic.tables (blocks_closeWiring _ wiring)
      (connections_closeWiring _ wiring)
  exact Leads.mono ((conducts_releaseWiring held.sound block).and released)
    (fun _ _ both => held.course both.1 both.2) (fun _ _ both => both.2)

end SoundAcyclic

section Reacting

variable (held : SoundAcyclic settings workspace engine editor)
  (rejects : settings.rejectCycles = true)
  (unalarmed : Unalarmed workspace engine react) (ripples : RipplesOnly react)

include held rejects unalarmed ripples

/-- The listeners of a key are called while nothing is being recomputed. -/
theorem SoundAcyclic.notify (key : SlotKey) :
    Leads (notify react workspace key) editor
      (fun _ => SoundAcyclic settings workspace engine) NotAlarm := by
  have layered := held.layered rejects
  refine Leads.mono ((notify_unalarmed unalarmed ripples layered key
    fun _ _ _ => ledTo_of_idle held.sound.desk.active _).and
      (notify_echoed ripples layered.responsive workspace key)) ?_
      (fun _ _ both => both.1)
  rintro _ after ⟨_, echoed⟩
  exact held.steady echoed.toSteady

theorem SoundAcyclic.notifyEnds (known : editor.connections.contains this)
    (other : ConnectionId) :
    Leads (notifyEnds react this other) editor
      (fun _ => SoundAcyclic settings workspace engine) NotAlarm := by
  have inWorkspace : editor.connectionWorkspace this = workspace :=
    held.sound.layout.workspaceOf _ (held.sound.layout.home this known)
  simp only [Editor.notifyEnds, leads_bind, leads_look, leads_discard,
    inWorkspace]
  refine Leads.imp (held.notify rejects unalarmed ripples _) ?_
  intro _ middle heldMiddle
  exact heldMiddle.notify rejects unalarmed ripples _

theorem SoundAcyclic.disconnect (this : ConnectionId) :
    Leads (disconnect react this) editor
      (fun _ => SoundAcyclic settings workspace engine) NotAlarm := by
  refine leads_disconnect this (fun _ => held) ?_
  intro other linked
  have unlinks : Change Liberties.plain workspace engine none editor none
    (editor.unlink this other) := Change.unlinked linked
  have known := (unlinks.outgrows held.sound.tables).knownConnection this
    (contains_of_target linked)
  exact (held.course (Course.single unlinks)
    (held.acyclic.unlink held.sound.linking linked)).notifyEnds
      rejects unalarmed ripples known other

/-- If linking two connections makes a circle of blocks, the circle is still
there in the end. -/
theorem SoundAcyclic.connect {other : ConnectionId}
    (knownThis : editor.connections.contains this)
    (knownOther : editor.connections.contains other) :
    Leads (connect react this other) editor (fun _ _ => True)
      (fun fault after => Acyclic after.Plugged → ¬ fault.IsAlarm) := by
  refine Sound.leads_connect (SoundAcyclic settings workspace engine) held.sound
    ripples knownThis
    knownOther True.intro
      (fun caches => held.steady (steady_caches editor caches)) ?_ ?_
    (fun _ _ _ _ _ _ => id)
  · intro current connection _ _ heldCurrent
    exact Leads.mono (heldCurrent.disconnect rejects unalarmed
      ripples connection) (fun _ _ => id) (fun _ _ noAlarm _ => noAlarm)
  · intro parted _ heldParted known change
    have course : Course Liberties.plain workspace engine (none, parted)
      (none, parted.link this other) := Course.single change
    -- The listeners leave the links alone, so a circle made here stays.
    by_cases plugs : Acyclic (parted.link this other).Plugged
    · have linked := heldParted.course course ⟨heldParted.acyclic.ids, plugs⟩
      exact Leads.mono (linked.notifyEnds rejects unalarmed ripples known other)
        (fun _ _ _ => True.intro) (fun _ _ noAlarm _ => noAlarm)
    · refine Leads.mono (notifyEnds_echoed ripples
        (course.sound heldParted.sound).responsive this other)
        (fun _ _ _ => True.intro) ?_
      intro fault after echoed plugsAfter
      exact absurd (plugsAfter.mono fun _ _ =>
        echoed.toSteady.plugged.mpr) plugs

theorem SoundAcyclic.setValue {field : FieldId}
    (known : editor.fields.contains field) (value : FieldValue) :
    Leads (setValue react field value) editor
      (fun _ => SoundAcyclic settings workspace engine) NotAlarm := by
  simp only [Editor.setValue, leads_bind, leads_modify]
  have sets : Change Liberties.plain workspace engine none editor none
      (editor.updateField field fun entry => { entry with value }) :=
    Change.valueSet value known
  have heldSet := held.course (Course.single sets) (held.acyclic.tables rfl rfl)
  exact leads_notifyField heldSet.sound.layout (fun _ => heldSet)
    fun key _ => heldSet.notify rejects unalarmed ripples key

theorem SoundAcyclic.setTypes {slot : Slot} (known : editor.Known slot)
    (check : Check) :
    Leads (setTypes react slot check) editor (fun _ _ => True) NotAlarm :=
  setTypes_unalarmed unalarmed ripples (held.layered rejects) known check
    fun _ _ _ _ _ => ledTo_of_idle held.sound.desk.active _

section Wiring

variable {block : BlockId} {mode : WiringMode}
  (known : editor.blocks.contains block)

include known

/-- No step of wiring a block touches blocks or links. -/
theorem SoundAcyclic.walk (isIdle : editor.liveWiringFor? engine block = none) :
    Walk settings workspace engine react
      (TargetSlot (editor.targetsFor engine block))
      editor.nextWiring (editor.beginWiring engine block mode) UniqueAcyclic
      UniqueAcyclic NotAlarm := by
  have begins : Change Liberties.plain workspace engine
    none editor (some editor.nextWiring)
    (editor.beginWiring engine block mode) := Change.begun mode known isIdle
  have home := begins.atHome id id held.sound held.home
  have ready := ready_beginWiring held.sound known isIdle mode
  have layered : ∀ {allowed : SlotKey → SlotKey → Prop} {current : Editor σ},
      Midway workspace engine (TargetSlot (editor.targetsFor engine block))
        editor.nextWiring
        allowed (editor.beginWiring engine block mode) current →
          current.UniqueAcyclic →
      Layered workspace engine current ∧
        (current.engine engine).guard.active = [] := by
    intro allowed current midway acyclic
    have course : Course Liberties.plain workspace engine
      (some editor.nextWiring, editor.beginWiring engine block mode)
      (some editor.nextWiring, current) := midway.course.course ready.offered
    have sound := course.sound ready.sound
    exact ⟨sound.layered (course.atHome id id ready.sound home)
      acyclic.ids rejects acyclic.plugs, sound.desk.active⟩
  constructor
  · exact held.acyclic.tables rfl rfl
  · intro before after acyclic quiet
    exact acyclic.tables quiet.blocks quiet.connections
  · intro allowed before slot check midway isSlot acyclic
    obtain ⟨layeredHere, idle⟩ := layered midway acyclic
    have slotKnown := ready.known midway.course isSlot
    refine Leads.mono ((setTypes_unalarmed unalarmed ripples layeredHere
      slotKnown check fun _ _ _ _ _ => ledTo_of_idle idle _).and
        (setTypes_rippled ripples layeredHere.responsive check slotKnown)) ?_
      (fun _ _ both => both.1)
    rintro _ after ⟨_, rippled⟩
    exact acyclic.steady rippled.toSteady
  · intro _ allowed before midway acyclic
    obtain ⟨layeredHere, idle⟩ := layered midway acyclic
    have undisposed := midway.course.kept.disposed.trans ready.undisposed
    simp only [recomputeAll, leads_bind, leads_look]
    refine Leads.mono
      ((recomputeEach_unalarmed unalarmed ripples _ layeredHere idle
      undisposed).and (recomputeEach_echoed ripples _ layeredHere.responsive
        undisposed)) ?_
      (fun _ _ both => both.1)
    rintro _ after ⟨_, echoed⟩
    exact acyclic.steady echoed.toSteady
  · exact fun _ _ acyclic => acyclic
  · exact fun _ _ acyclic => acyclic
  · intro before after acyclic quiet
    exact acyclic.tables (quiet editor.nextWiring).blocks
      (quiet editor.nextWiring).connections
  · exact fun _ _ _ => id
  · exact fun _ _ _ _ => id
  · exact fun _ _ _ noAlarm _ _ _ => noAlarm

theorem SoundAcyclic.wire (mode : WiringMode) :
    Leads (wire react engine block mode) editor
      (fun _ => SoundAcyclic settings workspace engine) NotAlarm :=
  Leads.mono (leads_wire Liberties.plain held.sound known ripples
    (fun _ => held.acyclic) (held.walk rejects unalarmed ripples known))
    (fun _ _ both => held.course both.1.course both.2)
    (fun _ _ both => both.2.1)

/-- Setting up a block wires it. -/
theorem SoundAcyclic.initBlock :
    Leads (initBlock react block) editor
      (fun _ => SoundAcyclic settings workspace engine) NotAlarm := by
  refine held.sound.leads_initBlock ripples known held ?_ (fun _ _ _ => id) ?_
  · intro _ _ current mode outgrows _ heldCurrent
    exact heldCurrent.wire rejects unalarmed ripples
      (outgrows.knownBlock block known) mode
  · intro current knownCurrent heldCurrent
    exact heldCurrent.steady (steady_flags current knownCurrent fun _ => rfl)

/-- Taking a block apart only unplugs. -/
theorem SoundAcyclic.disposeBlock (limit : Nat) :
    Leads (disposeBlock react limit block) editor
      (fun _ => SoundAcyclic settings workspace engine) NotAlarm := by
  refine held.sound.leads_disposeBlock ripples known limit (fun _ => held)
    (held.releaseWiring block) ?_ ?_
  · intro current connection _ _ heldCurrent _
    exact heldCurrent.disconnect rejects unalarmed ripples connection
  · intro current knownCurrent heldCurrent
    exact heldCurrent.steady (steady_retireBlock knownCurrent)

end Wiring

end Reacting

section Perform

theorem createVariable_unalarmed (name : String) (request : TypeRequest)
    (id : Option String) :
    Leads (createVariable workspace name request id) editor (fun _ _ => True)
      NotAlarm := by
  simp only [createVariable, leads_bind, leads_get, leads_set, leads_discard,
    leads_lookup]
  refine ⟨fun _ _ => True.intro, fun fault fails => ?_⟩
  rcases VariableDesk.create_error fails with ⟨_, _, rfl⟩ | ⟨_, rfl⟩ <;>
    exact fun alarm => alarm

/-- An operation raises no alarm unless it leaves a circle of blocks behind. -/
theorem SoundAcyclic.perform
    (held : SoundAcyclic settings workspace engine editor)
    (rejects : settings.rejectCycles = true)
    (unalarmed : Unalarmed workspace engine react) (ripples : RipplesOnly react)
    (limit : Nat) {operation : HostOperation}
    (refers : operation.Refers workspace editor)
    (within : operation.Within Liberties.plain editor) :
    Leads (operation.perform react limit workspace) editor (fun _ _ => True)
      (fun fault after => Acyclic after.Plugged → ¬ fault.IsAlarm) := by
  have always :
      ∀ {α : Type} {action : EditM σ α} {returned : α → Editor σ → Prop},
      Leads action editor returned NotAlarm →
        Leads action editor (fun _ _ => True)
          (fun fault after => Acyclic after.Plugged → ¬ fault.IsAlarm) :=
    fun leads => Leads.mono leads (fun _ _ _ => True.intro)
      (fun _ _ noAlarm _ => noAlarm)
  cases operation with
  | newBlock type id extensions =>
      exact (leads_discard _).mpr (leads_newBlock (fun _ _ _ alarm => alarm)
        fun _ _ _ => True.intro)
  | removeBlock block => trivial
  | setOutput block check =>
      simp only [HostOperation.perform, leads_discard]
      simp [Editor.setOutput, newConnection]
  | appendInput block name check =>
      exact (leads_discard _).mpr
        (leads_appendInput (fun _ => id) fun _ => True.intro)
  | appendDummyInput block name =>
      exact (leads_discard _).mpr
        (leads_appendDummyInput (fun _ => id) True.intro)
  | newField name kind value =>
      simp only [HostOperation.perform, leads_discard]
      simp [Editor.newField]
  | appendField block place field =>
      exact leads_appendField (fun _ => id) fun _ => True.intro
  | createVariable name request id =>
      exact always (createVariable_unalarmed name request id)
  | initBlock block =>
      exact always (held.initBlock rejects unalarmed ripples refers)
  | wire block mode =>
      simp only [HostOperation.perform, leads_bind, leads_look, leads_discard,
        held.sound.desk.engineOf]
      exact always (held.wire rejects unalarmed ripples refers mode)
  | releaseWiring block =>
      simp only [HostOperation.perform, leads_bind, leads_look, leads_discard,
        held.sound.desk.engineOf]
      exact always (held.releaseWiring block)
  | disposeWiring wiring =>
      exact (leads_discard _).mpr
        (leads_disposeWiring wiring editor (fun _ => True.intro)
          (fun _ _ => True.intro))
  | disposeBlock block =>
      exact always (held.disposeBlock rejects unalarmed ripples refers limit)
  | connect this other =>
      exact held.connect rejects unalarmed ripples refers.1 refers.2
  | disconnect connection =>
      exact always (held.disconnect rejects unalarmed ripples connection)
  | setValue field value =>
      exact always (held.setValue rejects unalarmed ripples refers value)
  | setTypes slot check =>
      exact (leads_discard _).mpr
        (always (held.setTypes rejects unalarmed ripples refers check))
  | listen slot callback => exact absurd within id
  | unlisten subscription => exact absurd within id

/-- Nobody listens to an output. -/
theorem Sound.listenersAt_output
    (sound : Sound settings workspace engine none editor)
    (home : AtHome workspace engine none editor) {key : SlotKey}
    (isOutput : key.kind = .output) :
    (editor.workspace workspace).registry.listenersAt key = [] := by
  refine List.eq_nil_iff_forall_not_mem.mpr ?_
  intro listener listed
  cases listener with
  | callback callback => exact home.recomputes key callback listed
  | recompute wiring target =>
      obtain ⟨_, _, ⟨input, _, _, isInput, rfl⟩ | ⟨_, _, field, _,
          _, hasKey⟩⟩ :=
        sound.listened home listed
      · rw [isOutput] at isInput
        cases isInput
      · have isField :=
          (slotKey_field (hasKey : editor.slotKey (.field field) = .ok key)).1
        rw [isOutput] at isField
        cases isField

/-- Writing an input changes its check, and no listener is called. -/
theorem Sound.setTypes_input
    (sound : Sound settings workspace engine none editor)
    (home : AtHome workspace engine none editor) {input : ConnectionId}
    (known : editor.connections.contains input)
    (isInput : (editor.connection input).key.kind = .input) (react : Reaction σ)
    (check : Check) :
    setTypes react (.connection input) check editor =
      (.ok (!Check.same (editor.connection input).check check.distinct),
        editor.setCheck input check.distinct) := by
  have leads : Leads (setTypes react (.connection input) check) editor
      (fun changed after =>
        changed = !Check.same (editor.connection input).check check.distinct ∧
          after = editor.setCheck input check.distinct)
      (fun _ _ => False) := by
    have steady := steady_setCheck editor check.distinct known
    have inWorkspace : editor.connectionWorkspace input = workspace :=
      sound.layout.workspaceOf _ (sound.layout.home input known)
    simp only [setTypes, setConnectionTypes, leads_bind, leads_look,
      leads_modify]
    split
    · rename_i same
      simp [same]
    · rename_i differs
      split
      · simpa using differs
      · rename_i far linked
        have notOutput := (sound.linking.faces input far linked).2
        have isOutput : (editor.connection far).key.kind = .output := by
          simpa [Connection.isOutput, isInput] using notOutput
        simp only [leads_bind, leads_look, leads_discard, leads_pure, notify,
          steady.connectionWorkspace, inWorkspace, steady.registry,
          steady.connectionKey, sound.listenersAt_output home isOutput]
        simpa using differs
  cases run : setTypes react (.connection input) check editor with
  | mk outcome after =>
      cases outcome with
      | error fault => exact (leads.raises run).elim
      | ok changed =>
          obtain ⟨rfl, rfl⟩ := leads.returns run
          rfl

end Perform

/-- In every state that is reached without moving a field, no operation raises
an alarm if blocks are plugged together in no circle before and after it.  An
input is written without calling anyone. -/
theorem no_false_alarm {settings : Settings} {workspace : WorkspaceId}
    {editor : Editor σ} (rejects : settings.rejectCycles = true)
    (reached : Reached idle
      (fun before operation _ _ => operation.Within Liberties.plain before)
      settings workspace editor) :
    (∀ (operation : HostOperation) (limit : Nat) (outcome : Except Fault Unit)
      (after : Editor σ), operation.Refers workspace editor →
      operation.Within Liberties.plain editor →
      operation.perform (reaction idle limit) limit workspace editor =
        (outcome, after) →
      editor.UniqueIds → Acyclic editor.Plugged → Acyclic after.Plugged →
        ∀ slot stack, outcome ≠ .error (.cyclicPropagation slot stack)) ∧
      ∀ input, editor.connections.contains input →
        (editor.connection input).key.kind = .input → ∀ react check,
          setTypes react (.connection input) check editor =
            (.ok (!Check.same (editor.connection input).check check.distinct),
              editor.setCheck input check.distinct) := by
  have sound := reached.sound keepsOut_idle
  have home := reached.atHome keepsOut_idle (id : ¬ Liberties.plain.moves) id
    fun _ _ _ _ => id
  refine ⟨?_, fun input known isInput => sound.setTypes_input home
    known isInput⟩
  rintro operation limit _ after refers within run ids plugs plugsAfter
    slot stack rfl
  have held : SoundAcyclic settings workspace ⟨0⟩ editor :=
    ⟨sound, home, ids, plugs⟩
  exact (held.perform rejects (unalarmed_reaction keepsOut_idle limit)
    (ripplesOnly_reaction keepsOut_idle limit) limit refers within).raises run
    plugsAfter trivial

/-- A dropdown gives its types to a block whose inputs name themselves and each
other. -/
def mutualInputs : List HostOperation :=
  dropdownSource ++ [.newBlock "pair" (some "B") [],
    .setOutput ⟨1⟩ (some ["From:P", "From:Q+List"]), .appendInput ⟨1⟩ "P"
      (some ["From:P", "From:Q-List"]),
    .appendInput ⟨1⟩ "Q" (some ["From:P+List", "Z"]),
    .wire ⟨0⟩ .live, .wire ⟨1⟩ .live, .connect ⟨0⟩ ⟨2⟩]

/-- A new value of the dropdown reaches both inputs. -/
theorem no_false_alarm_mutualInputs :
    ∃ before after : Editor Unit, ∃ outcome,
      Reached idle
        (fun before operation _ _ => operation.Within Liberties.plain before)
        {} ⟨0⟩ before ∧
      before.UniqueIds ∧ Acyclic before.Plugged ∧
      (HostOperation.setValue ⟨0⟩ (.text "y")).perform
        (reaction idle 20) 20 ⟨0⟩ before =
        (outcome, after) ∧
      (after.connection ⟨2⟩).check = some ["Y"] ∧
      (after.connection ⟨3⟩).check = some ["Z", "List:Y"] ∧
      Acyclic after.Plugged ∧
      (∀ slot stack, outcome ≠ .error (.cyclicPropagation slot stack)) ∧
      setTypes (reaction idle 20) (.connection ⟨2⟩) (some ["W"]) before =
        (.ok (!Check.same (before.connection ⟨2⟩).check (some ["W"])),
          before.setCheck ⟨2⟩ (some ["W"])) := by
  have reached : Reached idle
      (fun before operation _ _ => operation.Within Liberties.plain before)
      {} ⟨0⟩ (performAll idle 20 ⟨0⟩ mutualInputs freshWorkspace) :=
    reached_freshWorkspace.performAll 20 mutualInputs (by decide +kernel)
  generalize isBefore :
    performAll idle 20 ⟨0⟩ mutualInputs freshWorkspace = before at reached
  have refers : before.fields.contains ⟨0⟩ := by
    rw [← isBefore]
    decide +kernel
  have ids : before.UniqueIds := by
    rw [← isBefore]
    decide +kernel
  have plugs : Acyclic before.Plugged := by
    refine acyclic_plugged_of_rises ?_
    rw [← isBefore]
    decide +kernel
  have input : before.connections.contains ⟨2⟩ ∧
      (before.connection ⟨2⟩).key.kind = .input := by
    rw [← isBefore]
    decide +kernel
  have checks :
      (((HostOperation.setValue ⟨0⟩ (.text "y")).perform
      (reaction idle 20) 20 ⟨0⟩ before).2.connection ⟨2⟩).check = some ["Y"] ∧
      (((HostOperation.setValue ⟨0⟩ (.text "y")).perform
        (reaction idle 20) 20 ⟨0⟩
        before).2.connection ⟨3⟩).check = some ["Z", "List:Y"] := by
    rw [← isBefore]
    decide +kernel
  have plugsAfter : Acyclic ((HostOperation.setValue ⟨0⟩ (.text "y")).perform
      (reaction idle 20) 20 ⟨0⟩ before).2.Plugged := by
    refine acyclic_plugged_of_rises ?_
    rw [← isBefore]
    decide +kernel
  obtain ⟨unalarmed, written⟩ := no_false_alarm rfl reached
  exact ⟨before, _, _, reached, ids, plugs, eq_of_outcome rfl, checks.1,
    checks.2, plugsAfter, unalarmed (.setValue ⟨0⟩ (.text "y")) 20
      _ _ refers trivial (eq_of_outcome rfl) ids plugs plugsAfter,
    written ⟨2⟩ input.1 input.2 _ (some ["W"])⟩

/-- Two variable fields of the first block are moved to the second before both
blocks are wired.  Either field is then bound to the other one by another
wiring, and wiring the second block goes round in a circle. -/
theorem alarm_after_move :
    ∃ before after : Editor Unit, ∃ slot stack,
      Reached idle (fun before operation outcome _ => outcome = .ok () ∧
        operation.Within { Liberties.plain with moves := True } before)
        {} ⟨0⟩ before ∧
      before.UniqueIds ∧ Acyclic before.Plugged ∧ Acyclic after.Plugged ∧
      (HostOperation.wire ⟨1⟩ .live).perform (reaction idle 20) 20 ⟨0⟩ before =
        (.error (.cyclicPropagation slot stack), after) := by
  have reached : Reached idle
      (fun before operation outcome _ => outcome = .ok () ∧
      operation.Within { Liberties.plain with moves := True } before) {} ⟨0⟩
      (performAll idle 20 ⟨0⟩
        [.createVariable "g" (.one "Q") (some "gid"),
          .newBlock "t" (some "a") [], .appendDummyInput ⟨0⟩ "",
          .newField "F" (.reference (some ["From:G-From", "X"])) .nothing,
          .appendField ⟨0⟩ 0 ⟨0⟩, .newField "G" (.reference none) (.text "gid"),
          .appendField ⟨0⟩ 0 ⟨1⟩, .newBlock "t" (some "b") [],
          .appendDummyInput ⟨1⟩ "", .appendField ⟨1⟩ 0 ⟨0⟩, .appendField ⟨1⟩ 0
            ⟨1⟩, .wire ⟨0⟩ .live,
          .setTypes (.field ⟨1⟩) (some ["From:F", "Y"])] freshWorkspace) :=
    reached_freshWorkspace.performAll 20 _ (by decide +kernel)
  generalize isBefore : performAll idle 20 ⟨0⟩ _ freshWorkspace =
    before at reached
  have raises : ((HostOperation.wire ⟨1⟩ .live).perform (reaction idle 20) 20
    ⟨0⟩ before).1 =
      .error (.cyclicPropagation ⟨"b", .field, "G"⟩ [⟨"b", .field, "G"⟩,
        ⟨"b", .field, "F"⟩]) := by
    rw [← isBefore]
    decide +kernel
  refine ⟨before, _, _, _, reached, ?_, acyclic_plugged_of_rises ?_,
    acyclic_plugged_of_rises ?_, eq_of_outcome raises⟩
  all_goals
    rw [← isBefore]
    decide +kernel

end TypeFlow.Editor
