import TypeFlow.Proofs.Audit
import TypeFlow.Proofs.Host.Stepwise
import TypeFlow.Proofs.Locality

/-!
# Audited operations

Wiring a block and the other operations of a host pass the audit like cascades
do, also when the wiring of a block fails and its lists are put back.  So no
operation of a host makes an engine write a check that is empty, repeats a type
or is made of the wrong types.
-/

namespace TypeFlow

namespace Editor

variable {σ β : Type} {foreign : Slot → Prop} {editor : Editor σ}
  {targets : List Target} {outside : Callbacks σ}

section Wire

variable {engine : EngineId} {block : BlockId} {wiring : WiringId}

section Fitted

variable (fitted : Fitted editor)

include fitted

theorem unspoiled_updateStats (engine : EngineId)
    (change : Stats → Stats) : Unspoiled foreign editor
      (editor.updateStats engine change) :=
  Unspoiled.aside fitted rfl rfl rfl

theorem unspoiled_addBinding (wiring : WiringId) (key : SlotKey)
    {binding : Binding} (hasCheck : editor.HasCheck binding.target) :
    Unspoiled foreign editor (editor.addBinding wiring key binding) := by
  refine ⟨⟨fitted.fields, ?_⟩, fun _ => id, fun slot =>
    Or.inl (by cases slot <;> rfl)⟩
  intro other otherKey otherBinding found
  change editor.HasCheck otherBinding.target
  rw [addBinding, wiring_updateWiring] at found
  split at found
  · rename_i same
    subst same
    rw [OrderedMap.get?_insert] at found
    split at found
    · cases found
      exact hasCheck
    · exact fitted.bound wiring otherKey otherBinding found
  · exact fitted.bound other otherKey otherBinding found

theorem unspoiled_listenTo (key : SlotKey) (source : Slot) :
    Ends (listenTo engine wiring key source) editor
      (Unspoiled foreign editor) := by
  simp only [Ends, listenTo, subscribe, leads_bind, leads_lookup, leads_look,
    leads_modify, leads_pure]
  refine ⟨?_, fun _ _ => Unspoiled.refl fitted⟩
  intro home _
  refine ⟨?_, fun _ _ => Unspoiled.refl fitted⟩
  intro sourceKey _
  refine Unspoiled.of_tables fitted rfl (fun _ => rfl) ?_
  intro other otherKey binding found
  have same := bare_wiring_addListener editor (editor.block home).workspace
    engine wiring other key sourceKey
  have sameBindings : _ = (editor.wiring other).bindings :=
    (congrArg Wiring.bindings same :)
  rw [← sameBindings]
  exact found

theorem unspoiled_rejectCycle (plans : List Plan) :
    Ends (rejectCycle engine block plans) editor
      (Unspoiled foreign editor) := by
  simp only [Ends, rejectCycle, leads_bind, leads_lookup]
  refine ⟨?_, fun _ _ => Unspoiled.refl fitted⟩
  intro edges _
  split
  · exact Unspoiled.refl fitted
  · simp only [leads_bind, leads_look]
    split
    · simp only [leads_bind, leads_modify, leads_look, leads_throw]
      exact unspoiled_updateStats fitted engine _
    · exact Unspoiled.refl fitted

theorem unspoiled_disposeWiring (wiring : WiringId) :
    Ends (disposeWiring wiring) editor (Unspoiled foreign editor) := by
  apply leads_disposeWiring
  · intro _
    exact Unspoiled.refl fitted
  · intro _ _
    refine Unspoiled.of_tables fitted (by simp) ?_ ?_
    · intro id
      unfold Editor.connection
      rw [connections_closeWiring]
    · intro other key binding found
      rw [wiring_closeWiring] at found
      split at found
      · rename_i same
        rw [← same]
        exact found
      · exact found

end Fitted

/-- Putting lists back keeps what has a check. -/
theorem undo_keeps (targets : List Target) :
    ∀ {editor : Editor σ}, Fitted editor → Fitted (undo targets editor) ∧
      ∀ slot, editor.HasCheck slot → (undo targets editor).HasCheck slot := by
  induction targets with
  | nil => exact fun fitted => ⟨fitted, fun _ => id⟩
  | cons target rest induction =>
      intro editor fitted
      have resets : Unspoiled (fun _ => True) editor
          (editor.resetTypes target.slot (some target.types)) :=
        unspoiled_resetTypes fitted (Or.inr trivial)
      obtain ⟨fittedAfter, keeps⟩ := induction resets.fitted
      exact ⟨fittedAfter, fun slot has => keeps slot (resets.hasCheck slot has)⟩

/-- Putting back the lists that targets had undoes whatever was done to them. -/
theorem Unspoiled.undo {broken : Editor σ}
    (unspoiled : Unspoiled foreign editor broken)
    (lists : ∀ target ∈ targets, editor.slotCheck target.slot =
      some target.types) (hasChecks : ∀ target ∈ targets,
      editor.HasCheck target.slot) :
    Unspoiled foreign editor (undo targets broken) := by
  have hasStill : ∀ target ∈ targets, broken.HasCheck target.slot :=
    fun target member => unspoiled.hasCheck _ (hasChecks target member)
  obtain ⟨fitted, keeps⟩ := undo_keeps targets unspoiled.fitted
  refine ⟨fitted, fun slot has => keeps slot (unspoiled.hasCheck slot has), ?_⟩
  intro slot
  by_cases isTarget : TargetSlot targets slot
  · refine Or.inl (slotCheck_undo targets hasStill ?_ fun notTarget =>
      absurd isTarget notTarget)
    rintro target member rfl
    exact (lists target member).symm
  · have untouched : (Editor.undo targets broken).slotCheck slot =
        broken.slotCheck slot := by
      refine slotCheck_undo targets hasStill ?_ fun _ => rfl
      intro target member isSlot
      exact absurd ⟨target, member, isSlot⟩ isTarget
    rw [untouched]
    exact unspoiled.checks slot

theorem concurs_newWiring {mode : WiringMode}
    {next next' : WiringId → EditM σ β}
    (step : Unspoiled foreign editor (editor.beginWiring engine block mode))
    (continues : Concurs foreign (next editor.nextWiring)
      (next' editor.nextWiring) (editor.beginWiring engine block mode)) :
    Concurs foreign (newWiring engine block mode >>= next)
      (newWiring engine block mode >>= next') editor :=
  ⟨continues.same, Ends.mono continues.unspoiled fun _ => step.trans⟩

variable {write write' : Writer σ} (writes : ConcursWrites foreign write write')

include writes

section Fitted

variable (fitted : Fitted editor)

include fitted

theorem concurs_installBy {plan : Plan}
    (hasCheck : editor.HasCheck plan.target.slot) :
    Concurs foreign (installBy write engine block wiring plan)
      (installBy write' engine block wiring plan) editor := by
  apply concurs_ite
  · intro _
    exact concurs_discard (writes plan.target.recipe _ editor fitted hasCheck
      (gives_regular editor plan.target))
  · intro _
    apply concurs_lookup fitted
    intro key _
    apply concurs_look
    refine concurs_modify (unspoiled_addBinding fitted wiring key hasCheck) ?_
    intro binds
    refine concurs_modify (unspoiled_updateStats binds.fitted engine _) ?_
    intro counts
    apply concurs_lookup counts.fitted
    intro sources _
    apply concurs_forM counts.fitted
    intro source _ current sofar
    exact Concurs.of_ends (unspoiled_listenTo sofar.fitted key source)

section Targets

variable (hasChecks : ∀ target ∈ targets, editor.HasCheck target.slot)

include hasChecks

theorem concurs_wireLiveBy :
    Concurs foreign (wireLiveBy write engine block wiring targets)
      (wireLiveBy write' engine block wiring targets) editor := by
  apply concurs_look
  refine concurs_modify (unspoiled_updateStats fitted engine _) ?_
  intro counts
  apply concurs_bind (Concurs.of_ends (unspoiled_rejectCycle counts.fitted _))
  intro _ accepted accepts
  apply concurs_bind
  · apply concurs_forM accepts.fitted
    intro plan member current sofar
    obtain ⟨target, isTarget, rfl⟩ := List.mem_map.mp member
    apply concurs_installBy writes sofar.fitted
    exact sofar.hasCheck _ (accepts.hasCheck _ (hasChecks target isTarget))
  · intro _ installed installs
    apply concurs_look
    apply concurs_ite
    · intro _
      exact concurs_discard
        (concurs_recomputeAllBy writes installs.fitted wiring)
    · intro _
      exact concurs_pure installs.fitted _

theorem concurs_wireStaticBy :
    Concurs foreign (wireStaticBy write targets) (wireStaticBy write' targets)
      editor := by
  apply concurs_forM fitted
  intro target member current sofar
  exact concurs_discard (writes target.recipe _ current sofar.fitted
    (sofar.hasCheck _ (hasChecks target member)) (gives_regular current target))

theorem concurs_wireLiveOrUndoBy
    (lists : ∀ target ∈ targets, editor.slotCheck target.slot =
      some target.types) :
    Concurs foreign (wireLiveOrUndoBy write engine block wiring targets)
      (wireLiveOrUndoBy write' engine block wiring targets) editor := by
  have wires : Concurs foreign (wireLiveBy write engine block wiring targets)
      (wireLiveBy write' engine block wiring targets) editor :=
    concurs_wireLiveBy writes fitted hasChecks
  constructor
  · unfold wireLiveOrUndoBy
    rw [run_tryCatch, run_tryCatch, wires.same]
  · simp only [Ends, wireLiveOrUndoBy, leads_tryCatch]
    apply Leads.mono wires.unspoiled
    · exact fun _ _ => id
    · intro fault broken breaks
      simp only [leads_bind, leads_discard, leads_modify, leads_throw]
      apply Leads.mono (unspoiled_disposeWiring breaks.fitted wiring)
      · intro _ closed closes
        exact (breaks.trans closes).undo lists hasChecks
      · intro _ closed closes
        exact breaks.trans closes

end Targets

theorem concurs_wireBy (engine : EngineId) (block : BlockId)
    (mode : WiringMode) :
    Concurs foreign (wireBy write engine block mode)
      (wireBy write' engine block mode) editor := by
  apply concurs_look
  cases editor.liveWiringFor? engine block with
  | some existing => exact concurs_pure fitted _
  | none =>
      apply concurs_look
      have begins : Unspoiled foreign editor
          (editor.beginWiring engine block mode) := by
        refine Unspoiled.of_tables fitted rfl (fun _ => rfl) ?_
        intro other key binding found
        rwa [wiring_beginWiring_of_bound found] at found
      have lists : ∀ target ∈ editor.targetsFor engine block,
          (editor.beginWiring engine block mode).slotCheck target.slot =
            some target.types := by
        intro target member
        rw [← (targets_offered member).2]
        cases target.slot <;> rfl
      have hasChecks : ∀ target ∈ editor.targetsFor engine block,
          (editor.beginWiring engine block mode).HasCheck target.slot :=
        fun target member =>
          begins.hasCheck _ (hasCheck_of_offers (targets_offered member).1)
      have records : ∀ current wiring, Unspoiled foreign editor current →
          Concurs foreign
            (do modify (·.recordWiring engine block wiring); return wiring)
            (do modify (·.recordWiring engine block wiring); return wiring)
            current :=
        fun current wiring sofar =>
          Concurs.of_ends (Unspoiled.aside sofar.fitted rfl rfl rfl)
      refine concurs_newWiring begins ?_
      cases mode with
      | static =>
          apply concurs_bind
            (concurs_wireStaticBy writes begins.fitted hasChecks)
          intro _ written writesAll
          refine concurs_modify
            (unspoiled_updateStats writesAll.fitted engine _) ?_
          intro counts
          exact records _ _ (begins.trans (writesAll.trans counts))
      | live =>
          apply concurs_ite
          · intro _
            exact records _ _ begins
          · intro _
            apply concurs_bind (concurs_wireLiveOrUndoBy writes begins.fitted
              hasChecks lists)
            intro _ wired wires
            refine concurs_modify (unspoiled_updateStats wires.fitted engine _)
              ?_
            intro counts
            exact records _ _ (begins.trans (wires.trans counts))

end Fitted

end Wire

section Links

variable {react react' : Reaction σ}

theorem unspoiled_setTargets (fitted : Fitted editor)
    (this other : ConnectionId) (thisTarget otherTarget : Option ConnectionId) :
    Unspoiled foreign editor
      ((editor.setTarget this thisTarget).setTarget other otherTarget) := by
  have keeps : ∀ (current : Editor σ) (connection : ConnectionId) target id,
      ((current.setTarget connection target).connection id).check =
        (current.connection id).check :=
    fun _ _ _ _ => OrderedMap.read_getD_insert Connection.check rfl
  refine Unspoiled.of_tables fitted rfl ?_ fun _ _ _ => id
  intro id
  rw [keeps, keeps]

variable (calls : ConcursCalls foreign react react')

include calls

section Fitted

variable (fitted : Fitted editor)

include fitted

theorem concurs_notifyEnds (this other : ConnectionId) :
    Concurs foreign (notifyEnds react this other) (notifyEnds react' this other)
      editor := by
  apply concurs_look
  apply concurs_look
  apply concurs_bind (concurs_discard (concurs_notify calls fitted _ _))
  intro _ middle sofar
  apply concurs_look
  exact concurs_discard (concurs_notify calls sofar.fitted _ _)

theorem concurs_disconnect (this : ConnectionId) :
    Concurs foreign (disconnect react this)
      (disconnect react' this) editor := by
  apply concurs_look
  cases (editor.connection this).target with
  | none => exact concurs_pure fitted _
  | some other =>
      refine concurs_modify (unspoiled_setTargets fitted this other none none)
        ?_
      intro unlinks
      exact concurs_notifyEnds calls unlinks.fitted this other

theorem concurs_disconnectAny (connection : Option ConnectionId) :
    Concurs foreign (connection.forM (disconnect react))
      (connection.forM (disconnect react')) editor := by
  cases connection with
  | none => exact concurs_pure fitted _
  | some connection => exact concurs_disconnect calls fitted connection

theorem concurs_connect (this other : ConnectionId) :
    Concurs foreign (connect react this other) (connect react' this other)
      editor := by
  apply concurs_look
  apply concurs_ite
  · intro _
    exact concurs_pure fitted _
  · intro _
    have asks : Ends (canConnectWith this other) editor
        (Unspoiled foreign editor) := by
      apply Leads.mono (leads_canConnectWith this other editor)
      · rintro verdict _ ⟨⟨caches, rfl⟩, _⟩
        exact Unspoiled.aside fitted rfl rfl rfl
      · exact fun _ _ => False.elim
    apply concurs_bind (Concurs.of_ends asks)
    intro verdict asked sofar
    apply concurs_ite
    · intro _
      apply concurs_bind (concurs_disconnect calls sofar.fitted this)
      intro _ middle first
      apply concurs_bind (concurs_disconnect calls first.fitted other)
      intro _ parted second
      refine concurs_modify (unspoiled_setTargets second.fitted this other _ _)
        ?_
      intro links
      exact concurs_notifyEnds calls links.fitted this other
    · intro _
      exact Concurs.of_ends (Unspoiled.refl sofar.fitted)

end Fitted

theorem concurs_disconnectRows (block : BlockId) (limit : Nat) :
    ∀ (place : Nat) {editor : Editor σ}, Fitted editor →
      Concurs foreign (disconnectRows react block limit place)
        (disconnectRows react' block limit place) editor := by
  induction limit with
  | zero =>
      intro place editor fitted
      exact concurs_pure fitted _
  | succ limit induction =>
      intro place editor fitted
      apply concurs_look
      cases (editor.block block).rows[place]? with
      | none => exact concurs_pure fitted _
      | some row =>
          apply concurs_bind (concurs_disconnectAny calls fitted row.connection)
          intro _ middle sofar
          exact induction (place + 1) sofar.fitted

end Links

section Blocks

variable {react react' : Reaction σ}

section Making

variable (fitted : Fitted editor)

include fitted

theorem unspoiled_updateField {field : FieldId} {change : Field → Field}
    (known : editor.fields.contains field)
    (kinds : ∀ entry, (change entry).kind = entry.kind) :
    Unspoiled foreign editor (editor.updateField field change) := by
  have sameKind : ∀ id, ((editor.updateField field change).field id).kind =
      (editor.field id).kind :=
    fun _ => OrderedMap.read_getD_insert Field.kind (kinds _)
  have hasCheck : ∀ slot, editor.HasCheck slot →
      (editor.updateField field change).HasCheck slot := by
    intro slot has
    cases slot with
    | connection connection => trivial
    | field id =>
        simp only [HasCheck] at has ⊢
        rwa [sameKind]
  refine ⟨⟨fitted.fields.insert_known _ known, ?_⟩, hasCheck, ?_⟩
  · intro wiring key binding found
    exact hasCheck _ (fitted.bound wiring key binding found)
  · intro slot
    cases slot with
    | connection connection => exact Or.inl rfl
    | field id =>
        refine Or.inl ?_
        simp only [slotCheck, Field.check, sameKind]

theorem unspoiled_withConnection
    (own : foreign (.connection editor.nextConnection)) (block : BlockId)
    (kind : SlotKind) (name : String) (check : Check) (change : Block → Block) :
    Unspoiled foreign editor
      ((editor.withConnection block kind name check).updateBlock block
        change) := by
  refine ⟨⟨fitted.fields, fitted.bound⟩, fun _ => id, ?_⟩
  intro slot
  cases slot with
  | connection connection =>
      by_cases isNew : editor.nextConnection = connection
      · subst isNew
        exact Or.inr (Or.inr own)
      · refine Or.inl (congrArg Connection.check ?_)
        exact (connection_withConnection editor block kind name check
          connection).trans (if_neg isNew)
  | field field => exact Or.inl rfl

theorem unspoiled_newField (own : foreign (.field ⟨editor.fields.size⟩))
    (field : Field) :
    Unspoiled foreign editor (editor.addField field) := by
  have fresh : ¬ editor.fields.contains ⟨editor.fields.size⟩ :=
    fitted.fields.not_contains rfl
  have others : ∀ id : FieldId, ⟨editor.fields.size⟩ ≠ id →
      (editor.addField field).field id = editor.field id :=
    fun id differs => (field_addField editor field id).trans (if_neg differs)
  have hasCheck : ∀ slot, editor.HasCheck slot →
      (editor.addField field).HasCheck slot := by
    intro slot has
    cases slot with
    | connection connection => trivial
    | field id =>
        have differs : ⟨editor.fields.size⟩ ≠ id := by
          rintro rfl
          exact fresh (contains_of_hasCheck has)
        simp only [HasCheck] at has ⊢
        rwa [others id differs]
  refine ⟨⟨fitted.fields.insert_next _ rfl, ?_⟩, hasCheck, ?_⟩
  · intro wiring key binding found
    exact hasCheck _ (fitted.bound wiring key binding found)
  · intro slot
    cases slot with
    | connection connection => exact Or.inl rfl
    | field id =>
        by_cases isNew : ⟨editor.fields.size⟩ = id
        · subst isNew
          exact Or.inr (Or.inr own)
        · exact Or.inl (congrArg Field.check (others id isNew))

theorem unspoiled_setOutput (own : foreign (.connection editor.nextConnection))
    (block : BlockId) (check : Check) : Ends (setOutput block check) editor
      (Unspoiled foreign editor) := by
  simp only [Ends, setOutput, leads_bind, leads_newConnection, leads_modify,
    leads_pure]
  exact unspoiled_withConnection fitted own block _ _ check _

theorem unspoiled_appendInput
    (own : foreign (.connection editor.nextConnection)) (block : BlockId)
    (name : String) (check : Check) :
    Ends (appendInput block name check) editor (Unspoiled foreign editor) :=
  leads_appendInput (Unspoiled.refl fitted)
    fun _ => unspoiled_withConnection fitted own block _ _ check _

theorem unspoiled_appendDummyInput (block : BlockId) (name : String) :
    Ends (appendDummyInput block name) editor (Unspoiled foreign editor) :=
  leads_appendDummyInput (Unspoiled.refl fitted)
    (Unspoiled.aside fitted rfl rfl rfl)

theorem unspoiled_createVariable (workspace : WorkspaceId) (name : String)
    (request : TypeRequest) (id : Option String) :
    Ends (createVariable workspace name request id) editor
      (Unspoiled foreign editor) := by
  simp only [Ends, createVariable, leads_bind, leads_get, leads_set,
    leads_discard, leads_lookup]
  exact ⟨fun _ _ => Unspoiled.aside fitted rfl rfl rfl,
    fun _ _ => Unspoiled.aside fitted rfl rfl rfl⟩

theorem unspoiled_subscribe (slot : Slot) (listener : Listener) :
    Ends (subscribe slot listener) editor (Unspoiled foreign editor) := by
  simp only [Ends, subscribe, leads_bind, leads_look, leads_lookup,
    leads_modify, leads_pure]
  refine ⟨?_, fun _ _ => Unspoiled.refl fitted⟩
  intro home _
  exact ⟨fun _ _ => Unspoiled.aside fitted rfl rfl rfl, fun _ _ =>
    Unspoiled.refl fitted⟩

theorem unspoiled_newBlock (workspace : WorkspaceId) (type : String)
    (id : Option String) (extensions : List String) :
    Ends (newBlock workspace type id extensions) editor
      (Unspoiled foreign editor) :=
  leads_newBlock (fun _ _ => Unspoiled.aside fitted rfl rfl rfl)
    fun _ _ _ => Unspoiled.aside fitted rfl rfl rfl

theorem unspoiled_releaseWiring (engine : EngineId) (block : BlockId) :
    Ends (releaseWiring engine block) editor (Unspoiled foreign editor) := by
  refine leads_releaseWiring (fun _ => Unspoiled.refl fitted) fun wiring _ => ?_
  have forgets : Unspoiled foreign editor (editor.forgetWiring engine block) :=
    Unspoiled.aside fitted rfl rfl rfl
  exact Ends.mono (unspoiled_disposeWiring forgets.fitted wiring)
    fun _ => forgets.trans

theorem unspoiled_appendField (block : BlockId) (place : Nat) {field : FieldId}
    (known : editor.fields.contains field) :
    Ends (appendField block place field) editor (Unspoiled foreign editor) := by
  have attaches : Unspoiled foreign editor
      (editor.updateField field fun entry => { entry with
        block := some block }) :=
    unspoiled_updateField fitted known fun _ => rfl
  exact leads_appendField (Unspoiled.refl fitted)
    fun _ => attaches.trans (Unspoiled.aside attaches.fitted rfl rfl rfl)

end Making

variable (calls : ConcursCalls foreign react react')

include calls

theorem concurs_setValue (fitted : Fitted editor) {field : FieldId}
    (known : editor.fields.contains field) (value : FieldValue) :
    Concurs foreign (setValue react field value) (setValue react' field value)
      editor := by
  refine concurs_modify (unspoiled_updateField fitted known fun _ => rfl) ?_
  intro sets
  exact concurs_notifyField calls sets.fitted field

theorem concurs_disposeBlock (fitted : Fitted editor) (limit : Nat)
    (block : BlockId) :
    Concurs foreign (disposeBlock react limit block)
      (disposeBlock react' limit block) editor := by
  apply concurs_look
  apply concurs_ite
  · intro _
    exact concurs_pure fitted _
  · intro _
    apply concurs_look
    apply concurs_bind
      (concurs_discard (Concurs.of_ends
        (unspoiled_releaseWiring fitted _ block)))
    intro _ released releases
    apply concurs_look
    apply concurs_bind (concurs_disconnectAny calls releases.fitted _)
    intro _ parted sofar
    apply concurs_bind (concurs_disconnectRows calls block limit 0 sofar.fitted)
    intro _ emptied empties
    exact Concurs.of_ends (Unspoiled.aside empties.fitted rfl rfl rfl)

variable {write write' : Writer σ} (writes : ConcursWrites foreign write write')

include writes

theorem concurs_applyExtensionBy (fitted : Fitted editor)
    (workspace : WorkspaceId) (name : String) (block : BlockId) :
    Concurs foreign (applyExtensionBy write react workspace name block)
      (applyExtensionBy write' react' workspace name block) editor := by
  apply concurs_lookup fitted
  intro action _
  cases action with
  | wire =>
      apply concurs_look
      apply concurs_bind (concurs_wireBy writes fitted _ block _)
      intro _ wired wires
      exact concurs_pure wires.fitted _
  | callback callback =>
      apply concurs_bind (calls (.callback callback) editor fitted)
      intro _ called sofar
      exact concurs_pure sofar.fitted _

theorem concurs_initBlockBy (fitted : Fitted editor) (block : BlockId) :
    Concurs foreign (initBlockBy write react block)
      (initBlockBy write' react' block) editor := by
  apply concurs_look
  apply concurs_ite
  · intro _
    exact concurs_pure fitted _
  · intro _
    apply concurs_bind
    · apply concurs_forM fitted
      intro name _ current sofar
      exact concurs_discard (concurs_applyExtensionBy calls writes
        sofar.fitted _ name block)
    · intro _ applied applies
      exact Concurs.of_ends (Unspoiled.aside applies.fitted rfl rfl rfl)

end Blocks

/-- Callbacks take the check of no slot away and spoil none, save those of slots
in `foreign` hands.  They may well do what a host does, see `unspoiled_perform`.
-/
def SpoilsNothing (foreign : Slot → Prop) (outside : Callbacks σ) : Prop :=
  ∀ callback editor, Fitted editor →
    Ends (outside callback) editor (Unspoiled foreign editor)

theorem SpoilsNothing.mono {foreign' : Slot → Prop}
    (spoilsNothing : SpoilsNothing foreign outside)
    (wider : ∀ slot, foreign slot → foreign' slot) :
    SpoilsNothing foreign' outside :=
  fun callback editor fitted => Ends.mono (spoilsNothing callback editor fitted)
    fun _ unspoiled => unspoiled.mono wider

theorem KeepsOut.spoilsNothing (keepsOut : KeepsOut outside) : SpoilsNothing
    (fun _ => False) outside := by
  intro callback editor fitted
  apply Ends.mono (keepsOut callback editor)
  rintro _ ⟨outer, rfl⟩
  exact Unspoiled.aside fitted rfl rfl rfl

/-- However deep recomputations are nested, none of them raises the alarm. -/
theorem concursCalls_reactionBy (spoilsNothing : SpoilsNothing foreign outside)
    (alarm : EditM σ Unit) (fuel : Nat) :
    ConcursCalls foreign (reactionBy (auditedWrite alarm) outside fuel)
      (reactionBy plainWrite outside fuel) := by
  induction fuel with
  | zero =>
      intro listener editor fitted
      exact concurs_throw fitted _
  | succ fuel induction =>
      intro listener editor fitted
      cases listener with
      | callback callback =>
          exact Concurs.of_ends (spoilsNothing callback editor fitted)
      | recompute wiring target =>
          have writes := concursWrites_auditedWrite induction alarm
          exact concurs_discard
            (concurs_recomputeBy writes fitted wiring target)

end Editor

namespace HostOperation

open Editor

variable {σ : Type}

/-- The slot is made by the operation. -/
def Makes (editor : Editor σ) : HostOperation → Slot → Prop
  | .setOutput .., slot => slot = .connection editor.nextConnection
  | .appendInput .., slot => slot = .connection editor.nextConnection
  | .newField .., slot => slot = .field ⟨editor.fields.size⟩
  | _, _ => False

/-- What an operation writes or makes is in the hands of the host. -/
def Handles (editor : Editor σ) (operation : HostOperation) (slot : Slot) :
    Prop :=
  operation.Writes slot ∨ operation.Makes editor slot

section Perform

variable {foreign : Slot → Prop} {editor : Editor σ} {workspace : WorkspaceId}
  {operation : HostOperation} (fitted : Fitted editor) (limit : Nat)
  (refers : operation.Refers workspace editor)
  (own : ∀ slot, operation.Handles editor slot → foreign slot)

include fitted refers own

theorem concurs_perform {react react' : Reaction σ}
    (calls : ConcursCalls foreign react react') :
    Concurs foreign (operation.perform react limit workspace)
      (operation.perform react' limit workspace) editor := by
  have writes := concursWrites_plainWrite calls
  cases operation with
  | newBlock type id extensions =>
      exact concurs_discard (Concurs.of_ends
        (unspoiled_newBlock fitted workspace type id extensions))
  | removeBlock block =>
      exact Concurs.of_ends (Unspoiled.aside fitted rfl rfl rfl)
  | setOutput block check =>
      exact concurs_discard (Concurs.of_ends
        (unspoiled_setOutput fitted (own _ (Or.inr rfl)) block check))
  | appendInput block name check =>
      exact concurs_discard (Concurs.of_ends
        (unspoiled_appendInput fitted (own _ (Or.inr rfl)) block name check))
  | appendDummyInput block name =>
      exact concurs_discard
        (Concurs.of_ends (unspoiled_appendDummyInput fitted block name))
  | newField name kind value =>
      exact Concurs.of_ends (unspoiled_newField fitted (own _ (Or.inr rfl))
        { name, kind, value })
  | appendField block place field =>
      exact Concurs.of_ends
        (unspoiled_appendField fitted block place refers.2.2)
  | createVariable name request id =>
      exact Concurs.of_ends (unspoiled_createVariable fitted workspace
        name request id)
  | initBlock block =>
      change Concurs foreign (Editor.initBlock react block)
        (Editor.initBlock react' block) editor
      rw [← initBlockBy_plainWrite react, ← initBlockBy_plainWrite react']
      exact concurs_initBlockBy calls writes fitted block
  | wire block mode =>
      apply concurs_look
      rw [← wireBy_plainWrite react, ← wireBy_plainWrite react']
      exact concurs_discard (concurs_wireBy writes fitted _ block mode)
  | releaseWiring block =>
      apply concurs_look
      exact concurs_discard
        (Concurs.of_ends (unspoiled_releaseWiring fitted _ block))
  | disposeWiring wiring =>
      exact concurs_discard
        (Concurs.of_ends (unspoiled_disposeWiring fitted wiring))
  | disposeBlock block => exact concurs_disposeBlock calls fitted limit block
  | connect this other => exact concurs_connect calls fitted this other
  | disconnect connection => exact concurs_disconnect calls fitted connection
  | setValue field value => exact concurs_setValue calls fitted refers value
  | setTypes slot check =>
      exact concurs_discard (concurs_setTypes calls fitted slot check
        (Or.inr (own slot (Or.inl rfl))))
  | listen slot callback =>
      exact concurs_discard
        (Concurs.of_ends (unspoiled_subscribe fitted slot _))
  | unlisten subscription =>
      exact Concurs.of_ends (Unspoiled.aside fitted rfl rfl rfl)

/-- No operation raises the alarm. -/
theorem concurs_performBy {outside : Callbacks σ}
    (spoilsNothing : SpoilsNothing foreign outside) (alarm : EditM σ Unit) :
    Concurs foreign (operation.performBy (auditedWrite alarm) outside limit
      workspace)
      (operation.performBy plainWrite outside limit workspace) editor := by
  have calls := concursCalls_reactionBy spoilsNothing alarm limit
  have writes := concursWrites_auditedWrite calls alarm
  cases operation with
  | initBlock block => exact concurs_initBlockBy calls writes fitted block
  | wire block mode =>
      apply concurs_look
      exact concurs_discard (concurs_wireBy writes fitted _ block mode)
  | _ => exact concurs_perform fitted limit refers own calls

end Perform

/-- Operations leave the state fitted, and spoil only what is in the hands of
the host or its callbacks. -/
theorem unspoiled_perform {foreign : Slot → Prop} {outside : Callbacks σ}
    (spoilsNothing : SpoilsNothing foreign outside) {editor : Editor σ}
    (fitted : Fitted editor) {workspace : WorkspaceId}
    {operation : HostOperation} (limit : Nat)
    (refers : operation.Refers workspace editor) :
    Ends (operation.perform (reaction outside limit) limit workspace) editor
      (Unspoiled (fun slot => operation.Handles editor slot ∨ foreign slot)
        editor) := by
  rw [← performBy_plainWrite]
  exact (concurs_performBy fitted limit refers (fun _ => Or.inl)
    (spoilsNothing.mono fun _ => Or.inr) (return)).unspoiled

end HostOperation

namespace Editor

variable {σ : Type} {foreign : Slot → Prop} {outside : Callbacks σ}
  {editor : Editor σ}

theorem Built.fitted (spoilsNothing : SpoilsNothing foreign outside)
    (built : Built outside editor) :
    Fitted editor := by
  induction built with
  | started =>
      refine ⟨OrderedMap.numbered_empty _, ?_⟩
      intro wiring key binding found
      cases found
  | furnished caches checkers engines workspaces pool drawn outer _ fitted =>
      exact ⟨fitted.fields, fitted.bound⟩
  | performed _ refers run fitted =>
      exact ((HostOperation.unspoiled_perform spoilsNothing fitted
        _ refers).holds run).fitted

/-- The audited engine does what the engine does, in every operation of a host
and in every recomputation that it asks for, whatever the alarm would do: no
write ever gives a slot a check that is not clean or not made of the right
types.  At the end a check is as it was or clean, unless the host or a callback
of the host handled the slot. -/
theorem engine_writes_clean (spoilsNothing : SpoilsNothing foreign outside)
    (built : Built outside editor) {workspace : WorkspaceId}
    {operation : HostOperation} (refers : operation.Refers workspace editor)
    (limit : Nat) (alarm : EditM σ Unit) :
    operation.performBy plainWrite outside limit workspace =
        operation.perform (reaction outside limit) limit workspace ∧
      operation.performBy (auditedWrite alarm) outside limit workspace editor =
        operation.perform (reaction outside limit) limit workspace editor ∧
      (∀ wiring target,
        recomputeBy
            (auditedWrite alarm (reactionBy (auditedWrite alarm) outside limit))
            wiring target editor =
          recompute (reaction outside limit) wiring target editor) ∧
      (∀ wiring,
        recomputeAllBy
            (auditedWrite alarm (reactionBy (auditedWrite alarm) outside limit))
            wiring editor =
          recomputeAll (reaction outside limit) wiring editor) ∧
      ∀ slot,
        let after :=
          (operation.perform (reaction outside limit) limit workspace editor).2
        after.slotCheck slot = editor.slotCheck slot ∨
          (after.slotCheck slot).Clean ∨
          operation.Handles editor slot ∨ foreign slot := by
  have fitted := built.fitted spoilsNothing
  have plain := HostOperation.performBy_plainWrite outside limit
    workspace operation
  have writes := concursWrites_auditedWrite
    (concursCalls_reactionBy spoilsNothing alarm limit) alarm
  have performs := HostOperation.concurs_performBy fitted limit refers
    (fun _ => Or.inl) (spoilsNothing.mono fun _ => Or.inr) alarm
  refine ⟨plain, ?_, ?_, ?_, ?_⟩
  · rw [← plain]
    exact performs.same
  · intro wiring target
    rw [(concurs_recomputeBy writes fitted wiring target).same,
      recomputeBy_plainWrite, reactionBy_plainWrite]
  · intro wiring
    rw [(concurs_recomputeAllBy writes fitted wiring).same,
      recomputeAllBy_plainWrite, reactionBy_plainWrite]
  · intro slot
    have ends := HostOperation.unspoiled_perform spoilsNothing
      fitted limit refers
    exact ((ends_iff _ _ _).mp ends).checks slot

/-- A block that repeats a type of its own and follows its input, and one that
offers it some of the same. -/
def repeatingFollower : List HostOperation :=
  [.newBlock "source" (some "A") [],
    .setOutput ⟨0⟩ (some ["Text", "Item", "Text"]), .newBlock "follower"
      (some "B") [], .setOutput ⟨1⟩ (some ["Item", "Item", "From:IN"]),
    .appendInput ⟨1⟩ "IN" none, .wire ⟨1⟩ .live]

/-- Linking the two sets off a recomputation, which passes the audit. -/
theorem engine_writes_clean_repeatingFollower :
    ∃ editor : Editor Unit, Built idle editor ∧
      editor.slotCheck (.connection ⟨1⟩) = some ["Item"] ∧
      (HostOperation.connect ⟨0⟩ ⟨2⟩).performBy
          (auditedWrite (throw (.raised "unclean"))) idle 20 ⟨0⟩ editor =
        (HostOperation.connect ⟨0⟩ ⟨2⟩).perform
          (reaction idle 20) 20 ⟨0⟩ editor ∧
      ((HostOperation.connect ⟨0⟩ ⟨2⟩).perform
        (reaction idle 20) 20 ⟨0⟩ editor).2.slotCheck (.connection ⟨1⟩) =
          some ["Item", "Text"] := by
  have reached : Reached idle (fun _ _ _ _ => True) {} ⟨0⟩
      (HostOperation.performAll idle 20 ⟨0⟩ repeatingFollower freshWorkspace) :=
    reached_freshWorkspace.performAll 20 repeatingFollower (by decide +kernel)
  have refers : (HostOperation.connect ⟨0⟩ ⟨2⟩).Refers ⟨0⟩
      (HostOperation.performAll idle 20 ⟨0⟩ repeatingFollower
        freshWorkspace) := by
    decide +kernel
  have spoilsNothing : SpoilsNothing (fun _ => False) (idle : Callbacks Unit) :=
    keepsOut_idle.spoilsNothing
  obtain ⟨_, audited, _⟩ :=
    engine_writes_clean spoilsNothing reached.built refers 20
    (throw (.raised "unclean"))
  exact ⟨_, reached.built, by decide +kernel, audited, by decide +kernel⟩

end Editor

end TypeFlow
