import TypeFlow.Proofs.Host.Change

/-!
# What is there stays there

All tables of an editor are numbered, so that a new entry never takes the
place of an old one.  Hence no elementary change alters the id of a block, the
key of a connection or the name of a field.
-/

namespace TypeFlow.Editor

open OrderedMap (contains_insert getD_insert read_getD_insert)

variable {σ : Type} {workspace : WorkspaceId} {editor before after : Editor σ}

/-- In the tables of blocks, connections and fields the numbers are below the
size. -/
structure SlotTables (editor : Editor σ) : Prop where
  blocks : editor.blocks.Numbered BlockId.number
  connections : editor.connections.Numbered ConnectionId.number
  fields : editor.fields.Numbered FieldId.number

/-- In all tables the numbers are below the size. -/
structure Tables (editor : Editor σ) : Prop extends SlotTables editor where
  wirings : editor.wirings.Numbered WiringId.number
  pool : editor.pool.Numbered VariableId.number

section Close

theorem foldl_releaseSubscription (subscriptions : List SubscriptionId)
    (editor : Editor σ) :
    subscriptions.foldl releaseSubscription editor =
      { editor with
        workspaces :=
          (subscriptions.foldl releaseSubscription editor).workspaces } := by
  induction subscriptions generalizing editor with
  | nil => rfl
  | cons subscription rest induction =>
      rw [List.foldl_cons, induction]
      rfl

variable (editor : Editor σ) (wiring : WiringId)

@[simp] theorem blocks_closeWiring :
    (editor.closeWiring wiring).blocks = editor.blocks := by
  simp only [closeWiring, updateStats, updateEngine, updateWiring]
  rw [foldl_releaseSubscription]

@[simp] theorem connections_closeWiring :
    (editor.closeWiring wiring).connections = editor.connections := by
  simp only [closeWiring, updateStats, updateEngine, updateWiring]
  rw [foldl_releaseSubscription]

@[simp] theorem fields_closeWiring :
    (editor.closeWiring wiring).fields = editor.fields := by
  simp only [closeWiring, updateStats, updateEngine, updateWiring]
  rw [foldl_releaseSubscription]

@[simp] theorem pool_closeWiring :
    (editor.closeWiring wiring).pool = editor.pool := by
  simp only [closeWiring, updateStats, updateEngine, updateWiring]
  rw [foldl_releaseSubscription]

@[simp] theorem wirings_closeWiring :
    (editor.closeWiring wiring).wirings =
      editor.wirings.insert wiring
        { editor.wiring wiring with
          subscriptions := [], disposed := true } := by
  simp only [closeWiring, updateStats, updateEngine, updateWiring,
    Editor.wiring]
  rw [foldl_releaseSubscription]

theorem wiring_closeWiring (other : WiringId) :
    (editor.closeWiring wiring).wiring other =
      if wiring = other then
        { editor.wiring wiring with subscriptions := [], disposed := true }
      else editor.wiring other := by
  unfold Editor.wiring
  rw [wirings_closeWiring, getD_insert]
  rfl

/-- Closing a wiring releases its subscriptions, if they are all in one
workspace. -/
theorem workspace_foldl_releaseSubscription
    (subscriptions : List SubscriptionId)
    (inWorkspace : ∀ subscription ∈ subscriptions,
      subscription.workspace = workspace) (editor : Editor σ)
      (other : WorkspaceId) :
    (subscriptions.foldl releaseSubscription editor).workspace other =
      if workspace = other then
        { editor.workspace workspace with
          registry := (editor.workspace workspace).registry.releaseAll
            (subscriptions.map SubscriptionId.number) }
      else editor.workspace other := by
  induction subscriptions generalizing editor with
  | nil =>
      by_cases here : workspace = other <;> simp [Registry.releaseAll, here]
  | cons subscription rest induction =>
      have first := inWorkspace subscription (by simp)
      rw [List.foldl_cons,
        induction (fun later member => inWorkspace later (by simp [member]))]
      simp only [releaseSubscription, updateRegistry, workspace_updateWorkspace,
        first]
      by_cases here : workspace = other
      · subst here
        simp [Registry.releaseAll]
      · simp [here]

theorem workspace_closeWiring
    (inWorkspace : ∀ subscription ∈ (editor.wiring wiring).subscriptions,
      subscription.workspace = workspace) (other : WorkspaceId) :
    (editor.closeWiring wiring).workspace other =
      if workspace = other then
        { editor.workspace workspace with
          registry := (editor.workspace workspace).registry.releaseAll
            (((editor.wiring wiring).subscriptions.filter editor.isActive).map
              SubscriptionId.number) }
      else editor.workspace other :=
  workspace_foldl_releaseSubscription _
    (fun subscription member => inWorkspace subscription
      (List.mem_filter.mp member).1) editor other

theorem engine_closeWiring (other : EngineId) :
    (editor.closeWiring wiring).engine other =
      if (editor.wiring wiring).engine = other then
        { editor.engine (editor.wiring wiring).engine with
          stats :=
            { (editor.engine (editor.wiring wiring).engine).stats with
              released :=
                (editor.engine (editor.wiring wiring).engine).stats.released +
                ((editor.wiring wiring).subscriptions.filter
                  editor.isActive).length } }
      else editor.engine other := by
  dsimp only [closeWiring]
  rw [foldl_releaseSubscription, updateStats, engine_updateEngine]
  rfl

end Close

section Fresh

theorem SlotTables.connection_next (tables : editor.SlotTables) :
    ¬ editor.connections.contains editor.nextConnection :=
  tables.connections.not_contains rfl

theorem Tables.wiring_next (tables : editor.Tables) :
    ¬ editor.wirings.contains ⟨editor.wirings.size⟩ :=
  tables.wirings.not_contains rfl

/-- The number the next wiring will have. -/
def nextWiring (editor : Editor σ) : WiringId :=
  ⟨editor.wirings.size⟩

/-- The state with a new wiring of a block. -/
def beginWiring (editor : Editor σ) (engine : EngineId) (block : BlockId)
    (mode : WiringMode) :
    Editor σ :=
  { editor with
    wirings := editor.wirings.insert editor.nextWiring { block, mode, engine } }

theorem wiring_beginWiring (editor : Editor σ) (engine : EngineId)
    (block : BlockId) (mode : WiringMode) (other : WiringId) :
    (editor.beginWiring engine block mode).wiring other =
      if editor.nextWiring = other then { block, mode, engine }
        else editor.wiring other :=
  getD_insert _ _ _ _ _

/-- A wiring that has a binding is not the new one. -/
theorem wiring_beginWiring_of_bound {engine : EngineId} {block : BlockId}
    {mode : WiringMode} {other : WiringId} {key : SlotKey} {binding : Binding}
    (bound : ((editor.beginWiring engine block mode).wiring other).bindings.get?
      key =
      some binding) :
    (editor.beginWiring engine block mode).wiring other = editor.wiring
      other := by
  rw [wiring_beginWiring] at bound ⊢
  split at bound
  · cases bound
  · rename_i differs
    rw [if_neg differs]

theorem Tables.wiring_default (tables : editor.Tables) :
    editor.wiring editor.nextWiring = default :=
  OrderedMap.getD_of_not_contains tables.wiring_next

/-- The state with one more block. -/
abbrev addBlock (editor : Editor σ) (entry : Block) : Editor σ :=
  { editor with blocks := editor.blocks.insert ⟨editor.blocks.size⟩ entry }

/-- The state with one more field. -/
abbrev addField (editor : Editor σ) (entry : Field) : Editor σ :=
  { editor with fields := editor.fields.insert ⟨editor.fields.size⟩ entry }

theorem block_addBlock (editor : Editor σ) (entry : Block) (other : BlockId) :
    (editor.addBlock entry).block other =
      if ⟨editor.blocks.size⟩ = other then entry else editor.block other :=
  getD_insert _ _ _ _ _

theorem field_addField (editor : Editor σ) (entry : Field) (other : FieldId) :
    (editor.addField entry).field other =
      if ⟨editor.fields.size⟩ = other then entry else editor.field other :=
  getD_insert _ _ _ _ _

theorem SlotTables.block_addBlock (tables : editor.SlotTables) {entry : Block}
    {other : BlockId} (known : editor.blocks.contains other) :
    (editor.addBlock entry).block other = editor.block other :=
  tables.blocks.getD_insert_next rfl known

theorem SlotTables.field_addField (tables : editor.SlotTables) {entry : Field}
    {other : FieldId} (known : editor.fields.contains other) :
    (editor.addField entry).field other = editor.field other :=
  tables.fields.getD_insert_next rfl known

end Fresh

theorem outgrows_updateBlock {block : BlockId} {change : Block → Block}
    (keepsId : ∀ entry, (change entry).id = entry.id) :
    Outgrows editor (editor.updateBlock block change) :=
  { Outgrows.refl editor with
    knownBlock := by
      intro id known
      exact (contains_insert _ _ _ _).mpr (Or.inr known)
    blockId := fun _ _ => read_getD_insert Block.id (keepsId _) }

theorem outgrows_updateField {field : FieldId} {change : Field → Field}
    (keepsName : ∀ entry, (change entry).name = entry.name)
    (keepsKind : ∀ entry, (change entry).kind = entry.kind) :
    Outgrows editor (editor.updateField field change) :=
  { Outgrows.refl editor with
    knownField := by
      intro id known
      exact (contains_insert _ _ _ _).mpr (Or.inr known)
    fieldName := fun _ _ => read_getD_insert Field.name (keepsName _)
    fieldKind := fun _ _ =>
      congrArg FieldKind.bare (read_getD_insert Field.kind (keepsKind _)) }

theorem outgrows_setTarget (editor : Editor σ) (connection : ConnectionId)
    (target : Option ConnectionId) : Outgrows editor
      (editor.setTarget connection target) :=
  { Outgrows.refl editor with
    knownConnection := by
      intro id known
      exact (contains_insert _ _ _ _).mpr (Or.inr known)
    connectionKey := fun _ _ => read_getD_insert Connection.key rfl
    connectionBlock := fun _ _ => read_getD_insert Connection.block rfl }

theorem connection_withConnection (editor : Editor σ) (block : BlockId)
    (kind : SlotKind) (name : String) (check : Check) (other : ConnectionId) :
    (editor.withConnection block kind name check).connection other =
      if editor.nextConnection = other then
        { key := ⟨(editor.block block).id, kind, name⟩, block, check }
      else editor.connection other :=
  getD_insert _ _ _ _ _

section Tables

variable (tables : editor.SlotTables)

include tables

theorem connection_withConnection_of_contains (block : BlockId)
    (kind : SlotKind) (name : String) (check : Check) {id : ConnectionId}
    (known : editor.connections.contains id) :
    (editor.withConnection block kind name check).connection id =
      editor.connection id :=
  tables.connections.getD_insert_next rfl known

theorem outgrows_withConnection (block : BlockId) (kind : SlotKind)
    (name : String) (check : Check) :
    Outgrows editor (editor.withConnection block kind name check) := by
  have old : ∀ id, editor.connections.contains id →
      (editor.withConnection block kind name check).connection id =
        editor.connection id :=
    fun _ known => connection_withConnection_of_contains tables block kind
      name check known
  exact { Outgrows.refl editor with
    knownConnection := fun id known =>
      (contains_insert _ _ _ _).mpr (Or.inr known)
    connectionKey := fun id known => by rw [old id known]
    connectionBlock := fun id known => by rw [old id known] }

theorem outgrows_blockMade (entry : Block) :
    Outgrows editor (editor.addBlock entry) :=
  { Outgrows.refl editor with
    knownBlock := fun other known =>
      (contains_insert _ _ _ _).mpr (Or.inr known)
    blockId := fun other known => by rw [tables.block_addBlock known] }

theorem outgrows_fieldMade (entry : Field) :
    Outgrows editor (editor.addField entry) :=
  { Outgrows.refl editor with
    knownField := fun other known =>
      (contains_insert _ _ _ _).mpr (Or.inr known)
    fieldName := fun other known => by rw [tables.field_addField known]
    fieldKind := fun other known => by rw [tables.field_addField known] }

end Tables

theorem Outgrows.trans {middle : Editor σ} (first : Outgrows before middle)
    (second : Outgrows middle after) : Outgrows before after where
  knownBlock := fun id known => second.knownBlock id (first.knownBlock id known)
  blockId := fun id known =>
    (second.blockId id (first.knownBlock id known)).trans
      (first.blockId id known)
  knownConnection := fun id known => second.knownConnection id
    (first.knownConnection id known)
  connectionKey := fun id known =>
    (second.connectionKey id (first.knownConnection id known)).trans
      (first.connectionKey id known)
  connectionBlock := fun id known =>
    (second.connectionBlock id (first.knownConnection id known)).trans
      (first.connectionBlock id known)
  knownField := fun id known => second.knownField id (first.knownField id known)
  fieldName := fun id known =>
    (second.fieldName id (first.knownField id known)).trans
      (first.fieldName id known)
  fieldKind := fun id known =>
    (second.fieldKind id (first.knownField id known)).trans
      (first.fieldKind id known)

/-- States with the same blocks, connections and fields. -/
theorem Outgrows.of_tables (blocks : after.blocks = before.blocks)
    (connections : after.connections = before.connections)
    (fields : after.fields = before.fields) :
    Outgrows before after where
  knownBlock := fun id known => by rwa [blocks]
  blockId := fun id _ => by unfold Editor.block; rw [blocks]
  knownConnection := fun id known => by rwa [connections]
  connectionKey := fun id _ => by unfold Editor.connection; rw [connections]
  connectionBlock := fun id _ => by unfold Editor.connection; rw [connections]
  knownField := fun id known => by rwa [fields]
  fieldName := fun id _ => by unfold Editor.field; rw [fields]
  fieldKind := fun id _ => by unfold Editor.field; rw [fields]

theorem Assembly.outgrows {engine : EngineId} {slots : Slot → Prop}
    {wiring : WiringId}
    (step : Assembly workspace engine slots wiring before after) :
    Outgrows before after := by
  cases step with
  | ripple rippled => exact rippled.toSteady.outgrows
  | bind => exact Outgrows.of_tables rfl rfl rfl
  | listen => exact Outgrows.of_tables rfl rfl rfl

theorem Change.outgrows {liberties : Liberties} {engine : EngineId}
    {pending pending' : Option WiringId} (tables : before.Tables)
    (change : Change liberties workspace engine pending before pending' after) :
    Outgrows before after := by
  cases change with
  | steady steady => exact steady.outgrows
  | blockMade type id extensions =>
      exact outgrows_blockMade tables.toSlotTables _
  | outputMade check known replaces =>
      exact (outgrows_withConnection tables.toSlotTables _ _ _ _).trans
        (outgrows_updateBlock fun _ => rfl)
  | inputMade check known free =>
      exact (outgrows_withConnection tables.toSlotTables _ _ _ _).trans
        (outgrows_updateBlock fun _ => rfl)
  | dummyMade name known => exact outgrows_updateBlock fun _ => rfl
  | fieldMade detached refers => exact outgrows_fieldMade tables.toSlotTables _
  | fieldAttached knownBlock inRange knownField free moves =>
      exact Outgrows.trans (outgrows_updateField (by intro _; rfl)
        (by intro _; rfl)) (outgrows_updateBlock (by intro _; rfl))
  | valueSet value known =>
      exact outgrows_updateField (fun _ => rfl) fun _ => rfl
  | unlinked linked =>
      exact (outgrows_setTarget _ _ _).trans (outgrows_setTarget _ _ _)
  | linked => exact (outgrows_setTarget _ _ _).trans (outgrows_setTarget _ _ _)
  | variableMade drawn made => exact Outgrows.of_tables rfl rfl rfl
  | begun mode known idle => exact Outgrows.of_tables rfl rfl rfl
  | assembled offered step => exact step.outgrows
  | recorded attends => exact Outgrows.of_tables rfl rfl rfl
  | dropped nothing => exact Outgrows.refl before
  | forgotten found => exact Outgrows.of_tables rfl rfl rfl
  | closed pending known isOpen =>
      exact Outgrows.of_tables (by simp) (by simp) (by simp)
  | listened key callback listens => exact Outgrows.of_tables rfl rfl rfl
  | unlistened listens found isCallback => exact Outgrows.of_tables rfl rfl rfl

end TypeFlow.Editor
