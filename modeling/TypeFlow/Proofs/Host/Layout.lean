import TypeFlow.Proofs.Host.Growth

/-!
# Blocks and their slots

The output and the inputs of a block are connections of that block, the fields
in its rows are attached to some block, and links join an output and an input of
different blocks.  In a layout all blocks belong to one workspace as well.
Every elementary change keeps it so.
-/

namespace TypeFlow.Editor

open OrderedMap (contains_congr contains_insert getD_of_not_contains
  keys_insert_of_contains read_getD_insert)

variable {σ : Type} {editor : Editor σ} {this other connection : ConnectionId}
  {id block : BlockId} {row : Row} {field : FieldId} {workspace : WorkspaceId}

/-- Blocks, connections and fields refer to each other as they should. -/
structure Arranged (editor : Editor σ) : Prop where
  home : ∀ id, editor.connections.contains id →
    editor.blocks.contains (editor.connection id).block
  homeKey : ∀ id, editor.connections.contains id →
    (editor.connection id).key.blockId =
      (editor.block (editor.connection id).block).id
  kind : ∀ id, editor.connections.contains id →
    (editor.connection id).key.kind ≠ .field
  output : ∀ id connection, (editor.block id).output = some connection →
    editor.connections.contains connection ∧
      (editor.connection connection).block = id ∧
      (editor.connection connection).key.kind = .output
  row : ∀ id row connection, row ∈ (editor.block id).rows →
    row.connection = some connection →
    editor.connections.contains connection ∧
      (editor.connection connection).block = id ∧
      (editor.connection connection).key.kind = .input
  rowField : ∀ id field, field ∈ (editor.block id).fields →
    editor.fields.contains field ∧ (editor.field field).block ≠ none
  fieldHome : ∀ field id, (editor.field field).block = some id →
    editor.blocks.contains id

/-- All blocks belong to one workspace. -/
structure Layout (workspace : WorkspaceId) (editor : Editor σ) : Prop extends
    Arranged editor where
  workspaceOf : ∀ id, editor.blocks.contains id →
    (editor.block id).workspace = workspace

/-- Links are mutual and join an output and an input of different blocks. -/
structure Linking (editor : Editor σ) : Prop where
  back : ∀ this other, (editor.connection this).target = some other →
    (editor.connection other).target = some this
  faces : ∀ this other, (editor.connection this).target = some other →
    (editor.connection this).block ≠ (editor.connection other).block ∧
      (editor.connection this).isOutput ≠ (editor.connection other).isOutput

/-- Only existing connections are linked. -/
theorem contains_of_target
    (linked : (editor.connection this).target = some other) :
    editor.connections.contains this := by
  by_cases known : editor.connections.contains this
  · exact known
  · unfold connection at linked
    rw [getD_of_not_contains known] at linked
    cases linked

/-- Only existing blocks have rows. -/
theorem contains_of_row (member : row ∈ (editor.block id).rows) :
    editor.blocks.contains id := by
  by_cases known : editor.blocks.contains id
  · exact known
  · unfold block at member
    rw [getD_of_not_contains known] at member
    cases member

theorem contains_of_output (has : (editor.block id).output = some connection) :
    editor.blocks.contains id := by
  by_cases known : editor.blocks.contains id
  · exact known
  · unfold block at has
    rw [getD_of_not_contains known] at has
    cases has

theorem contains_of_field (member : field ∈ (editor.block id).fields) :
    editor.blocks.contains id := by
  obtain ⟨row, inRows, _⟩ := List.mem_flatMap.mp member
  exact contains_of_row inRows

theorem contains_of_attached (attached : (editor.field field).block = some id) :
    editor.fields.contains field := by
  by_cases known : editor.fields.contains field
  · exact known
  · unfold Editor.field at attached
    rw [getD_of_not_contains known] at attached
    cases attached

theorem fieldKey_of_attached
    (attached : (editor.field field).block = some block) :
    editor.fieldKey field =
      .ok ⟨(editor.block block).id, .field, (editor.field field).name⟩ := by
  unfold fieldKey
  dsimp only
  rw [attached]

theorem fieldKey_of_detached (detached : (editor.field field).block = none) :
    editor.fieldKey field = .error
      (.fieldDetached (editor.field field).name) := by
  unfold fieldKey
  dsimp only
  rw [detached]

theorem isOutput_eq_of_key {left right : Connection}
    (same : left.key = right.key) :
    left.isOutput = right.isOutput := by
  unfold Connection.isOutput
  rw [same]

/-- The states agree on which blocks, connections and fields there are and how
they belong together. -/
structure SameLayout (before after : Editor σ) : Prop where
  knownBlock : ∀ id, after.blocks.contains id ↔ before.blocks.contains id
  block : ∀ id, (after.block id).bare = (before.block id).bare
  knownConnection : ∀ id, after.connections.contains id ↔
    before.connections.contains id
  connectionKey : ∀ id, (after.connection id).key = (before.connection id).key
  connectionBlock : ∀ id, (after.connection id).block =
    (before.connection id).block
  knownField : ∀ id, after.fields.contains id ↔ before.fields.contains id
  fieldBlock : ∀ id, (after.field id).block = (before.field id).block

section Keep

variable {before after : Editor σ}

theorem SameLayout.of_tables (blocks : after.blocks = before.blocks)
    (connections : after.connections = before.connections)
    (fields : after.fields = before.fields) : SameLayout before after where
  knownBlock := fun id => by rw [blocks]
  block := fun id => by unfold Editor.block; rw [blocks]
  knownConnection := fun id => by rw [connections]
  connectionKey := fun id => by unfold Editor.connection; rw [connections]
  connectionBlock := fun id => by unfold Editor.connection; rw [connections]
  knownField := fun id => by rw [fields]
  fieldBlock := fun id => by unfold Editor.field; rw [fields]

theorem Steady.sameLayout (steady : Steady before after) :
    SameLayout before after where
  knownBlock := steady.knownBlock
  block := steady.block
  knownConnection := contains_congr steady.connectionKeys
  connectionKey := steady.connectionKey
  connectionBlock := steady.connectionBlock
  knownField := contains_congr steady.fieldKeys
  fieldBlock := steady.fieldBlock

theorem SameLayout.trans {middle : Editor σ} (first : SameLayout before middle)
    (second : SameLayout middle after) : SameLayout before after where
  knownBlock := fun id => (second.knownBlock id).trans (first.knownBlock id)
  block := fun id => (second.block id).trans (first.block id)
  knownConnection := fun id => (second.knownConnection id).trans
    (first.knownConnection id)
  connectionKey := fun id => (second.connectionKey id).trans
    (first.connectionKey id)
  connectionBlock := fun id => (second.connectionBlock id).trans
    (first.connectionBlock id)
  knownField := fun id => (second.knownField id).trans (first.knownField id)
  fieldBlock := fun id => (second.fieldBlock id).trans (first.fieldBlock id)

theorem sameLayout_setTarget (known : editor.connections.contains connection)
    (target : Option ConnectionId) : SameLayout editor
      (editor.setTarget connection target) :=
  { SameLayout.of_tables rfl rfl rfl with
    knownConnection := contains_congr (keys_insert_of_contains _ known)
    connectionKey := fun _ => read_getD_insert Connection.key rfl
    connectionBlock := fun _ => read_getD_insert Connection.block rfl }

theorem sameLayout_setTargets (knownThis : editor.connections.contains this)
    (knownOther : editor.connections.contains other)
    (thisTarget otherTarget : Option ConnectionId) :
    SameLayout editor ((editor.setTarget this thisTarget).setTarget other
      otherTarget) := by
  have first := sameLayout_setTarget knownThis thisTarget
  exact first.trans
    (sameLayout_setTarget ((first.knownConnection other).mpr knownOther)
      otherTarget)

theorem sameLayout_setValue (known : editor.fields.contains field)
    (value : FieldValue) :
    SameLayout editor (editor.updateField field fun entry => { entry with
      value }) :=
  { SameLayout.of_tables rfl rfl rfl with
    knownField := contains_congr (keys_insert_of_contains _ known)
    fieldBlock := fun _ => read_getD_insert Field.block rfl }

theorem Arranged.same (arranged : Arranged before)
    (same : SameLayout before after) :
    Arranged after := by
  have blockId : ∀ id, (after.block id).id = (before.block id).id :=
    fun id => (congrArg Block.id (same.block id) :)
  have blockOutput : ∀ id, (after.block id).output = (before.block id).output :=
    fun id => (congrArg Block.output (same.block id) :)
  have blockRows : ∀ id, (after.block id).rows = (before.block id).rows :=
    fun id => (congrArg Block.rows (same.block id) :)
  have blockFields : ∀ id, (after.block id).fields = (before.block id).fields :=
    fun id => (congrArg Block.fields (same.block id) :)
  constructor
  · simpa only [same.knownConnection, same.knownBlock, same.connectionBlock]
      using arranged.home
  · simpa only [same.knownConnection, same.connectionKey, same.connectionBlock,
      blockId] using arranged.homeKey
  · simpa only [same.knownConnection, same.connectionKey] using arranged.kind
  · simpa only [same.knownConnection, same.connectionKey, same.connectionBlock,
      blockOutput] using arranged.output
  · simpa only [same.knownConnection, same.connectionKey, same.connectionBlock,
      blockRows] using arranged.row
  · simpa only [same.knownField, blockFields, same.fieldBlock]
      using arranged.rowField
  · simpa only [same.knownBlock, same.fieldBlock] using arranged.fieldHome

theorem Layout.same (layout : Layout workspace before)
    (same : SameLayout before after) :
    Layout workspace after where
  toArranged := layout.toArranged.same same
  workspaceOf := by
    have blockWorkspace :
        ∀ id, (after.block id).workspace = (before.block id).workspace :=
      fun id => (congrArg Block.workspace (same.block id) :)
    simpa only [same.knownBlock, blockWorkspace] using layout.workspaceOf

/-- Changes that leave the connections alone but for their checks. -/
theorem Linking.same (linking : Linking before)
    (connection : ∀ id, (after.connection id).bare =
      (before.connection id).bare) :
    Linking after := by
  have target : ∀ id, (after.connection id).target =
      (before.connection id).target :=
    fun id => (congrArg Connection.target (connection id) :)
  have block : ∀ id, (after.connection id).block =
      (before.connection id).block :=
    fun id => (congrArg Connection.block (connection id) :)
  have side : ∀ id, (after.connection id).isOutput =
      (before.connection id).isOutput :=
    fun id => isOutput_eq_of_key (congrArg Connection.key (connection id) :)
  constructor
  · simpa only [target] using linking.back
  · simpa only [target, block, side] using linking.faces

end Keep

section Grow

/-- A connection of a kind that belongs to a block. -/
abbrev Fits (editor : Editor σ) (block : BlockId) (kind : SlotKind)
    (connection : ConnectionId) : Prop :=
  editor.connections.contains connection ∧
    (editor.connection connection).block = block ∧
    (editor.connection connection).key.kind = kind

theorem fits_withConnection (editor : Editor σ) (block : BlockId)
    (kind : SlotKind) (name : String) (check : Check) :
    (editor.withConnection block kind name check).Fits block kind
      editor.nextConnection := by
  rw [Fits, connection_withConnection, if_pos rfl]
  exact ⟨(contains_insert _ _ _ _).mpr (Or.inl rfl), rfl, rfl⟩

section Made

variable (arranged : Arranged editor)

include arranged

theorem Arranged.blockMade (tables : editor.SlotTables)
    (workspace : WorkspaceId) (type id : String) (extensions : List String) :
    Arranged (editor.addBlock { workspace, type, id, extensions }) := by
  have grown : ∀ other, editor.blocks.contains other →
      (editor.addBlock { workspace, type, id, extensions }).blocks.contains
        other :=
    fun other known => (contains_insert _ _ _ _).mpr (Or.inr known)
  constructor
  · intro connection known
    exact grown _ (arranged.home connection known)
  · intro connection known
    exact (arranged.homeKey connection known).trans
      (congrArg Block.id
        (tables.block_addBlock (arranged.home connection known))).symm
  · exact arranged.kind
  · intro other connection has
    rw [block_addBlock] at has
    split at has
    · cases has
    · exact arranged.output other connection has
  · intro other row connection member has
    rw [block_addBlock] at member
    split at member
    · cases member
    · exact arranged.row other row connection member has
  · intro other field member
    rw [block_addBlock] at member
    split at member
    · cases member
    · exact arranged.rowField other field member
  · intro field other attached
    exact grown _ (arranged.fieldHome field other attached)

theorem Arranged.withConnection (tables : editor.SlotTables)
    (knownBlock : editor.blocks.contains block) {kind : SlotKind}
    (isConnection : kind ≠ .field) (name : String) (check : Check) :
    Arranged (editor.withConnection block kind name check) := by
  have outgrows := outgrows_withConnection tables block kind name check
  have cases : ∀ id,
      (editor.withConnection block kind name check).connections.contains id →
      editor.nextConnection = id ∨ editor.connections.contains id :=
    fun id known => (contains_insert _ _ _ _).mp known
  have fits : ∀ {id slotKind connection}, editor.Fits id slotKind connection →
      (editor.withConnection block kind name check).Fits id slotKind
        connection := by
    rintro id slotKind connection ⟨earlier, sameBlock, sameKind⟩
    rw [Fits, outgrows.connectionBlock connection earlier,
      outgrows.connectionKey connection earlier]
    exact ⟨outgrows.knownConnection connection earlier, sameBlock, sameKind⟩
  refine ⟨?_, ?_, ?_, fun id connection has =>
    fits (arranged.output id connection has),
    fun id row connection member has =>
      fits (arranged.row id row connection member has),
    arranged.rowField, arranged.fieldHome⟩
  · intro id known
    rcases cases id known with rfl | earlier
    · rw [connection_withConnection, if_pos rfl]
      exact knownBlock
    · rw [outgrows.connectionBlock id earlier]
      exact arranged.home id earlier
  · intro id known
    rcases cases id known with rfl | earlier
    · rw [connection_withConnection, if_pos rfl]
      rfl
    · rw [outgrows.connectionBlock id earlier,
        outgrows.connectionKey id earlier]
      exact arranged.homeKey id earlier
  · intro id known
    rcases cases id known with rfl | earlier
    · rw [connection_withConnection, if_pos rfl]
      exact isConnection
    · rw [outgrows.connectionKey id earlier]
      exact arranged.kind id earlier

/-- Changing a block: what is new in it has to fit. -/
theorem Arranged.updateBlock (change : Block → Block)
    (knownBlock : editor.blocks.contains block)
    (sameId : ∀ entry, (change entry).id = entry.id)
    (output : ∀ connection, (change (editor.block block)).output =
      some connection →
      editor.Fits block .output connection)
    (row : ∀ row connection, row ∈ (change (editor.block block)).rows →
      row.connection = some connection → editor.Fits block .input connection)
    (rowField : ∀ field, field ∈ (change (editor.block block)).fields →
      editor.fields.contains field ∧ (editor.field field).block ≠ none) :
    Arranged (editor.updateBlock block change) := by
  have knownSame := contains_congr
    (keys_insert_of_contains (change (editor.block block)) knownBlock)
  refine ⟨?_, ?_, arranged.kind, ?_, ?_, ?_, ?_⟩
  · intro id contained
    exact (knownSame _).mpr (arranged.home id contained)
  · intro id contained
    have earlier := arranged.homeKey id contained
    rw [block_updateBlock]
    split
    · rename_i same
      rw [sameId, same]
      exact earlier
    · exact earlier
  · intro id connection has
    rw [block_updateBlock] at has
    split at has
    · rename_i same
      subst same
      exact output connection has
    · exact arranged.output id connection has
  · intro id other connection member has
    rw [block_updateBlock] at member
    split at member
    · rename_i same
      subst same
      exact row other connection member has
    · exact arranged.row id other connection member has
  · intro id field member
    rw [block_updateBlock] at member
    split at member
    · exact rowField field member
    · exact arranged.rowField id field member
  · intro field id attached
    exact (knownSame _).mpr (arranged.fieldHome field id attached)

theorem Arranged.appendRow (knownBlock : editor.blocks.contains block)
    (fits : ∀ connection, row.connection = some connection →
      editor.Fits block .input connection) (noFields : row.fields = []) :
    Arranged (editor.appendRow block row) := by
  refine arranged.updateBlock _ knownBlock (fun _ => rfl)
    (arranged.output block) ?_ ?_
  · intro other connection member has
    rcases List.mem_append.mp member with earlier | isRow
    · exact arranged.row block other connection earlier has
    · rw [List.mem_singleton] at isRow
      subst isRow
      exact fits connection has
  · intro field inBlock
    obtain ⟨other, member, inRow⟩ := List.mem_flatMap.mp inBlock
    rcases List.mem_append.mp member with earlier | isRow
    · exact arranged.rowField block field
        (List.mem_flatMap.mpr ⟨other, earlier, inRow⟩)
    · rw [List.mem_singleton] at isRow
      subst isRow
      rw [noFields] at inRow
      cases inRow

theorem Arranged.outputMade (tables : editor.SlotTables)
    (known : editor.blocks.contains block) (check : Check) :
    Arranged ((editor.withConnection block .output "output" check).updateBlock
      block
      fun entry => { entry with output := some editor.nextConnection }) := by
  have made := arranged.withConnection tables known
    (show SlotKind.output ≠ .field by decide) "output" check
  refine made.updateBlock _ known (fun _ => rfl) ?_ (made.row block)
    (made.rowField block)
  intro connection isNext
  cases isNext
  exact fits_withConnection editor block .output "output" check

theorem Arranged.inputMade (tables : editor.SlotTables)
    (known : editor.blocks.contains block) (name : String) (check : Check) :
    Arranged ((editor.withConnection block .input name check).appendRow block
      { name, connection := some editor.nextConnection }) := by
  refine (arranged.withConnection tables known
    (show SlotKind.input ≠ .field by decide) name check).appendRow known ?_ rfl
  intro connection isNext
  cases isNext
  exact fits_withConnection editor block .input name check

theorem Arranged.fieldMade (tables : editor.SlotTables)
    {entry : Field} (detached : entry.block = none) :
    Arranged (editor.addField entry) := by
  refine ⟨arranged.home, arranged.homeKey, arranged.kind, arranged.output,
    arranged.row, ?_, ?_⟩
  · intro id field member
    obtain ⟨known, attached⟩ := arranged.rowField id field member
    refine ⟨(contains_insert _ _ _ _).mpr (Or.inr known), ?_⟩
    rw [tables.field_addField known]
    exact attached
  · intro field id attached
    rw [field_addField] at attached
    split at attached
    · rw [detached] at attached
      cases attached
    · exact arranged.fieldHome field id attached

end Made

theorem mem_modify {α : Type} {items : List α} {place : Nat}
    {change : α → α} {item : α} (member : item ∈ items.modify place change) :
    item ∈ items ∨ ∃ old ∈ items, item = change old := by
  obtain ⟨index, found⟩ := List.mem_iff_getElem?.mp member
  rw [List.getElem?_modify] at found
  obtain ⟨old, atIndex, changed⟩ := Option.map_eq_some_iff.mp found
  have present := List.mem_of_getElem? atIndex
  split at changed
  · exact Or.inr ⟨old, present, changed.symm⟩
  · exact Or.inl (changed ▸ present)

theorem Arranged.fieldAttached (arranged : Arranged editor) (place : Nat)
    (knownBlock : editor.blocks.contains block)
    (knownField : editor.fields.contains field) :
    Arranged (editor.attachField block place field) := by
  have knownSame := contains_congr (keys_insert_of_contains
    { editor.field field with block := some block } knownField)
  have attached : Arranged
      (editor.updateField field fun entry => { entry with
        block := some block }) := by
    refine ⟨arranged.home, arranged.homeKey, arranged.kind, arranged.output,
      arranged.row, ?_, ?_⟩
    · intro id other member
      obtain ⟨known, earlier⟩ := arranged.rowField id other member
      refine ⟨(knownSame other).mpr known, ?_⟩
      rw [field_updateField]
      split
      · simp
      · exact earlier
    · intro other id has
      rw [field_updateField] at has
      split at has
      · cases has
        exact knownBlock
      · exact arranged.fieldHome other id has
  refine attached.updateBlock _ knownBlock (fun _ => rfl)
    (arranged.output block) ?_ ?_
  · intro row connection member has
    rcases mem_modify member with earlier | ⟨old, earlier, changed⟩
    · exact arranged.row block row connection earlier has
    · subst changed
      exact arranged.row block old connection earlier has
  · intro other inBlock
    obtain ⟨row, member, inRow⟩ := List.mem_flatMap.mp inBlock
    rcases mem_modify member with earlier | ⟨old, earlier, changed⟩
    · exact attached.rowField block other
        (List.mem_flatMap.mpr ⟨row, earlier, inRow⟩)
    · subst changed
      rcases List.mem_append.mp inRow with before | isField
      · exact attached.rowField block other
          (List.mem_flatMap.mpr ⟨old, earlier, before⟩)
      · rw [List.mem_singleton] at isField
        subst isField
        refine ⟨(knownSame other).mpr knownField, ?_⟩
        rw [field_updateField, if_pos rfl]
        simp

theorem Layout.blockMade (layout : Layout workspace editor)
    (tables : editor.SlotTables) (type id : String) (extensions : List String) :
    Layout workspace (editor.addBlock { workspace, type, id, extensions }) where
  toArranged := layout.toArranged.blockMade tables workspace type id extensions
  workspaceOf := by
    intro other known
    rw [block_addBlock]
    split
    · rfl
    · rename_i differs
      apply layout.workspaceOf
      exact ((contains_insert _ _ _ _).mp known).resolve_left differs

/-- A block that is changed stays in its workspace. -/
theorem Layout.updateBlock {middle : Editor σ}
    (layout : Layout workspace editor) {change : Block → Block}
    (sameBlocks : middle.blocks = editor.blocks)
    (known : editor.blocks.contains block)
    (sameWorkspace : ∀ entry, (change entry).workspace = entry.workspace)
    (arranged : Arranged (middle.updateBlock block change)) :
    Layout workspace (middle.updateBlock block change) where
  toArranged := arranged
  workspaceOf := by
    intro id contained
    have sameBlock : ∀ other, middle.block other = editor.block other := by
      intro other
      unfold Editor.block
      rw [sameBlocks]
    have earlier : editor.blocks.contains id := by
      rcases (contains_insert _ _ _ _).mp contained with isBlock | inBlocks
      · rwa [← isBlock]
      · rwa [sameBlocks] at inBlocks
    rw [block_updateBlock, sameBlock, sameBlock]
    split
    · rename_i same
      rw [sameWorkspace, same]
      exact layout.workspaceOf id earlier
    · exact layout.workspaceOf id earlier

theorem Linking.withConnection (linking : Linking editor)
    (tables : editor.SlotTables) (block : BlockId) (kind : SlotKind)
    (name : String) (check : Check) :
    Linking (editor.withConnection block kind name check) := by
  have target : ∀ this other,
      ((editor.withConnection block kind name check).connection this).target =
        some other →
        (editor.connection this).target = some other := by
    intro this other linked
    rw [connection_withConnection] at linked
    split at linked
    · cases linked
    · exact linked
  have old : ∀ this, editor.connections.contains this →
      (editor.withConnection block kind name check).connection this =
        editor.connection this :=
    fun _ known => connection_withConnection_of_contains tables block kind
      name check known
  constructor
  · intro this other linked
    have back := linking.back this other (target this other linked)
    rwa [old other (contains_of_target back)]
  · intro this other linked
    have earlier := target this other linked
    rw [old this (contains_of_target earlier),
      old other (contains_of_target (linking.back this other earlier))]
    exact linking.faces this other earlier

section Targets

variable (editor this other) (thisTarget otherTarget : Option ConnectionId)

theorem connection_setTargets (id : ConnectionId) :
    ((editor.setTarget this thisTarget).setTarget other otherTarget).connection
      id =
      if other = id then { editor.connection id with target := otherTarget }
      else if this = id then { editor.connection id with target := thisTarget }
      else editor.connection id := by
  simp only [setTarget, connection_updateConnection]
  by_cases isOther : other = id
  · subst isOther
    by_cases isThis : this = other
    · subst isThis
      simp
    · simp [isThis]
  · by_cases isThis : this = id
    · subst isThis
      simp [isOther]
    · simp [isOther, isThis]

theorem target_setTargets (id : ConnectionId) :
    (((editor.setTarget this thisTarget).setTarget other otherTarget).connection
      id).target =
      if other = id then otherTarget
      else if this = id then thisTarget
      else (editor.connection id).target := by
  rw [connection_setTargets]
  split
  · rfl
  · split <;> rfl

theorem check_setTargets (id : ConnectionId) :
    (((editor.setTarget this thisTarget).setTarget other otherTarget).connection
      id).check =
      (editor.connection id).check := by
  rw [connection_setTargets]
  split
  · rfl
  · split <;> rfl

theorem slotCheck_setTargets (slot : Slot) :
    ((editor.setTarget this thisTarget).setTarget other otherTarget).slotCheck
      slot =
      editor.slotCheck slot := by
  cases slot with
  | field field => rfl
  | connection connection =>
      exact check_setTargets editor this other _ _ connection

theorem slotKey_setTargets (slot : Slot) :
    ((editor.setTarget this thisTarget).setTarget other otherTarget).slotKey
      slot =
      editor.slotKey slot := by
  cases slot with
  | field field => rfl
  | connection connection =>
      simp only [slotKey, connection_setTargets]
      split
      · rfl
      · split <;> rfl

end Targets

theorem slotCheck_setValue (editor : Editor σ) (field : FieldId)
    (value : FieldValue) (slot : Slot) :
    (editor.updateField field fun entry => { entry with
      value }).slotCheck slot =
      editor.slotCheck slot := by
  cases slot with
  | connection connection => rfl
  | field other => exact read_getD_insert Field.check rfl

theorem slotKey_updateField (editor : Editor σ) (field : FieldId)
    {change : Field → Field}
    (sameName : ∀ entry, (change entry).name = entry.name)
    (sameBlock : ∀ entry, (change entry).block = entry.block) (slot : Slot) :
    (editor.updateField field change).slotKey slot = editor.slotKey slot := by
  cases slot with
  | connection connection => rfl
  | field other =>
      unfold slotKey fieldKey
      by_cases here : field = other
      · subst here
        simp only [field_updateField, if_pos, sameName, sameBlock]
        rfl
      · simp only [field_updateField, if_neg here]
        rfl

theorem slotKey_setValue (editor : Editor σ) (field : FieldId)
    (value : FieldValue) :
    ∀ slot, (editor.updateField field fun entry => { entry with
      value }).slotKey slot =
      editor.slotKey slot :=
  slotKey_updateField editor field (fun _ => rfl) fun _ => rfl

theorem Linking.unlinked (linking : Linking editor)
    (linked : (editor.connection this).target = some other) :
    Linking ((editor.setTarget this none).setTarget other none) := by
  have back := linking.back this other linked
  have same := sameLayout_setTargets (contains_of_target linked)
    (contains_of_target back) none none
  have earlier : ∀ left right,
      (((editor.setTarget this none).setTarget other none).connection
        left).target = some right →
        (editor.connection left).target = some right ∧ other ≠ left ∧
          this ≠ left := by
    intro left right joined
    rw [target_setTargets] at joined
    split at joined
    · cases joined
    · split at joined
      · cases joined
      · exact ⟨joined, by assumption, by assumption⟩
  constructor
  · intro left right joined
    obtain ⟨before, notOther, notThis⟩ := earlier left right joined
    have backBefore := linking.back left right before
    rw [target_setTargets, if_neg, if_neg]
    · exact backBefore
    · intro isRight
      subst isRight
      rw [linked] at backBefore
      cases backBefore
      exact notOther rfl
    · intro isRight
      subst isRight
      rw [back] at backBefore
      cases backBefore
      exact notThis rfl
  · intro left right joined
    obtain ⟨before, _, _⟩ := earlier left right joined
    rw [same.connectionBlock, same.connectionBlock,
      isOutput_eq_of_key (same.connectionKey left),
      isOutput_eq_of_key (same.connectionKey right)]
    exact linking.faces left right before

theorem canFace_iff :
    editor.canFace this other = true ↔
      this ≠ other ∧ (editor.connection this).block ≠
        (editor.connection other).block ∧
        (editor.connection this).isOutput ≠
          (editor.connection other).isOutput := by
  simp [canFace, and_assoc]

theorem Linking.linked (linking : Linking editor)
    (knownThis : editor.connections.contains this)
    (knownOther : editor.connections.contains other)
    (freeThis : (editor.connection this).target = none)
    (freeOther : (editor.connection other).target = none)
    (fits : editor.canFace this other = true) :
    Linking ((editor.setTarget this (some other)).setTarget other
      (some this)) := by
  obtain ⟨differ, blocks, sides⟩ := canFace_iff.mp fits
  have same := sameLayout_setTargets knownThis knownOther
    (some other) (some this)
  have cases : ∀ left right,
      (((editor.setTarget this (some other)).setTarget other
        (some this)).connection left).target = some right →
        (left = other ∧ right = this) ∨ (left = this ∧ right = other) ∨
          (editor.connection left).target = some right := by
    intro left right joined
    rw [target_setTargets] at joined
    split at joined
    · rename_i isOther
      cases joined
      exact Or.inl ⟨isOther.symm, rfl⟩
    · split at joined
      · rename_i isThis
        cases joined
        exact Or.inr (Or.inl ⟨isThis.symm, rfl⟩)
      · exact Or.inr (Or.inr joined)
  constructor
  · intro left right joined
    rcases cases left right joined with ⟨rfl, rfl⟩ | ⟨rfl, rfl⟩ | before
    · rw [target_setTargets, if_neg (Ne.symm differ), if_pos rfl]
    · rw [target_setTargets, if_pos rfl]
    · have back := linking.back left right before
      rw [target_setTargets, if_neg, if_neg]
      · exact back
      · intro isRight
        subst isRight
        rw [freeThis] at back
        cases back
      · intro isRight
        subst isRight
        rw [freeOther] at back
        cases back
  · intro left right joined
    rw [same.connectionBlock, same.connectionBlock,
      isOutput_eq_of_key (same.connectionKey left),
      isOutput_eq_of_key (same.connectionKey right)]
    rcases cases left right joined with ⟨rfl, rfl⟩ | ⟨rfl, rfl⟩ | before
    · exact ⟨blocks.symm, sides.symm⟩
    · exact ⟨blocks, sides⟩
    · exact linking.faces left right before

end Grow

end TypeFlow.Editor
