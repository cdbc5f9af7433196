import TypeFlow.Proofs.Host.Reached
import TypeFlow.Proofs.Plugging

/-!
# Slots and the blocks that list them

Every input has a row on its block, and every attached field stands in a row of
its block.  A field that was moved is listed by its earlier blocks as well.  The
target of a binding stays with the block that the binding was made for, and a
binding listens only under keys that its sources have or once had.  This holds
whatever is moved and whoever listens.  If no two blocks share an id, whoever
listens under the key of a slot has that slot among its sources.
-/

namespace TypeFlow.Editor

variable {σ : Type} {editor : Editor σ} {block : BlockId}
  {workspace : WorkspaceId} {engine : EngineId} {pending : Option WiringId}
  {slot : Slot}

/-- The slot is a connection of the block or stands in one of its rows. -/
def Belongs (editor : Editor σ) (block : BlockId) : Slot → Prop
  | .connection connection =>
      editor.connections.contains connection ∧
        (editor.connection connection).block = block
  | .field field => field ∈ (editor.block block).fields

instance decidableBelongs (editor : Editor σ) (block : BlockId) :
    (slot : Slot) → Decidable (editor.Belongs block slot)
  | .connection connection =>
      inferInstanceAs
        (Decidable (editor.connections.contains connection = true ∧
        (editor.connection connection).block = block))
  | .field field =>
      inferInstanceAs (Decidable (field ∈ (editor.block block).fields))

/-- Whoever listens to the slot may do so under this key. -/
def HeardAt (editor : Editor σ) (key : SlotKey) : Slot → Prop
  | .connection connection =>
      editor.connections.contains connection ∧
        (editor.connection connection).key = key
  | .field field => ∃ block, field ∈ (editor.block block).fields ∧
      key = ⟨(editor.block block).id, .field, (editor.field field).name⟩

/-- Blocks keep their rows, and rows keep their connections and fields. -/
def Enlarged (before after : Editor σ) : Prop :=
  ∀ block row, row ∈ (before.block block).rows →
    ∃ grown ∈ (after.block block).rows,
    grown.connection = row.connection ∧ ∀ field ∈ row.fields,
      field ∈ grown.fields

section Enlarged

variable {before middle after : Editor σ}

theorem Enlarged.of_rows
    (same : ∀ block, (after.block block).rows = (before.block block).rows) :
    Enlarged before after := by
  intro block row member
  refine ⟨row, ?_, rfl, fun _ => id⟩
  rw [same]
  exact member

theorem Enlarged.of_blocks (same : after.blocks = before.blocks) :
    Enlarged before after := by
  apply Enlarged.of_rows
  intro block
  unfold Editor.block
  rw [same]

theorem Enlarged.trans (first : Enlarged before middle)
    (second : Enlarged middle after) :
    Enlarged before after := by
  intro block row member
  obtain ⟨grown, inMiddle, sameConnection, keeps⟩ := first block row member
  obtain ⟨final, inAfter, finalConnection, keepsAll⟩ :=
    second block grown inMiddle
  exact ⟨final, inAfter, finalConnection.trans sameConnection,
    fun field inRow => keepsAll field (keeps field inRow)⟩

theorem Enlarged.fields (enlarged : Enlarged before after) {field : FieldId}
    (member : field ∈ (before.block block).fields) :
    field ∈ (after.block block).fields := by
  obtain ⟨row, inRows, inRow⟩ := List.mem_flatMap.mp member
  obtain ⟨grown, inAfter, _, keeps⟩ := enlarged block row inRows
  exact List.mem_flatMap.mpr ⟨grown, inAfter, keeps field inRow⟩

/-- A change of one block that keeps its rows. -/
theorem enlarged_updateBlock {change : Block → Block}
    (sameBlocks : middle.blocks = before.blocks)
    (grows : ∀ row ∈ (before.block block).rows,
      ∃ grown ∈ (change (before.block block)).rows,
      grown.connection = row.connection ∧ ∀ field ∈ row.fields,
      field ∈ grown.fields) :
    Enlarged before (middle.updateBlock block change) := by
  have blockOf : ∀ other, middle.block other = before.block other := by
    intro other
    unfold Editor.block
    rw [sameBlocks]
  intro other row member
  rw [block_updateBlock]
  split
  · rename_i here
    subst here
    rw [blockOf]
    exact grows row member
  · rw [blockOf]
    exact ⟨row, member, rfl, fun _ => id⟩

theorem enlarged_appendRow (sameBlocks : middle.blocks = before.blocks)
    (row : Row) :
    Enlarged before (middle.appendRow block row) := by
  apply enlarged_updateBlock sameBlocks
  intro other member
  exact ⟨other, List.mem_append_left [row] member, rfl, fun _ => id⟩

theorem enlarged_blockMade (tables : editor.SlotTables) (entry : Block) :
    Enlarged editor (editor.addBlock entry) := by
  intro block row member
  refine ⟨row, ?_, rfl, fun _ => id⟩
  rwa [tables.block_addBlock (contains_of_row member)]

theorem enlarged_fieldAttached (block : BlockId) (place : Nat)
    (field : FieldId) :
    Enlarged editor (editor.attachField block place field) := by
  refine enlarged_updateBlock rfl ?_
  intro row member
  obtain ⟨index, atIndex⟩ := List.mem_iff_getElem?.mp member
  by_cases here : place = index
  · refine ⟨{ row with fields := row.fields ++ [field] }, ?_, rfl,
      fun _ => List.mem_append_left [field]⟩
    refine List.mem_of_getElem? (i := index) ?_
    rw [List.getElem?_modify, atIndex, Option.map_eq_map, Option.map_some,
      if_pos here]
  · refine ⟨row, ?_, rfl, fun _ => id⟩
    refine List.mem_of_getElem? (i := index) ?_
    rw [List.getElem?_modify, atIndex, Option.map_eq_map, Option.map_some,
      if_neg here]

theorem Change.enlarged {liberties : Liberties} {pending' : Option WiringId}
    (change : Change liberties workspace engine pending before pending' after)
    (tables : before.SlotTables) : Enlarged before after := by
  cases change with
  | steady steady =>
      exact Enlarged.of_rows fun id => (congrArg Block.rows (steady.block id) :)
  | blockMade type id extensions => exact enlarged_blockMade tables _
  | outputMade check known replaces =>
      exact enlarged_updateBlock rfl fun row member =>
        ⟨row, member, rfl, fun _ => id⟩
  | inputMade check known free => exact enlarged_appendRow rfl _
  | dummyMade name known => exact enlarged_appendRow rfl _
  | fieldAttached knownBlock inRange knownField free moves =>
      exact enlarged_fieldAttached _ _ _
  | assembled offered step =>
      cases step with
      | ripple rippled =>
          exact Enlarged.of_rows fun id =>
            (congrArg Block.rows (rippled.toSteady.block id) :)
      | bind => exact Enlarged.of_blocks rfl
      | listen => exact Enlarged.of_blocks rfl
  | closed mine known isOpen =>
      exact Enlarged.of_blocks (blocks_closeWiring _ _)
  | fieldMade => exact Enlarged.of_blocks rfl
  | valueSet => exact Enlarged.of_blocks rfl
  | unlinked => exact Enlarged.of_blocks rfl
  | linked => exact Enlarged.of_blocks rfl
  | variableMade => exact Enlarged.of_blocks rfl
  | begun => exact Enlarged.of_blocks rfl
  | recorded => exact Enlarged.of_blocks rfl
  | dropped => exact Enlarged.of_blocks rfl
  | forgotten => exact Enlarged.of_blocks rfl
  | listened => exact Enlarged.of_blocks rfl
  | unlistened => exact Enlarged.of_blocks rfl

theorem Outgrows.belongs (outgrows : Outgrows before after)
    (enlarged : Enlarged before after) (belongs : before.Belongs block slot) :
    after.Belongs block slot := by
  cases slot with
  | connection connection =>
      obtain ⟨known, onBlock⟩ := belongs
      refine ⟨outgrows.knownConnection connection known, ?_⟩
      rw [outgrows.connectionBlock connection known]
      exact onBlock
  | field field => exact enlarged.fields belongs

/-- Where blocks and slots stay, blocks have no other slots than before. -/
theorem SameLayout.offers (same : SameLayout before after)
    (arranged : Arranged before) (outgrows : Outgrows before after)
    (offers : after.Offers block slot) :
    before.Offers block slot := by
  have sameOutput : (after.block block).output = (before.block block).output :=
    (congrArg Block.output (same.block block) :)
  have sameRows : (after.block block).rows = (before.block block).rows :=
    (congrArg Block.rows (same.block block) :)
  cases slot with
  | connection connection =>
      unfold Offers at offers ⊢
      rwa [sameOutput, sameRows] at offers
  | field field =>
      obtain ⟨member, isReference⟩ := offers
      unfold Block.fields at member
      rw [sameRows] at member
      rw [outgrows.fieldKind field (arranged.rowField block field member).1]
        at isReference
      exact ⟨member, isReference⟩

theorem Outgrows.heardAt (outgrows : Outgrows before after)
    (enlarged : Enlarged before after) (arranged : Arranged before)
    {key : SlotKey} (heard : before.HeardAt key slot) :
    after.HeardAt key slot := by
  cases slot with
  | connection connection =>
      obtain ⟨known, hasKey⟩ := heard
      refine ⟨outgrows.knownConnection connection known, ?_⟩
      rw [outgrows.connectionKey connection known]
      exact hasKey
  | field field =>
      obtain ⟨block, member, isKey⟩ := heard
      refine ⟨block, enlarged.fields member, ?_⟩
      rw [outgrows.blockId block (contains_of_field member),
        outgrows.fieldName field (arranged.rowField block field member).1]
      exact isKey

end Enlarged

theorem Arranged.belongs_of_offers (arranged : Arranged editor)
    (offers : editor.Offers block slot) : editor.Belongs block slot := by
  cases slot with
  | connection connection =>
      rcases offers with isOutput | ⟨row, member, has⟩
      · obtain ⟨known, onBlock, _⟩ := arranged.output block connection isOutput
        exact ⟨known, onBlock⟩
      · obtain ⟨known, onBlock, _⟩ :=
          arranged.row block row connection member has
        exact ⟨known, onBlock⟩
  | field field => exact offers.1

/-- Slots are listed by their blocks, and bindings keep to listed slots. -/
structure Housed (workspace : WorkspaceId) (editor : Editor σ) : Prop where
  row : ∀ connection, editor.connections.contains connection →
    (editor.connection connection).key.kind = .input →
      ∃ row ∈ (editor.block (editor.connection connection).block).rows,
        row.connection = some connection
  listed : ∀ field block, (editor.field field).block = some block →
    field ∈ (editor.block block).fields
  target : ∀ wiring key binding, editor.OpenBinding wiring key binding →
    editor.Belongs (editor.wiring wiring).block binding.target
  source : ∀ key wiring target,
    .recompute wiring target ∈ (editor.workspace workspace).registry.listenersAt
      key →
      ∀ binding, editor.OpenBinding wiring target binding →
        ∃ link ∈ binding.links, editor.HeardAt key link.source

namespace Housed

variable {settings : Settings} {workspace : WorkspaceId} {engine : EngineId}
  {pending : Option WiringId} {before after editor : Editor σ}

section Moves

variable (housed : Housed workspace before)

include housed

/-- Changes of blocks and slots. -/
theorem enlarge (arranged : Arranged before)
    (outgrows : Outgrows before after) (enlarged : Enlarged before after)
    (row : ∀ connection, after.connections.contains connection →
      before.connections.contains connection ∨
        ((after.connection connection).key.kind = .input →
          ∃ row ∈ (after.block (after.connection connection).block).rows,
            row.connection = some connection))
    (listed : ∀ field block, (after.field field).block = some block →
      (before.field field).block = some block ∨
        field ∈ (after.block block).fields)
    (wirings : ∀ wiring, (after.wiring wiring).bare =
      (before.wiring wiring).bare)
    (listeners : ∀ key, (after.workspace workspace).registry.listenersAt key =
      (before.workspace workspace).registry.listenersAt key) : Housed workspace
      after := by
  constructor
  · intro connection known isInput
    rcases row connection known with earlier | seated
    · rw [outgrows.connectionKey connection earlier] at isInput
      rw [outgrows.connectionBlock connection earlier]
      obtain ⟨row, member, has⟩ := housed.row connection earlier isInput
      obtain ⟨grown, inAfter, sameConnection, _⟩ := enlarged _ row member
      exact ⟨grown, inAfter, sameConnection.trans has⟩
    · exact seated isInput
  · intro field block attached
    rcases listed field block attached with earlier | here
    · exact enlarged.fields (housed.listed field block earlier)
    · exact here
  · intro wiring key binding isOpen
    rw [openBinding_of_bare (wirings wiring)] at isOpen
    have sameBlock : (after.wiring wiring).block =
        (before.wiring wiring).block :=
      (congrArg Wiring.block (wirings wiring) :)
    rw [sameBlock]
    exact outgrows.belongs enlarged (housed.target wiring key binding isOpen)
  · intro key wiring target listens binding isOpen
    rw [listeners] at listens
    rw [openBinding_of_bare (wirings wiring)] at isOpen
    obtain ⟨link, member, heard⟩ :=
      housed.source key wiring target listens binding isOpen
    exact ⟨link, member, outgrows.heardAt enlarged arranged heard⟩

/-- Changes of wirings and listeners. -/
theorem rewire (blocks : after.blocks = before.blocks)
    (connections : after.connections = before.connections)
    (fields : after.fields = before.fields)
    (target : ∀ wiring key binding, after.OpenBinding wiring key binding →
      before.Belongs (after.wiring wiring).block binding.target)
    (source : ∀ key wiring target,
      .recompute wiring target ∈
        (after.workspace workspace).registry.listenersAt key →
        ∀ binding, after.OpenBinding wiring target binding →
          ∃ link ∈ binding.links, before.HeardAt key link.source) :
    Housed workspace after := by
  have blockOf : ∀ id, after.block id = before.block id := fun id => by
    unfold Editor.block
    rw [blocks]
  have connectionOf : ∀ id, after.connection id = before.connection id :=
    fun id => by
    unfold Editor.connection
    rw [connections]
  have fieldOf : ∀ id, after.field id = before.field id := fun id => by
    unfold Editor.field
    rw [fields]
  have belongs : ∀ block slot, before.Belongs block slot →
      after.Belongs block slot := by
    intro block slot
    cases slot <;> simp only [Belongs, blockOf, connectionOf, connections,
      imp_self]
  have heardAt : ∀ key slot, before.HeardAt key slot →
      after.HeardAt key slot := by
    intro key slot
    cases slot <;> simp only [HeardAt, blockOf, connectionOf, fieldOf,
      connections, imp_self]
  constructor
  · simpa only [connections, connectionOf, blockOf] using housed.row
  · simpa only [fieldOf, blockOf] using housed.listed
  · intro wiring key binding isOpen
    exact belongs _ _ (target wiring key binding isOpen)
  · intro key wiring target listens binding isOpen
    obtain ⟨link, member, heard⟩ :=
      source key wiring target listens binding isOpen
    exact ⟨link, member, heardAt key _ heard⟩

/-- Changes that open nothing and add no listener. -/
theorem hush (blocks : after.blocks = before.blocks)
    (connections : after.connections = before.connections)
    (fields : after.fields = before.fields)
    (opens : ∀ wiring key binding, after.OpenBinding wiring key binding →
      before.OpenBinding wiring key binding ∧
        (after.wiring wiring).block = (before.wiring wiring).block)
    (listeners : ∀ key wiring target,
      .recompute wiring target ∈
        (after.workspace workspace).registry.listenersAt key →
        .recompute wiring target ∈
          (before.workspace workspace).registry.listenersAt key) :
    Housed workspace after := by
  apply housed.rewire blocks connections fields
  · intro wiring key binding isOpen
    obtain ⟨earlier, sameBlock⟩ := opens wiring key binding isOpen
    rw [sameBlock]
    exact housed.target wiring key binding earlier
  · intro key wiring target listens binding isOpen
    exact housed.source key wiring target
      (listeners key wiring target listens) binding
      (opens wiring target binding isOpen).1

/-- Changes that leave blocks and slots where they are. -/
theorem same (arranged : Arranged before)
    (outgrows : Outgrows before after) (same : SameLayout before after)
    (wirings : ∀ wiring, (after.wiring wiring).bare =
      (before.wiring wiring).bare)
    (listeners : ∀ key, (after.workspace workspace).registry.listenersAt key =
      (before.workspace workspace).registry.listenersAt key) : Housed workspace
      after := by
  refine housed.enlarge arranged outgrows
    (Enlarged.of_rows fun id => (congrArg Block.rows (same.block id) :)) ?_ ?_
      wirings listeners
  · intro connection known
    exact Or.inl ((same.knownConnection connection).mp known)
  · intro field block attached
    rw [same.fieldBlock] at attached
    exact Or.inl attached

theorem steady (arranged : Arranged before)
    (steady : Steady before after) : Housed workspace after :=
  housed.same arranged steady.outgrows steady.sameLayout
    (fun wiring => by rw [steady.wiring]) (fun key => by rw [steady.registry])

end Moves

variable (housed : Housed workspace editor)

include housed

theorem begun (engine : EngineId) (block : BlockId) (mode : WiringMode) :
    Housed workspace (editor.beginWiring engine block mode) := by
  refine housed.hush rfl rfl rfl ?_ (fun _ _ _ => id)
  intro wiring key binding isOpen
  have same := wiring_beginWiring_of_bound isOpen.2
  unfold OpenBinding at isOpen
  rw [same] at isOpen ⊢
  exact ⟨isOpen, rfl⟩

theorem bound {wiring : WiringId} {slots : Slot → Prop} {key : SlotKey}
    {binding : Binding}
    (sound : Sound settings workspace engine (some wiring) editor)
    (offered : ∀ slot, slots slot →
      editor.Offers (editor.wiring wiring).block slot)
      (isSlot : slots binding.target)
      (fresh : (editor.wiring wiring).bindings.get? key = none) :
    Housed workspace (editor.addBinding wiring key binding) := by
  have blockOf : ∀ other,
      ((editor.addBinding wiring key binding).wiring other).block =
      (editor.wiring other).block :=
    fun _ => OrderedMap.read_getD_insert Wiring.block rfl
  refine housed.rewire rfl rfl rfl ?_ ?_
  · intro other otherKey found isOpen
    rw [blockOf]
    rcases openBinding_addBinding isOpen with ⟨rfl, rfl, rfl⟩ | earlier
    · exact sound.layout.toArranged.belongs_of_offers (offered _ isSlot)
    · exact housed.target other otherKey found earlier
  · intro sourceKey other target listed found isOpen
    rcases openBinding_addBinding isOpen with ⟨rfl, rfl, _⟩ | earlier
    · exact absurd listed (sound.heard.unheard fresh sourceKey)
    · exact housed.source sourceKey other target listed found earlier

theorem heardAt_of_slotKey {key : SlotKey} (known : editor.Known slot)
    (hasKey : editor.slotKey slot = .ok key) : editor.HeardAt key slot := by
  cases slot with
  | connection connection => exact ⟨known, Except.ok.inj hasKey⟩
  | field field =>
      cases attached : (editor.field field).block with
      | none =>
          rw [slotKey, fieldKey_of_detached attached] at hasKey
          cases hasKey
      | some block =>
          rw [slotKey, fieldKey_of_attached attached] at hasKey
          exact ⟨block, housed.listed field block attached,
            (Except.ok.inj hasKey).symm⟩

theorem listen {wiring : WiringId} {key source : SlotKey}
    {binding : Binding} {link : Link}
    (sound : Sound settings workspace engine pending editor)
    (isOpen : editor.OpenBinding wiring key binding)
    (member : link ∈ binding.links)
    (hasKey : editor.slotKey link.source = .ok source) :
    Housed workspace (editor.addListener workspace engine wiring key
      source) := by
  have sameBare := fun other =>
    bare_wiring_addListener editor workspace engine wiring other key source
  refine housed.rewire rfl rfl rfl ?_ ?_
  · intro other otherKey found otherOpen
    rw [openBinding_of_bare (sameBare other)] at otherOpen
    have sameBlock :
        ((editor.addListener workspace engine wiring key source).wiring
          other).block =
        (editor.wiring other).block :=
      (congrArg Wiring.block (sameBare other) :)
    rw [sameBlock]
    exact housed.target other otherKey found otherOpen
  · intro otherKey other target listed found otherOpen
    rw [openBinding_of_bare (sameBare other)] at otherOpen
    rw [listenersAt_addListener] at listed
    rcases List.mem_append.mp listed with wasListed | isNew
    · exact housed.source otherKey other target wasListed found otherOpen
    · split at isNew
      · rename_i here
        cases List.mem_singleton.mp isNew
        cases Option.some.inj (otherOpen.2.symm.trans isOpen.2)
        rw [← here.2]
        have fits := sound.wired.source wiring key binding isOpen link member
        exact ⟨link, member, housed.heardAt_of_slotKey fits.known hasKey⟩
      · cases isNew

theorem closed (sound : Sound settings workspace engine pending editor)
    (wiring : WiringId) :
    Housed workspace (editor.closeWiring wiring) := by
  refine housed.hush (by simp) (by simp) (by simp) ?_ ?_
  · intro other key binding isOpen
    obtain ⟨differs, earlier⟩ := openBinding_closeWiring.mp isOpen
    rw [wiring_closeWiring, if_neg (Ne.symm differs)]
    exact ⟨earlier, rfl⟩
  · intro key other target listed
    rw [sound.heard.listenersAt_closeWiring] at listed
    exact (List.mem_filter.mp listed).1

/-- A field comes into a row of the block. -/
theorem fieldAttached {place : Nat} {field : FieldId}
    (arranged : Arranged editor)
    (outgrows : Outgrows editor (editor.attachField block place field))
    (inRange : place < (editor.block block).rows.length) :
    Housed workspace (editor.attachField block place field) := by
  refine housed.enlarge arranged outgrows
    (enlarged_fieldAttached block place field)
    (fun _ => Or.inl) ?_ (fun _ => rfl) (fun _ => rfl)
  intro other home attached
  change ((editor.updateField field fun entry =>
    { entry with block := some block }).field other).block =
      some home at attached
  rw [field_updateField] at attached
  split at attached
  · rename_i here
    cases Option.some.inj attached
    rw [block_updateBlock, if_pos rfl]
    refine Or.inr
      ((fields_modify_perm (editor.block block) field inRange).mem_iff.mpr ?_)
    rw [here]
    exact List.mem_cons_self
  · exact Or.inl attached

end Housed

section Reached

variable {settings : Settings} {pending' : Option WiringId}
  {before after : Editor σ} {liberties : Liberties}

theorem Change.housed
    (change : Change liberties workspace engine pending before pending' after)
    (sound : Sound settings workspace engine pending before)
    (housed : Housed workspace before) : Housed workspace after := by
  have outgrows := change.outgrows sound.tables
  have enlarged := change.enlarged sound.tables.toSlotTables
  have arranged := sound.layout.toArranged
  cases change with
  | steady steady => exact housed.steady arranged steady
  | blockMade type id extensions =>
      exact housed.enlarge arranged outgrows enlarged (fun _ => Or.inl)
        (fun _ _ => Or.inl) (fun _ => rfl) (fun _ => rfl)
  | @outputMade _ block check known replaces =>
      refine housed.enlarge arranged outgrows enlarged ?_ (fun _ _ => Or.inl)
        (fun _ => rfl) (fun _ => rfl)
      intro connection knownAfter
      rcases (OrderedMap.contains_insert _ _ _ _).mp knownAfter with rfl
        | earlier
      · refine Or.inr fun isInput => ?_
        change ((before.withConnection block .output "output" check).connection
          before.nextConnection).key.kind = .input at isInput
        rw [connection_withConnection, if_pos rfl] at isInput
        cases isInput
      · exact Or.inl earlier
  | @inputMade _ block name check known free =>
      refine housed.enlarge arranged outgrows enlarged ?_ (fun _ _ => Or.inl)
        (fun _ => rfl) (fun _ => rfl)
      intro connection knownAfter
      rcases (OrderedMap.contains_insert _ _ _ _).mp knownAfter with rfl
        | earlier
      · have onBlock :
            ((before.withConnection block .input name check).connection
            before.nextConnection).block = block := by
          rw [connection_withConnection, if_pos rfl]
        refine Or.inr fun _ =>
          ⟨{ name, connection := some before.nextConnection }, ?_, rfl⟩
        change _ ∈ (((before.withConnection block .input name check).appendRow
          block _).block
          ((before.withConnection block .input name check).connection
            before.nextConnection).block).rows
        rw [onBlock, appendRow, block_updateBlock, if_pos rfl]
        exact List.mem_append_right _ (List.mem_singleton_self _)
      · exact Or.inl earlier
  | dummyMade name known =>
      exact housed.enlarge arranged outgrows enlarged (fun _ => Or.inl)
        (fun _ _ => Or.inl) (fun _ => rfl) (fun _ => rfl)
  | @fieldMade _ entry detached refers =>
      refine housed.enlarge arranged outgrows enlarged (fun _ => Or.inl) ?_
        (fun _ => rfl) (fun _ => rfl)
      intro field block attached
      refine Or.inl ?_
      rw [field_addField] at attached
      split at attached
      · rw [detached] at attached
        cases attached
      · exact attached
  | fieldAttached knownBlock inRange knownField free moves =>
      exact housed.fieldAttached arranged outgrows inRange
  | valueSet value known =>
      exact housed.same arranged outgrows (sameLayout_setValue known value)
        (fun _ => rfl) (fun _ => rfl)
  | unlinked linked =>
      have back := sound.linking.back _ _ linked
      exact housed.same arranged outgrows
        (sameLayout_setTargets (contains_of_target linked)
          (contains_of_target back) none none)
        (fun _ => rfl) (fun _ => rfl)
  | linked knownThis knownOther freeThis freeOther fits =>
      exact housed.same arranged outgrows
        (sameLayout_setTargets knownThis knownOther _ _)
        (fun _ => rfl) (fun _ => rfl)
  | @variableMade _ generated name request id place store drawn made =>
      refine housed.enlarge arranged outgrows enlarged (fun _ => Or.inl)
        (fun _ _ => Or.inl) (fun _ => rfl) ?_
      intro key
      change ((before.setVariables workspace store).workspace
        workspace).registry.listenersAt key =
        _
      rw [workspace_setVariables, if_pos rfl]
  | begun mode known isIdle => exact housed.begun _ _ _
  | assembled offered step =>
      cases step with
      | ripple rippled => exact housed.steady arranged rippled.toSteady
      | bind isSlot hasKey fresh resolved acyclic =>
          exact housed.bound sound offered isSlot fresh
      | listen isOpen member hasKey =>
          exact housed.listen sound isOpen member hasKey
  | recorded attends =>
      exact housed.hush rfl rfl rfl (fun _ _ _ isOpen => ⟨isOpen, rfl⟩)
        (fun _ _ _ => id)
  | dropped nothing => exact housed
  | forgotten found =>
      exact housed.hush rfl rfl rfl (fun _ _ _ isOpen => ⟨isOpen, rfl⟩)
        (fun _ _ _ => id)
  | closed mine known isOpen => exact housed.closed sound _
  | listened key callback listens =>
      exact housed.hush rfl rfl rfl (fun _ _ _ isOpen => ⟨isOpen, rfl⟩)
        fun _ _ _ => recompute_mem_listened.mp
  | unlistened listens found isCallback =>
      exact housed.hush rfl rfl rfl (fun _ _ _ isOpen => ⟨isOpen, rfl⟩)
        fun _ _ _ => mem_listenersAt_of_unlistened

theorem Course.housed {start finish : Option WiringId × Editor σ}
    (course : Course liberties workspace engine start finish)
    (sound : Sound settings workspace engine start.1 start.2)
    (housed : Housed workspace start.2) : Housed workspace finish.2 :=
  course.keeps (fun _ => Housed workspace) Change.housed sound housed

theorem Course.enlarged {start finish : Option WiringId × Editor σ}
    (course : Course liberties workspace engine start finish)
    (sound : Sound settings workspace engine start.1 start.2) :
    Enlarged start.2 finish.2 :=
  course.keeps (fun _ => Enlarged start.2)
    (fun change sound sofar =>
      sofar.trans (change.enlarged sound.tables.toSlotTables)) sound
    (Enlarged.of_blocks rfl)

theorem Blank.housed (blank : Blank engine editor) :
    Housed workspace editor := by
  constructor
  · intro connection known
    rw [blank.connections] at known
    cases known
  · intro field block attached
    rw [blank.fieldBlock] at attached
    cases attached
  · exact fun _ _ _ isOpen => absurd isOpen blank.not_openBinding
  · exact fun _ _ _ _ _ isOpen => absurd isOpen blank.not_openBinding

/-- In every state that a host can reach, slots are listed by their blocks. -/
theorem Reached.housed {outside : Callbacks σ} (keepsOut : KeepsOut outside)
    {admits : Editor σ → HostOperation → Except Fault Unit → Editor σ → Prop}
    (reached : Reached outside admits settings workspace editor) :
    Housed workspace editor :=
  reached.keeps keepsOut (Housed workspace)
    (fun _ operation _ _ _ => operation.within_all)
    (fun run => (blank_openWorkspace.returns run).1.housed) Course.housed

end Reached

section Listeners

variable {settings : Settings}

/-- On one block, inputs of the same name are the same. -/
theorem NamedBlock.input_inj {entry : Block} (named : editor.NamedBlock entry)
    {left right : Row} {this other : ConnectionId} (inRows : left ∈ entry.rows)
    (otherInRows : right ∈ entry.rows) (has : left.connection = some this)
    (otherHas : right.connection = some other)
    (sameName : (editor.connection this).key.name =
      (editor.connection other).key.name) :
    this = other := by
  rw [named.row left this inRows has, named.row right other otherInRows
    otherHas] at sameName
  have here := named.row?_of_connection inRows (by simp [has])
  rw [sameName, named.row?_of_connection otherInRows (by simp [otherHas])]
    at here
  rw [← Option.some.inj here, otherHas] at has
  exact (Option.some.inj has).symm

/-- Whoever listens under the key of a slot has that slot as a source. -/
theorem Sound.source_of_listener
    (sound : Sound settings workspace engine pending editor)
    (housed : Housed workspace editor) (ids : editor.UniqueIds)
    {key target : SlotKey} {wiring : WiringId} (known : editor.Known slot)
    (hasKey : editor.slotKey slot = .ok key)
    (listed : .recompute wiring target ∈
      (editor.workspace workspace).registry.listenersAt key) :
    ∃ binding, editor.OpenBinding wiring target binding ∧
      ∃ link ∈ binding.links, link.source = slot := by
  obtain ⟨binding, isOpen⟩ := sound.heard.bound key wiring target listed
  obtain ⟨link, member, heard⟩ :=
    housed.source key wiring target listed binding isOpen
  refine ⟨binding, isOpen, link, member, ?_⟩
  have fits := sound.wired.source wiring target binding isOpen link member
  cases hSource : link.source with
  | connection input =>
      rw [hSource] at heard fits
      obtain ⟨knownInput, sameKey⟩ := heard
      cases slot with
      | connection connection =>
          cases slotKey_connection hasKey
          have sameBlock := ids.sameBlock sound.layout knownInput known sameKey
          obtain ⟨row, inRows, has⟩ := housed.row input knownInput fits.2.2
          obtain ⟨otherRow, otherInRows, otherHas⟩ :=
            housed.row connection known (sameKey ▸ fits.2.2)
          rw [← sameBlock] at otherInRows
          rw [(sound.naming _).input_inj inRows otherInRows has otherHas
            (congrArg SlotKey.name sameKey)]
      | field field =>
          have isField := (slotKey_field hasKey).1
          rw [← sameKey] at isField
          exact absurd isField (sound.layout.kind input knownInput)
  | field source =>
      rw [hSource] at heard
      obtain ⟨block, inBlock, isKey⟩ := heard
      cases slot with
      | connection connection =>
          have sameKey := slotKey_connection hasKey
          rw [isKey] at sameKey
          exact absurd (congrArg SlotKey.kind sameKey)
            (sound.layout.kind connection known)
      | field field =>
          obtain ⟨home, inHome, homeKey⟩ :=
            housed.heardAt_of_slotKey known hasKey
          rw [isKey] at homeKey
          have sameBlock : block = home :=
            ids block home (contains_of_field inBlock)
            (contains_of_field inHome) (congrArg SlotKey.blockId homeKey)
          rw [← sameBlock] at inHome
          have sameName : (editor.field source).name =
              (editor.field field).name :=
            (congrArg SlotKey.name homeKey :)
          rw [List.inj_on_of_nodup_map (sound.naming block).fields inBlock
            inHome sameName]

end Listeners

end TypeFlow.Editor
