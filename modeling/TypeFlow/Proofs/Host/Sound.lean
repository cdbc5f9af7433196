import TypeFlow.Proofs.Host.Heard
import TypeFlow.Proofs.Host.Naming

/-!
# Sound states

A state is sound when its tables are numbered, blocks, slots and links belong
together, wirings and the registry agree, and the guard is idle.  A workspace
is sound when it is opened, and every elementary change keeps it sound.
-/

namespace TypeFlow

open OrderedMap (contains_congr contains_insert getD read_getD_insert)

/-- A variable that is made is new and filed under its types. -/
theorem Variables.create_made {store after : Variables}
    {generated name : String} {request : TypeRequest} {id : Option String}
    {place : VariableId}
    (made : store.create generated name request id = .ok (.made place after)) :
    place = ⟨store.pool.size⟩ ∧
      ∃ entry, after.pool = store.pool.insert place entry ∧
        after.index = fileUnder store.index place request.variableTypes := by
  obtain ⟨_, isNext, own, _, rfl⟩ := made_of_create made
  exact ⟨isNext, _, rfl, rfl⟩

namespace Editor

variable {σ : Type} {name : String} {wiring : WiringId}
  {block : BlockId} {slot : Slot}

/-- Only variables of the pool are filed, each type in one bucket. -/
structure Filing (editor : Editor σ) : Prop where
  known : ∀ id place,
    place ∈ Variables.places (editor.workspace id).variableIndex →
    editor.pool.contains place
  distinct : ∀ id, (editor.workspace id).variableIndex.keys.Nodup

/-- The workspace is served by the engine, whose guard is idle. -/
structure Desk (settings : Settings) (workspace : WorkspaceId)
    (engine : EngineId) (editor : Editor σ) : Prop where
  engineOf : (editor.workspace workspace).engine = engine
  extensions : (editor.workspace workspace).extensions =
    ⟨[(wireExtension, .wire)]⟩
  config : (editor.engine engine).config.toSettings = settings
  stack : (editor.engine engine).guard.stack = []
  active : (editor.engine engine).guard.active = []

/-- The state between two elementary changes of a workspace with one engine. -/
structure Sound (settings : Settings) (workspace : WorkspaceId)
    (engine : EngineId) (pending : Option WiringId) (editor : Editor σ) :
    Prop where
  tables : Tables editor
  filing : Filing editor
  layout : Layout workspace editor
  naming : Naming editor
  linking : Linking editor
  wired : Wired engine pending editor
  heard : Heard workspace editor
  desk : Desk settings workspace engine editor

section Keep

variable {settings : Settings} {workspace : WorkspaceId} {engine : EngineId}
  {before after editor : Editor σ}

theorem Tables.of_keys (tables : before.Tables)
    (blocks : after.blocks.keys = before.blocks.keys)
    (connections : after.connections.keys = before.connections.keys)
    (fields : after.fields.keys = before.fields.keys)
    (wirings : after.wirings.keys = before.wirings.keys)
    (pool : after.pool.keys = before.pool.keys) : after.Tables :=
  ⟨⟨tables.blocks.congr blocks, tables.connections.congr connections,
    tables.fields.congr fields⟩, tables.wirings.congr wirings,
    tables.pool.congr pool⟩

theorem Tables.steady (tables : before.Tables) (steady : Steady before after) :
    after.Tables :=
  tables.of_keys steady.blockKeys steady.connectionKeys steady.fieldKeys
    (by rw [steady.wirings]) steady.poolKeys

theorem Filing.keep (filing : before.Filing)
    (index : ∀ id, (after.workspace id).variableIndex =
      (before.workspace id).variableIndex)
    (pool : after.pool = before.pool) : after.Filing where
  known := by
    intro id place member
    rw [index] at member
    rw [pool]
    exact filing.known id place member
  distinct := by
    intro id
    rw [index]
    exact filing.distinct id

theorem Filing.steady (filing : before.Filing) (steady : Steady before after) :
    after.Filing where
  known := by
    intro id place member
    rw [contains_congr steady.poolKeys]
    exact filing.known id place (steady.filed id place member)
  distinct := fun id => steady.indexKeys id (filing.distinct id)

theorem Filing.variableMade (filing : editor.Filing) {generated : String}
    {request : TypeRequest} {id : Option String} {place : VariableId}
    {store : Variables} (drawn : Nat)
    (made : (editor.variablesOf workspace).create generated name request id =
      .ok (.made place store)) :
      Filing { editor.setVariables workspace store with drawn } := by
  obtain ⟨_, entry, pool, index⟩ := Variables.create_made made
  have refiled := Variables.refiled_fileUnder editor.pool place
    request.variableTypes (editor.workspace workspace).variableIndex
  have indexOf : ∀ other,
      ((editor.setVariables workspace store).workspace other).variableIndex =
      if workspace = other then
        Variables.fileUnder (editor.workspace workspace).variableIndex place
          request.variableTypes
      else (editor.workspace other).variableIndex := by
    intro other
    rw [workspace_setVariables]
    split
    · exact index
    · rfl
  constructor
  · intro other found member
    change found ∈ Variables.places
      ((editor.setVariables workspace store).workspace other).variableIndex
        at member
    change store.pool.contains found
    rw [indexOf] at member
    rw [pool]
    refine (contains_insert _ _ _ _).mpr ?_
    split at member
    · rcases refiled.member found member with isPlace | earlier
      · exact Or.inl isPlace.symm
      · exact Or.inr (filing.known workspace found earlier)
    · exact Or.inr (filing.known other found member)
  · intro other
    change ((editor.setVariables workspace store).workspace
      other).variableIndex.keys.Nodup
    rw [indexOf]
    split
    · exact refiled.distinct (filing.distinct workspace)
    · exact filing.distinct other

section Desk

variable (desk : Desk settings workspace engine before)

include desk

theorem Desk.keep
    (engineOf : (after.workspace workspace).engine =
      (before.workspace workspace).engine)
    (extensions : (after.workspace workspace).extensions =
      (before.workspace workspace).extensions)
    (config : (after.engine engine).config = (before.engine engine).config)
    (stack : (after.engine engine).guard.stack =
      (before.engine engine).guard.stack)
    (active : (after.engine engine).guard.active =
      (before.engine engine).guard.active) :
    Desk settings workspace engine after :=
  ⟨engineOf.trans desk.engineOf, extensions.trans desk.extensions,
    (congrArg Config.toSettings config).trans desk.config,
    stack.trans desk.stack, active.trans desk.active⟩

theorem Desk.steady
    (steady : Steady before after) : Desk settings workspace engine after :=
  desk.keep (steady.workspaceEngine workspace) (steady.extensions workspace)
    (steady.config engine) (steady.stack engine) (steady.active engine)

/-- A change of blocks, connections, fields and the pool only. -/
theorem Desk.same
    (workspaces : after.workspaces = before.workspaces)
    (engines : after.engines = before.engines) :
    Desk settings workspace engine after := by
  have workspaceOf : after.workspace workspace = before.workspace workspace :=
    congrArg (getD · workspace default) workspaces
  have engineOf : after.engine engine = before.engine engine :=
    congrArg (getD · engine default) engines
  refine desk.keep ?_ ?_ ?_ ?_ ?_ <;> simp only [workspaceOf, engineOf]

end Desk

theorem Desk.records (desk : Desk settings workspace engine editor)
    (change : OrderedMap String WiringId → OrderedMap String WiringId) :
    Desk settings workspace engine (editor.updateEngine engine fun entry =>
      { entry with wirings := change entry.wirings }) := by
  refine desk.keep rfl rfl ?_ ?_ ?_ <;> rw [engine_updateEngine, if_pos rfl]

end Keep

section Sound

variable {settings : Settings} {workspace : WorkspaceId} {engine : EngineId}
  {pending : Option WiringId} {before after editor : Editor σ}

/-- What a cascade relies on holds in a sound state. -/
theorem Sound.responsive
    (sound : Sound settings workspace engine pending editor) :
    editor.Responsive where
  listenerOpen := by
    intro id key wiring target listed
    by_cases here : id = workspace
    · subst here
      obtain ⟨binding, isOpen⟩ := sound.heard.bound key wiring target listed
      exact isOpen.1
    · rw [sound.heard.silent id here key] at listed
      cases listed
  targetKnown := fun wiring key binding isOpen =>
    (sound.wired.target wiring key binding isOpen).known
  filedKnown := sound.filing.known

/-- A slot is the target of one wiring only: the open wirings of a block are on
record under the id of the block, but for the pending one. -/
theorem Sound.sameWiring
    (sound : Sound settings workspace engine pending editor)
    {wiring' : WiringId} {key key' : SlotKey} {binding binding' : Binding}
    (isOpen : editor.OpenBinding wiring key binding)
    (isOpen' : editor.OpenBinding wiring' key' binding')
    (sameBlock : (editor.wiring wiring).block = (editor.wiring wiring').block) :
    wiring = wiring' := by
  by_cases isPending : pending = some wiring
  · by_cases isPending' : pending = some wiring'
    · rw [isPending] at isPending'
      cases isPending'
      rfl
    · have recorded :=
        sound.wired.onRecord wiring' key' binding' isOpen' isPending'
      rw [← sameBlock] at recorded
      have disposed := (sound.wired.pending wiring isPending).2 wiring' recorded
      rw [isOpen'.1] at disposed
      cases disposed
  · have recorded := sound.wired.onRecord wiring key binding isOpen isPending
    rw [sameBlock] at recorded
    by_cases isPending' : pending = some wiring'
    · have disposed :=
        (sound.wired.pending wiring' isPending').2 wiring recorded
      rw [isOpen.1] at disposed
      cases disposed
    · rw [sound.wired.onRecord wiring' key' binding' isOpen' isPending']
        at recorded
      cases recorded
      rfl

section Moves

variable (sound : Sound settings workspace engine pending before)

include sound

theorem Sound.steady
    (steady : Steady before after) :
    Sound settings workspace engine pending after where
  tables := sound.tables.steady steady
  filing := sound.filing.steady steady
  layout := sound.layout.same steady.sameLayout
  naming := sound.naming.keep sound.layout.toArranged
    steady.outgrows steady.block
  linking := sound.linking.same steady.connection
  wired := sound.wired.outgrow steady.outgrows
    (contains_congr (by rw [steady.wirings]))
    (fun wiring => by rw [steady.wiring]) (steady.recorded engine)
  heard := sound.heard.steady steady
  desk := sound.desk.steady steady

/-- A change of blocks, connections and fields that outgrows the old ones. -/
theorem Sound.reshape (outgrows : Outgrows before after) (tables : after.Tables)
    (layout : Layout workspace after) (naming : Naming after)
    (linking : Linking after) (wirings : after.wirings = before.wirings)
    (pool : after.pool = before.pool)
    (workspaces : after.workspaces = before.workspaces)
    (engines : after.engines = before.engines) :
    Sound settings workspace engine pending after where
  tables := tables
  filing := sound.filing.keep
    (fun id => by unfold Editor.workspace; rw [workspaces]) pool
  layout := layout
  naming := naming
  linking := linking
  wired := by
    refine sound.wired.outgrow outgrows ?_ ?_ ?_
    · intro wiring
      rw [wirings]
    · intro wiring
      unfold Editor.wiring
      rw [wirings]
    · unfold Editor.engine
      rw [engines]
  heard := by
    refine sound.heard.keep ?_ ?_ ?_
    · intro id
      unfold Editor.workspace
      rw [workspaces]
    · intro wiring
      unfold Editor.wiring
      rw [wirings]
    · intro wiring key binding isOpen
      refine ⟨binding, ?_⟩
      unfold OpenBinding Editor.wiring at *
      rwa [wirings]
  desk := sound.desk.same workspaces engines

/-- A change of wirings, records and registries. -/
theorem Sound.rewire {pending' : Option WiringId}
    (blocks : after.blocks = before.blocks)
    (connections : after.connections = before.connections)
    (fields : after.fields = before.fields) (pool : after.pool = before.pool)
    (wirings : after.wirings.Numbered WiringId.number)
    (index : ∀ id, (after.workspace id).variableIndex =
      (before.workspace id).variableIndex)
    (wired : Wired engine pending' after) (heard : Heard workspace after)
    (desk : Desk settings workspace engine after) :
    Sound settings workspace engine pending' after where
  tables :=
    { blocks := by rw [blocks]; exact sound.tables.blocks
      connections := by rw [connections]; exact sound.tables.connections
      fields := by rw [fields]; exact sound.tables.fields
      wirings := wirings
      pool := by rw [pool]; exact sound.tables.pool }
  filing := sound.filing.keep index pool
  layout := sound.layout.same (SameLayout.of_tables blocks connections fields)
  naming := sound.naming.keep sound.layout.toArranged
    (Outgrows.of_tables blocks connections fields)
    fun id => by unfold Editor.block; rw [blocks]
  linking := sound.linking.same fun id => by
    unfold Editor.connection; rw [connections]
  wired := wired
  heard := heard
  desk := desk

end Moves

theorem Sound.fitsTarget
    (sound : Sound settings workspace engine pending editor) {key : SlotKey}
    (offered : editor.Offers block slot)
    (hasKey : editor.slotKey slot = .ok key) :
    editor.FitsTarget block key slot := by
  cases slot with
  | connection connection =>
      have sameKey : (editor.connection connection).key = key := by
        unfold slotKey at hasKey
        cases hasKey
        rfl
      rcases offered with isOutput | ⟨row, member, isInput⟩
      · obtain ⟨known, sameBlock, _⟩ :=
          sound.layout.output block connection isOutput
        exact ⟨known, sameBlock, sameKey⟩
      · obtain ⟨known, sameBlock, _⟩ :=
          sound.layout.row block row connection member isInput
        exact ⟨known, sameBlock, sameKey⟩
  | field field =>
      exact ⟨(sound.layout.rowField block field offered.1).1, offered.2⟩

theorem mem_fields_of_findField? {field : FieldId}
    (found : editor.findField? block name = some field) :
    field ∈ (editor.block block).fields ∧ (editor.field field).name = name := by
  unfold findField? at found
  exact ⟨List.mem_of_find?_eq_some found, by simpa using List.find?_some found⟩

theorem findSource?_cases (found : editor.findSource? block name = some slot) :
    (∃ field, slot = .field field ∧ editor.findField? block name = some field) ∨
      ∃ row connection, row ∈ (editor.block block).rows ∧ row.name = name ∧
        row.connection = some connection ∧ slot = .connection connection := by
  unfold findSource? at found
  split at found
  · rename_i field hasField
    cases found
    exact Or.inl ⟨field, rfl, hasField⟩
  · split at found
    · rename_i row hasRow
      unfold Block.row? at hasRow
      obtain ⟨connection, hasConnection, isSlot⟩ :=
        Option.map_eq_some_iff.mp found
      exact Or.inr ⟨row, connection, List.mem_of_find?_eq_some hasRow,
        by simpa using List.find?_some hasRow, hasConnection, isSlot.symm⟩
    · cases found

theorem Sound.fitsSource
    (sound : Sound settings workspace engine pending editor)
    (found : editor.findSource? block name = some slot) :
    editor.FitsSource block slot := by
  rcases findSource?_cases found with ⟨field, rfl, hasField⟩ |
    ⟨row, connection, member, _, hasConnection, rfl⟩
  · exact (sound.layout.rowField block field
      (mem_fields_of_findField? hasField).1).1
  · exact sound.layout.row block row connection member hasConnection

theorem Sound.assembled {slots : Slot → Prop}
    (sound : Sound settings workspace engine (some wiring) before)
    (offered : ∀ slot, slots slot →
      before.Offers (before.wiring wiring).block slot)
    (step : Assembly workspace engine slots wiring before after) :
    Sound settings workspace engine (some wiring) after := by
  have known := (sound.wired.pending wiring rfl).1
  cases step with
  | ripple rippled => exact sound.steady rippled.toSteady
  | @bind key binding isSlot hasKey fresh resolved acyclic =>
      refine sound.rewire rfl rfl rfl rfl
        (sound.tables.wirings.insert_known _ known)
        (fun _ => rfl) ?_ ?_ (sound.desk.same rfl rfl)
      · exact sound.wired.bind (sound.fitsTarget (offered _ isSlot) hasKey)
          fun link member => sound.fitsSource (resolved link member)
      · refine sound.heard.keep (fun _ => rfl)
          (fun _ => read_getD_insert Wiring.subscriptions rfl) ?_
        intro other otherKey otherBinding isOpen
        unfold OpenBinding at isOpen ⊢
        rw [addBinding, wiring_updateWiring]
        split
        · rename_i same
          subst same
          by_cases sameKey : key = otherKey
          · exact ⟨binding, isOpen.1, by simp [sameKey]⟩
          · exact ⟨otherBinding, isOpen.1, by simp [sameKey, isOpen.2]⟩
        · exact ⟨otherBinding, isOpen⟩
  | @listen key source binding link isOpen member hasKey =>
      have engineSame : ∀ other,
          ((before.addListener workspace engine wiring key source).engine
            other).config =
              (before.engine other).config ∧
            ((before.addListener workspace engine wiring key source).engine
              other).guard =
              (before.engine other).guard ∧
            ((before.addListener workspace engine wiring key source).engine
              other).wirings =
              (before.engine other).wirings := by
        intro other
        rw [addListener, updateStats, engine_updateEngine]
        split
        · rename_i same
          rw [← same]
          exact ⟨rfl, rfl, rfl⟩
        · exact ⟨rfl, rfl, rfl⟩
      refine sound.rewire rfl rfl rfl rfl
        (sound.tables.wirings.insert_known _ known)
        (fun _ => read_getD_insert Workspace.variableIndex rfl) ?_
        (sound.heard.listen engine isOpen source) ?_
      · have outgrows :
            Outgrows before (before.addListener workspace engine wiring
              key source) :=
          Outgrows.of_tables rfl rfl rfl
        exact sound.wired.outgrow outgrows
          (contains_congr (OrderedMap.keys_insert_of_contains _ known))
          (fun other => bare_wiring_addListener before workspace engine wiring
            other key source)
          (engineSame engine).2.2
      · refine sound.desk.keep ?_ ?_ (engineSame engine).1 ?_ ?_
        · rw [workspace_addListener, if_pos rfl]
        · rw [workspace_addListener, if_pos rfl]
        · rw [(engineSame engine).2.1]
        · rw [(engineSame engine).2.1]

section Made

variable (sound : Sound settings workspace engine pending editor)

include sound

theorem Sound.closed
    (mine : pending = none ∨ pending = some wiring)
    (known : editor.wirings.contains wiring) :
    Sound settings workspace engine none (editor.closeWiring wiring) := by
  have workspaceOf := workspace_closeWiring editor wiring
    fun id member => (sound.heard.own wiring id member).1
  have engineSame : ∀ other,
      ((editor.closeWiring wiring).engine other).config =
        (editor.engine other).config ∧
        ((editor.closeWiring wiring).engine other).guard =
          (editor.engine other).guard := by
    intro other
    rw [engine_closeWiring]
    split
    · rename_i same
      rw [same]
      exact ⟨rfl, rfl⟩
    · exact ⟨rfl, rfl⟩
  refine sound.rewire (by simp) (by simp) (by simp) (by simp) ?_ ?_
    (sound.wired.closed mine known) (sound.heard.closed wiring) ?_
  · rw [wirings_closeWiring]
    exact sound.tables.wirings.insert_known _ known
  · intro id
    rw [workspaceOf]
    split
    · rename_i same
      rw [same]
    · rfl
  · refine sound.desk.keep ?_ ?_ (engineSame engine).1 ?_ ?_
    · rw [workspaceOf, if_pos rfl]
    · rw [workspaceOf, if_pos rfl]
    · rw [(engineSame engine).2]
    · rw [(engineSame engine).2]

/-- A change of the registry by a callback's subscription. -/
theorem Sound.registered {change : Registry Listener → Registry Listener}
    (heard : Heard workspace (editor.updateRegistry workspace change)) :
    Sound settings workspace engine pending
      (editor.updateRegistry workspace change) := by
  have workspaceOf := workspace_updateWorkspace editor workspace
  refine sound.rewire rfl rfl rfl rfl sound.tables.wirings
    (fun _ => read_getD_insert Workspace.variableIndex rfl) ?_ heard ?_
  · have outgrows : Outgrows editor (editor.updateRegistry workspace change) :=
      Outgrows.of_tables rfl rfl rfl
    exact sound.wired.outgrow outgrows (fun _ => Iff.rfl) (fun _ => rfl) rfl
  · refine sound.desk.keep ?_ ?_ rfl rfl rfl
    · rw [updateRegistry, workspaceOf, if_pos rfl]
    · rw [updateRegistry, workspaceOf, if_pos rfl]

/-- The far ends of two connections change. -/
theorem Sound.retargeted {this other : ConnectionId}
    {thisTarget otherTarget : Option ConnectionId}
    (outgrows : Outgrows editor
      ((editor.setTarget this thisTarget).setTarget other otherTarget))
      (knownThis : editor.connections.contains this)
    (knownOther : editor.connections.contains other)
    (linking : Linking ((editor.setTarget this thisTarget).setTarget other
      otherTarget)) :
    Sound settings workspace engine pending
      ((editor.setTarget this thisTarget).setTarget other otherTarget) := by
  have first := sameLayout_setTarget knownThis thisTarget
  have knownLater := (first.knownConnection other).mpr knownOther
  exact sound.reshape outgrows
    { sound.tables with
      connections :=
        (sound.tables.connections.insert_known _ knownThis).insert_known
          _ knownLater }
    (sound.layout.same (sameLayout_setTargets knownThis knownOther
      thisTarget otherTarget))
    (sound.naming.keep sound.layout.toArranged outgrows fun _ => rfl) linking
      rfl rfl rfl rfl

theorem Sound.variableMade
    {generated : String} {request : TypeRequest} {id : Option String}
    {place : VariableId} {store : Variables} (drawn : Nat)
    (made : (editor.variablesOf workspace).create generated name request id =
      .ok (.made place store))
    (outgrows : Outgrows editor { editor.setVariables workspace store with
      drawn }) :
    Sound settings workspace engine pending
      { editor.setVariables workspace store with drawn } := by
  have workspaceOf := workspace_setVariables editor workspace
  have registry : ∀ other,
      ((editor.setVariables workspace store).workspace other).registry =
      (editor.workspace other).registry :=
    fun _ => read_getD_insert Workspace.registry rfl
  refine
    { tables := { sound.tables with pool := ?_ }
      filing := sound.filing.variableMade drawn made
      layout := sound.layout.same (SameLayout.of_tables rfl rfl rfl)
      naming := sound.naming.keep sound.layout.toArranged outgrows fun _ => rfl
      linking := sound.linking.same fun _ => rfl
      wired :=
        sound.wired.outgrow outgrows (fun _ => Iff.rfl) (fun _ => rfl) rfl
      heard := sound.heard.keep registry (fun _ => rfl)
        fun _ _ binding isOpen => ⟨binding, isOpen⟩
      desk := sound.desk.keep ?_ ?_ rfl rfl rfl }
  · obtain ⟨isNext, entry, pool, _⟩ := Variables.create_made made
    change store.pool.Numbered VariableId.number
    rw [pool]
    exact sound.tables.pool.insert_next entry (by rw [isNext]; rfl)
  · change ((editor.setVariables workspace store).workspace workspace).engine =
      _
    rw [workspaceOf, if_pos rfl]
  · change ((editor.setVariables workspace store).workspace
      workspace).extensions = _
    rw [workspaceOf, if_pos rfl]

end Made

/-- A wiring without bindings is made; it owns no subscription. -/
theorem Heard.begun {mode : WiringMode} (heard : Heard workspace editor)
    (tables : editor.Tables) :
    Heard workspace (editor.beginWiring engine block mode) := by
  refine heard.keep (fun _ => rfl) ?_ ?_
  · intro other
    rw [wiring_beginWiring]
    split
    · rename_i isNext
      rw [← isNext, tables.wiring_default]
      rfl
    · rfl
  · intro other key binding isOpen
    refine ⟨binding, ?_⟩
    unfold OpenBinding
    rw [wiring_beginWiring, if_neg]
    · exact isOpen
    · rintro rfl
      exact tables.wiring_next (contains_of_openBinding isOpen)

theorem Change.sound {liberties : Liberties} {pending' : Option WiringId}
    (change : Change liberties workspace engine pending before pending' after)
    (sound : Sound settings workspace engine pending before) :
    Sound settings workspace engine pending' after := by
  have outgrows := change.outgrows sound.tables
  have tables := sound.tables
  cases change with
  | steady steady => exact sound.steady steady
  | blockMade type id extensions =>
      exact sound.reshape outgrows { tables with
        blocks := tables.blocks.insert_next _ rfl }
        (sound.layout.blockMade tables.toSlotTables type id extensions)
        (sound.naming.blockMade sound.layout.toArranged outgrows)
        (sound.linking.same fun _ => rfl) rfl rfl rfl rfl
  | @outputMade _ block check known replaces =>
      exact sound.reshape outgrows
        { tables with
          blocks := tables.blocks.insert_known _ known
          connections := tables.connections.insert_next _ rfl }
        (sound.layout.updateBlock rfl known (fun _ => rfl)
          (sound.layout.toArranged.outputMade tables.toSlotTables known check))
        (sound.naming.outputMade sound.layout.toArranged outgrows)
        (Linking.same
          (sound.linking.withConnection tables.toSlotTables block .output
            "output" check)
          fun _ => rfl) rfl rfl rfl rfl
  | @inputMade _ block name check known free =>
      exact sound.reshape outgrows
        { tables with
          blocks := tables.blocks.insert_known _ known
          connections := tables.connections.insert_next _ rfl }
        (sound.layout.updateBlock rfl known (fun _ => rfl)
          (sound.layout.toArranged.inputMade tables.toSlotTables
            known name check))
        (sound.naming.inputMade sound.layout.toArranged outgrows free)
        (Linking.same (sound.linking.withConnection tables.toSlotTables block
          .input name check) fun _ => rfl) rfl rfl rfl rfl
  | dummyMade name known =>
      refine sound.reshape outgrows { tables with
        blocks := tables.blocks.insert_known _ known }
        (sound.layout.updateBlock rfl known (fun _ => rfl)
          (sound.layout.toArranged.appendRow known ?_ rfl))
        (sound.naming.dummyMade sound.layout.toArranged outgrows)
        (sound.linking.same fun _ => rfl) rfl rfl rfl rfl
      intro connection impossible
      cases impossible
  | fieldMade detached refers =>
      exact sound.reshape outgrows { tables with
        fields := tables.fields.insert_next _ rfl }
        ⟨sound.layout.toArranged.fieldMade tables.toSlotTables detached,
          sound.layout.workspaceOf⟩
        (sound.naming.keep sound.layout.toArranged outgrows fun _ => rfl)
        (sound.linking.same fun _ => rfl) rfl rfl rfl rfl
  | fieldAttached knownBlock inRange knownField free moves =>
      exact sound.reshape outgrows
        { tables with
          blocks := tables.blocks.insert_known _ knownBlock
          fields := tables.fields.insert_known _ knownField }
        (sound.layout.updateBlock rfl knownBlock (fun _ => rfl)
          (sound.layout.toArranged.fieldAttached _ knownBlock knownField))
        (sound.naming.fieldAttached sound.layout.toArranged
          outgrows inRange free)
        (sound.linking.same fun _ => rfl) rfl rfl rfl rfl
  | valueSet value known =>
      exact sound.reshape outgrows { tables with
        fields := tables.fields.insert_known _ known }
        (sound.layout.same (sameLayout_setValue known value))
        (sound.naming.keep sound.layout.toArranged outgrows fun _ => rfl)
        (sound.linking.same fun _ => rfl) rfl rfl rfl rfl
  | @unlinked _ this other linked =>
      exact sound.retargeted outgrows (contains_of_target linked)
        (contains_of_target (sound.linking.back this other linked))
        (sound.linking.unlinked linked)
  | linked knownThis knownOther freeThis freeOther fits =>
      exact sound.retargeted outgrows knownThis knownOther
        (sound.linking.linked knownThis knownOther freeThis freeOther fits)
  | variableMade drawn made => exact sound.variableMade drawn made outgrows
  | begun mode known idle =>
      exact sound.rewire rfl rfl rfl rfl (tables.wirings.insert_next _ rfl)
        (fun _ => rfl)
        (sound.wired.begun tables mode known idle) (sound.heard.begun tables)
        (sound.desk.same rfl rfl)
  | assembled offered step => exact sound.assembled offered step
  | @recorded _ wiring attends =>
      exact sound.rewire rfl rfl rfl rfl tables.wirings
        (fun _ => rfl) sound.wired.record
        (sound.heard.keep (fun _ => rfl) (fun _ => rfl)
          fun _ _ binding isOpen => ⟨binding, isOpen⟩)
        (sound.desk.records fun wirings =>
          wirings.insert (before.block (before.wiring wiring).block).id wiring)
  | dropped nothing => exact { sound with wired := sound.wired.dropped nothing }
  | @forgotten _ block _ found =>
      exact sound.rewire rfl rfl rfl rfl tables.wirings (fun _ => rfl)
        (sound.wired.forgotten found)
        (sound.heard.keep (fun _ => rfl) (fun _ => rfl)
          fun _ _ binding isOpen => ⟨binding, isOpen⟩)
        (sound.desk.records fun wirings =>
          wirings.erase (before.block block).id)
  | closed mine known isOpen => exact sound.closed mine known
  | listened key callback listens =>
      exact sound.registered (sound.heard.listened key callback)
  | unlistened listens found isCallback =>
      exact sound.registered (sound.heard.unlistened _)

theorem Course.sound {liberties : Liberties}
    {start finish : Option WiringId × Editor σ}
    (course : Course liberties workspace engine start finish)
    (sound : Sound settings workspace engine start.1 start.2) :
    Sound settings workspace engine finish.1 finish.2 := by
  induction course with
  | refl => exact sound
  | tail _ change induction => exact change.sound induction

/-- What each elementary change of a sound workspace keeps, a course of them
keeps. -/
theorem Course.keeps {liberties : Liberties}
    {start finish : Option WiringId × Editor σ}
    (good : Option WiringId → Editor σ → Prop)
    (step : ∀ {pending before pending' after},
      Change liberties workspace engine pending before pending' after →
        Sound settings workspace engine pending before → good pending before →
          good pending' after)
    (course : Course liberties workspace engine start finish)
    (sound : Sound settings workspace engine start.1 start.2)
    (holds : good start.1 start.2) :
    good finish.1 finish.2 := by
  induction course with
  | refl => exact holds
  | tail sofar change induction =>
      exact step change (Course.sound sofar sound) induction

end Sound

end Editor

end TypeFlow
