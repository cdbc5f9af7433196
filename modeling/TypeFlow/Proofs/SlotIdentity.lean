import TypeFlow.Proofs.CircularDirectives
import TypeFlow.Proofs.Host.AtHome
import TypeFlow.Proofs.Host.Housed

/-!
# Keys identify slots

While blocks are only built and taken apart, just the blocks that stand are
registered, each under its own id.  Inputs and fields on a block differ in their
names.  So a key belongs to one slot, and what is looked up by an id or a name
is the one thing that has it.
-/

namespace TypeFlow

open HostOperation (performAll)

/-- The operation builds a block or takes it apart. -/
def HostOperation.builds : HostOperation → Bool
  | .newBlock .. | .setOutput .. | .appendInput .. | .appendDummyInput ..
  | .newField ..
  | .appendField .. | .disposeBlock .. => true
  | _ => false

/-- The fault says that a name or an id is in use. -/
def Fault.isTaken : Fault → Bool
  | .blockIdTaken .. | .inputNameTaken .. | .fieldNameTaken .. => true
  | _ => false

namespace Editor

variable {σ : Type} {settings : Settings} {workspace : WorkspaceId}
  {block : BlockId} {id : String} {before middle editor : Editor σ}

/-- The output, the inputs and the fields of a block. -/
def slotsOf (editor : Editor σ) (block : BlockId) : List Slot :=
  (editor.block block).connections.map .connection ++
    (editor.block block).fields.map .field

/-- The block has this id and was not taken apart. -/
def Stands (editor : Editor σ) (block : BlockId) (id : String) : Prop :=
  editor.blocks.contains block ∧ (editor.block block).disposed = false ∧
    (editor.block block).id = id

/-- Nothing is linked or wired, and just the blocks that stand are registered.
-/
structure Standing (workspace : WorkspaceId) (editor : Editor σ) : Prop where
  apart : ∀ connection, (editor.connection connection).target = none
  unwired : (editor.engine ⟨0⟩).wirings = {}
  registered : ∀ id block,
    (editor.workspace workspace).blocks.get? id = some block ↔
      editor.Stands block id

section Keep

variable (standing : Standing workspace before)

include standing

/-- A block is changed but keeps its id, after changes to other tables. -/
theorem Standing.updateBlock {change : Block → Block}
    (known : before.blocks.contains block)
    (blocks : middle.blocks = before.blocks)
    (engines : middle.engines = before.engines)
    (workspaces : middle.workspaces = before.workspaces)
    (apart : ∀ connection, (middle.connection connection).target = none)
    (keeps : ∀ entry, (change entry).id = entry.id ∧
      (change entry).disposed = entry.disposed) :
    Standing workspace (middle.updateBlock block change) where
  apart := apart
  unwired := by
    change (middle.engines.getD _ _).wirings = _
    rw [engines]
    exact standing.unwired
  registered := by
    intro id other
    change (middle.workspaces.getD _ _).blocks.get? id = _ ↔
      (middle.blocks.insert _ _).contains other = true ∧ _
    rw [workspaces, block_updateBlock, OrderedMap.contains_insert]
    unfold Editor.block
    rw [blocks]
    refine (standing.registered id other).trans ?_
    change _ ∧ _ ↔ _
    by_cases same : block = other
    · subst same
      rw [if_pos rfl, (keeps _).1, (keeps _).2, or_iff_right_of_imp
        fun _ => known]
      rfl
    · rw [if_neg same, or_iff_right same]
      rfl

theorem Standing.withConnection (kind : SlotKind) (name : String)
    (check : Check) (connection : ConnectionId) :
    ((before.withConnection block kind name check).connection
      connection).target = none := by
  rw [connection_withConnection]
  split
  · rfl
  · exact standing.apart connection

theorem Standing.blockMade (tables : before.SlotTables) (type : String)
    (extensions : List String) (drawn : Nat)
    (free : ¬ (before.workspace workspace).blocks.contains id) :
    Standing workspace (({ before with
      drawn
      blocks := before.blocks.insert ⟨before.blocks.size⟩
        { workspace, type, id, extensions } } :
        Editor σ).updateWorkspace workspace
      fun entry => { entry with
          blocks := entry.blocks.insert id ⟨before.blocks.size⟩ }) := by
  refine ⟨standing.apart, standing.unwired, ?_⟩
  intro sought other
  have entryOf :=
    before.block_addBlock { workspace, type, id, extensions } other
  have listed := standing.registered sought other
  have unknown : ¬ before.blocks.contains ⟨before.blocks.size⟩ :=
    tables.blocks.not_contains rfl
  have unlisted : (before.workspace workspace).blocks.get? id ≠ some other :=
    fun found => free (OrderedMap.contains_of_get? found)
  rw [workspace_updateWorkspace, if_pos rfl]
  change OrderedMap.get? ((before.workspace workspace).blocks.insert _ _)
    sought = _ ↔
    (before.blocks.insert _ _).contains other = true ∧
      ((before.addBlock _).block other).disposed = false ∧
        ((before.addBlock _).block other).id = sought
  rw [OrderedMap.get?_insert, OrderedMap.contains_insert, entryOf]
  unfold Stands at listed
  grind

theorem Standing.retireBlock (known : before.blocks.contains block)
    (intact : (before.block block).disposed = false) :
    Standing workspace (before.retireBlock workspace block) := by
  refine ⟨standing.apart, standing.unwired, ?_⟩
  intro sought other
  have listed := standing.registered sought other
  have here := standing.registered (before.block block).id block
  change ((before.removeBlock workspace block).workspace workspace).blocks.get?
    sought = _ ↔
    (before.blocks.insert _ _).contains other = true ∧ _
  rw [Editor.retireBlock, removeBlock, workspace_updateWorkspace, if_pos rfl,
    block_updateBlock, OrderedMap.get?_erase, OrderedMap.contains_insert]
  change _ ↔ _ ∧ (if _ then { before.block block with disposed := true }
    else before.block other).disposed = false ∧
    (if _ then { before.block block with
      disposed := true } else before.block other).id = sought
  unfold Stands at listed here
  grind

end Keep

section Perform

variable {react : Reaction σ} {limit : Nat}
  (standing : Standing workspace before)
  (sound : Sound settings workspace ⟨0⟩ none before)

include standing

include sound

/-- With nothing to release or disconnect, a block just leaves its workspace. -/
theorem Standing.disposeBlock (known : before.blocks.contains block)
    {raised : Fault → Editor σ → Prop} :
    Leads (disposeBlock react limit block) before (fun _ => Standing workspace)
      raised := by
  -- A block that was taken apart before must not be taken out again: its id may
  -- belong to another block by now.
  cases intact : (before.block block).disposed with
  | true =>
      simp only [Editor.disposeBlock, leads_bind, leads_look, intact, if_true,
        leads_pure]
      exact standing
  | false =>
      have home := sound.layout.workspaceOf block known
      have released : Leads
          (releaseWiring (before.workspace
            (before.block block).workspace).engine block) before
          (fun _ after => after = before) raised := by
        refine leads_releaseWiring (fun _ => rfl) fun wiring found => ?_
        rw [home, sound.desk.engineOf, wiringFor?, standing.unwired] at found
        cases found
      refine leads_disposeBlock ?_ limit (fun _ => standing) released ?_
      · rintro _ connection rfl _
        refine leads_disconnect connection (fun _ => rfl) fun other linked => ?_
        rw [standing.apart] at linked
        cases linked
      · rintro _ rfl
        rw [home]
        exact standing.retireBlock known intact

/-- What is taken is refused, and nothing but the number of drawn ids changes.
-/
theorem Standing.perform {operation : HostOperation}
    (refers : operation.Refers workspace before)
    (builds : operation.builds = true) :
    Leads (operation.perform react limit workspace) before
      (fun _ after => Standing workspace after)
      (fun fault after => fault.isTaken = true ∧ after = { before with
        drawn := after.drawn }) := by
  cases operation with
  | newBlock type id extensions =>
      exact (leads_discard _).mpr (leads_newBlock (fun _ _ => ⟨rfl, rfl⟩)
        fun _ drawn free => standing.blockMade sound.tables.toSlotTables type
          extensions drawn free)
  | setOutput block check =>
      simp only [HostOperation.perform, leads_discard, setOutput, leads_bind,
        leads_newConnection, leads_modify, leads_pure]
      exact standing.updateBlock refers rfl rfl rfl
        (standing.withConnection _ _ _) fun _ => ⟨rfl, rfl⟩
  | appendInput block name check =>
      exact (leads_discard _).mpr (leads_appendInput ⟨rfl, rfl⟩ fun _ =>
        standing.updateBlock refers rfl rfl rfl (standing.withConnection _ _ _)
          fun _ => ⟨rfl, rfl⟩)
  | appendDummyInput block name =>
      exact (leads_discard _).mpr (leads_appendDummyInput ⟨rfl, rfl⟩
        (standing.updateBlock refers rfl rfl rfl standing.apart
          fun _ => ⟨rfl, rfl⟩))
  | newField name kind value =>
      exact ⟨standing.apart, standing.unwired, standing.registered⟩
  | appendField block place field =>
      exact leads_appendField ⟨rfl, rfl⟩ fun _ =>
        standing.updateBlock refers.1 rfl rfl rfl standing.apart
          fun _ => ⟨rfl, rfl⟩
  | disposeBlock block => exact standing.disposeBlock sound refers
  | _ => cases builds

end Perform

/-- Operations that build blocks and take them apart, and append no field that
is on a block already. -/
abbrev Building (before : Editor σ) (operation : HostOperation)
    (_ : Except Fault Unit) (_ : Editor σ) : Prop :=
  operation.builds = true ∧ operation.Within Liberties.plain before

theorem Blank.standing (blank : Blank ⟨0⟩ editor) :
    Standing workspace editor where
  apart := blank.target
  unwired := blank.records
  registered := by
    intro id block
    rw [blank.unregistered, OrderedMap.get?_empty]
    constructor
    · intro impossible
      cases impossible
    · intro stands
      have known := stands.1
      rw [blank.blocks] at known
      cases known

section Reached

variable {outside : Callbacks σ} (keepsOut : KeepsOut outside)
  (reached : Reached outside Building settings workspace editor)

include keepsOut reached

theorem Reached.standing : Standing workspace editor := by
  induction reached with
  | opened run =>
      exact (blank_openWorkspace.returns run).1.standing
  | @performed before after operation limit outcome sofar refers run
    admitted standing =>
      have performs : Leads (operation.perform (reaction outside limit) limit
        workspace) before
        _ _ := standing.perform (sofar.sound keepsOut) refers admitted.1
      cases outcome with
      | ok _ => exact performs.returns run
      | error fault =>
          rw [(performs.raises run).2]
          exact ⟨standing.apart, standing.unwired, standing.registered⟩

end Reached

section Keys

/-- The slot of a block that is found by the kind and the name of a key. -/
def slotAt? (editor : Editor σ) (block : BlockId) (key : SlotKey) :
    Option Slot :=
  match key.kind with
  | .output => (editor.block block).output.map .connection
  | .input =>
      ((editor.block block).row? key.name).bind fun row =>
        row.connection.map .connection
  | .field => (editor.findField? block key.name).map .field

/-- The slots of a block have keys by which they are found. -/
theorem Sound.slotAt?_of_mem (sound : Sound settings workspace ⟨0⟩ none editor)
    (home : AtHome workspace ⟨0⟩ none editor) {slot : Slot}
    (member : slot ∈ editor.slotsOf block) :
    ∃ key, editor.slotKey slot = .ok key ∧
      key.blockId = (editor.block block).id ∧
      editor.slotAt? block key = some slot := by
  have named := sound.naming block
  have ofConnection : ∀ connection, editor.connections.contains connection ∧
      (editor.connection connection).block = block →
        (editor.connection connection).key.blockId =
          (editor.block block).id := by
    rintro connection ⟨known, sameBlock⟩
    rw [sound.layout.homeKey connection known, sameBlock]
  simp only [slotsOf, Block.connections, List.mem_append, List.mem_map,
    Option.mem_toList, List.mem_filterMap] at member
  rcases member with ⟨connection, isOutput | ⟨row, inRows, has⟩, rfl⟩
    | ⟨field, inFields, rfl⟩
  · obtain ⟨known, sameBlock, isKind⟩ :=
      sound.layout.output block connection isOutput
    refine ⟨_, rfl, ofConnection connection ⟨known, sameBlock⟩, ?_⟩
    rw [slotAt?, isKind, isOutput]
    rfl
  · obtain ⟨known, sameBlock, isKind⟩ :=
      sound.layout.row block row connection inRows has
    refine ⟨_, rfl, ofConnection connection ⟨known, sameBlock⟩, ?_⟩
    rw [slotAt?, isKind, named.row row connection inRows has,
      named.row?_of_connection inRows (by simp [has])]
    simp [has]
  · refine ⟨_, fieldKey_of_attached (home.rowField block field inFields),
      rfl, ?_⟩
    rw [slotAt?, sound.naming.findField? inFields]
    rfl

end Keys

/-- Registered slots differ in their keys, and an id or a name leads to the one
block, input or field that has it.  A call that is refused since an id or a name
is in use changes nothing. -/
theorem slots_identified_by_keys {outside : Callbacks σ}
    (keepsOut : KeepsOut outside)
    (reached : Reached outside Building settings workspace editor) :
    (∀ id left id' right,
      (editor.workspace workspace).blocks.get? id = some left →
      (editor.workspace workspace).blocks.get? id' = some right →
        ∀ slot ∈ editor.slotsOf left, ∀ other ∈ editor.slotsOf right,
          (∃ key, editor.slotKey slot = .ok key) ∧
            (editor.slotKey slot = editor.slotKey other →
              slot = other ∧ left = right)) ∧
    (∀ id block, (editor.workspace workspace).blocks.get? id = some block ↔
      editor.Stands block id) ∧
    (∀ block name row connection, row.connection = some connection →
      ((editor.block block).row? name = some row ↔
        row ∈ (editor.block block).rows ∧
          (editor.connection connection).key.name = name)) ∧
    (∀ block name field, editor.findField? block name = some field ↔
      field ∈ (editor.block block).fields ∧ (editor.field field).name = name) ∧
    ∀ (operation : HostOperation) limit fault after, operation.builds = true →
      operation.Refers workspace editor →
      operation.perform (reaction outside limit) limit workspace editor =
        (.error fault, after) →
        fault.isTaken = true ∧
          after = { editor with drawn := after.drawn } := by
  have sound := reached.sound keepsOut
  have home : AtHome workspace ⟨0⟩ none editor :=
    reached.atHome keepsOut (not_false : ¬ Liberties.plain.moves) not_false
      fun _ _ _ _ admitted => admitted.2
  have standing := reached.standing keepsOut
  refine ⟨?_, standing.registered, ?_, ?_, ?_⟩
  · intro id left id' right listed listed' slot member other otherMember
    obtain ⟨key, hasKey, isId, found⟩ := sound.slotAt?_of_mem home member
    refine ⟨⟨key, hasKey⟩, fun same => ?_⟩
    obtain ⟨otherKey, hasOtherKey, isOtherId, otherFound⟩ :=
      sound.slotAt?_of_mem home otherMember
    rw [same, hasOtherKey] at hasKey
    cases hasKey
    rw [((standing.registered _ _).mp listed).2.2] at isId
    rw [((standing.registered _ _).mp listed').2.2, isId] at isOtherId
    rw [isOtherId, listed'] at listed
    cases listed
    exact ⟨Option.some.inj (found.symm.trans otherFound), rfl⟩
  · intro block name row connection has
    constructor
    · intro found
      have member := List.mem_of_find?_eq_some found
      refine ⟨member, ?_⟩
      rw [(sound.naming block).row row connection member has]
      simpa using List.find?_some found
    · rintro ⟨member, rfl⟩
      rw [(sound.naming block).row row connection member has]
      exact (sound.naming block).row?_of_connection member (by simp [has])
  · intro block name field
    constructor
    · exact mem_fields_of_findField?
    · rintro ⟨member, rfl⟩
      exact sound.naming.findField? member
  · intro operation limit fault after builds refers run
    exact (standing.perform sound refers builds).raises run

/-- Blocks are built with calls that are refused in between, and the first one
is taken apart and its id given to another. -/
def rebuilding : List HostOperation :=
  [.newBlock "first" (some "A") [], .newBlock "again" (some "A") [],
    .setOutput ⟨0⟩ none, .setOutput ⟨0⟩ none, .appendInput ⟨0⟩ "IN" none,
    .appendDummyInput ⟨0⟩ "IN", .newField "IN" .text .nothing,
    .appendField ⟨0⟩ 0 ⟨0⟩, .newField "IN" .text .nothing, .appendField ⟨0⟩ 0
      ⟨1⟩, .newBlock "second" (some "B") [], .appendInput ⟨1⟩ "IN" none,
    .appendField ⟨1⟩ 0 ⟨1⟩, .disposeBlock ⟨0⟩, .newBlock "third" (some "A") [],
    .appendInput ⟨2⟩ "IN" none]

/-- Inputs of one name on two blocks differ in their keys, and the id that is in
use again is refused. -/
theorem slots_identified_by_keys_rebuilding :
    ∃ editor : Editor Unit, Reached idle Building {} ⟨0⟩ editor ∧
      (editor.workspace ⟨0⟩).blocks.get? "A" = some ⟨2⟩ ∧
      (editor.workspace ⟨0⟩).blocks.get? "B" = some ⟨1⟩ ∧
      (editor.slotsOf ⟨1⟩).length = 2 ∧ (editor.slotsOf ⟨2⟩).length = 1 ∧
      (∀ slot ∈ editor.slotsOf ⟨1⟩, ∀ other ∈ editor.slotsOf ⟨2⟩,
        editor.slotKey slot ≠ editor.slotKey other) ∧
      ∃ after, HostOperation.perform (reaction idle 20) 20 ⟨0⟩
        (.newBlock "again" (some "A") []) editor =
          (.error (.blockIdTaken "A"), after) ∧
        after = { editor with drawn := after.drawn } := by
  have reached : Reached idle Building {} ⟨0⟩
      (performAll idle 20 ⟨0⟩ rebuilding freshWorkspace) :=
    reached_freshWorkspace.performAll 20 rebuilding (by decide +kernel)
  obtain ⟨distinct, _, _, _, refused⟩ :=
    slots_identified_by_keys keepsOut_idle reached
  have second : ((performAll idle 20 ⟨0⟩ rebuilding freshWorkspace).workspace
      ⟨0⟩).blocks.get? "B" = some ⟨1⟩ := by decide +kernel
  have third : ((performAll idle 20 ⟨0⟩ rebuilding freshWorkspace).workspace
      ⟨0⟩).blocks.get? "A" = some ⟨2⟩ := by decide +kernel
  have raises : (HostOperation.perform (reaction idle 20) 20 ⟨0⟩
    (.newBlock "again" (some "A") [])
      (performAll idle 20 ⟨0⟩ rebuilding freshWorkspace)).1 =
        .error (.blockIdTaken "A") := by decide +kernel
  refine ⟨_, reached, third, second, by decide +kernel, by
    decide +kernel, ?_, _,
    eq_of_outcome raises,
      (refused (.newBlock "again" (some "A") []) 20 _ _ rfl True.intro
      (eq_of_outcome raises)).2⟩
  intro slot member other otherMember same
  cases ((distinct _ _ _ _ second third slot member other otherMember).2 same).2

end Editor

end TypeFlow
