import TypeFlow.Proofs.CycleSearch
import TypeFlow.Proofs.Registry
import TypeFlow.Proofs.Ripple

/-!
# Elementary changes

Every operation of a host is a course of elementary changes.  Between two
operations no wiring is under way.  While a block is being wired, or its
wiring released, the wiring is pending: it is not on record.
-/

namespace TypeFlow.Editor

variable {σ : Type}

def nextConnection (editor : Editor σ) : ConnectionId :=
  ⟨editor.connections.size⟩

/-- The state with one more connection, which is not linked. -/
def withConnection (editor : Editor σ) (block : BlockId) (kind : SlotKind)
    (name : String) (check : Check) : Editor σ :=
  { editor with
    connections := editor.connections.insert editor.nextConnection
      { key := ⟨(editor.block block).id, kind, name⟩, block, check } }

/-- The state with a field attached to a block and put in one of its rows. -/
abbrev attachField (editor : Editor σ) (block : BlockId) (place : Nat)
    (field : FieldId) :
    Editor σ :=
  (editor.updateField field fun entry => { entry with
    block := some block }).updateBlock block fun entry =>
      { entry with
        rows := entry.rows.modify place fun row => { row with
          fields := row.fields ++ [field] } }

/-- The block has the slot as its output, an input or a variable field. -/
def Offers (editor : Editor σ) (block : BlockId) : Slot → Prop
  | .connection connection =>
      (editor.block block).output = some connection ∨
        ∃ row ∈ (editor.block block).rows, row.connection = some connection
  | .field field =>
      field ∈ (editor.block block).fields ∧
        (editor.field field).kind.bare = .reference none

instance decidableOffers (editor : Editor σ) (block : BlockId) :
    (slot : Slot) → Decidable (editor.Offers block slot)
  | .connection _ =>
      inferInstanceAs (Decidable (_ ∨ ∃ row ∈ (editor.block block).rows, _ = _))
  | .field _ => inferInstanceAs (Decidable (_ ∧ _ = _))

/-- A binding of the wiring has this target and a field with this source key. -/
def FieldEdge (editor : Editor σ) (wiring : WiringId)
    (target source : SlotKey) : Prop :=
  ∃ binding, (editor.wiring wiring).bindings.get? target = some binding ∧
    ∃ link ∈ binding.links, ∃ field, link.source = .field field ∧
      editor.fieldKey field = .ok source

/-- Every source of the binding has the binding among its listeners. -/
def Attends (editor : Editor σ) (workspace : WorkspaceId) (wiring : WiringId)
    (key : SlotKey) (binding : Binding) : Prop :=
  ∀ link ∈ binding.links, ∀ source, editor.slotKey link.source = .ok source →
    .recompute wiring key ∈ (editor.workspace workspace).registry.listenersAt
      source

def addBinding (editor : Editor σ) (wiring : WiringId) (key : SlotKey)
    (binding : Binding) :
    Editor σ :=
  editor.updateWiring wiring fun entry =>
    { entry with bindings := entry.bindings.insert key binding }

/-- The state after the binding of a wiring was subscribed to a source key. -/
def addListener (editor : Editor σ) (workspace : WorkspaceId)
    (engine : EngineId) (wiring : WiringId) (key source : SlotKey) : Editor σ :=
  ((editor.updateRegistry workspace
    (·.subscribe source (.recompute wiring key))).updateWiring
    wiring fun entry =>
      { entry with
        subscriptions := entry.subscriptions ++
          [⟨workspace, (editor.workspace workspace).registry.nextNumber⟩]
            }).updateStats
    engine fun stats => { stats with subscriptions := stats.subscriptions + 1 }

/-- The state after a wiring that was not disposed is disposed of. -/
def closeWiring (editor : Editor σ) (wiring : WiringId) : Editor σ :=
  let entry := editor.wiring wiring
  let active := entry.subscriptions.filter editor.isActive
  ((active.foldl releaseSubscription editor).updateWiring wiring fun entry =>
    { entry with subscriptions := [], disposed := true }).updateStats
      entry.engine fun stats =>
        { stats with released := stats.released + active.length }

def forgetWiring (editor : Editor σ) (engine : EngineId) (block : BlockId) :
    Editor σ :=
  editor.updateEngine engine fun entry =>
    { entry with wirings := entry.wirings.erase (editor.block block).id }

/-- A step in the wiring of a block.  Checks are written directly only at
`slots`. -/
inductive Assembly (workspace : WorkspaceId) (engine : EngineId)
    (slots : Slot → Prop) (wiring : WiringId) : Editor σ → Editor σ → Prop
  | ripple {before after : Editor σ} :
      Rippled slots before after →
        Assembly workspace engine slots wiring before after
  | bind {editor : Editor σ} {key : SlotKey} {binding : Binding} :
      slots binding.target → editor.slotKey binding.target = .ok key →
      (editor.wiring wiring).bindings.get? key = none →
      (∀ link ∈ binding.links,
        editor.findSource? (editor.wiring wiring).block link.directive.source =
          some link.source) →
      ((editor.engine engine).config.rejectCycles = true →
        Acyclic ((editor.addBinding wiring key binding).FieldEdge wiring)) →
      Assembly workspace engine slots wiring editor
        (editor.addBinding wiring key binding)
  | listen {editor : Editor σ} {key source : SlotKey} {binding : Binding}
      {link : Link} :
      editor.OpenBinding wiring key binding → link ∈ binding.links →
      editor.slotKey link.source = .ok source →
      .recompute wiring key ∉ (editor.workspace workspace).registry.listenersAt
        source →
      Assembly workspace engine slots wiring editor
        (editor.addListener workspace engine wiring key source)

/-- An elementary change, with the pending wiring before and after it. -/
inductive Change (liberties : Liberties) (workspace : WorkspaceId)
    (engine : EngineId) :
    Option WiringId → Editor σ → Option WiringId → Editor σ → Prop
  | steady {pending : Option WiringId} {before after : Editor σ} :
      Steady before after →
        Change liberties workspace engine pending before pending after
  | blockMade {editor : Editor σ} (type id : String)
      (extensions : List String) :
      Change liberties workspace engine none editor none
        { editor with
          blocks := editor.blocks.insert ⟨editor.blocks.size⟩
            { workspace, type, id, extensions } }
  | outputMade {editor : Editor σ} {block : BlockId} (check : Check) :
      editor.blocks.contains block →
      (liberties.replaces ∨ (editor.block block).output = none) →
      Change liberties workspace engine none editor none
        ((editor.withConnection block .output "output" check).updateBlock
          block fun entry =>
            { entry with output := some editor.nextConnection })
  | inputMade {editor : Editor σ} {block : BlockId} {name : String}
      (check : Check) :
      editor.blocks.contains block → (editor.block block).row? name = none →
      Change liberties workspace engine none editor none
        ((editor.withConnection block .input name check).appendRow block
          { name, connection := some editor.nextConnection })
  | dummyMade {editor : Editor σ} {block : BlockId} (name : String) :
      editor.blocks.contains block →
      Change liberties workspace engine
        none editor none (editor.appendRow block { name })
  | fieldMade {editor : Editor σ} {field : Field} :
      field.block = none →
        (liberties.refers ∨ ∀ types, field.kind ≠ .reference types) →
      Change liberties workspace engine none editor none
        { editor with
          fields := editor.fields.insert ⟨editor.fields.size⟩ field }
  | fieldAttached {editor : Editor σ} {block : BlockId} {place : Nat}
      {field : FieldId} :
      editor.blocks.contains block → place < (editor.block block).rows.length →
      editor.fields.contains field →
      editor.findField? block (editor.field field).name = none →
      (liberties.moves ∨ (editor.field field).block = none) →
      Change liberties workspace engine none editor none
        ((editor.updateField field fun entry => { entry with
          block := some block }).updateBlock block fun entry =>
            { entry with
              rows := entry.rows.modify place fun row =>
                { row with fields := row.fields ++ [field] } })
  | valueSet {editor : Editor σ} {field : FieldId} (value : FieldValue) :
      editor.fields.contains field →
      Change liberties workspace engine none editor none
        (editor.updateField field fun entry => { entry with value })
  | unlinked {editor : Editor σ} {this other : ConnectionId} :
      (editor.connection this).target = some other →
      Change liberties workspace engine none editor none
        ((editor.setTarget this none).setTarget other none)
  | linked {editor : Editor σ} {this other : ConnectionId} :
      editor.connections.contains this → editor.connections.contains other →
      (editor.connection this).target = none →
        (editor.connection other).target = none →
      editor.canFace this other = true →
      Change liberties workspace engine none editor none
        ((editor.setTarget this (some other)).setTarget other (some this))
  | variableMade {editor : Editor σ} {generated name : String}
      {request : TypeRequest}
      {id : Option String} {place : VariableId} {store : Variables}
      (drawn : Nat) :
      (editor.variablesOf workspace).create generated name request id =
        .ok (.made place store) →
      Change liberties workspace engine none editor none
        { editor.setVariables workspace store with drawn }
  | begun {editor : Editor σ} {block : BlockId} (mode : WiringMode) :
      editor.blocks.contains block → editor.liveWiringFor? engine block = none →
      Change liberties workspace engine none editor (some ⟨editor.wirings.size⟩)
        { editor with
          wirings := editor.wirings.insert ⟨editor.wirings.size⟩
            { block, mode, engine } }
  | assembled {before after : Editor σ} {wiring : WiringId}
      {slots : Slot → Prop} :
      (∀ slot, slots slot → before.Offers (before.wiring wiring).block slot) →
      Assembly workspace engine slots wiring before after →
      Change liberties workspace engine (some wiring) before (some wiring) after
  | recorded {editor : Editor σ} {wiring : WiringId} :
      (∀ key binding, editor.OpenBinding wiring key binding →
        editor.Attends workspace wiring key binding) →
      Change liberties workspace engine (some wiring) editor none
        (editor.recordWiring engine (editor.wiring wiring).block wiring)
  | dropped {editor : Editor σ} {wiring : WiringId} :
      (∀ key binding, ¬ editor.OpenBinding wiring key binding) →
      Change liberties workspace engine (some wiring) editor none editor
  | forgotten {editor : Editor σ} {block : BlockId} {wiring : WiringId} :
      editor.wiringFor? engine block = some wiring →
      Change liberties workspace engine none editor (some wiring)
        (editor.forgetWiring engine block)
  | closed {editor : Editor σ} {pending : Option WiringId} {wiring : WiringId} :
      (pending = none ∨ pending = some wiring) →
        editor.wirings.contains wiring →
      (editor.wiring wiring).disposed = false →
      Change liberties workspace engine pending editor
        none (editor.closeWiring wiring)
  | listened {editor : Editor σ} (key : SlotKey) (callback : CallbackId) :
      liberties.listens →
      Change liberties workspace engine none editor none
        (editor.updateRegistry workspace (·.subscribe key (.callback callback)))
  | unlistened {editor : Editor σ}
      {number : Nat} {entry : Subscription Listener} {callback : CallbackId} :
      liberties.listens →
        editor.subscription? ⟨workspace, number⟩ = some entry →
      entry.listener = .callback callback →
      Change liberties workspace engine none editor none
        (editor.releaseSubscription ⟨workspace, number⟩)

/-- Elementary changes one after another. -/
def Course (liberties : Liberties) (workspace : WorkspaceId)
    (engine : EngineId) :
    Option WiringId × Editor σ → Option WiringId × Editor σ → Prop :=
  Relation.ReflTransGen fun before after =>
    Change liberties workspace engine before.1 before.2 after.1 after.2

namespace Course

variable {liberties : Liberties} {workspace : WorkspaceId} {engine : EngineId}
  {start middle finish : Option WiringId × Editor σ}
  {pending pending' : Option WiringId} {before after : Editor σ}

theorem refl (start : Option WiringId × Editor σ) :
    Course liberties workspace engine start start :=
  Relation.ReflTransGen.refl

theorem single (change : Change liberties workspace engine pending before
    pending' after) :
    Course liberties workspace engine (pending, before) (pending', after) :=
  Relation.ReflTransGen.single change

theorem trans (first : Course liberties workspace engine start middle)
    (second : Course liberties workspace engine middle finish) :
    Course liberties workspace engine start finish :=
  Relation.ReflTransGen.trans first second

theorem tail (course : Course liberties workspace engine start
    (pending, before))
    (change : Change liberties workspace engine pending before pending' after) :
    Course liberties workspace engine start (pending', after) :=
  course.trans (single change)

theorem steady (steady : Steady before after) :
    Course liberties workspace engine (pending, before) (pending, after) :=
  single (Change.steady steady)

end Course

/-- What is there stays there: blocks keep their ids, connections their keys
and blocks, and fields their names and kinds. -/
structure Outgrows (before after : Editor σ) : Prop where
  knownBlock : ∀ id, before.blocks.contains id → after.blocks.contains id
  blockId : ∀ id, before.blocks.contains id →
    (after.block id).id = (before.block id).id
  knownConnection : ∀ id, before.connections.contains id →
    after.connections.contains id
  connectionKey : ∀ id, before.connections.contains id →
    (after.connection id).key = (before.connection id).key
  connectionBlock : ∀ id, before.connections.contains id →
    (after.connection id).block = (before.connection id).block
  knownField : ∀ id, before.fields.contains id → after.fields.contains id
  fieldName : ∀ id, before.fields.contains id →
    (after.field id).name = (before.field id).name
  fieldKind : ∀ id, before.fields.contains id →
    (after.field id).kind.bare = (before.field id).kind.bare

namespace Outgrows

theorem refl (editor : Editor σ) : Outgrows editor editor where
  knownBlock := fun _ => id
  blockId := fun _ _ => rfl
  knownConnection := fun _ => id
  connectionKey := fun _ _ => rfl
  connectionBlock := fun _ _ => rfl
  knownField := fun _ => id
  fieldName := fun _ _ => rfl
  fieldKind := fun _ _ => rfl

end Outgrows

theorem Steady.outgrows {before after : Editor σ}
    (steady : Steady before after) :
    Outgrows before after where
  knownBlock := fun id => (steady.knownBlock id).mpr
  blockId := fun id _ => steady.blockId id
  knownConnection :=
    fun id => (OrderedMap.contains_congr steady.connectionKeys id).mpr
  connectionKey := fun id _ => steady.connectionKey id
  connectionBlock := fun id _ => steady.connectionBlock id
  knownField := fun id => (OrderedMap.contains_congr steady.fieldKeys id).mpr
  fieldName := fun id _ => steady.fieldName id
  fieldKind := fun id _ => steady.fieldKind id

end TypeFlow.Editor
