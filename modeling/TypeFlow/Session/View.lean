import TypeFlow.Session.State

/-!
# Views of an editor

What a session shows of connections, fields, blocks, wirings and of the state
as a whole.
-/

namespace TypeFlow

structure RowView where
  name : String
  connection : Option String
  fields : List String
  deriving DecidableEq, Repr

structure BlockView where
  text : String
  id : String
  type : String
  output : Option String
  rows : List RowView
  deriving DecidableEq, Repr

structure BindingView where
  key : SlotKey
  text : String
  label : String
  regular : TypeList
  deriving DecidableEq, Repr

structure WiringView where
  blockId : String
  mode : WiringMode
  disposed : Bool
  bindings : List BindingView
  subscriptions : List String
  deriving DecidableEq, Repr

structure ConnectionState where
  key : SlotKey
  check : Check
  far : Option SlotKey
  listeners : Nat
  deriving DecidableEq, Repr

structure FieldState where
  key : SlotKey
  value : FieldValue
  check : Check
  provides : TypeList
  listeners : Nat
  deriving DecidableEq, Repr

structure BlockState where
  name : String
  id : String
  initialized : Bool
  disposed : Bool
  wired : Bool
  connections : List ConnectionState
  fields : List FieldState
  deriving DecidableEq, Repr

structure WorkspaceState where
  name : String
  blockIds : List String
  listeners : Nat
  variableList : List Variable
  deriving DecidableEq, Repr

structure EngineState where
  name : String
  stats : Stats
  depth : Nat
  deepest : Nat
  counts : Wildcard.Hits
  cacheSize : Nat
  deriving DecidableEq, Repr

/-- Everything a session shows of an editor at one moment. -/
structure Snapshot where
  blocks : List BlockState
  workspaces : List WorkspaceState
  engines : List EngineState
  deriving DecidableEq, Repr

/-- The kind of field as it is named to a user. -/
def FieldKind.label : FieldKind → String
  | .text => "TextField"
  | .dropdown _ => "DropdownField"
  | .reference _ => "VariableField"

def Connection.text (connection : Connection) : String :=
  "MemoryConnection(" ++ connection.key.text ++ ", check=" ++
    connection.check.text ++ ")"

def Field.text (field : Field) : String :=
  field.kind.label ++ "(" ++ Text.quoted field.name ++ ", value=" ++
    field.value.display ++ ")"

namespace Editor

variable {σ : Type}

def connectionText (editor : Editor σ) (connection : ConnectionId) : String :=
  (editor.connection connection).text

def fieldText (editor : Editor σ) (field : FieldId) : String :=
  (editor.field field).text

def rowView (editor : Editor σ) (row : Row) : RowView where
  name := row.name
  connection := row.connection.map editor.connectionText
  fields := row.fields.map editor.fieldText

def blockView (editor : Editor σ) (block : BlockId) : BlockView :=
  let entry := editor.block block
  { text := entry.text
    id := entry.id
    type := entry.type
    output := entry.output.map editor.connectionText
    rows := entry.rows.map editor.rowView }

/-- The current key of a binding's target with the bodies of its directives. -/
def bindingText (editor : Editor σ) (binding : Binding) : Except Fault String :=
  do
  let key ← editor.slotKey binding.target
  return "SlotBinding(" ++ key.text ++ ", from="
    ++ Text.bracketed (binding.links.map fun link => link.directive.text) ++ ")"

def bindingView (editor : Editor σ) (entry : SlotKey × Binding) :
    Except Fault BindingView := do
  return {
    key := entry.1
    text := ← editor.bindingText entry.2
    label := entry.2.label
    regular := entry.2.regular }

def subscriptionText (editor : Editor σ) (subscription : SubscriptionId) :
    String :=
  match editor.subscription? subscription with
  | some entry => entry.text
  | none => ""

def wiringView (editor : Editor σ) (wiring : WiringId) :
    Except Fault WiringView := do
  let entry := editor.wiring wiring
  return {
    blockId := (editor.block entry.block).id
    mode := entry.mode
    disposed := entry.disposed
    bindings := ← entry.bindings.entries.mapM editor.bindingView
    subscriptions := entry.subscriptions.map editor.subscriptionText }

/-- The key at the other end of a connection. -/
def farKey (editor : Editor σ) (connection : ConnectionId) : Option SlotKey :=
  (editor.connection connection).target.map fun far =>
    (editor.connection far).key

def connectionState (editor : Editor σ) (workspace : WorkspaceId)
    (connection : ConnectionId) :
    ConnectionState :=
  let entry := editor.connection connection
  { key := entry.key
    check := entry.check
    far := editor.farKey connection
    listeners := (editor.workspace workspace).registry.countAt entry.key }

def fieldState (editor : Editor σ) (workspace : WorkspaceId) (field : FieldId) :
    Except Fault FieldState := do
  let entry := editor.field field
  let key ← editor.fieldKey field
  return {
    key
    value := entry.value
    check := entry.check
    provides := ← editor.fieldProvides field
    listeners := (editor.workspace workspace).registry.countAt key }

def blockState (editor : Editor σ) (entry : String × BlockId) :
    Except Fault BlockState := do
  let block := editor.block entry.2
  let engine := (editor.workspace block.workspace).engine
  return {
    name := entry.1
    id := block.id
    initialized := block.initialized
    disposed := block.disposed
    wired := (editor.liveWiringFor? engine entry.2).isSome
    connections :=
    block.connections.map (editor.connectionState block.workspace)
    fields := ← block.fields.mapM (editor.fieldState block.workspace) }

def workspaceState (editor : Editor σ) (entry : String × WorkspaceId) :
    WorkspaceState :=
  let workspace := editor.workspace entry.2
  let store := editor.variablesOf entry.2
  { name := entry.1
    blockIds := workspace.blocks.values.map fun block => (editor.block block).id
    listeners := workspace.registry.count
    variableList := store.all.map store.get }

def engineState (editor : Editor σ) (entry : String × EngineId) : EngineState :=
  let engine := editor.engine entry.2
  let cache := editor.cache (editor.cacheOf entry.2)
  { name := entry.1
    stats := engine.stats
    depth := engine.guard.depth
    deepest := engine.guard.deepest
    counts := cache.counts
    cacheSize := cache.size }

/-- The state of everything that has a name. -/
def snapshot (editor : Editor Session) : Except Fault Snapshot := do
  return {
    blocks := ← editor.outer.blocks.entries.mapM editor.blockState
    workspaces := editor.outer.workspaces.entries.map editor.workspaceState
    engines := editor.outer.engines.entries.map editor.engineState }

end Editor

end TypeFlow
