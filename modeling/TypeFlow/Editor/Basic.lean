import TypeFlow.Cascade.Guard
import TypeFlow.Cascade.Stats
import TypeFlow.Config
import TypeFlow.Directive.Basic
import TypeFlow.Extension.Table
import TypeFlow.Slot.Choice
import TypeFlow.Slot.Registry
import TypeFlow.Variable.Basic
import TypeFlow.Wildcard.Compatible

/-!
# The state of an editor

An editor holds workspaces, the blocks on them with their connections and
fields, the engines that keep types up to date, and the wirings an engine has
made.  Everything is kept in a table under a number that is never used again,
so a block that was removed, an output that was replaced or a field that was
taken along is still the same one.
-/

namespace TypeFlow

structure CacheId where
  number : Nat
  deriving DecidableEq, Repr, Inhabited

structure CheckerId where
  number : Nat
  deriving DecidableEq, Repr, Inhabited

structure EngineId where
  number : Nat
  deriving DecidableEq, Repr, Inhabited

structure WorkspaceId where
  number : Nat
  deriving DecidableEq, Repr, Inhabited

structure BlockId where
  number : Nat
  deriving DecidableEq, Repr, Inhabited

structure ConnectionId where
  number : Nat
  deriving DecidableEq, Repr, Inhabited

structure FieldId where
  number : Nat
  deriving DecidableEq, Repr, Inhabited

structure WiringId where
  number : Nat
  deriving DecidableEq, Repr, Inhabited

/-- Names an action that is defined outside the editor. -/
structure CallbackId where
  number : Nat
  deriving DecidableEq, Repr, Inhabited

/-- A subscription by the workspace whose registry issued it and its number. -/
structure SubscriptionId where
  workspace : WorkspaceId
  number : Nat
  deriving DecidableEq, Repr, Inhabited

/-- A place that has types: a connection or a field. -/
inductive Slot where
  | connection (connection : ConnectionId)
  | field (field : FieldId)
  deriving DecidableEq, Repr

/-- What is called when a slot changes. -/
inductive Listener where
  /-- Recompute the binding that a wiring has for a target. -/
  | recompute (wiring : WiringId) (target : SlotKey)
  | callback (callback : CallbackId)
  deriving DecidableEq, Repr

structure Connection where
  key : SlotKey
  block : BlockId
  check : Check := none
  /-- The connection at the other end. -/
  target : Option ConnectionId := none
  deriving DecidableEq, Repr

instance : Inhabited Connection := ⟨⟨⟨"", .output, ""⟩, default, none, none⟩⟩

def Connection.isOutput (connection : Connection) : Bool :=
  connection.key.kind = .output

inductive FieldKind where
  | text
  | dropdown (choices : List Choice)
  /-- Refers to a variable by its id; the check lists the allowed types. -/
  | reference (types : Check)
  deriving DecidableEq, Repr

structure Field where
  name : String
  kind : FieldKind
  value : FieldValue := .nothing
  /-- The block the field was attached to last. -/
  block : Option BlockId := none
  deriving DecidableEq, Repr

instance : Inhabited Field := ⟨{ name := "", kind := .text }⟩

/-- The check of a variable field; other fields have none. -/
def Field.check (field : Field) : Check :=
  match field.kind with
  | .reference types => types
  | _ => none

/-- A row of a block: fields, and a connection unless it is a dummy. -/
structure Row where
  name : String
  connection : Option ConnectionId := none
  fields : List FieldId := []
  deriving DecidableEq, Repr

structure Block where
  workspace : WorkspaceId
  type : String
  id : String
  /-- Names of the extensions to apply when the block is set up. -/
  extensions : List String := []
  output : Option ConnectionId := none
  rows : List Row := []
  initialized : Bool := false
  disposed : Bool := false
  deriving DecidableEq, Repr, Inhabited

def Block.text (block : Block) : String :=
  block.type ++ " (" ++ block.id ++ ")"

/-- The first row of this name. -/
def Block.row? (block : Block) (name : String) : Option Row :=
  block.rows.find? fun row => row.name = name

/-- All fields, row by row. -/
def Block.fields (block : Block) : List FieldId :=
  block.rows.flatMap Row.fields

/-- The output and the connections of the rows, in order. -/
def Block.connections (block : Block) : List ConnectionId :=
  block.output.toList ++ block.rows.filterMap Row.connection

/-- A live block follows its sources; a static one is only cleaned up. -/
inductive WiringMode where
  | live
  | static
  deriving DecidableEq, Repr, Inhabited

namespace WiringMode

def text : WiringMode → String
  | .live => "live"
  | .static => "static"

def ofText (text : String) : Except Fault WiringMode :=
  if text = "live" then .ok .live
  else if text = "static" then .ok .static
  else .error (.unknownWiringMode text)

end WiringMode

/-- A directive together with the slot it takes types from. -/
structure Link where
  directive : Directive
  source : Slot
  deriving DecidableEq, Repr

/-- Keeps the check of one slot up to date. -/
structure Binding where
  target : Slot
  regular : TypeList
  links : List Link
  label : String
  deriving DecidableEq, Repr

/-- The bindings and subscriptions an engine made for a block. -/
structure Wiring where
  block : BlockId
  mode : WiringMode
  engine : EngineId
  bindings : OrderedMap SlotKey Binding := {}
  subscriptions : List SubscriptionId := []
  disposed : Bool := false
  deriving DecidableEq, Repr, Inhabited

structure Engine where
  config : Config
  checker : CheckerId
  guard : Guard
  stats : Stats := {}
  /-- Recorded wirings by block id. -/
  wirings : OrderedMap String WiringId := {}
  deriving Inhabited

inductive ExtensionAction where
  /-- Wire the block with the workspace's engine. -/
  | wire
  | callback (callback : CallbackId)
  deriving DecidableEq, Repr

structure Workspace where
  engine : EngineId
  /-- Blocks of a template are wired statically. -/
  isTemplate : Bool := false
  registry : Registry Listener := {}
  variableIndex : VariableIndex := {}
  extensions : ExtensionTable ExtensionAction := {}
  /-- Registered blocks by id. -/
  blocks : OrderedMap String BlockId := {}
  deriving DecidableEq, Repr, Inhabited

def Workspace.mode (workspace : Workspace) : WiringMode :=
  if workspace.isTemplate then .static else .live

/-- All that an editor holds.  `outer` belongs to whoever drives the editor;
the editor itself neither reads nor writes it. -/
structure Editor (σ : Type) where
  caches : OrderedMap CacheId Wildcard.Cache := {}
  checkers : OrderedMap CheckerId CacheId := {}
  engines : OrderedMap EngineId Engine := {}
  workspaces : OrderedMap WorkspaceId Workspace := {}
  blocks : OrderedMap BlockId Block := {}
  connections : OrderedMap ConnectionId Connection := {}
  fields : OrderedMap FieldId Field := {}
  wirings : OrderedMap WiringId Wiring := {}
  /-- All variables ever made. -/
  pool : VariablePool := {}
  /-- Number of ids drawn so far. -/
  drawn : Nat := 0
  outer : σ

/-- Operations on an editor.  What was done before a fault stays done. -/
abbrev EditM (σ : Type) := ExceptT Fault (StateM (Editor σ))

/-- How listeners are called. -/
abbrev Reaction (σ : Type) := Listener → EditM σ Unit

/-- What callbacks do. -/
abbrev Callbacks (σ : Type) := CallbackId → EditM σ Unit

namespace Editor

variable {σ α : Type}

def cache (editor : Editor σ) (cache : CacheId) : Wildcard.Cache :=
  editor.caches.getD cache default

def engine (editor : Editor σ) (engine : EngineId) : Engine :=
  editor.engines.getD engine default

def workspace (editor : Editor σ) (workspace : WorkspaceId) : Workspace :=
  editor.workspaces.getD workspace default

def block (editor : Editor σ) (block : BlockId) : Block :=
  editor.blocks.getD block default

def connection (editor : Editor σ) (connection : ConnectionId) : Connection :=
  editor.connections.getD connection default

def field (editor : Editor σ) (field : FieldId) : Field :=
  editor.fields.getD field default

def wiring (editor : Editor σ) (wiring : WiringId) : Wiring :=
  editor.wirings.getD wiring default

/-- The cache behind an engine's checker. -/
def cacheOf (editor : Editor σ) (engine : EngineId) : CacheId :=
  editor.checkers.getD (editor.engine engine).checker default

/-- The variables that a workspace has filed. -/
def variablesOf (editor : Editor σ) (workspace : WorkspaceId) : Variables :=
  ⟨editor.pool, (editor.workspace workspace).variableIndex⟩

def setCache (editor : Editor σ) (id : CacheId) (cache : Wildcard.Cache) :
    Editor σ :=
  { editor with caches := editor.caches.insert id cache }

def updateEngine (editor : Editor σ) (id : EngineId)
    (change : Engine → Engine) : Editor σ :=
  { editor with
    engines := editor.engines.insert id (change (editor.engine id)) }

def updateWorkspace (editor : Editor σ) (id : WorkspaceId)
    (change : Workspace → Workspace) :
    Editor σ :=
  { editor with
    workspaces := editor.workspaces.insert id (change (editor.workspace id)) }

def updateBlock (editor : Editor σ) (id : BlockId) (change : Block → Block) :
    Editor σ :=
  { editor with blocks := editor.blocks.insert id (change (editor.block id)) }

def updateConnection (editor : Editor σ) (id : ConnectionId)
    (change : Connection → Connection) : Editor σ :=
  { editor with
    connections := editor.connections.insert id
      (change (editor.connection id)) }

def updateField (editor : Editor σ) (id : FieldId) (change : Field → Field) :
    Editor σ :=
  { editor with fields := editor.fields.insert id (change (editor.field id)) }

def updateWiring (editor : Editor σ) (id : WiringId)
    (change : Wiring → Wiring) : Editor σ :=
  { editor with
    wirings := editor.wirings.insert id (change (editor.wiring id)) }

def updateStats (editor : Editor σ) (id : EngineId) (change : Stats → Stats) :
    Editor σ :=
  editor.updateEngine id fun engine => { engine with
    stats := change engine.stats }

def setVariables (editor : Editor σ) (id : WorkspaceId) (store : Variables) :
    Editor σ :=
  { editor.updateWorkspace id fun workspace => { workspace with
    variableIndex := store.index } with pool := store.pool }

section Reads

variable (editor : Editor σ)

@[simp] theorem block_updateBlock (id other : BlockId)
    (change : Block → Block) :
    (editor.updateBlock id change).block other =
      if id = other then change (editor.block id) else editor.block other := by
  simp [block, updateBlock]

@[simp] theorem connection_updateConnection (id other : ConnectionId)
    (change : Connection → Connection) :
    (editor.updateConnection id change).connection other =
      if id = other then change (editor.connection id)
        else editor.connection other := by
  simp [connection, updateConnection]

@[simp] theorem field_updateField (id other : FieldId)
    (change : Field → Field) :
    (editor.updateField id change).field other =
      if id = other then change (editor.field id) else editor.field other := by
  simp [field, updateField]

@[simp] theorem wiring_updateWiring (id other : WiringId)
    (change : Wiring → Wiring) :
    (editor.updateWiring id change).wiring other =
      if id = other then change (editor.wiring id)
        else editor.wiring other := by
  simp [wiring, updateWiring]

@[simp] theorem workspace_updateWorkspace (id other : WorkspaceId)
    (change : Workspace → Workspace) :
    (editor.updateWorkspace id change).workspace other =
      if id = other then change (editor.workspace id)
        else editor.workspace other := by
  simp [workspace, updateWorkspace]

@[simp] theorem engine_updateEngine (id other : EngineId)
    (change : Engine → Engine) :
    (editor.updateEngine id change).engine other =
      if id = other then change (editor.engine id)
        else editor.engine other := by
  simp [engine, updateEngine]

end Reads

/-- A reading of the current state. -/
def look (view : Editor σ → α) : EditM σ α :=
  return view (← get)

/-- A reading of the current state that may fail. -/
def lookup (view : Editor σ → Except Fault α) : EditM σ α := do
  match view (← get) with
  | .ok value => return value
  | .error fault => throw fault

end Editor

end TypeFlow
