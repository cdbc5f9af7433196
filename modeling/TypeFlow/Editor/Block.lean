import TypeFlow.Editor.Wiring
import TypeFlow.Text.GeneratedId

/-!
# Blocks

Making blocks, giving them an output, rows and fields, setting them up by
their extensions and taking them apart.
-/

namespace TypeFlow.Editor

variable {σ : Type}

/-- Draws the number of the next generated id. -/
def draw : EditM σ Nat := do
  modify fun editor => { editor with drawn := editor.drawn + 1 }
  look Editor.drawn

/-- The id to use: the given one, or a drawn one if it is missing or empty. -/
def chooseId (given : Option String) : EditM σ String := do
  if given.getD "" = "" then return Text.shortGeneratedId (← draw)
  else return given.getD ""

/-- Makes a block and registers it. -/
def newBlock (workspace : WorkspaceId) (type : String) (id : Option String)
    (extensions : List String) : EditM σ BlockId := do
  let id ← chooseId id
  if ← look fun editor => (editor.workspace workspace).blocks.contains id then
    throw (.blockIdTaken id)
  let block : BlockId := ⟨← look fun editor => editor.blocks.size⟩
  modify fun editor =>
    { editor with
      blocks := editor.blocks.insert block { workspace, type, id, extensions } }
  modify (·.updateWorkspace workspace fun entry =>
    { entry with blocks := entry.blocks.insert id block })
  return block

/-- Takes the block registered under the id of `block` out of a workspace. -/
def removeBlock (editor : Editor σ) (workspace : WorkspaceId)
    (block : BlockId) : Editor σ :=
  editor.updateWorkspace workspace fun entry =>
    { entry with blocks := entry.blocks.erase (editor.block block).id }

def newConnection (block : BlockId) (kind : SlotKind) (name : String)
    (check : Check) :
    EditM σ ConnectionId := do
  let id : ConnectionId := ⟨← look fun editor => editor.connections.size⟩
  let key : SlotKey :=
    ⟨← look fun editor => (editor.block block).id, kind, name⟩
  modify fun editor =>
    { editor with
      connections := editor.connections.insert id { key, block, check } }
  return id

/-- Gives a block a new output, in place of the one it may have. -/
def setOutput (block : BlockId) (check : Check) : EditM σ ConnectionId := do
  let connection ← newConnection block .output "output" check
  modify (·.updateBlock block fun entry => { entry with
    output := some connection })
  return connection

def appendRow (editor : Editor σ) (block : BlockId) (row : Row) : Editor σ :=
  editor.updateBlock block fun entry => { entry with
    rows := entry.rows ++ [row] }

def refuseTakenInput (block : BlockId) (name : String) : EditM σ Unit := do
  let entry ← look (·.block block)
  if (entry.row? name).isSome then throw (.inputNameTaken name entry.text)

/-- Appends a row with a connection and returns its place. -/
def appendInput (block : BlockId) (name : String) (check : Check) :
    EditM σ Nat := do
  refuseTakenInput block name
  let connection ← newConnection block .input name check
  let place ← look fun editor => (editor.block block).rows.length
  modify (·.appendRow block { name, connection := some connection })
  return place

/-- Appends a row without a connection, whose name may be empty, and returns
its place. -/
def appendDummyInput (block : BlockId) (name : String) : EditM σ Nat := do
  unless name = "" do refuseTakenInput block name
  let place ← look fun editor => (editor.block block).rows.length
  modify (·.appendRow block { name })
  return place

/-- Attaches a field to a block and appends it to one of the block's rows. -/
def appendField (block : BlockId) (place : Nat) (field : FieldId) :
    EditM σ Unit := do
  let name ← look fun editor => (editor.field field).name
  if (← look (·.findField? block name)).isSome then
    throw (.fieldNameTaken name
      (← look fun editor => (editor.block block).text))
  modify (·.updateField field fun entry => { entry with block := some block })
  modify (·.updateBlock block fun entry =>
    { entry with
      rows := entry.rows.modify place fun row => { row with
        fields := row.fields ++ [field] } })

/-- Applies the extension of this name; wiring returns the wiring. -/
def applyExtension (react : Reaction σ) (workspace : WorkspaceId)
    (name : String) (block : BlockId) : EditM σ (Option WiringId) := do
  let action ← lookup fun editor =>
    ExtensionTable.action (editor.workspace workspace).extensions name
  match action with
  | .wire =>
      let entry ← look (·.workspace workspace)
      return some (← wire react entry.engine block entry.mode)
  | .callback callback =>
      react (.callback callback)
      return none

/-- Applies the extensions of a block, once. -/
def initBlock (react : Reaction σ) (block : BlockId) : EditM σ Unit := do
  let entry ← look (·.block block)
  unless entry.initialized do
    entry.extensions.forM fun name =>
      discard (applyExtension react entry.workspace name block)
    modify (·.updateBlock block fun entry => { entry with initialized := true })

/-- Disconnects the rows of a block from `place` on.  A listener may append
rows while this goes on, and these are met too; `limit` bounds their number. -/
def disconnectRows (react : Reaction σ) (block : BlockId) :
    (limit place : Nat) → EditM σ Unit
  | 0, _ => return
  | limit + 1, place => do
      match ← look fun editor => (editor.block block).rows[place]? with
      | none => return
      | some row =>
          row.connection.forM (disconnect react)
          disconnectRows react block limit (place + 1)

/-- Releases a block's wiring, disconnects it and takes it out of its
workspace, once. -/
def disposeBlock (react : Reaction σ) (limit : Nat) (block : BlockId) :
    EditM σ Unit := do
  let entry ← look (·.block block)
  unless entry.disposed do
    let engine ← look fun editor => (editor.workspace entry.workspace).engine
    discard (releaseWiring engine block)
    (← look fun editor => (editor.block block).output).forM (disconnect react)
    disconnectRows react block limit 0
    modify (·.removeBlock entry.workspace block)
    modify (·.updateBlock block fun entry => { entry with disposed := true })

end TypeFlow.Editor
