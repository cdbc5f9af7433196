import TypeFlow.Editor.Block
import TypeFlow.Editor.Setup
import TypeFlow.Session.Command

/-!
# Names and scripts of a session

Each kind of thing has a table of names of its own.  Giving a name again
replaces what it stands for and keeps its place in the table.
-/

namespace TypeFlow

/-- A script that runs on the first `times` calls. -/
structure Callback where
  tag : String
  script : List Command
  times : Int

instance : Inhabited Callback := ⟨⟨"", [], 0⟩⟩

structure Session where
  caches : OrderedMap String CacheId := {}
  checkers : OrderedMap String CheckerId := {}
  engines : OrderedMap String EngineId := {}
  workspaces : OrderedMap String WorkspaceId := {}
  blocks : OrderedMap String BlockId := {}
  slots : OrderedMap String Slot := {}
  variablePlaces : OrderedMap String VariableId := {}
  subscriptions : OrderedMap String SubscriptionId := {}
  wirings : OrderedMap String WiringId := {}
  callbacks : OrderedMap CallbackId Callback := {}
  /-- Tags of the callbacks called since the current command began. -/
  log : List String := []

abbrev SessionM := EditM Session

namespace Session

variable {α : Type}

/-- Changes the session's own part of the state. -/
def update (change : Session → Session) : SessionM Unit :=
  modify fun editor => { editor with outer := change editor.outer }

/-- What a name stands for in a table. -/
def find (table : Session → OrderedMap String α) (name : String) : SessionM α :=
  do
  match (table (← get).outer).get? name with
  | some found => return found
  | none => throw (.unknownReference name)

/-- What an optional name stands for. -/
def find? (table : Session → OrderedMap String α) (name : Option String) :
    SessionM (Option α) := do
  match name with
  | some name => return some (← find table name)
  | none => return none

/-- The slot at an address. -/
def slot (address : SlotAddress) : SessionM Slot := do
  let orFail (found : Option Slot) : SessionM Slot :=
    match found with
    | some slot => return slot
    | none => throw (.noSlot address.parts)
  match address with
  | .output block =>
      let block ← find blocks block
      let editor ← get
      orFail ((editor.block block).output.map Slot.connection)
  | .input block name =>
      let block ← find blocks block
      let editor ← get
      orFail (((editor.block block).row? name).bind fun row =>
        row.connection.map Slot.connection)
  | .field block name =>
      let block ← find blocks block
      let editor ← get
      orFail ((editor.findField? block name).map Slot.field)
  | .saved name => find slots name

/-- The connection at an address. -/
def connection (address : SlotAddress) : SessionM ConnectionId := do
  match ← slot address with
  | .connection connection => return connection
  | .field _ => throw (.noSlot address.parts)

/-- The field at an address. -/
def field (address : SlotAddress) : SessionM FieldId := do
  match ← slot address with
  | .field field => return field
  | .connection _ => throw (.noSlot address.parts)

/-- Remembers a script and returns what to call it by. -/
def newCallback (callback : Callback) : SessionM CallbackId := do
  let id : CallbackId := ⟨(← get).outer.callbacks.size⟩
  update fun session => { session with
    callbacks := session.callbacks.insert id callback }
  return id

/-- The engine of this name, or else the engine of a block's workspace. -/
def engineFor (block : BlockId) (name : Option String) : SessionM EngineId := do
  match ← find? engines name with
  | some engine => return engine
  | none =>
      let editor ← get
      return (editor.workspace (editor.block block).workspace).engine

/-- Carries out one step in the making of an engine. -/
def draftStep (draft : EngineDraft) : DraftStep → SessionM EngineDraft
  | .lead text =>
      return { draft with settings := { draft.settings with lead := text } }
  | .maxDepth limit =>
      return { draft with
        settings := { draft.settings with maxDepth := limit } }
  | .cache name => return { draft with cache := some (← find caches name) }
  | .checker name =>
      return { draft with checker := some (← find checkers name) }
  | .allowCycles =>
      return { draft with
        settings := { draft.settings with rejectCycles := false } }
  | .skipInitialRecompute =>
      return { draft with
        settings := { draft.settings with initialRecompute := false } }

def newEngine : EngineRequest → SessionM EngineId
  | .configured settings checker => do
      let _ ← Editor.lookup fun _ => settings.validate
      Editor.newEngine { settings, checker := ← find? checkers checker }
  | .shared cache maxDepth => do
      Editor.newEngine
        { settings := { maxDepth }, cache := ← find? caches cache }
  | .drafted steps => do
      Editor.newEngine (← steps.foldlM draftStep {})

end Session

end TypeFlow
