import TypeFlow.Editor.Basic
import TypeFlow.Variable.Command

/-!
# Commands of a session

A session drives an editor by commands that refer to things by name.  A
command can leave behind a script, which is run when a slot changes or when an
extension is applied.
-/

namespace TypeFlow

/-- A slot on a named block, or one that was saved under a name. -/
inductive SlotAddress where
  | output (block : String)
  | input (block name : String)
  | field (block name : String)
  | saved (name : String)
  deriving DecidableEq, Repr

namespace SlotAddress

/-- The parts of an address as they are written. -/
def parts : SlotAddress → List String
  | .output block => ["out", block]
  | .input block name => ["in", block, name]
  | .field block name => ["field", block, name]
  | .saved name => ["saved", name]

end SlotAddress

inductive FieldRequest where
  | text (name : String) (value : FieldValue)
  | dropdown (name : String) (choices : List Choice) (value : FieldValue)
  | reference (name : String) (types : Check) (value : FieldValue)
  deriving DecidableEq, Repr

/-- A field to append: a new one, or one that was saved. -/
inductive FieldSource where
  | made (request : FieldRequest)
  | saved (name : String)
  deriving DecidableEq, Repr

/-- What a block can be given. -/
inductive BlockPart where
  | output (check : Check)
  | input (name : String) (check : Check) (fields : List FieldRequest)
  | dummy (name : String) (fields : List FieldRequest)
  | unknown (name : String)
  deriving DecidableEq, Repr

/-- One step in the making of an engine. -/
inductive DraftStep where
  | lead (text : String)
  | maxDepth (limit : Int)
  | cache (name : String)
  | checker (name : String)
  | allowCycles
  | skipInitialRecompute
  deriving DecidableEq, Repr

inductive EngineRequest where
  | configured (settings : Settings) (checker : Option String)
  | shared (cache : Option String) (maxDepth : Int)
  | drafted (steps : List DraftStep)
  deriving DecidableEq, Repr

inductive Command where
  | newCache (name : String)
  | newChecker (name : String) (cache : Option String)
  | newEngine (name : String) (request : EngineRequest)
  | newWorkspace (name : String) (engine : Option String) (isTemplate : Bool)
  | newBlock (workspace type : String) (id : Option String)
      (extensions : List String)
      (name : Option String) (parts : List BlockPart) (setUp : Bool)
  | addPart (block : String) (part : BlockPart)
  | newField (name : String) (request : FieldRequest)
  | appendField (block : String) (row : Nat) (field : FieldSource)
  | save (slot : SlotAddress) (name : String)
  | initBlock (block : String)
  | disposeBlock (block : String)
  | removeBlock (workspace block : String)
  | findBlock (workspace id : String)
  | describe (block : String)
  | key (slot : SlotAddress)
  | connect (this other : SlotAddress)
  | canConnect (this other : SlotAddress)
  | disconnect (slot : SlotAddress)
  | link (slot : SlotAddress)
  | types (slot : SlotAddress)
  | setTypes (slot : SlotAddress) (check : Check)
  | resetTypes (slot : SlotAddress) (check : Check)
  | setValue (slot : SlotAddress) (value : FieldValue)
  | value (slot : SlotAddress)
  | choices (slot : SlotAddress)
  | setVariable (slot : SlotAddress) (handle : String)
  | referred (slot : SlotAddress)
  | allows (slot : SlotAddress) (request : TypeRequest)
  | onVariables (workspace : String) (command : VariableCommand)
  | listen (slot : SlotAddress) (name : String) (script : List Command)
    (times : Int)
  | unlisten (name : String)
  | notify (workspace : String) (key : KeyText)
  | clear (workspace : String) (key : KeyText)
  | register (workspace name : String) (script : List Command) (times : Int)
  | unregister (workspace name : String)
  | extensionNames (workspace : String)
  | applyExtension (workspace name block : String)
  | wire (block : String) (engine mode name : Option String)
  | releaseWiring (block : String) (engine : Option String)
  | wiring (block : String) (engine name : Option String)
  | disposeWiring (wiring : String)
  | releaseSubscription (wiring : String) (place : Nat)
  | recomputeAll (wiring : String)
  | recompute (wiring : String) (key : KeyText)
  | compute (wiring : String) (key : KeyText)
  | summary (engine : String)
  | resetStats (engine : String)
  | peek (engine : String) (tag : Tag)
  | raise (message : String)
  | snapshot
  | unknown (name : String)

instance : Inhabited Command := ⟨.snapshot⟩

namespace BlockPart

/-- How many slots the part adds, and one. -/
def weight : BlockPart → Nat
  | .input _ _ fields => fields.length + 2
  | .dummy _ fields => fields.length + 1
  | _ => 2

end BlockPart

namespace Command

mutual

/-- An upper bound on the commands that a command can lead to, scripts
included, and on the slots these can make. -/
def weight : Command → Nat
  | .listen _ _ script times => 1 + times.toNat * (1 + scriptWeight script)
  | .register _ _ script times => 1 + times.toNat * (1 + scriptWeight script)
  | .newBlock _ _ _ _ _ parts _ =>
      1 + (parts.map BlockPart.weight).foldl (· + ·) 0
  | .addPart _ part => 1 + part.weight
  | _ => 1

def scriptWeight : List Command → Nat
  | [] => 0
  | command :: rest => weight command + scriptWeight rest

end

/-- A bound on the nesting of scripts and of recomputations in a run: there
are no more pairs of an engine and a slot than this. -/
def nestingBound (commands : List Command) : Nat :=
  (scriptWeight commands + 2) * (scriptWeight commands + 2)

end Command

end TypeFlow
