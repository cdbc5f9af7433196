import TypeFlow.Fault
import TypeFlow.OrderedMap

/-!
# Named extensions

A table of actions by name.  A name can be registered once until it is
unregistered.
-/

namespace TypeFlow

abbrev ExtensionTable (α : Type) := OrderedMap String α

namespace ExtensionTable

variable {α : Type}

def register (table : ExtensionTable α) (name : String) (action : α) :
    Except Fault (ExtensionTable α) :=
  if table.contains name then .error (.extensionNameTaken name)
  else .ok (table.insert name action)

/-- Whether the name was registered, and the table without it. -/
def unregister (table : ExtensionTable α) (name : String) :
    Bool × ExtensionTable α :=
  (table.contains name, table.erase name)

def action (table : ExtensionTable α) (name : String) : Except Fault α :=
  match table.get? name with
  | some action => .ok action
  | none => .error (.extensionUnknown name)

end ExtensionTable

/-- Requests to a table whose actions label blocks. -/
inductive ExtensionRequest where
  | register (name label : String)
  | unregister (name : String)
  | apply (name block : String)
  | contains (name : String)
  deriving DecidableEq, Repr

inductive ExtensionReply where
  | nothing
  | flag (answer : Bool)
  | labelled (text : String)
  deriving DecidableEq, Repr

/-- The answer to a request, and the table after it. -/
def ExtensionRequest.answer (table : ExtensionTable String) :
    ExtensionRequest → Except Fault ExtensionReply × ExtensionTable String
  | .register name label =>
      match ExtensionTable.register table name label with
      | .ok after => (.ok .nothing, after)
      | .error fault => (.error fault, table)
  | .unregister name =>
      let result := ExtensionTable.unregister table name
      (.ok (.flag result.1), result.2)
  | .apply name block =>
      match ExtensionTable.action table name with
      | .ok label => (.ok (.labelled (label ++ "(" ++ block ++ ")")), table)
      | .error fault => (.error fault, table)
  | .contains name => (.ok (.flag (table.contains name)), table)

/-- The answers to requests in turn, each with the table after it. -/
def ExtensionRequest.answerAll (table : ExtensionTable String) :
    List ExtensionRequest →
      List (Except Fault ExtensionReply × ExtensionTable String)
  | [] => []
  | request :: rest =>
      let first := request.answer table
      first :: answerAll first.2 rest

end TypeFlow
