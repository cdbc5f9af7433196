import TypeFlow.Text.GeneratedId
import TypeFlow.Variable.Basic

/-!
# Commands on variables

Variables are remembered under handles, which outlive their deletion.
-/

namespace TypeFlow

inductive VariableCommand where
  | create (name : String) (request : TypeRequest) (id handle : Option String)
  | find (name : String) (request : TypeRequest)
  | findById (id : String)
  | ofType (type : Tag)
  | retype (handle : String) (request : TypeRequest)
  | delete (handle : String)
  | hasType (handle : String) (type : Tag)
  deriving DecidableEq, Repr

inductive VariableReply where
  | single (entry : Option Variable)
  | several (entries : List Variable)
  | flag (answer : Bool)
  deriving DecidableEq, Repr

structure VariableDesk where
  store : Variables := {}
  handles : OrderedMap String VariableId := {}
  /-- Number of ids drawn so far. -/
  drawn : Nat := 0
  deriving DecidableEq, Repr

namespace VariableDesk

def view (desk : VariableDesk) (place : Option VariableId) : VariableReply :=
  .single (place.map desk.store.get)

/-- Runs `action` on the variable with this handle. -/
def withHandle (desk : VariableDesk) (handle : String)
    (action : VariableId → Except Fault VariableReply × VariableDesk) :
    Except Fault VariableReply × VariableDesk :=
  match desk.handles.get? handle with
  | some place => action place
  | none => (.error (.unknownVariable handle), desk)

/-- Remembers a variable under a handle, its own id if none is given. -/
def remember (desk : VariableDesk) (handle : Option String)
    (place : VariableId) :
    Except Fault VariableReply × VariableDesk :=
  (.ok (desk.view (some place)),
    { desk with
      handles := desk.handles.insert (handle.getD (desk.store.get place).id)
        place })

def run (desk : VariableDesk) : VariableCommand →
    Except Fault VariableReply × VariableDesk
  | .create name request id handle =>
      match desk.store.create (Text.generatedId (desk.drawn + 1)) name
        request id with
      | .error fault => (.error fault, desk)
      | .ok (.found place) => desk.remember handle place
      | .ok (.made place store) =>
          remember { desk with store, drawn := desk.drawn + 1 } handle place
  | .find name request =>
      (.ok (desk.view (desk.store.find? name request.variableTypes)), desk)
  | .findById id => (.ok (desk.view (desk.store.findById? id)), desk)
  | .ofType type =>
      (.ok (.several ((desk.store.ofType type).map desk.store.get)), desk)
  | .retype handle request =>
      desk.withHandle handle fun place =>
        let result := desk.store.retype place request
        (.ok (.flag result.1), { desk with store := result.2 })
  | .delete handle =>
      desk.withHandle handle fun place =>
        let result := desk.store.delete place
        (.ok (.flag result.1), { desk with store := result.2 })
  | .hasType handle type =>
      desk.withHandle handle fun place =>
        (.ok (.flag ((desk.store.get place).hasType type)), desk)

/-- Every filed variable once. -/
def all (desk : VariableDesk) : List Variable :=
  desk.store.all.map desk.store.get

/-- Runs all commands and returns each outcome with the desk after it. -/
def runAll : List VariableCommand → VariableDesk →
    List (Except Fault VariableReply × VariableDesk)
  | [], _ => []
  | command :: rest, desk =>
      let outcome := desk.run command
      outcome :: runAll rest outcome.2

end VariableDesk

end TypeFlow
