import TypeFlow.Session.Perform

/-!
# Running a session

A session starts with one workspace and performs commands one after the
other.  Each entry of the result holds the outcome of a command, the callbacks
called meanwhile and, in a traced run, the state whenever it has changed.
-/

namespace TypeFlow

structure Entry where
  outcome : Except Fault Reply
  log : List String
  snapshot : Option Snapshot

namespace Session

/-- The editor at the start: the workspace `ws` with the engine `ext`. -/
def start (engine : Option EngineRequest) (isTemplate : Bool) :
    Except Fault Unit × Editor Session :=
  let prepare : SessionM Unit := do
    let given ← engine.mapM newEngine
    let workspace ← Editor.newWorkspace given isTemplate
    let entry ← Editor.look (·.workspace workspace)
    update fun session =>
      { session with
        engines := session.engines.insert "ext" entry.engine
        workspaces := session.workspaces.insert "ws" workspace }
  prepare { outer := {} }

/-- Performs one command from the outside. -/
def performOne (limit : Nat) (command : Command) (editor : Editor Session) :
    Except Fault Reply × Editor Session :=
  perform (reaction limit) limit command
    { editor with outer := { editor.outer with log := [] } }

/-- Performs commands in turn.  A traced run takes a snapshot after each and
shows it when it differs from the last one. -/
def performAll (limit : Nat) (trace : Bool) :
    List Command → Option Snapshot → Editor Session → Except Fault (List Entry)
  | [], _, _ => .ok []
  | command :: rest, last, editor => do
      let result := performOne limit command editor
      let log := result.2.outer.log
      if trace then
        let current ← result.2.snapshot
        let shown := if last = some current then none else some current
        return ⟨result.1, log, shown⟩ ::
          (← performAll limit trace rest (some current) result.2)
      else
        return ⟨result.1, log, none⟩ ::
          (← performAll limit trace rest last result.2)

/-- Runs a session from its start. -/
def run (engine : Option EngineRequest) (isTemplate trace : Bool)
    (commands : List Command) :
    Except Fault (List Entry) :=
  match start engine isTemplate with
  | (.error fault, _) => .error fault
  | (.ok (), editor) =>
      performAll (Command.nestingBound commands) trace commands none editor

end Session

end TypeFlow
