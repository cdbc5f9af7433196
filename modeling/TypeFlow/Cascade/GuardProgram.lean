import TypeFlow.Cascade.Guard

/-!
# Programs over a guard

A program nests and sequences guarded blocks, raises faults and catches them.
Running it leaves a trace of what happened at the guard.
-/

namespace TypeFlow

inductive GuardStep where
  /-- Run the body with the slot on the stack, catching a fault if asked to. -/
  | enter (key : KeyText) (body : List GuardStep) (catches : Bool)
  /-- Run the body and catch a fault that it raises. -/
  | attempt (body : List GuardStep)
  | query (key : KeyText)
  | raise (message : String)

instance : Inhabited GuardStep := ⟨.raise ""⟩

inductive GuardEvent where
  | entered (depth : Nat) (stack : List SlotKey)
  | left (depth : Nat)
  | caught (fault : Fault) (depth : Nat)
  | active (answer : Bool)
  deriving DecidableEq, Repr

structure GuardRun where
  guard : Guard
  events : List GuardEvent := []
  deriving DecidableEq, Repr

namespace GuardRun

def record (run : GuardRun) (event : GuardEvent) : GuardRun :=
  { run with events := run.events ++ [event] }

/-- The run on entry to a slot, or the fault that refuses it. -/
def enter (run : GuardRun) (key : SlotKey) : Except Fault GuardRun :=
  match run.guard.enter key with
  | .error fault => .error fault
  | .ok guard =>
      .ok (record { run with guard } (.entered guard.depth guard.stack))

/-- The run after a block that was refused or entered with this outcome. -/
def handle (catches : Bool) (outcome : Except Fault Unit) (run : GuardRun) :
    Except Fault Unit × GuardRun :=
  match outcome with
  | .ok () => (.ok (), run.record (.left run.guard.depth))
  | .error fault =>
      if catches then (.ok (), run.record (.caught fault run.guard.depth))
      else (.error fault, run)

/-- The run after a body whose fault, if there is one, is caught. -/
def recover (outcome : Except Fault Unit) (run : GuardRun) :
    Except Fault Unit × GuardRun :=
  match outcome with
  | .ok () => (.ok (), run)
  | .error fault => (.ok (), run.record (.caught fault run.guard.depth))

mutual

def step : GuardStep → GuardRun → Except Fault Unit × GuardRun
  | .enter written body catches, run =>
      match written.resolve with
      | .error fault => handle catches (.error fault) run
      | .ok key =>
          match run.enter key with
          | .error fault => handle catches (.error fault) run
          | .ok inside =>
              let after := steps body inside
              handle catches after.1 { after.2 with
                guard := after.2.guard.leave key }
  | .attempt body, run =>
      let after := steps body run
      recover after.1 after.2
  | .query written, run =>
      match written.resolve with
      | .error fault => (.error fault, run)
      | .ok key => (.ok (), run.record (.active (run.guard.isActive key)))
  | .raise message, run => (.error (.raised message), run)

def steps : List GuardStep → GuardRun → Except Fault Unit × GuardRun
  | [], run => (.ok (), run)
  | first :: rest, run =>
      match step first run with
      | (.ok (), after) => steps rest after
      | (.error fault, after) => (.error fault, after)

end

/-- Runs a program on a new guard. -/
def ofProgram (maxDepth : Int) (program : List GuardStep) :
    Except Fault Unit × GuardRun :=
  steps program { guard := { maxDepth } }

end GuardRun

end TypeFlow
