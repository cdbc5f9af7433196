import TypeFlow.Fault
import TypeFlow.Slot.Registry

/-!
# Scripts over a registry

Listeners are names.  Each name may have a script that runs when the listener
is called, a limited number of times, and may itself subscribe, release and
notify.
-/

namespace TypeFlow

inductive RegistryStep where
  | subscribe (key : KeyText) (listener handle : String)
  | release (handle : String)
  | query (handle : String)
  | notify (key : KeyText)
  | count (key : Option KeyText)
  | clear (key : KeyText)
  | raise (message : String)
  deriving DecidableEq, Repr

/-- What a listener does on its first `times` calls. -/
structure ListenerScript where
  steps : List RegistryStep := []
  times : Int := 1
  deriving DecidableEq, Repr

inductive RegistryReply where
  | nothing
  | subscription (text : String)
  | status (active : Bool) (key : SlotKey)
  | count (number : Nat)
  deriving DecidableEq, Repr

structure RegistryRun where
  registry : Registry String := {}
  scripts : OrderedMap String ListenerScript := {}
  /-- Subscription numbers by handle. -/
  handles : OrderedMap String Nat := {}
  /-- Names of the listeners called since the last step began. -/
  log : List String := []
  deriving DecidableEq, Repr

abbrev RegistryM := ExceptT Fault (StateM RegistryRun)

namespace RegistryRun

/-- A listener's script, if it may run once more. -/
def takeTurn (run : RegistryRun) (listener : String) :
    Option (List RegistryStep × RegistryRun) :=
  let script := run.scripts.getD listener {}
  if 0 < script.times then
    some (script.steps,
      { run with
        scripts := run.scripts.insert listener { script with
          times := script.times - 1 } })
  else none

/-- How many scripts can still run. -/
def turns (run : RegistryRun) : Nat :=
  (run.scripts.values.map fun script => script.times.toNat).foldl (· + ·) 0

def numberOf (handle : String) : RegistryM Nat := do
  match (← get).handles.get? handle with
  | some number => return number
  | none => throw (.unknownReference handle)

def subscriptionText (number : Nat) : RegistryM RegistryReply := do
  match (← get).registry.subscription? number with
  | some subscription => return .subscription subscription.text
  | none => return .nothing

/-- Runs a step, given how listeners are called. -/
def step (call : String → RegistryM Unit) : RegistryStep →
    RegistryM RegistryReply
  | .subscribe written listener handle => do
      let key ← written.resolve
      let number := (← get).registry.nextNumber
      modify fun run =>
        { run with
          registry := run.registry.subscribe key listener
          handles := run.handles.insert handle number }
      subscriptionText number
  | .release handle => do
      let number ← numberOf handle
      modify fun run => { run with registry := run.registry.release number }
      subscriptionText number
  | .query handle => do
      let number ← numberOf handle
      match (← get).registry.subscription? number with
      | some subscription => return .status subscription.active subscription.key
      | none => return .nothing
  | .notify written => do
      let key ← written.resolve
      let listeners := (← get).registry.listenersAt key
      listeners.forM call
      return .count listeners.length
  | .count none => return .count (← get).registry.count
  | .count (some written) => do
      let key ← written.resolve
      return .count ((← get).registry.countAt key)
  | .clear written => do
      let key ← written.resolve
      modify fun run => { run with registry := run.registry.clear key }
      return .nothing
  | .raise message => throw (.raised message)

/-- Calls a listener.  The fuel bounds the nesting of scripts. -/
def call : (fuel : Nat) → (listener : String) → RegistryM Unit
  | 0, _ => throw .unsettled
  | fuel + 1, listener => do
      modify fun run => { run with log := run.log ++ [listener] }
      match (← get).takeTurn listener with
      | none => return
      | some (steps, after) =>
          set after
          steps.forM fun next => discard (step (call fuel) next)

/-- Runs a step from the outside; each nested script uses up one turn. -/
def perform (next : RegistryStep) (run : RegistryRun) :
    Except Fault RegistryReply × RegistryRun :=
  step (call (run.turns + 1)) next { run with log := [] }

/-- Runs all steps and returns each outcome with the state after it. -/
def performAll : List RegistryStep → RegistryRun →
    List (Except Fault RegistryReply × RegistryRun)
  | [], _ => []
  | next :: rest, run =>
      let outcome := perform next run
      outcome :: performAll rest outcome.2

end RegistryRun

end TypeFlow
