import TypeFlow.Cascade.Guard
import TypeFlow.Cascade.Stats
import TypeFlow.Directive.Basic
import TypeFlow.Slot.Registry

/-!
# A binding on a bench

One binding on free-standing slots: the sources are lists set by hand, and the
target keeps whatever is written to it.  It is the smallest setting in which a
recomputation can be watched.
-/

namespace TypeFlow

structure Bench where
  sources : OrderedMap String TypeList := {}
  regular : TypeList := []
  directives : List Directive := []
  /-- A name for messages; the target's key if it is empty. -/
  label : String := ""
  check : Check := none
  /-- How often the target was written. -/
  writes : Nat := 0
  guard : Guard := {}
  stats : Stats := {}
  registry : Registry Unit := {}

inductive BenchStep where
  | compute
  | recompute
  | derived
  | source (name : String) (types : TypeList)
  | listen (name : String)
  | notify (name : String)
  | reset (check : Check)

inductive BenchReply where
  | nothing
  | check (check : Check)
  | lists (lists : List TypeList)
  | flag (answer : Bool)
  | count (number : Nat)

abbrev BenchM := ExceptT Fault (StateM Bench)

namespace Bench

def targetKey : SlotKey := ⟨"b", .output, "output"⟩

def sourceKey (name : String) : SlotKey := ⟨"b", .field, name⟩

def name (bench : Bench) : String :=
  if bench.label = "" then targetKey.text else bench.label

/-- The target's key with the bodies of the directives. -/
def text (bench : Bench) : String :=
  "SlotBinding(" ++ targetKey.text ++ ", from="
    ++ Text.bracketed (bench.directives.map Directive.text) ++ ")"

def sourceKeys (bench : Bench) : List SlotKey :=
  bench.directives.map fun directive => sourceKey directive.source

/-- The types derived by each directive. -/
def derivedTypes (bench : Bench) : List TypeList :=
  bench.directives.map fun directive =>
    directive.derive (bench.sources.getD directive.source [])

def computed (bench : Bench) : Check :=
  Check.derived bench.regular bench.derivedTypes

/-- Writes the target and tells whether its list is another one. -/
def write (bench : Bench) (check : Check) : Bool × Bench :=
  (decide (bench.check ≠ check), { bench with
    check, writes := bench.writes + 1 })

/-- Recomputes the target inside the guard. -/
def recompute (bench : Bench) : Except Fault Bool × Bench :=
  match bench.guard.enter targetKey with
  | .error fault => (.error fault, bench)
  | .ok guard =>
      let written := bench.write bench.computed
      let counted := bench.stats.countRecompute guard.depth
      (.ok written.1,
        { written.2 with
          guard := guard.leave targetKey
          stats := if written.1 then counted.countWrite else counted })

def notify (key : SlotKey) : BenchM Nat := do
  let listeners := (← get).registry.listenersAt key
  listeners.forM fun _ =>
    discard (recompute : Bench → Except Fault Bool × Bench)
  return listeners.length

def step : BenchStep → BenchM BenchReply
  | .compute => return .check (← get).computed
  | .recompute => do
      let changed ← (recompute : Bench → Except Fault Bool × Bench)
      return .flag changed
  | .derived => return .lists (← get).derivedTypes
  | .source name types => do
      modify fun bench => { bench with
        sources := bench.sources.insert name types }
      return .nothing
  | .listen name => do
      modify fun bench => { bench with
        registry := bench.registry.subscribe (sourceKey name) () }
      return .nothing
  | .notify name => return .count (← notify (sourceKey name))
  | .reset check => do
      modify fun bench => (bench.write check).2
      return .nothing

/-- Runs all steps and returns each outcome with the bench after it. -/
def stepAll : List BenchStep → Bench → List (Except Fault BenchReply × Bench)
  | [], _ => []
  | next :: rest, bench =>
      let outcome : Except Fault BenchReply × Bench := step next bench
      outcome :: stepAll rest outcome.2

end Bench

end TypeFlow
