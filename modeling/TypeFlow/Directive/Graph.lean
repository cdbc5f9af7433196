import TypeFlow.OrderedMap
import TypeFlow.Slot.Key

/-!
# Dependencies between slots

A graph has an edge from each target slot to the slots its types are taken
from.  `findCycle` searches depth first, starting from the targets in the
order in which they were added, and returns the first cycle it closes.
-/

namespace TypeFlow

structure DirectiveGraph where
  forward : OrderedMap SlotKey (List SlotKey) := {}
  deriving DecidableEq, Repr

namespace DirectiveGraph

def sourcesOf (graph : DirectiveGraph) (target : SlotKey) : List SlotKey :=
  graph.forward.getD target []

/-- Records that `target` takes types from `source`, once. -/
def add (graph : DirectiveGraph) (target source : SlotKey) : DirectiveGraph :=
  let sources := graph.sourcesOf target
  ⟨graph.forward.insert target
    (if sources.contains source then sources else sources ++ [source])⟩

def ofEdges (edges : List (SlotKey × SlotKey)) : DirectiveGraph :=
  edges.foldl (fun graph edge => graph.add edge.1 edge.2) {}

/-- A cycle, if one was closed, and the slots known to lead to none. -/
abbrev Search := Option (List SlotKey) × List SlotKey

/-- Examines sources in order.  One on the path closes a cycle, one that is
done is skipped, any other is visited. -/
def scan (path : List SlotKey) (visit : List SlotKey → SlotKey → Search) :
    List SlotKey → List SlotKey → Search
  | done, [] => (none, done)
  | done, source :: rest =>
      if path.contains source then
        (some (path.dropWhile (fun key => key ≠ source) ++ [source]), done)
      else if done.contains source then scan path visit done rest
      else
        match visit done source with
        | (some cycle, after) => (some cycle, after)
        | (none, after) => scan path visit after rest

/-- Visits a slot that `path` leads to.  The fuel bounds the length of the
path, whose slots are all different. -/
def visit (graph : DirectiveGraph) :
    (fuel : Nat) → (path done : List SlotKey) → SlotKey → Search
  | 0, _, done, _ => (none, done)
  | fuel + 1, path, done, key =>
      match scan (path ++ [key]) (visit graph fuel (path ++ [key])) done
          (graph.sourcesOf key) with
      | (some cycle, after) => (some cycle, after)
      | (none, after) => (none, key :: after)

/-- A path whose last slot is its first one, or `none` if there is no cycle. -/
def findCycle (graph : DirectiveGraph) : Option (List SlotKey) :=
  (scan [] (graph.visit (graph.forward.size + 1) []) [] graph.forward.keys).1

end DirectiveGraph

end TypeFlow
