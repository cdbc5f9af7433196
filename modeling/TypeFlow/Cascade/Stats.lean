/-!
# Counters of an engine
-/

namespace TypeFlow

structure Stats where
  blocksWired : Int := 0
  blocksStatic : Int := 0
  bindings : Int := 0
  subscriptions : Int := 0
  released : Int := 0
  droppedDirectives : Int := 0
  recomputes : Int := 0
  writes : Int := 0
  maxCascadeDepth : Int := 0
  rejectedCycles : Int := 0
  deriving DecidableEq, Repr, Inhabited

namespace Stats

def liveSubscriptions (stats : Stats) : Int :=
  stats.subscriptions - stats.released

def toList (stats : Stats) : List Int :=
  [stats.blocksWired, stats.blocksStatic, stats.bindings, stats.subscriptions,
    stats.released, stats.droppedDirectives, stats.recomputes, stats.writes,
    stats.maxCascadeDepth, stats.rejectedCycles]

/-- Counts a recomputation at the given depth. -/
def countRecompute (stats : Stats) (depth : Nat) : Stats :=
  { stats with
    recomputes := stats.recomputes + 1
    maxCascadeDepth := max stats.maxCascadeDepth depth }

def countWrite (stats : Stats) : Stats :=
  { stats with writes := stats.writes + 1 }

def summary (stats : Stats) : String :=
  String.intercalate "\n"
    ["Type propagation statistics:",
      "  Blocks wired: " ++ toString stats.blocksWired ++ " live, "
        ++ toString stats.blocksStatic ++ " static",
      "  Bindings: " ++ toString stats.bindings,
      "  Subscriptions: " ++ toString stats.liveSubscriptions ++ " live ("
        ++ toString stats.released ++ " released)",
      "  Dropped directives: " ++ toString stats.droppedDirectives,
      "  Recomputes: " ++ toString stats.recomputes ++ " (" ++
        toString stats.writes ++ " changed a check)",
      "  Max cascade depth: " ++ toString stats.maxCascadeDepth,
      "  Rejected cycles: " ++ toString stats.rejectedCycles]

end Stats

end TypeFlow
