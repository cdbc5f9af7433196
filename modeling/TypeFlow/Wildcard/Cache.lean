import TypeFlow.Fault
import TypeFlow.Number.BinaryFraction
import TypeFlow.OrderedMap
import TypeFlow.Wildcard.Name

/-!
# Cache of wildcard names

Names are extracted once per tag and never forgotten.  The cache counts how
many lookups it answered by itself.  Every cache extracts names by the default
pattern, which is that of `name`; a pattern of a cache's own is left out.
-/

namespace TypeFlow.Wildcard

structure Hits where
  hits : Int := 0
  misses : Int := 0
  deriving DecidableEq, Repr, Inhabited

namespace Hits

def total (counts : Hits) : Int :=
  counts.hits + counts.misses

/-- The share of hits; zero when there were no lookups.  Counts of opposite
signs can make it too large to be kept. -/
def rate (counts : Hits) : Except Fault BinaryFraction :=
  if 0 < counts.total then
    let share := BinaryFraction.ofQuotient counts.hits counts.total
    if share.inRange then .ok share else .error .quotientTooLarge
  else .ok ⟨false, 0, 0⟩

/-- The share of hits with six decimal places. -/
def rateText (counts : Hits) : Except Fault String := do
  return (← counts.rate).fixed 6

def summary (counts : Hits) : Except Fault String := do
  let rate ← counts.rate
  return "Higher type cache: " ++ toString counts.hits ++ " hits, " ++
    toString counts.misses
    ++ " misses (" ++ (rate.times 100).fixed 1 ++ "% hit rate)"

end Hits

structure Cache where
  counts : Hits := {}
  entries : OrderedMap Tag String := {}
  deriving DecidableEq, Repr, Inhabited

namespace Cache

/-- The stored name, if the tag was looked up before. -/
def peek (cache : Cache) (tag : Tag) : Option String :=
  cache.entries.get? tag

def contains (cache : Cache) (tag : Tag) : Bool :=
  (cache.peek tag).isSome

def size (cache : Cache) : Nat :=
  cache.entries.size

/-- The name of a tag's wildcard, extracted on the first lookup. -/
def find (cache : Cache) (tag : Tag) : String × Cache :=
  match cache.peek tag with
  | some known =>
      (known, { cache with
        counts := { cache.counts with hits := cache.counts.hits + 1 } })
  | none =>
      let found := name tag
      (found,
        { counts := { cache.counts with misses := cache.counts.misses + 1 }
          entries := cache.entries.insert tag found })

/-- The names of all tags that are not empty, looked up in order. -/
def findAll (cache : Cache) : TypeList → List String × Cache
  | [] => ([], cache)
  | tag :: rest =>
      if tag = "" then cache.findAll rest
      else
        let first := cache.find tag
        let others := first.2.findAll rest
        (first.1 :: others.1, others.2)

def resetCounts (cache : Cache) : Cache :=
  { cache with counts := {} }

end Cache

end TypeFlow.Wildcard
