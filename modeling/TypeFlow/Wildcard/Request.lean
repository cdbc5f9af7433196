import TypeFlow.Wildcard.Compatible

/-!
# Requests to a shared cache

Any number of checkers may share one cache; a request is what one of them
asks.
-/

namespace TypeFlow.Wildcard

inductive Request where
  | find (tag : Tag)
  | peek (tag : Tag)
  | contains (tag : Tag)
  | admits (types offered : TypeList)
  | compatible (this other : Check)
  | relax (this other : Check) (strict : Bool)
  | counts
  | resetCounts
  deriving DecidableEq, Repr

inductive Reply where
  | nothing
  | name (text : String)
  | stored (text : Option String)
  | verdict (answer : Bool)
  | counts (counts : Hits)
  deriving DecidableEq, Repr

/-- The answer to a request, and the cache after it. -/
def Request.answer (cache : Cache) : Request → Reply × Cache
  | .find tag => let found := cache.find tag; (.name found.1, found.2)
  | .peek tag => (.stored (cache.peek tag), cache)
  | .contains tag => (.verdict (cache.contains tag), cache)
  | .admits types offered =>
      let found := cache.admits types offered; (.verdict found.1, found.2)
  | .compatible this other =>
      let found := cache.compatible this other; (.verdict found.1, found.2)
  | .relax this other strict =>
      let found := cache.relax this other strict
      (.verdict found.1, found.2)
  | .counts => (.counts cache.counts, cache)
  | .resetCounts => (.nothing, cache.resetCounts)

/-- The answers to requests in turn, each with the cache after it. -/
def Request.answerAll (cache : Cache) : List Request → List (Reply × Cache)
  | [] => []
  | request :: rest =>
      let first := request.answer cache
      first :: answerAll first.2 rest

end TypeFlow.Wildcard
