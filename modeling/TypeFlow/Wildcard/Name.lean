import TypeFlow.Types.Check

/-!
# Names of wildcards

The name of the first wildcard in a tag is the run of letters right before
its `:*`.  It may be empty, and a tag without a wildcard has an empty name too.
-/

namespace TypeFlow.Wildcard

/-- Scans for the first `:*`; `run` holds the letters right before the
remaining characters, last one first. -/
def scanName (run : List Char) : List Char → List Char
  | [] => []
  | [_] => []
  | first :: second :: rest =>
      if first = ':' ∧ second = '*' then run.reverse
      else scanName (if first.isAlpha then first :: run else [])
        (second :: rest)

/-- The name of the first wildcard, or the empty text. -/
def name (tag : Tag) : String :=
  String.ofList (scanName [] tag.toList)

/-- Whether some wildcard of `offered` names a start of a tag of `types`. -/
def admits (types offered : TypeList) : Bool :=
  ((offered.filter (· ≠ "")).map name).any fun name =>
    name ≠ "" && types.any fun tag => tag ≠ "" && Tag.startsWith name tag

end TypeFlow.Wildcard
