/-!
# Sets of code points

A property of characters is given by the lengths of the gaps and runs that
alternate from code point 0 on: a gap without the property, a run with it, and
so on.
-/

namespace TypeFlow.Text

/-- Whether the code point, counted from the first gap, is in one of the runs.
-/
def inRuns : List Nat → Nat → Bool
  | gap :: run :: rest, code =>
      if code < gap then false
      else if code < gap + run then true
      else inRuns rest (code - (gap + run))
  | _, _ => false

end TypeFlow.Text
