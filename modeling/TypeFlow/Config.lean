import TypeFlow.Fault

/-!
# Configuration of an engine

`Settings` are what a user asks for; a `Config` has passed validation.
-/

namespace TypeFlow

structure Settings where
  /-- The text that marks a tag as a directive. -/
  lead : String := "From:"
  /-- How many recomputations may be nested. -/
  maxDepth : Int := 64
  /-- Refuse blocks whose directives refer to each other in a circle. -/
  rejectCycles : Bool := true
  /-- Recompute every binding once right after wiring. -/
  initialRecompute : Bool := true
  deriving DecidableEq, Repr

/-- Settings with a lead text and room for at least one recomputation. -/
structure Config extends Settings where
  lead_ne_empty : lead ≠ "" := by decide
  one_le_maxDepth : 1 ≤ maxDepth := by decide

instance : Inhabited Config := ⟨{}⟩

/-- The lead text is examined before the depth. -/
def Settings.validate (settings : Settings) : Except Fault Config :=
  if empty : settings.lead = "" then .error .leadTextEmpty
  else if small : settings.maxDepth < 1
    then .error (.depthLimitTooSmall settings.maxDepth)
  else .ok { settings with lead_ne_empty := empty, one_le_maxDepth := by omega }

end TypeFlow
