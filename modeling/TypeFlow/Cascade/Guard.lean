import TypeFlow.Fault

/-!
# Guard of a cascade

The guard holds the slots that are being recomputed, innermost last.  It
refuses a slot that is already there, and any slot when the stack is full.
-/

namespace TypeFlow

structure Guard where
  maxDepth : Int := 64
  stack : List SlotKey := []
  /-- The slots on the stack, as a set. -/
  active : List SlotKey := []
  /-- The greatest length the stack ever had. -/
  deepest : Nat := 0
  deriving DecidableEq, Repr, Inhabited

namespace Guard

def depth (guard : Guard) : Nat :=
  guard.stack.length

def isActive (guard : Guard) (key : SlotKey) : Bool :=
  guard.active.contains key

/-- Puts a slot on the stack.  Re-entry is examined before the depth. -/
def enter (guard : Guard) (key : SlotKey) : Except Fault Guard :=
  if guard.isActive key then .error (.cyclicPropagation key guard.stack)
  else if guard.maxDepth ≤ guard.depth
    then .error (.cascadeTooDeep key guard.maxDepth)
  else
    .ok { guard with
      stack := guard.stack ++ [key]
      active := key :: guard.active
      deepest := max guard.deepest (guard.depth + 1) }

/-- Takes the innermost slot, which was entered as `key`, off the stack. -/
def leave (guard : Guard) (key : SlotKey) : Guard :=
  { guard with
    stack := guard.stack.dropLast
    active := guard.active.filter fun other => other ≠ key }

/-- A slot is let in if it is not there yet and the stack is not full. -/
theorem of_enter {guard entered : Guard} {key : SlotKey}
    (enters : guard.enter key = .ok entered) :
    key ∉ guard.active ∧ (guard.depth : Int) < guard.maxDepth ∧
      entered = { guard with
        stack := guard.stack ++ [key]
        active := key :: guard.active
        deepest := max guard.deepest (guard.depth + 1) } := by
  unfold enter at enters
  split at enters
  · cases enters
  · rename_i inactive
    split at enters
    · cases enters
    · rename_i room
      cases enters
      refine ⟨?_, Int.not_le.mp room, rfl⟩
      intro active
      exact inactive (List.contains_iff_mem.mpr active)

/-- Entering and leaving restores the stack and the active slots, whatever
the guard saw in between. -/
theorem leave_restores {guard entered left : Guard} {key : SlotKey}
    (enters : guard.enter key = .ok entered)
    (stack : left.stack = entered.stack)
    (active : left.active = entered.active) :
    (left.leave key).stack = guard.stack ∧
      (left.leave key).active = guard.active := by
  obtain ⟨inactive, _, isEntered⟩ := of_enter enters
  rw [isEntered] at stack active
  constructor
  · simp [leave, stack]
  · have kept : ∀ other ∈ guard.active, other ≠ key := by
      rintro other isActive rfl
      exact inactive isActive
    simpa [leave, active, List.filter_eq_self] using kept

end Guard

end TypeFlow
