import TypeFlow.Editor.Connection
import TypeFlow.Editor.Field

/-!
# Recomputing bindings

A binding's target is given its regular types followed by the types derived
from each of its sources.  Writing a target may call further listeners, which
recompute other bindings in turn; the engine's guard watches over the nesting.
-/

namespace TypeFlow.Editor

variable {σ α : Type}

/-- Replaces the check of a slot and tells whether it accepts other types now.
-/
def setTypes (react : Reaction σ) : Slot → Check → EditM σ Bool
  | .connection connection, check => setConnectionTypes react connection check
  | .field field, check => setFieldTypes react field check

/-- Puts back a list as it was, without calling anyone. -/
def resetTypes (editor : Editor σ) : Slot → Check → Editor σ
  | .connection connection, check => editor.setCheck connection check
  | .field field, check => editor.resetFieldTypes field check

/-- The types a link derives from what its source provides. -/
def linkTypes (editor : Editor σ) (link : Link) : Except Fault TypeList :=
  (editor.provides link.source).map link.directive.derive

/-- The check the target of a binding should have. -/
def computed (editor : Editor σ) (binding : Binding) : Except Fault Check := do
  let derived ← binding.links.mapM editor.linkTypes
  return Check.derived binding.regular derived

def setGuard (editor : Editor σ) (engine : EngineId)
    (guard : Guard) : Editor σ :=
  editor.updateEngine engine fun entry => { entry with guard }

/-- The outcome of an action as a value, with its effects kept. -/
def attempt (action : EditM σ α) : EditM σ (Except Fault α) :=
  fun editor =>
    let result := action editor
    (.ok result.1, result.2)

/-- Runs an action with a slot on the stack of an engine's guard.  The slot
leaves the stack however the action ends. -/
def guarded (engine : EngineId) (key : SlotKey) (action : Nat → EditM σ α) :
    EditM σ α := do
  let guard ← lookup fun editor => (editor.engine engine).guard.enter key
  modify (·.setGuard engine guard)
  let outcome ← attempt (action guard.depth)
  modify fun editor => editor.setGuard engine
    ((editor.engine engine).guard.leave key)
  lookup fun _ => outcome

/-- Recomputes a binding inside the guard and tells whether its target's check
accepts other types now. -/
def recomputeBinding (react : Reaction σ) (engine : EngineId)
    (binding : Binding) :
    EditM σ Bool := do
  let key ← lookup (·.slotKey binding.target)
  guarded engine key fun depth => do
    modify (·.updateStats engine (·.countRecompute depth))
    let check ← lookup (·.computed binding)
    let changed ← setTypes react binding.target check
    if changed then modify (·.updateStats engine Stats.countWrite)
    return changed

/-- Recomputes the binding a wiring has for a target. -/
def recompute (react : Reaction σ) (wiring : WiringId) (target : SlotKey) :
    EditM σ Bool := do
  let entry ← look (·.wiring wiring)
  match entry.bindings.get? target with
  | none => return false
  | some binding => recomputeBinding react entry.engine binding

/-- Calls a listener.  Callbacks are run by `outside`; the fuel bounds how
deep recomputations may be nested between two callbacks. -/
def reaction (outside : Callbacks σ) : (fuel : Nat) → Reaction σ
  | 0, _ => throw .unsettled
  | _ + 1, .callback callback => outside callback
  | fuel + 1, .recompute wiring target =>
      discard (recompute (reaction outside fuel) wiring target)

/-- Recomputes the listed targets of a wiring and counts those that changed. -/
def recomputeEach (react : Reaction σ) (wiring : WiringId) :
    List SlotKey → EditM σ Nat
  | [] => return 0
  | target :: rest => do
      let changed ← recompute react wiring target
      let others ← recomputeEach react wiring rest
      return (if changed then others + 1 else others)

def recomputeAll (react : Reaction σ) (wiring : WiringId) : EditM σ Nat := do
  recomputeEach react wiring
    (← look fun editor => (editor.wiring wiring).bindings.keys)

end TypeFlow.Editor
