import TypeFlow.Editor.Slot

/-!
# Listening to slots

A slot's listeners are kept in the registry of the workspace its block
belongs to.  A notification calls the listeners that were there when it began.
-/

namespace TypeFlow.Editor

variable {σ : Type}

/-- Calls the listeners of a key in a workspace and returns their number. -/
def notify (react : Reaction σ) (workspace : WorkspaceId) (key : SlotKey) :
    EditM σ Nat := do
  let listeners ← look fun editor =>
    (editor.workspace workspace).registry.listenersAt key
  listeners.forM react
  return listeners.length

/-- Changes the registry of a workspace. -/
def updateRegistry (editor : Editor σ) (workspace : WorkspaceId)
    (change : Registry Listener → Registry Listener) : Editor σ :=
  editor.updateWorkspace workspace fun entry => { entry with
    registry := change entry.registry }

/-- Subscribes a listener to a slot. -/
def subscribe (slot : Slot) (listener : Listener) : EditM σ SubscriptionId := do
  let block ← lookup (·.slotBlock slot)
  let workspace ← look fun editor => (editor.block block).workspace
  let key ← lookup (·.slotKey slot)
  let number ← look fun editor =>
    (editor.workspace workspace).registry.nextNumber
  modify (·.updateRegistry workspace (·.subscribe key listener))
  return ⟨workspace, number⟩

def subscription? (editor : Editor σ) (id : SubscriptionId) :
    Option (Subscription Listener) :=
  (editor.workspace id.workspace).registry.subscription? id.number

def isActive (editor : Editor σ) (id : SubscriptionId) : Bool :=
  match editor.subscription? id with
  | some subscription => subscription.active
  | none => false

def releaseSubscription (editor : Editor σ) (id : SubscriptionId) : Editor σ :=
  editor.updateRegistry id.workspace (·.release id.number)

end TypeFlow.Editor
