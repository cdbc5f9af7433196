import TypeFlow.OrderedMap
import TypeFlow.Slot.Key

/-!
# Listener registry

Listeners are kept by slot key, in the order of subscription.  Each
subscription is numbered and can be released once, which removes the first
equal listener from its key.  A key without listeners is not kept.
-/

namespace TypeFlow

structure Subscription (L : Type) where
  key : SlotKey
  listener : L
  active : Bool := true
  deriving DecidableEq, Repr

structure Registry (L : Type) where
  listeners : OrderedMap SlotKey (List L) := {}
  /-- All subscriptions ever made; a subscription's number is its place. -/
  issued : List (Subscription L) := []
  deriving DecidableEq, Repr

variable {L : Type}

def Subscription.text (subscription : Subscription L) : String :=
  "Subscription(" ++ subscription.key.text ++ ", "
    ++ (if subscription.active then "active" else "released") ++ ")"

namespace Registry

instance : Inhabited (Registry L) := ⟨{}⟩

/-- The listeners of a key, oldest first. -/
def listenersAt (registry : Registry L) (key : SlotKey) : List L :=
  registry.listeners.getD key []

def countAt (registry : Registry L) (key : SlotKey) : Nat :=
  (registry.listenersAt key).length

def count (registry : Registry L) : Nat :=
  (registry.listeners.values.map List.length).foldl (· + ·) 0

def subscription? (registry : Registry L) (number : Nat) :
    Option (Subscription L) :=
  registry.issued[number]?

/-- The number the next subscription will have. -/
def nextNumber (registry : Registry L) : Nat :=
  registry.issued.length

def subscribe (registry : Registry L) (key : SlotKey) (listener : L) :
    Registry L where
  listeners := registry.listeners.insert key
    (registry.listenersAt key ++ [listener])
  issued := registry.issued ++ [{ key, listener }]

/-- Forgets all listeners of a key; their subscriptions stay as they are. -/
def clear (registry : Registry L) (key : SlotKey) : Registry L :=
  { registry with listeners := registry.listeners.erase key }

theorem listenersAt_subscribe (registry : Registry L) (key other : SlotKey)
    (listener : L) :
    (registry.subscribe key listener).listenersAt other =
      if key = other then registry.listenersAt key ++ [listener]
      else registry.listenersAt other := by
  simp [listenersAt, subscribe]

theorem listenersAt_clear (registry : Registry L) (key other : SlotKey) :
    (registry.clear key).listenersAt other =
      if key = other then [] else registry.listenersAt other := by
  by_cases same : key = other <;>
    simp [listenersAt, clear, OrderedMap.getD, same]

variable [DecidableEq L]

/-- Removes the first equal listener from a key. -/
def detach (listeners : OrderedMap SlotKey (List L)) (key : SlotKey)
    (listener : L) :
    OrderedMap SlotKey (List L) :=
  match listeners.get? key with
  | none => listeners
  | some current =>
      match current.erase listener with
      | [] => listeners.erase key
      | remaining => listeners.insert key remaining

/-- Detaching removes the first equal listener and touches no other key. -/
theorem getD_detach (listeners : OrderedMap SlotKey (List L))
    (key other : SlotKey) (listener : L) :
    (detach listeners key listener).getD other [] =
      if key = other then (listeners.getD key []).erase listener
      else listeners.getD other [] := by
  unfold detach
  by_cases same : key = other
  · subst same
    cases stored : listeners.get? key with
    | none => simp [OrderedMap.getD, stored]
    | some current =>
        cases remaining : current.erase listener <;>
          simp [OrderedMap.getD, stored, remaining]
  · cases stored : listeners.get? key with
    | none => simp [same]
    | some current =>
        cases remaining : current.erase listener <;>
          simp [OrderedMap.getD, remaining, same]

/-- Releases a subscription; releasing it again changes nothing. -/
def release (registry : Registry L) (number : Nat) : Registry L :=
  match registry.subscription? number with
  | none => registry
  | some subscription =>
      if subscription.active then
        { listeners := detach registry.listeners subscription.key
            subscription.listener
          issued := registry.issued.set number { subscription with
            active := false } }
      else registry

end Registry

end TypeFlow
