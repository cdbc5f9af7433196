import TypeFlow.Proofs.OrderedMap
import TypeFlow.Slot.Registry

/-!
# Registered listeners and active subscriptions

A registry is exact when the listeners of every key are those of its active
subscriptions.  Subscribing and releasing keep a registry exact.  Releasing
the subscriptions of some listeners leaves all other listeners in order.
-/

namespace TypeFlow

variable {L : Type}

/-- The subscription after its release. -/
def Subscription.ended (subscription : Subscription L) : Subscription L :=
  { subscription with active := false }

/-- Active and made for this key. -/
def Subscription.serves (subscription : Subscription L) (key : SlotKey) :
    Bool :=
  subscription.active && subscription.key = key

namespace Registry

variable {registry : Registry L} {number : Nat}

/-- The listeners of the active subscriptions for a key, oldest first. -/
def served (registry : Registry L) (key : SlotKey) : List L :=
  (registry.issued.filter (·.serves key)).map Subscription.listener

/-- Every key has the listeners of its active subscriptions. -/
def Exact (registry : Registry L) : Prop :=
  ∀ key, (registry.listenersAt key).Perm (registry.served key)

theorem exact_empty : Exact ({} : Registry L) :=
  fun _ => List.Perm.refl []

theorem Exact.mem_iff (exact : registry.Exact) (key : SlotKey) (listener : L) :
    listener ∈ registry.listenersAt key ↔
      ∃ number subscription, registry.subscription? number = some subscription ∧
        subscription.active = true ∧ subscription.key = key ∧
          subscription.listener = listener := by
  rw [(exact key).mem_iff]
  simp only [served, subscription?, Subscription.serves, List.mem_map,
    List.mem_filter, Bool.and_eq_true, decide_eq_true_eq]
  constructor
  · rintro ⟨subscription, ⟨member, active, sameKey⟩, sameListener⟩
    obtain ⟨number, found⟩ := List.mem_iff_getElem?.mp member
    exact ⟨number, subscription, found, active, sameKey, sameListener⟩
  · rintro ⟨number, subscription, found, active, sameKey, sameListener⟩
    exact ⟨subscription, ⟨List.mem_of_getElem? found, active, sameKey⟩,
      sameListener⟩

theorem subscription?_subscribe (registry : Registry L) (key : SlotKey)
    (listener : L) (number : Nat) :
    (registry.subscribe key listener).subscription? number =
      if number = registry.nextNumber then some { key, listener }
      else registry.subscription? number := by
  unfold subscription? subscribe nextNumber
  by_cases new : number = registry.issued.length
  · subst new
    simp
  · rw [if_neg new]
    by_cases early : number < registry.issued.length
    · exact List.getElem?_append_left early
    · rw [List.getElem?_eq_none (by simp; omega),
        List.getElem?_eq_none (by omega)]

theorem subscription?_nextNumber (registry : Registry L) :
    registry.subscription? registry.nextNumber = none :=
  List.getElem?_eq_none (Nat.le_refl _)

theorem served_subscribe (registry : Registry L) (key other : SlotKey)
    (listener : L) :
    (registry.subscribe key listener).served other =
      registry.served other ++ if key = other then [listener] else [] := by
  unfold served subscribe
  by_cases same : key = other <;>
    simp [List.filter_append, Subscription.serves, same]

theorem Exact.subscribe (exact : registry.Exact) (key : SlotKey)
    (listener : L) :
    (registry.subscribe key listener).Exact := by
  intro other
  rw [listenersAt_subscribe, served_subscribe]
  by_cases same : key = other
  · subst same
    simpa using (exact key).append_right [listener]
  · simpa [same] using exact other

variable [DecidableEq L]

/-- Releasing an active subscription takes its listener from its key; any
other release changes nothing. -/
theorem listenersAt_release (registry : Registry L) (number : Nat)
    (key : SlotKey) :
    (registry.release number).listenersAt key =
      match registry.subscription? number with
      | some subscription =>
          if subscription.serves key then
            (registry.listenersAt key).erase subscription.listener
          else registry.listenersAt key
      | none => registry.listenersAt key := by
  unfold release
  cases registry.subscription? number with
  | none => rfl
  | some subscription =>
      dsimp only
      by_cases active : subscription.active
      · rw [if_pos active]
        unfold listenersAt
        rw [getD_detach]
        by_cases same : subscription.key = key
        · subst same
          simp [Subscription.serves, active]
        · simp [Subscription.serves, same]
      · rw [if_neg active]
        simp [Subscription.serves, active]

theorem subscription?_release (registry : Registry L) (number other : Nat) :
    (registry.release number).subscription? other =
      if number = other then (registry.subscription? other).map
      Subscription.ended else registry.subscription? other := by
  unfold release
  cases found : registry.subscription? number with
  | none =>
      by_cases same : number = other
      · subst same
        simp [found]
      · simp [same]
  | some subscription =>
      dsimp only
      have inRange : number < registry.issued.length := by
        unfold subscription? at found
        exact (List.getElem?_eq_some_iff.mp found).1
      by_cases active : subscription.active
      · rw [if_pos active]
        unfold subscription? at found ⊢
        rw [List.getElem?_set]
        by_cases same : number = other
        · subst same
          rw [if_pos rfl, if_pos inRange, if_pos rfl, found]
          rfl
        · rw [if_neg same, if_neg same]
      · rw [if_neg active]
        by_cases same : number = other
        · subst same
          have ended : subscription.ended = subscription := by
            simp only [Bool.not_eq_true] at active
            simp [Subscription.ended, ← active]
          simp [found, ended]
        · simp [same]

/-- There is nothing to release unless the subscription is active. -/
theorem release_eq_self
    (inactive : ∀ subscription, registry.subscription? number =
      some subscription →
      subscription.active = false) : registry.release number = registry := by
  unfold release
  cases found : registry.subscription? number with
  | none => rfl
  | some subscription => simp [inactive subscription found]

/-- The subscription that is released stands between the earlier and the later
ones, which go on being served. -/
theorem served_release {subscription : Subscription L}
    (found : registry.subscription? number = some subscription)
    (active : subscription.active = true) (key : SlotKey) :
    ∃ earlier later,
      registry.served key =
        earlier ++ ((if subscription.serves key then [subscription.listener]
          else []) ++ later) ∧
      (registry.release number).served key = earlier ++ later := by
  have after : (registry.release number).issued =
      registry.issued.set number subscription.ended := by
    unfold release
    rw [found]
    exact congrArg issued (if_pos active)
  unfold subscription? at found
  obtain ⟨inRange, atPlace⟩ := List.getElem?_eq_some_iff.mp found
  have parts : registry.issued =
      registry.issued.take number ++ subscription :: registry.issued.drop
        (number + 1) := by
    rw [← atPlace, List.getElem_cons_drop, List.take_append_drop]
  refine ⟨((registry.issued.take number).filter (·.serves key)).map
    Subscription.listener,
    ((registry.issued.drop (number + 1)).filter (·.serves key)).map
      Subscription.listener, ?_, ?_⟩
  · unfold served
    conv => lhs; rw [parts]
    rw [List.filter_append, List.filter_cons]
    split <;> simp
  · unfold served
    rw [after, List.set_eq_take_append_cons_drop, if_pos inRange]
    simp [List.filter_append, Subscription.serves, Subscription.ended]

theorem Exact.release (exact : registry.Exact) (number : Nat) :
    (registry.release number).Exact := by
  intro key
  by_cases isActive : ∃ subscription,
      registry.subscription? number = some subscription ∧
        subscription.active = true
  · obtain ⟨subscription, found, active⟩ := isActive
    obtain ⟨earlier, later, before, after⟩ := served_release found active key
    have perm := exact key
    rw [before] at perm
    rw [listenersAt_release, found, after]
    dsimp only
    by_cases serves : subscription.serves key
    · rw [if_pos serves] at perm ⊢
      have moved := (perm.trans List.perm_middle).erase subscription.listener
      rwa [List.erase_cons_head] at moved
    · rw [if_neg serves] at perm ⊢
      exact perm
  · rw [release_eq_self fun subscription found =>
      Bool.eq_false_iff.mpr fun active =>
        isActive ⟨subscription, found, active⟩]
    exact exact key

theorem filter_erase_of_neg {test : L → Bool} {listener : L}
    (fails : test listener = false) (listeners : List L) :
    (listeners.erase listener).filter test = listeners.filter test := by
  induction listeners with
  | nil => rfl
  | cons head rest induction =>
      by_cases here : head = listener
      · subst here
        simp [fails]
      · rw [List.erase_cons_tail (by simpa using here), List.filter_cons,
          List.filter_cons, induction]

/-- Releases several subscriptions. -/
def releaseAll (registry : Registry L) (numbers : List Nat) : Registry L :=
  numbers.foldl release registry

theorem Exact.releaseAll (exact : registry.Exact) (numbers : List Nat) :
    (registry.releaseAll numbers).Exact := by
  induction numbers generalizing registry with
  | nil => exact exact
  | cons number rest induction => exact induction (exact.release number)

theorem subscription?_releaseAll (registry : Registry L) (numbers : List Nat)
    (other : Nat) :
    (registry.releaseAll numbers).subscription? other =
      if other ∈ numbers then (registry.subscription? other).map
      Subscription.ended else registry.subscription? other := by
  induction numbers generalizing registry with
  | nil => simp [releaseAll]
  | cons number rest induction =>
      have step := induction (registry.release number)
      unfold releaseAll at step ⊢
      rw [List.foldl_cons, step, subscription?_release]
      by_cases here : number = other
      · subst here
        cases registry.subscription? number with
        | none => simp
        | some subscription => simp [Subscription.ended]
      · have reversed : ¬ other = number := fun equal => here equal.symm
        simp [here, reversed]

/-- Listeners that pass a test stay in order while others are released. -/
theorem filter_listenersAt_releaseAll {test : L → Bool} (registry : Registry L)
    (numbers : List Nat)
    (fails : ∀ number ∈ numbers, ∀ subscription,
      registry.subscription? number = some subscription →
        test subscription.listener = false)
    (key : SlotKey) :
    ((registry.releaseAll numbers).listenersAt key).filter test =
      (registry.listenersAt key).filter test := by
  induction numbers generalizing registry with
  | nil => rfl
  | cons number rest induction =>
      have later := induction (registry.release number) (by
        intro other member subscription found
        rw [subscription?_release] at found
        split at found
        · obtain ⟨earlier, before, ended⟩ := Option.map_eq_some_iff.mp found
          rw [← ended]
          exact fails other (by simp [member]) earlier before
        · exact fails other (by simp [member]) subscription found)
      unfold releaseAll at later ⊢
      rw [List.foldl_cons, later, listenersAt_release]
      cases found : registry.subscription? number with
      | none => rfl
      | some subscription =>
          dsimp only
          split
          · exact filter_erase_of_neg
              (fails number (by simp) subscription found) _
          · rfl

/-- If all active subscriptions of the listeners that fail a test are released,
exactly the listeners that pass it are left, in order. -/
theorem listenersAt_releaseAll {test : L → Bool} (exact : registry.Exact)
    (numbers : List Nat)
    (covers : ∀ number subscription, registry.subscription? number =
      some subscription →
      subscription.active = true → test subscription.listener = false →
        number ∈ numbers)
    (fails : ∀ number ∈ numbers, ∀ subscription,
      registry.subscription? number = some subscription →
        test subscription.listener = false)
    (key : SlotKey) :
    (registry.releaseAll numbers).listenersAt key =
      (registry.listenersAt key).filter test := by
  rw [← filter_listenersAt_releaseAll registry numbers fails key, eq_comm,
    List.filter_eq_self]
  intro listener listed
  obtain ⟨number, subscription, found, active, _, sameListener⟩ :=
    ((exact.releaseAll numbers).mem_iff key listener).mp listed
  rw [subscription?_releaseAll] at found
  split at found
  · obtain ⟨earlier, _, ended⟩ := Option.map_eq_some_iff.mp found
    subst ended
    cases active
  · rename_i kept
    rw [← sameListener]
    cases passed : test subscription.listener with
    | true => rfl
    | false =>
        exact absurd (covers number subscription found active passed) kept

end Registry

end TypeFlow
