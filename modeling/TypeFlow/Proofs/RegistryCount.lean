import Mathlib.Algebra.BigOperators.Group.List.Basic
import Mathlib.Algebra.GroupWithZero.Nat
import Mathlib.Data.List.Nodup
import TypeFlow.Proofs.Registry

/-!
# Counting registered listeners

An exact registry has as many listeners as there are active subscriptions.
Subscribing adds one to both, and releasing active subscriptions takes as many
away.
-/

namespace TypeFlow

namespace OrderedMap

variable {κ α : Type} [DecidableEq κ]

/-- Without repeated keys the values are those found under the keys. -/
theorem values_eq_map_getD (map : OrderedMap κ α) (fallback : α)
    (distinct : map.keys.Nodup) :
    map.values = map.keys.map fun key => map.getD key fallback := by
  obtain ⟨entries⟩ := map
  simp only [values, keys, getD, get?] at distinct ⊢
  induction entries with
  | nil => rfl
  | cons entry rest induction =>
      rw [List.map_cons, List.nodup_cons] at distinct
      obtain ⟨absent, distinct⟩ := distinct
      rw [List.map_cons, List.map_cons, List.map_cons, induction distinct]
      congr 1
      · simp [lookup]
      · refine List.map_congr_left ?_
        intro key member
        have differs : ¬ entry.1 = key := by
          rintro rfl
          exact absent member
        simp [lookup, differs]

end OrderedMap

namespace Registry

variable {L : Type} {registry : Registry L}

/-- The numbers of the active subscriptions. -/
def activeNumbers (registry : Registry L) : List Nat :=
  (registry.issued.zipIdx.filter fun entry => entry.1.active).map Prod.snd

theorem mem_activeNumbers {number : Nat} :
    number ∈ registry.activeNumbers ↔ ∃ subscription,
      registry.subscription? number = some subscription ∧
        subscription.active = true := by
  unfold activeNumbers subscription?
  simp only [List.mem_map, List.mem_filter, Prod.exists,
    List.mem_zipIdx_iff_getElem?]
  constructor
  · rintro ⟨subscription, _, ⟨found, active⟩, rfl⟩
    exact ⟨subscription, found, active⟩
  · rintro ⟨subscription, found, active⟩
    exact ⟨subscription, number, ⟨found, active⟩, rfl⟩

theorem nodup_activeNumbers (registry : Registry L) :
    registry.activeNumbers.Nodup := by
  unfold activeNumbers
  have numbered : (registry.issued.zipIdx.map Prod.snd).Nodup := by
    rw [List.zipIdx_map_snd]
    exact List.nodup_range'
  exact numbered.sublist (List.filter_sublist.map _)

theorem sum_ite_eq_count (key : SlotKey) (keys : List SlotKey) :
    (keys.map fun other => if key = other then 1 else 0).sum =
      keys.count key := by
  induction keys with
  | nil => rfl
  | cons other rest induction =>
      rw [List.map_cons, List.sum_cons, induction, List.count_cons,
        Nat.add_comm]
      by_cases same : key = other
      · simp [same]
      · simp [same, Ne.symm same]

/-- Each active subscription is counted once, with its key. -/
theorem sum_countP_serves {keys : List SlotKey} (distinct : keys.Nodup)
    (issued : List (Subscription L))
    (known : ∀ subscription ∈ issued, subscription.active = true →
      subscription.key ∈ keys) :
    (keys.map fun key => issued.countP (·.serves key)).sum =
      issued.countP Subscription.active := by
  induction issued with
  | nil => simp
  | cons subscription rest induction =>
      have later := induction fun other member => known other (by simp [member])
      have here : (keys.map fun key => if subscription.serves key
        then 1 else 0).sum =
          if subscription.active then 1 else 0 := by
        by_cases active : subscription.active
        · have single := List.count_eq_one_of_mem distinct
            (known subscription (by simp) active)
          rw [← sum_ite_eq_count] at single
          simpa [Subscription.serves, active] using single
        · simp [Subscription.serves, active]
      simp only [List.countP_cons]
      rw [List.sum_map_add, later, here]

/-- In an exact registry there are as many listeners as active subscriptions. -/
theorem Exact.count_eq (exact : registry.Exact)
    (distinct : registry.listeners.keys.Nodup) :
    registry.count = registry.activeNumbers.length := by
  have lengths : ∀ key, (registry.listeners.getD key []).length =
      registry.issued.countP (·.serves key) := by
    intro key
    have same := (exact key).length_eq
    rwa [served, List.length_map, ← List.countP_eq_length_filter] at same
  have known : ∀ subscription ∈ registry.issued, subscription.active = true →
      subscription.key ∈ registry.listeners.keys := by
    intro subscription member active
    obtain ⟨number, found⟩ := List.mem_iff_getElem?.mp member
    have listed := (exact.mem_iff subscription.key subscription.listener).mpr
      ⟨number, subscription, found, active, rfl, rfl⟩
    rw [OrderedMap.mem_keys_iff]
    by_cases present : registry.listeners.contains subscription.key
    · exact present
    · unfold listenersAt at listed
      rw [OrderedMap.getD_of_not_contains present] at listed
      cases listed
  have active : registry.activeNumbers.length = registry.issued.countP
      Subscription.active := by
    rw [activeNumbers, List.length_map, ← List.countP_eq_length_filter]
    conv_rhs => rw [← List.zipIdx_map_fst 0 registry.issued, List.countP_map]
    rfl
  rw [active, ← sum_countP_serves distinct registry.issued known]
  unfold count
  rw [OrderedMap.values_eq_map_getD _ [] distinct, List.map_map,
    ← List.sum_eq_foldl]
  exact congrArg List.sum (List.map_congr_left fun key _ => lengths key)

theorem length_activeNumbers_subscribe (registry : Registry L) (key : SlotKey)
    (listener : L) :
    (registry.subscribe key listener).activeNumbers.length =
      registry.activeNumbers.length + 1 := by
  have fresh : registry.nextNumber ∉ registry.activeNumbers := by
    rw [mem_activeNumbers]
    rintro ⟨subscription, found, _⟩
    rw [subscription?_nextNumber] at found
    cases found
  have grown : (registry.subscribe key listener).activeNumbers.Perm
      (registry.nextNumber :: registry.activeNumbers) := by
    rw [List.perm_ext_iff_of_nodup (nodup_activeNumbers _)
      (List.nodup_cons.mpr ⟨fresh, nodup_activeNumbers registry⟩)]
    intro number
    rw [List.mem_cons, mem_activeNumbers, mem_activeNumbers,
      subscription?_subscribe]
    by_cases isNew : number = registry.nextNumber
    · simp [isNew]
    · simp [isNew]
  rw [grown.length_eq, List.length_cons]

variable [DecidableEq L]

/-- Releasing active subscriptions takes as many away. -/
theorem length_activeNumbers_releaseAll {numbers : List Nat}
    (distinct : numbers.Nodup)
    (active : ∀ number ∈ numbers, number ∈ registry.activeNumbers) :
    registry.activeNumbers.length =
      numbers.length + (registry.releaseAll numbers).activeNumbers.length := by
  have remains : ∀ number,
      number ∈ (registry.releaseAll numbers).activeNumbers ↔
      number ∈ registry.activeNumbers ∧ number ∉ numbers := by
    intro number
    rw [mem_activeNumbers, mem_activeNumbers, subscription?_releaseAll]
    by_cases released : number ∈ numbers
    · simp [released, Subscription.ended]
    · simp [released]
  have split : registry.activeNumbers.Perm
      (numbers ++ (registry.releaseAll numbers).activeNumbers) := by
    refine (List.perm_ext_iff_of_nodup (nodup_activeNumbers _) ?_).mpr ?_
    · rw [List.nodup_append]
      refine ⟨distinct, nodup_activeNumbers _, ?_⟩
      rintro number released _ stays rfl
      exact ((remains number).mp stays).2 released
    · intro number
      rw [List.mem_append, remains]
      by_cases released : number ∈ numbers
      · simp [released, active number released]
      · simp [released]
  rw [split.length_eq, List.length_append]

theorem nodup_keys_detach {listeners : OrderedMap SlotKey (List L)}
    (distinct : listeners.keys.Nodup) (key : SlotKey) (listener : L) :
    (detach listeners key listener).keys.Nodup := by
  unfold detach
  split
  · exact distinct
  · split
    · exact OrderedMap.nodup_keys_erase key distinct
    · exact OrderedMap.nodup_keys_insert key _ distinct

theorem nodup_keys_release (distinct : registry.listeners.keys.Nodup)
    (number : Nat) :
    (registry.release number).listeners.keys.Nodup := by
  unfold release
  split
  · exact distinct
  · split
    · exact nodup_keys_detach distinct _ _
    · exact distinct

theorem nodup_keys_releaseAll (distinct : registry.listeners.keys.Nodup)
    (numbers : List Nat) :
    (registry.releaseAll numbers).listeners.keys.Nodup := by
  induction numbers generalizing registry with
  | nil => exact distinct
  | cons number rest induction =>
      exact induction (nodup_keys_release distinct number)

end Registry

end TypeFlow
