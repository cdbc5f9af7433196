import TypeFlow.OrderedMap

/-!
# Keys and size of ordered maps

Writing to a present key keeps the list of keys, writing to a new one appends
it.  In a numbered map every key has a number below the size, so that the
number given by the size is always free.
-/

namespace TypeFlow.OrderedMap

variable {κ α : Type} [DecidableEq κ] {map : OrderedMap κ α} {key : κ}
  {value other : α}

theorem contains_iff_get? (map : OrderedMap κ α) (key : κ) :
    map.contains key ↔ ∃ value, map.get? key = some value := by
  simp [contains, Option.isSome_iff_exists]

theorem contains_of_get? (found : map.get? key = some value) :
    map.contains key :=
  (contains_iff_get? map key).mpr ⟨value, found⟩

theorem getD_of_not_contains {fallback : α} (absent : ¬ map.contains key) :
    map.getD key fallback = fallback := by
  cases found : map.get? key with
  | none => simp [getD, found]
  | some value => exact absurd (contains_of_get? found) absent

@[simp] theorem contains_insert (map : OrderedMap κ α)
    (key other : κ) (value : α) :
    (map.insert key value).contains other ↔ key = other ∨
      map.contains other := by
  by_cases same : key = other <;> simp [contains, same]

theorem lookup_isSome_iff (key : κ) (entries : List (κ × α)) :
    (lookup key entries).isSome ↔ key ∈ entries.map Prod.fst := by
  induction entries with
  | nil => simp [lookup]
  | cons entry rest induction =>
      by_cases here : entry.1 = key
      · simp [lookup, here]
      · have reversed : ¬ key = entry.1 := fun equal => here equal.symm
        simp [lookup, here, reversed, induction]

theorem mem_keys_iff (map : OrderedMap κ α) (key : κ) :
    key ∈ map.keys ↔ map.contains key :=
  (lookup_isSome_iff key map.entries).symm

theorem mem_of_lookup {entries : List (κ × α)}
    (found : lookup key entries = some value) :
    (key, value) ∈ entries := by
  induction entries with
  | nil => cases found
  | cons entry rest induction =>
      rw [lookup] at found
      split at found
      · rename_i here
        cases found
        cases here
        exact List.mem_cons_self
      · exact List.mem_cons_of_mem entry (induction found)

theorem mem_values_of_get? (found : map.get? key = some value) :
    value ∈ map.values :=
  List.mem_map_of_mem (mem_of_lookup found)

theorem mem_of_mem_write {entries : List (κ × α)} {entry : κ × α}
    (member : entry ∈ write key value entries) : entry = (key, value) ∨
      entry ∈ entries := by
  induction entries with
  | nil => exact Or.inl (List.mem_singleton.mp member)
  | cons head rest induction =>
      rw [write] at member
      split at member
      · rcases List.mem_cons.mp member with isWritten | later
        · exact Or.inl isWritten
        · exact Or.inr (List.mem_cons_of_mem head later)
      · rcases List.mem_cons.mp member with isHead | later
        · exact Or.inr (isHead ▸ List.mem_cons_self)
        · exact (induction later).imp_right (List.mem_cons_of_mem head)

theorem mem_values_insert (member : other ∈ (map.insert key value).values) :
    other = value ∨ other ∈ map.values := by
  obtain ⟨entry, written, rfl⟩ := List.mem_map.mp member
  rcases mem_of_mem_write written with isNew | earlier
  · exact Or.inl (congrArg Prod.snd isNew)
  · exact Or.inr (List.mem_map_of_mem earlier)

theorem mem_values_erase (member : other ∈ (map.erase key).values) :
    other ∈ map.values := by
  obtain ⟨entry, kept, rfl⟩ := List.mem_map.mp member
  exact List.mem_map_of_mem (List.mem_filter.mp kept).1

/-- With distinct keys, every entry is found under its key. -/
theorem get?_of_mem (distinct : map.keys.Nodup) {entry : κ × α}
    (member : entry ∈ map.entries) :
    map.get? entry.1 = some entry.2 := by
  obtain ⟨entries⟩ := map
  unfold get? keys at *
  induction entries with
  | nil => cases member
  | cons head rest induction =>
      rw [List.map_cons, List.nodup_cons] at distinct
      rcases List.mem_cons.mp member with isHead | later
      · rw [isHead, lookup, if_pos rfl]
      · have differs : head.1 ≠ entry.1 :=
          fun same => distinct.1 (same ▸ List.mem_map_of_mem later)
        rw [lookup, if_neg differs]
        exact induction distinct.2 later

theorem keys_write (key : κ) (value : α) (entries : List (κ × α)) :
    (write key value entries).map Prod.fst =
      if key ∈ entries.map Prod.fst then entries.map Prod.fst
      else entries.map Prod.fst ++ [key] := by
  induction entries with
  | nil => simp [write]
  | cons entry rest induction =>
      by_cases here : entry.1 = key
      · simp [write, here]
      · have reversed : ¬ key = entry.1 := fun equal => here equal.symm
        simp only [write, if_neg here, List.map_cons, induction, List.mem_cons,
          reversed, false_or]
        split <;> simp

theorem keys_insert (map : OrderedMap κ α) (key : κ) (value : α) :
    (map.insert key value).keys =
      if map.contains key then map.keys else map.keys ++ [key] := by
  have written := keys_write key value map.entries
  have membership := mem_keys_iff map key
  unfold keys insert at *
  rw [written]
  by_cases known : map.contains key <;> simp_all

theorem keys_insert_of_contains (value : α) (known : map.contains key) :
    (map.insert key value).keys = map.keys := by
  rw [keys_insert, if_pos known]

omit [DecidableEq κ] in
theorem size_eq_length_keys (map : OrderedMap κ α) :
    map.size = map.keys.length := by
  simp [size, keys]

theorem size_insert_of_contains (value : α) (known : map.contains key) :
    (map.insert key value).size = map.size := by
  rw [size_eq_length_keys, size_eq_length_keys,
    keys_insert_of_contains value known]

theorem size_insert_of_not_contains (value : α) (absent : ¬ map.contains key) :
    (map.insert key value).size = map.size + 1 := by
  rw [size_eq_length_keys, size_eq_length_keys, keys_insert, if_neg absent]
  simp

theorem size_le_size_insert (map : OrderedMap κ α) (key : κ) (value : α) :
    map.size ≤ (map.insert key value).size := by
  by_cases known : map.contains key
  · exact Nat.le_of_eq (size_insert_of_contains value known).symm
  · rw [size_insert_of_not_contains value known]
    exact Nat.le_succ _

theorem contains_congr {β : Type} {left : OrderedMap κ α}
    {right : OrderedMap κ β} (same : left.keys = right.keys) (key : κ) :
    left.contains key ↔ right.contains key := by
  rw [← mem_keys_iff, ← mem_keys_iff, same]

theorem nodup_keys_insert (key : κ) (value : α) (distinct : map.keys.Nodup) :
    (map.insert key value).keys.Nodup := by
  rw [keys_insert]
  split
  · exact distinct
  · rename_i absent
    rw [← mem_keys_iff] at absent
    rw [List.nodup_append]
    refine ⟨distinct, by simp, ?_⟩
    intro known member new isKey equal
    rw [List.mem_singleton] at isKey
    subst equal
    subst isKey
    exact absent member

theorem nodup_keys_erase (key : κ) (distinct : map.keys.Nodup) :
    (map.erase key).keys.Nodup := by
  unfold keys erase at *
  exact distinct.sublist (List.filter_sublist.map _)

/-- All numbers of keys are below the size. -/
def Numbered (number : κ → Nat) (map : OrderedMap κ α) : Prop :=
  ∀ key, map.contains key → number key < map.size

theorem numbered_empty (number : κ → Nat) : Numbered number
    ({} : OrderedMap κ α) := by
  intro key present
  cases present

namespace Numbered

variable {number : κ → Nat} {map : OrderedMap κ α}
  (numbered : Numbered number map)

include numbered

theorem not_contains (next : number key = map.size) :
    ¬ map.contains key := by
  intro known
  have below := numbered key known
  omega

theorem insert_known (value : α) (known : map.contains key) :
    Numbered number (map.insert key value) := by
  intro other present
  rw [size_insert_of_contains value known]
  rcases (contains_insert map key other value).mp present with same | earlier
  · subst same
    exact numbered key known
  · exact numbered other earlier

theorem insert_next (value : α) (next : number key = map.size) :
    Numbered number (map.insert key value) := by
  intro other present
  rw [size_insert_of_not_contains value (numbered.not_contains next)]
  rcases (contains_insert map key other value).mp present with same | earlier
  · subst same
    omega
  · have below := numbered other earlier
    omega

/-- A new entry does not take the place of an old one. -/
theorem getD_insert_next (next : number key = map.size)
    {value fallback : α} {other : κ} (known : map.contains other) :
    (map.insert key value).getD other fallback = map.getD other fallback := by
  rw [getD_insert, if_neg]
  rintro rfl
  exact numbered.not_contains next known

theorem congr {β : Type} {other : OrderedMap κ β}
    (same : other.keys = map.keys) : Numbered number other := by
  intro key present
  have below := numbered key ((contains_congr same key).mp present)
  rw [size_eq_length_keys] at below ⊢
  rwa [same]

end Numbered

end TypeFlow.OrderedMap
