/-!
# Finite maps in insertion order

An `OrderedMap` keeps its entries in the order in which their keys first
arrived.  Writing to a key that is present keeps its place; a key that is
erased and written again goes to the end.  Looking up after a write is
described by `get?_insert`, looking up after an erasure by `get?_erase`.
-/

namespace TypeFlow

/-- Entries by key, oldest key first. -/
structure OrderedMap (κ α : Type) where
  entries : List (κ × α) := []
  deriving DecidableEq, Repr

namespace OrderedMap

variable {κ α : Type} [DecidableEq κ]

instance : Inhabited (OrderedMap κ α) := ⟨{}⟩

/-- The value of the first entry with this key. -/
def lookup (key : κ) : List (κ × α) → Option α
  | [] => none
  | entry :: rest => if entry.1 = key then some entry.2 else lookup key rest

/-- Replace the value in place, or add the entry at the end. -/
def write (key : κ) (value : α) : List (κ × α) → List (κ × α)
  | [] => [(key, value)]
  | entry :: rest =>
      if entry.1 = key then (key, value) :: rest
      else entry :: write key value rest

def get? (map : OrderedMap κ α) (key : κ) : Option α :=
  lookup key map.entries

def getD (map : OrderedMap κ α) (key : κ) (fallback : α) : α :=
  (map.get? key).getD fallback

def contains (map : OrderedMap κ α) (key : κ) : Bool :=
  (map.get? key).isSome

def insert (map : OrderedMap κ α) (key : κ) (value : α) : OrderedMap κ α :=
  ⟨write key value map.entries⟩

def erase (map : OrderedMap κ α) (key : κ) : OrderedMap κ α :=
  ⟨map.entries.filter fun entry => entry.1 ≠ key⟩

def keys (map : OrderedMap κ α) : List κ :=
  map.entries.map Prod.fst

def values (map : OrderedMap κ α) : List α :=
  map.entries.map Prod.snd

def size (map : OrderedMap κ α) : Nat :=
  map.entries.length

omit [DecidableEq κ] in
/-- The keys whose value passes the test, in order. -/
def keysWhere (map : OrderedMap κ α) (test : α → Bool) : List κ :=
  (map.entries.filter fun entry => test entry.2).map Prod.fst

theorem lookup_write (key other : κ) (value : α) (entries : List (κ × α)) :
    lookup other (write key value entries) =
      if key = other then some value else lookup other entries := by
  induction entries with
  | nil => simp [write, lookup]
  | cons entry rest ih =>
      by_cases here : entry.1 = key
      · by_cases same : key = other <;> simp [write, lookup, here, same]
      · by_cases same : entry.1 = other
        · subst same
          have differs : ¬ key = entry.1 := fun equal => here equal.symm
          simp [write, lookup, here, differs]
        · simp [write, lookup, here, same, ih]

theorem lookup_filter_ne (key other : κ) (entries : List (κ × α)) :
    lookup other (entries.filter fun entry => entry.1 ≠ key) =
      if key = other then none else lookup other entries := by
  induction entries with
  | nil => simp [lookup]
  | cons entry rest ih =>
      by_cases here : entry.1 = key
      · by_cases same : key = other <;> simp_all [lookup]
      · by_cases same : entry.1 = other
        · subst same
          have differs : ¬ key = entry.1 := fun equal => here equal.symm
          simp [lookup, here, differs]
        · simp_all [lookup]

@[simp] theorem get?_empty (key : κ) : ({} : OrderedMap κ α).get? key = none :=
  rfl

@[simp] theorem get?_insert (map : OrderedMap κ α) (key other : κ) (value : α) :
    (map.insert key value).get? other =
      if key = other then some value else map.get? other :=
  lookup_write key other value map.entries

@[simp] theorem get?_erase (map : OrderedMap κ α) (key other : κ) :
    (map.erase key).get? other = if key = other then none else map.get? other :=
  lookup_filter_ne key other map.entries

@[simp] theorem getD_insert (map : OrderedMap κ α) (key other : κ)
    (value fallback : α) :
    (map.insert key value).getD other fallback =
      if key = other then value else map.getD other fallback := by
  by_cases same : key = other <;> simp [getD, same]

/-- What an insertion keeps of its own entry it keeps of all entries. -/
theorem read_getD_insert {β : Type} (read : α → β) {map : OrderedMap κ α}
    {key other : κ} {value fallback : α}
    (keeps : read value = read (map.getD key fallback)) :
    read ((map.insert key value).getD other fallback) = read
      (map.getD other fallback) := by
  rw [getD_insert]
  split
  · rename_i same
    rw [keeps, same]
  · rfl

end OrderedMap

end TypeFlow
