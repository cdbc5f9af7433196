import TypeFlow.Proofs.OrderedMap
import TypeFlow.Variable.Basic

/-!
# Finding variables while others are refiled

Retyping a variable moves it between the buckets of the index.  What is found
under the id of another variable stays the same, and no variable is filed that
was not filed before.
-/

namespace TypeFlow.Variables

open OrderedMap (getD lookup values write)

variable {type : Tag} {other place : VariableId} {store : Variables}

/-- All places of an index, bucket by bucket. -/
def places (index : VariableIndex) : List VariableId :=
  index.values.flatten

theorem find?_places_insert (index : VariableIndex) (type : Tag)
    (bucket : List VariableId) (test : VariableId → Bool)
    (same : bucket.find? test = (index.getD type []).find? test) :
    (places (index.insert type bucket)).find? test = (places index).find?
      test := by
  obtain ⟨entries⟩ := index
  unfold places OrderedMap.insert values getD OrderedMap.get? at *
  induction entries with
  | nil => simpa [write, lookup] using same
  | cons entry rest induction =>
      by_cases here : entry.1 = type
      · have bucketSame : bucket.find? test = entry.2.find? test := by
          simpa [lookup, here] using same
        simp [write, here, bucketSame]
      · have later := induction (by simpa [lookup, here] using same)
        simp only [write, if_neg here, List.map_cons, List.flatten_cons,
          List.find?_append, later]

theorem find?_places_erase (index : VariableIndex) (type : Tag)
    (test : VariableId → Bool) (distinct : index.keys.Nodup)
    (absent : (index.getD type []).find? test = none) :
    (places (index.erase type)).find? test = (places index).find? test := by
  obtain ⟨entries⟩ := index
  unfold places OrderedMap.erase values getD OrderedMap.get?
    OrderedMap.keys at *
  induction entries with
  | nil => rfl
  | cons entry rest induction =>
      rw [List.map_cons, List.nodup_cons] at distinct
      by_cases here : entry.1 = type
      · have untouched : rest.filter (fun other => other.1 ≠ type) = rest := by
          rw [List.filter_eq_self]
          intro other member
          have differs : other.1 ≠ entry.1 := by
            intro equal
            exact distinct.1 (equal ▸ List.mem_map_of_mem member)
          simpa [here] using differs
        have bucketEmpty : entry.2.find? test = none := by
          simpa [lookup, here] using absent
        rw [List.filter_cons_of_neg (by simpa using here), untouched,
          List.map_cons, List.flatten_cons, List.find?_append, bucketEmpty,
          Option.none_or]
      · have later :=
          induction distinct.2 (by simpa [lookup, here] using absent)
        rw [List.filter_cons_of_pos (by simpa using here)]
        simp only [List.map_cons, List.flatten_cons, List.find?_append, later]

theorem find?_eraseP_of_disjoint {α : Type} (removed test : α → Bool)
    (disjoint : ∀ item, removed item = true → test item = false)
    (items : List α) :
    (items.eraseP removed).find? test = items.find? test := by
  induction items with
  | nil => rfl
  | cons item rest induction =>
      by_cases here : removed item = true
      · simp [here, disjoint item here]
      · rw [List.eraseP_cons_of_neg here, List.find?_cons, List.find?_cons,
          induction]

/-- The index after some refiling of one variable. -/
structure Refiled (pool : VariablePool) (place : VariableId)
    (before after : VariableIndex) :
    Prop where
  distinct : before.keys.Nodup → after.keys.Nodup
  member : ∀ other, other ∈ places after → other = place ∨ other ∈ places before
  found : before.keys.Nodup → ∀ id, (pool.getD place default).id ≠ id →
    (places after).find? (fun other => (pool.getD other default).id = id) =
      (places before).find? (fun other => (pool.getD other default).id = id)

namespace Refiled

variable {pool : VariablePool} {place : VariableId}
  {before middle after : VariableIndex}

theorem refl (index : VariableIndex) : Refiled pool place index index where
  distinct := id
  member := fun _ => Or.inr
  found := fun _ _ _ => rfl

theorem trans (first : Refiled pool place before middle)
    (second : Refiled pool place middle after) :
    Refiled pool place before after where
  distinct := second.distinct ∘ first.distinct
  member := by
    intro other filed
    rcases second.member other filed with isPlace | earlier
    · exact Or.inl isPlace
    · exact first.member other earlier
  found := by
    intro distinct id differs
    rw [second.found (first.distinct distinct) id differs,
      first.found distinct id differs]

end Refiled

theorem mem_places_insert {index : VariableIndex} {bucket : List VariableId}
    (filed : other ∈ places (index.insert type bucket)) :
    other ∈ bucket ∨ other ∈ places index := by
  obtain ⟨entries⟩ := index
  unfold places OrderedMap.insert values at *
  induction entries with
  | nil => simpa [write] using filed
  | cons entry rest induction =>
      by_cases here : entry.1 = type
      · simp only [write, here, if_true, List.map_cons, List.flatten_cons,
          List.mem_append] at filed ⊢
        rcases filed with inBucket | later
        · exact Or.inl inBucket
        · exact Or.inr (Or.inr later)
      · simp only [write, here, if_false, List.map_cons, List.flatten_cons,
          List.mem_append] at filed ⊢
        rcases filed with first | later
        · exact Or.inr (Or.inl first)
        · rcases induction later with inBucket | earlier
          · exact Or.inl inBucket
          · exact Or.inr (Or.inr earlier)

theorem mem_places_of_mem_getD {index : VariableIndex}
    (member : other ∈ index.getD type []) :
    other ∈ places index := by
  obtain ⟨entries⟩ := index
  unfold places values getD OrderedMap.get? at *
  induction entries with
  | nil => simp [lookup] at member
  | cons entry rest induction =>
      by_cases here : entry.1 = type
      · have inEntry : other ∈ entry.2 := by simpa [lookup, here] using member
        simp [inEntry]
      · have later := induction (by simpa [lookup, here] using member)
        simp only [List.map_cons, List.flatten_cons, List.mem_append]
        exact Or.inr later

theorem refiled_insert (pool : VariablePool) (place : VariableId)
    (index : VariableIndex) (type : Tag) (bucket : List VariableId)
    (member : ∀ other, other ∈ bucket → other = place ∨
      other ∈ index.getD type [])
    (found : ∀ id, (pool.getD place default).id ≠ id →
      bucket.find? (fun other => (pool.getD other default).id = id) =
        (index.getD type []).find?
          (fun other => (pool.getD other default).id = id)) :
    Refiled pool place index (index.insert type bucket) where
  distinct := OrderedMap.nodup_keys_insert type bucket
  member := by
    intro other filed
    rcases mem_places_insert filed with inBucket | earlier
    · exact (member other inBucket).imp_right mem_places_of_mem_getD
    · exact Or.inr earlier
  found := fun _ id differs => find?_places_insert index type bucket
    _ (found id differs)

theorem refiled_erase (pool : VariablePool) (place : VariableId)
    (index : VariableIndex) (type : Tag)
    (absent : ∀ id, (pool.getD place default).id ≠ id →
      (index.getD type []).find?
        (fun other => (pool.getD other default).id = id) = none) :
    Refiled pool place index (index.erase type) where
  distinct := OrderedMap.nodup_keys_erase type
  member := by
    intro other filed
    refine Or.inr ?_
    unfold places values OrderedMap.erase at *
    simp only [List.mem_flatten, List.mem_map] at filed ⊢
    obtain ⟨bucket, ⟨entry, kept, rfl⟩, inBucket⟩ := filed
    exact ⟨entry.2, ⟨entry, (List.mem_filter.mp kept).1, rfl⟩, inBucket⟩
  found := fun distinct id differs => find?_places_erase index type
    _ distinct (absent id differs)

theorem refiled_fileUnder (pool : VariablePool) (place : VariableId)
    (types : TypeList) :
    ∀ index : VariableIndex, Refiled pool place index
      (fileUnder index place types) := by
  induction types with
  | nil => exact Refiled.refl
  | cons type types induction =>
      intro index
      refine Refiled.trans ?_ (induction _)
      refine refiled_insert pool place index type _ ?_ ?_
      · intro other member
        rcases List.mem_append.mp member with earlier | isPlace
        · exact Or.inr earlier
        · exact Or.inl (List.mem_singleton.mp isPlace)
      · intro id differs
        simp [List.find?_append, differs]

theorem mem_places_fileUnder (place : VariableId) :
    ∀ (types : TypeList) (index : VariableIndex), types ≠ [] →
      place ∈ places (fileUnder index place types)
  | [], _, nonempty => absurd rfl nonempty
  | [type], index, _ => by
      have inBucket : place ∈
          (index.insert type (index.getD type [] ++ [place])).getD type [] := by
        simp
      exact mem_places_of_mem_getD inBucket
  | type :: next :: rest, index, _ => by
      have later := mem_places_fileUnder place (next :: rest)
        (index.insert type (index.getD type [] ++ [place])) (by simp)
      exact later

theorem pool_unfileFrom (store : Variables) (id : String) (type : Tag) :
    (store.unfileFrom id type).2.pool = store.pool := by
  unfold unfileFrom
  dsimp only
  split <;> rfl

theorem refiled_unfileFrom (store : Variables) (place : VariableId)
    (type : Tag) :
    Refiled store.pool place store.index
      (store.unfileFrom (store.get place).id type).2.index := by
  unfold unfileFrom
  dsimp only
  split
  · -- The bucket loses a place whose id is that of `place`, so other ids find
    -- the same.
    have kept : ∀ id, (store.pool.getD place default).id ≠ id →
        ((store.ofType type).eraseP fun other =>
          (store.get other).id = (store.get place).id).find?
            (fun other => (store.pool.getD other default).id = id) =
          (store.ofType type).find?
              (fun other => (store.pool.getD other default).id = id) := by
      intro id differs
      apply find?_eraseP_of_disjoint
      intro other removed
      have sameId : (store.pool.getD other default).id =
          (store.pool.getD place default).id :=
        of_decide_eq_true removed
      simp [sameId, differs]
    cases remaining : (store.ofType type).eraseP
        fun other => (store.get other).id = (store.get place).id with
    | nil =>
        refine refiled_erase store.pool place store.index type ?_
        intro id differs
        have none := kept id differs
        rw [remaining] at none
        exact none.symm
    | cons head rest =>
        refine refiled_insert store.pool place store.index type _ ?_ ?_
        · intro other member
          rw [← remaining] at member
          exact Or.inr (List.mem_of_mem_eraseP member)
        · intro id differs
          rw [← remaining]
          exact kept id differs
  · exact Refiled.refl _

theorem refiled_unfile (store : Variables) (place : VariableId) :
    (store.unfile place).2.pool = store.pool ∧
      Refiled store.pool place store.index (store.unfile place).2.index := by
  unfold unfile
  dsimp only
  generalize start : (false, store) = progress
  have invariant : progress.2.pool = store.pool ∧
      Refiled store.pool place store.index progress.2.index := by
    rw [← start]
    exact ⟨rfl, Refiled.refl _⟩
  clear start
  induction (store.get place).types generalizing progress with
  | nil => exact invariant
  | cons type types induction =>
      refine induction _ ⟨?_, ?_⟩
      · dsimp only
        rw [pool_unfileFrom, invariant.1]
      · have sameId : (store.get place).id = (progress.2.get place).id := by
          simp [get, invariant.1]
        have step := refiled_unfileFrom progress.2 place type
        rw [invariant.1, ← sameId] at step
        exact invariant.2.trans step

theorem retype_eq_self {request : TypeRequest}
    (kept : (store.retype place request).1 = false) :
    (store.retype place request).2 = store := by
  unfold retype at *
  dsimp only at *
  split at kept
  · rename_i same
    rw [if_pos same]
  · cases kept

section Retype

variable (store : Variables) (place : VariableId) (request : TypeRequest)

theorem refiled_retype :
    Refiled store.pool place store.index
      (store.retype place request).2.index := by
  unfold retype
  dsimp only
  split
  · exact Refiled.refl _
  · exact (refiled_unfile store place).2.trans
      (refiled_fileUnder store.pool place _ _)

/-- Retyping a variable changes its own types and nothing else in the pool. -/
theorem pool_retype :
    (store.retype place request).2.pool = store.pool ∨
      ∃ types, (store.retype place request).2.pool =
        store.pool.insert place { store.get place with types } := by
  unfold retype
  dsimp only
  split
  · exact Or.inl rfl
  · refine Or.inr ⟨request.variableTypes, ?_⟩
    rw [(refiled_unfile store place).1]

/-- Every variable keeps its name and id. -/
theorem get_retype (other : VariableId) :
    ∃ types, (store.retype place request).2.get other = { store.get other with
      types } := by
  unfold get
  rcases pool_retype store place request with same | ⟨types, written⟩
  · rw [same]
    exact ⟨_, rfl⟩
  · rw [written, OrderedMap.getD_insert]
    split
    · rename_i here
      rw [← here]
      exact ⟨types, rfl⟩
    · exact ⟨_, rfl⟩

theorem id_retype (other : VariableId) :
    ((store.retype place request).2.get other).id = (store.get other).id := by
  obtain ⟨types, entry⟩ := get_retype store place request other
  rw [entry]

theorem findById?_retype_of_ne {id : String} (distinct : store.index.keys.Nodup)
    (differs : (store.get place).id ≠ id) :
    (store.retype place request).2.findById? id = store.findById? id := by
  unfold findById?
  simp only [id_retype]
  exact (refiled_retype store place request).found distinct id differs

end Retype

theorem get_retype_of_ne (store : Variables) (request : TypeRequest)
    (differs : place ≠ other) :
    (store.retype place request).2.get other = store.get other := by
  unfold get
  rcases pool_retype store place request with same | ⟨types, written⟩
  · rw [same]
  · rw [written]
    simp [differs]

theorem findById?_eq_none_iff {id : String} :
    store.findById? id = none ↔ ∀ place ∈ places store.index,
      (store.get place).id ≠ id := by
  unfold findById?
  rw [List.find?_eq_none]
  simp only [decide_eq_true_eq]
  rfl

theorem variableTypes_ne_nil (request : TypeRequest) :
    request.variableTypes ≠ [] := by
  cases request with
  | none => simp [TypeRequest.variableTypes]
  | one type => simp [TypeRequest.variableTypes]
  | many types =>
      simp only [TypeRequest.variableTypes]
      split
      · simp
      · rename_i nonempty
        exact nonempty

theorem mem_places_retype (request : TypeRequest)
    (filed : place ∈ places store.index) :
    place ∈ places (store.retype place request).2.index := by
  unfold retype
  dsimp only
  split
  · exact filed
  · exact mem_places_fileUnder place _ _ (variableTypes_ne_nil request)

/-- Whether some variable is filed under an id does not depend on the types of
the filed variables. -/
theorem findById?_retype_eq_none_iff (request : TypeRequest)
    (distinct : store.index.keys.Nodup) (filed : place ∈ places store.index)
    (id : String) :
    (store.retype place request).2.findById? id = none ↔
      store.findById? id = none := by
  by_cases own : (store.get place).id = id
  · constructor
    · intro absent
      refine absurd ?_ (findById?_eq_none_iff.mp absent place
        (mem_places_retype request filed))
      rw [id_retype, own]
    · intro absent
      exact absurd own (findById?_eq_none_iff.mp absent place filed)
  · rw [findById?_retype_of_ne store place request distinct own]

theorem mem_filed_of_findById? {id : String}
    (found : store.findById? id = some place) :
    place ∈ places store.index ∧ (store.get place).id = id := by
  unfold findById? at found
  exact ⟨List.mem_of_find?_eq_some found, by simpa using List.find?_some found⟩

/-- Whoever asks for a variable that is made did not find one of that name and
gave no id that is in use. -/
theorem made_of_create {after : Variables} {generated name : String}
    {request : TypeRequest} {id : Option String}
    (made : store.create generated name request id = .ok (.made place after)) :
    store.find? name request.variableTypes = none ∧
      place = ⟨store.pool.size⟩ ∧
      ∃ own, (id.getD "" = "" ∧ own = generated ∨ store.findById? own = none) ∧
        after = ⟨store.pool.insert place ⟨own, name, request.variableTypes⟩,
          fileUnder store.index place request.variableTypes⟩ := by
  unfold create at made
  dsimp only at made
  split at made
  · split at made <;> cases made
  · rename_i unnamed
    split at made
    · cases made
    · rename_i free
      cases made
      refine ⟨unnamed, rfl, _, ?_, rfl⟩
      by_cases asked : id.getD "" = ""
      · exact Or.inl ⟨asked, if_pos asked⟩
      · rw [if_neg asked]
        refine Or.inr ?_
        cases found : store.findById? (id.getD "") with
        | none => rfl
        | some other => exact absurd ⟨asked, by rw [found]; rfl⟩ free

end TypeFlow.Variables
