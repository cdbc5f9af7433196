import TypeFlow.Proofs.VariableIndex

/-!
# Deleted variables

A deleted variable stays in the pool, and whoever remembers it may go on asking
for it.  It comes back into the index exactly when it is asked to take other
types, and deleting it again takes out a variable that was given its id since,
if the two have a type in common.  Without such requests a deleted variable is
never returned again, and asking for it leaves the map alone.
-/

namespace TypeFlow

namespace VariableOperation

/-- The variable that is to be retyped or deleted. -/
def handle? : VariableOperation → Option VariableId
  | .create .. => none
  | .retype place _ | .delete place => some place

/-- An id is requested, or the one that is generated is not in use. -/
def FreshId (store : Variables) (generated : String) (id : Option String) :
    Prop :=
  id.getD "" = "" → ∀ place ∈ store.filed, (store.get place).id ≠ generated

instance (store : Variables) (generated : String) (id : Option String) :
    Decidable (FreshId store generated id) :=
  inferInstanceAs (Decidable (id.getD "" = "" →
    ∀ place ∈ store.filed, (store.get place).id ≠ generated))

/-- Only variables that were made are retyped or deleted. -/
def Handled (store : Variables) : VariableOperation → Prop
  | .create generated _ _ id => FreshId store generated id
  | .retype place _ | .delete place => store.pool.contains place

instance decidableHandled (store : Variables) :
    (operation : VariableOperation) → Decidable (operation.Handled store)
  | .create generated _ _ id =>
      inferInstanceAs (Decidable (FreshId store generated id))
  | .retype place _ | .delete place =>
      inferInstanceAs (Decidable (store.pool.contains place))

/-- A variable that is not filed is only asked to take the types it has, and it
is not deleted where a variable of one of its types has its id. -/
def Careful (store : Variables) : VariableOperation → Prop
  | .create generated _ _ id => FreshId store generated id
  | .retype place request =>
      place ∈ store.filed ∨
        TypeList.same (store.get place).types request.variableTypes = true
  | .delete place =>
      place ∈ store.filed ∨
        ∀ type ∈ (store.get place).types, ∀ other ∈ store.ofType type,
          (store.get other).id ≠ (store.get place).id

instance decidableCareful (store : Variables) :
    (operation : VariableOperation) → Decidable (operation.Careful store)
  | .create generated _ _ id =>
      inferInstanceAs (Decidable (FreshId store generated id))
  | .retype place request =>
      inferInstanceAs (Decidable (place ∈ store.filed ∨
        TypeList.same (store.get place).types request.variableTypes = true))
  | .delete place =>
      inferInstanceAs (Decidable (place ∈ store.filed ∨
        ∀ type ∈ (store.get place).types, ∀ other ∈ store.ofType type,
          (store.get other).id ≠ (store.get place).id))

theorem perform_of_careful {store : Variables} {place : VariableId}
    {operation : VariableOperation} (about : operation.handle? = some place)
    (unfiled : place ∉ store.filed) (careful : operation.Careful store) :
    operation.perform store = store := by
  cases operation with
  | create => cases about
  | retype other request =>
      cases about
      have same := careful.resolve_left unfiled
      rw [perform, Variables.retype_of_same same]
  | delete other =>
      cases about
      have absent := careful.resolve_left unfiled
      rw [perform, Variables.delete, Variables.unfile_eq_self absent]

end VariableOperation

namespace Variables

variable {store : Variables}

section Lookups

variable {place : VariableId}

/-- No lookup returns the variable. -/
structure Unlisted (store : Variables) (place : VariableId) : Prop where
  byName : ∀ name types, store.find? name types ≠ some place
  byId : ∀ id, store.findById? id ≠ some place
  byType : ∀ type, place ∉ store.ofType type
  all : place ∉ store.all

theorem mem_filed_of_find? {name : String} {types : TypeList}
    (found : store.find? name types = some place) : place ∈ store.filed := by
  obtain ⟨type, _, inBucket⟩ := List.exists_of_findSome?_eq_some found
  exact mem_places_of_mem_getD (List.mem_of_find?_eq_some inBucket)

theorem unlisted_of_not_filed (absent : place ∉ store.filed) :
    store.Unlisted place where
  byName := fun _ _ found => absent (mem_filed_of_find? found)
  byId := fun _ found => absent (mem_filed_of_findById? found).1
  byType := fun _ member => absent (mem_places_of_mem_getD member)
  all := fun listed =>
    absent (mem_of_mem_firstById store store.filed [] listed).1

end Lookups

section Removal

variable {place other : VariableId}

theorem mem_filed_of_mem_unfileFrom {id : String} {type : Tag}
    (filed : other ∈ (store.unfileFrom id type).2.filed) :
    other ∈ store.filed := by
  unfold unfileFrom at filed
  dsimp only at filed
  split at filed
  · cases remaining : (store.ofType type).eraseP fun place =>
      (store.get place).id = id with
    | nil =>
        rw [remaining] at filed
        obtain ⟨bucket, listed, member⟩ := List.mem_flatten.mp filed
        exact List.mem_flatten.mpr
          ⟨bucket, OrderedMap.mem_values_erase listed, member⟩
    | cons head rest =>
        rw [remaining] at filed
        rcases mem_places_insert filed with inBucket | earlier
        · rw [← remaining] at inBucket
          exact mem_places_of_mem_getD (List.mem_of_mem_eraseP inBucket)
        · exact earlier
  · exact filed

theorem mem_filed_of_mem_unfile (filed : other ∈ (store.unfile place).2.filed) :
    other ∈ store.filed := by
  unfold unfile at filed
  dsimp only at filed
  suffices walk : ∀ (types : TypeList) (progress : Bool × Variables),
      other ∈ (types.foldl (fun progress type =>
        (progress.1 || (unfileFrom progress.2 (store.get place).id type).1,
          (unfileFrom progress.2 (store.get place).id type).2))
          progress).2.filed →
        other ∈ progress.2.filed from walk _ _ filed
  intro types
  induction types with
  | nil => exact fun _ member => member
  | cons type rest induction =>
      intro progress member
      rw [List.foldl_cons] at member
      have earlier := induction _ member
      exact mem_filed_of_mem_unfileFrom earlier

theorem fst_unfileFrom (store : Variables) (id : String) (type : Tag) :
    (store.unfileFrom id type).1 =
      (store.ofType type).any fun other => (store.get other).id = id := by
  unfold unfileFrom
  dsimp only
  split
  · rename_i found
    exact found.symm
  · rename_i absent
    exact (Bool.not_eq_true _ ▸ absent).symm

/-- What is answered tells whether a bucket of the types had the id. -/
theorem fst_unfile (distinct : (store.get place).types.Nodup) :
    (store.unfile place).1 =
      (store.get place).types.any fun type =>
        (store.ofType type).any fun other =>
            (store.get other).id = (store.get place).id := by
  unfold unfile
  dsimp only
  suffices walk : ∀ (types : TypeList) (removed : Bool) (current : Variables),
      types.Nodup →
      current.pool = store.pool →
        (∀ type ∈ types, current.ofType type = store.ofType type) →
      (types.foldl (fun progress type =>
        (progress.1 || (unfileFrom progress.2 (store.get place).id type).1,
          (unfileFrom progress.2 (store.get place).id type).2)) (removed,
          current)).1 =
        (removed || types.any fun type =>
          (store.ofType type).any fun other =>
            (store.get other).id = (store.get place).id) by
    simpa using walk _ false store distinct rfl fun _ _ => rfl
  intro types
  induction types with
  | nil => simp
  | cons head rest induction =>
      intro removed current distinct samePool sameBuckets
      rw [List.nodup_cons] at distinct
      have untouched : ∀ type ∈ rest,
          (current.unfileFrom (store.get place).id head).2.ofType type =
            store.ofType type := by
        intro type listed
        have differs : head ≠ type := fun same => distinct.1 (same ▸ listed)
        rw [ofType_unfileFrom, if_neg differs,
          sameBuckets type (List.mem_cons_of_mem head listed)]
      rw [List.foldl_cons,
        induction _ _ distinct.2 ((pool_unfileFrom _ _ _).trans samePool)
          untouched]
      simp only [fst_unfileFrom, sameBuckets head List.mem_cons_self,
        get_eq_of_pool samePool, List.any_cons, Bool.or_assoc]

end Removal

/-- The variable was made and is not filed; it has these types. -/
structure Gone (store : Variables) (place : VariableId) (types : TypeList) :
    Prop where
  made : place.number < store.pool.size
  unfiled : place ∉ store.filed
  typed : (store.get place).types = types

namespace Gone

variable {store : Variables} {place : VariableId} {types : TypeList}

section Gone

variable (gone : store.Gone place types)

include gone

theorem made_other {after : Variables} {generated name : String}
    {request : TypeRequest} {id : Option String} {other : VariableId}
    (made : store.create generated name request id = .ok (.made other after)) :
    after.Gone place types := by
  obtain ⟨_, isNext, own, _, isAfter⟩ := made_of_create made
  have differs : place ≠ other := by
    intro same
    have below := gone.made
    rw [same, isNext] at below
    exact Nat.lt_irrefl _ below
  subst isAfter
  constructor
  · exact Nat.lt_of_lt_of_le gone.made (OrderedMap.size_le_size_insert _ _ _)
  · intro filed
    rcases (refiled_fileUnder store.pool other _ store.index).member place
      filed with same | earlier
    · exact differs same
    · exact gone.unfiled earlier
  · rw [get_made_of_ne made differs]
    exact gone.typed

theorem retype (other : VariableId) (request : TypeRequest)
    (settled : other = place →
      TypeList.same types request.variableTypes = true) :
    (store.retype other request).2.Gone place types := by
  by_cases here : other = place
  · have same := settled here
    subst here
    rw [← gone.typed] at same
    rw [retype_of_same same]
    exact gone
  · constructor
    · rcases pool_retype store other request with samePool
        | ⟨written, isWritten⟩
      · rw [samePool]
        exact gone.made
      · rw [isWritten]
        exact Nat.lt_of_lt_of_le gone.made
          (OrderedMap.size_le_size_insert _ _ _)
    · intro filed
      rcases (refiled_retype store other request).member place filed with same
        | earlier
      · exact here same.symm
      · exact gone.unfiled earlier
    · rw [get_retype_of_ne store request here]
      exact gone.typed

theorem delete (other : VariableId) :
    (store.delete other).2.Gone place types := by
  have samePool : (store.delete other).2.pool = store.pool :=
    (refiled_unfile store other).1
  constructor
  · rw [samePool]
    exact gone.made
  · exact fun filed => gone.unfiled (mem_filed_of_mem_unfile filed)
  · rw [get_eq_of_pool samePool]
    exact gone.typed

theorem perform {operation : VariableOperation}
    (settled : ∀ request, operation = .retype place request →
      TypeList.same types request.variableTypes = true) :
    (operation.perform store).Gone place types := by
  cases operation with
  | create generated name request id =>
      exact VariableOperation.keeps_create (Gone · place types) gone
        gone.made_other
  | retype other request =>
      apply gone.retype
      intro same
      subst same
      exact settled request rfl
  | delete other => exact gone.delete other

end Gone

/-- A variable stays away until it is asked to take other types. -/
theorem performAll (operations : List VariableOperation) :
    ∀ {store : Variables}, store.Gone place types →
      (∀ request, .retype place request ∈ operations →
        TypeList.same types request.variableTypes = true) →
      (VariableOperation.performAll operations store).Gone place types := by
  induction operations with
  | nil =>
      intro store gone _
      exact gone
  | cons operation rest induction =>
      intro store gone settled
      apply induction
      · apply gone.perform
        intro request isRetype
        apply settled
        rw [isRetype]
        exact List.mem_cons_self
      · intro request later
        exact settled request (List.mem_cons_of_mem operation later)

end Gone

/-- The variable does not come into the map and no variable leaves a bucket. -/
def Harmless (before after : Variables) (place : VariableId) : Prop :=
  place ∉ after.filed ∧ ∀ type, ∀ other ∈ before.ofType type,
    other ∈ after.ofType type

namespace Indexed

variable {store : Variables} {place : VariableId}

section Indexed

variable (indexed : store.Indexed)

include indexed

theorem perform_careful {operation : VariableOperation}
    (careful : operation.Careful store) :
    (operation.perform store).Indexed := by
  cases operation with
  | create generated name request id =>
      exact VariableOperation.keeps_create Indexed indexed
        (indexed.made careful)
  | retype place request =>
      rcases careful with filed | same
      · exact indexed.retype filed request
      · rw [VariableOperation.perform, retype_of_same same]
        exact indexed
  | delete place =>
      rcases careful with filed | absent
      · exact indexed.unfile filed
      · rw [VariableOperation.perform, delete, unfile_eq_self absent]
        exact indexed

/-- A filed variable stands in the buckets of its types, of which there are
some. -/
theorem delete_answers (filed : place ∈ store.filed) :
    (store.delete place).1 = true := by
  obtain ⟨type, member⟩ := (mem_filed_iff indexed.distinct place).mp filed
  rw [delete, fst_unfile (indexed.nodup_types place)]
  apply List.any_eq_true.mpr
  refine ⟨type, (indexed.bucket place filed type).mp member, ?_⟩
  apply List.any_eq_true.mpr
  exact ⟨place, member, decide_eq_true rfl⟩

theorem delete_gone (filed : place ∈ store.filed) :
    (store.delete place).2.Gone place (store.get place).types := by
  have samePool : (store.delete place).2.pool = store.pool :=
    (refiled_unfile store place).1
  constructor
  · rw [samePool]
    exact indexed.numbered place (indexed.known place filed)
  · intro still
    have removed := indexed.toKept.unfile place
    obtain ⟨type, member⟩ := (mem_filed_iff removed.distinct place).mp still
    rw [indexed.ofType_unfile filed] at member
    exact (indexed.once type).not_mem_erase member
  · rw [get_eq_of_pool samePool]

/-- Care is what it takes for a request about a deleted variable to do no
harm. -/
theorem careful_iff {operation : VariableOperation}
    (about : operation.handle? = some place) (unfiled : place ∉ store.filed) :
    operation.Careful store ↔
      Harmless store (operation.perform store) place := by
  constructor
  · intro careful
    rw [VariableOperation.perform_of_careful about unfiled careful]
    exact ⟨unfiled, fun _ _ member => member⟩
  · intro harmless
    cases operation with
    | create => cases about
    | retype other request =>
        cases about
        by_cases same : TypeList.same (store.get place).types
          request.variableTypes = true
        · exact Or.inr same
        · apply absurd _ harmless.1
          rw [VariableOperation.perform, retype_of_differ same]
          exact mem_places_fileUnder place _ _ (variableTypes_ne_nil request)
    | delete other =>
        cases about
        apply Or.inr
        intro type listed other member sameId
        have kept := harmless.2 type other member
        have otherFiled := (mem_filed_iff indexed.distinct other).mpr
          ⟨type, member⟩
        -- Ids tell filed variables apart, so it is `other` that leaves the
        -- bucket.
        have leaves : ((store.ofType type).eraseP fun third =>
            (store.get third).id = (store.get place).id) =
                (store.ofType type).erase other := by
          apply eraseP_eq_erase
          intro third thirdMember
          have thirdFiled := (mem_filed_iff indexed.distinct third).mpr
            ⟨type, thirdMember⟩
          rw [decide_eq_true_eq, ← sameId]
          constructor
          · exact indexed.ids third thirdFiled other otherFiled
          · intro same
            rw [same]
        rw [VariableOperation.perform, delete,
          Variables.ofType_unfile (indexed.nodup_types place), if_pos listed,
          leaves] at kept
        exact (indexed.once type).not_mem_erase kept

end Indexed

end Indexed

open VariableOperation (performAll)

theorem Reached.indexed_of_careful
    (reached : Reached (fun store operation => operation.Careful store) store) :
    store.Indexed := by
  induction reached with
  | empty => exact Indexed.empty
  | performed _ careful indexed => exact indexed.perform_careful careful

/-- As long as requests about deleted variables are careful, no two variables
share an id and a variable that is deleted is never returned again, unless it
is itself asked to take other types.  Careful requests about deleted variables
change nothing at all, and all others do harm. -/
theorem deletion_final
    (reached : Reached (fun store operation => operation.Careful store) store) :
    (∀ place ∈ store.filed, ∀ other ∈ store.filed,
      (store.get place).id = (store.get other).id → place = other) ∧
    (∀ place ∈ store.filed, (store.delete place).1 = true ∧
      ∀ operations : List VariableOperation,
        (∀ request, .retype place request ∈ operations →
          TypeList.same (store.get place).types request.variableTypes = true) →
        (performAll operations (store.delete place).2).Unlisted place) ∧
    ∀ place, place ∉ store.filed → ∀ operation : VariableOperation,
      operation.handle? = some place →
      (operation.Careful store ↔
        Harmless store (operation.perform store) place) ∧
      (operation.Careful store → operation.perform store = store) := by
  have indexed := reached.indexed_of_careful
  refine ⟨indexed.ids, ?_, ?_⟩
  · intro place filed
    refine ⟨indexed.delete_answers filed, ?_⟩
    intro operations settled
    have gone := Gone.performAll operations (indexed.delete_gone filed) settled
    exact unlisted_of_not_filed gone.unfiled
  · intro place unfiled operation about
    exact ⟨indexed.careful_iff about unfiled,
      VariableOperation.perform_of_careful about unfiled⟩

/-- A variable of two types and one that has a type in common with it. -/
def neighbours : List VariableOperation :=
  [.create "0" "item" (.many ["A", "B"]) (some "x"), .create "1" "other"
    (.one "A") none]

/-- The id of the first variable goes to one of another type; the first one is
deleted again and asked to take the types it has, and its heir is moved. -/
def afterDeletion : List VariableOperation :=
  [.create "2" "heir" (.one "C") (some "x"), .delete ⟨0⟩,
    .retype ⟨0⟩ (.many ["B", "A", "B"]), .retype ⟨2⟩ (.one "D")]

theorem deletion_final_neighbours :
    ∃ store later,
      Reached (fun store operation => operation.Careful store) store ∧
      ⟨0⟩ ∈ store.filed ∧ (store.delete ⟨0⟩).1 = true ∧
      later = performAll afterDeletion (store.delete ⟨0⟩).2 ∧
      later.Unlisted ⟨0⟩ ∧ later.findById? "x" = some ⟨2⟩ ∧
      Reached (fun store operation => operation.Careful store) later ∧
      (VariableOperation.delete ⟨0⟩).perform later = later ∧
      ¬ Harmless later ((VariableOperation.retype ⟨0⟩ (.one "D")).perform later)
        ⟨0⟩ := by
  have reached : Reached (fun store operation => operation.Careful store)
      (performAll neighbours {}) :=
    Reached.empty.performAll neighbours (by decide +kernel)
  have reachedLater : Reached (fun store operation => operation.Careful store)
      (performAll (.delete ⟨0⟩ :: afterDeletion)
        (performAll neighbours {})) :=
    reached.performAll (.delete ⟨0⟩ :: afterDeletion) (by decide +kernel)
  have filed : ⟨0⟩ ∈ (performAll neighbours {}).filed := by decide +kernel
  obtain ⟨_, deleted, _⟩ := deletion_final reached
  obtain ⟨answers, final⟩ := deleted ⟨0⟩ filed
  have unlisted := final afterDeletion (by
    intro request isRequest
    simp only [afterDeletion, List.mem_cons, VariableOperation.retype.injEq,
      reduceCtorEq, List.not_mem_nil, true_and, false_or, or_false] at isRequest
    rcases isRequest with rfl | impossible
    · decide +kernel
    · exact absurd impossible.1 (by decide))
  obtain ⟨_, _, requests⟩ := deletion_final reachedLater
  have unfiled : ⟨0⟩ ∉ (performAll (.delete ⟨0⟩ :: afterDeletion)
      (performAll neighbours {})).filed := by
    decide +kernel
  refine ⟨_, _, reached, filed, answers, rfl,
    unlisted, by decide +kernel, reachedLater, ?_, ?_⟩
  · exact (requests ⟨0⟩ unfiled (.delete ⟨0⟩) rfl).2 (by decide +kernel)
  · intro harmless
    have careful := (requests ⟨0⟩ unfiled (.retype ⟨0⟩ (.one "D")) rfl).1.mpr
      harmless
    exact absurd careful (by decide +kernel)

/-- A variable is deleted and its id goes to a variable that has a type in
common with it.  Then the deleted one is deleted again and moved to another
type. -/
def staleRequests : List VariableOperation :=
  [.create "0" "item" (.one "A") (some "x"), .delete ⟨0⟩,
    .create "1" "heir" (.many ["A", "B"]) (some "x"), .delete ⟨0⟩,
    .retype ⟨0⟩ (.one "C")]

/-- The heir of the id has left a bucket of its types, the deleted variable is
found again, and the two share an id. -/
theorem stale_requests_harm :
    ∃ store, Reached (fun store operation => operation.Handled store) store ∧
      "A" ∈ (store.get ⟨1⟩).types ∧ store.ofType "A" = [] ∧
      store.ofType "B" = [⟨1⟩] ∧
      store.ofType "C" = [⟨0⟩] ∧ store.find? "item" ["C"] = some ⟨0⟩ ∧
      (store.get ⟨0⟩).id = (store.get ⟨1⟩).id := by
  refine ⟨_, Reached.empty.performAll staleRequests (by decide +kernel), ?_⟩
  decide +kernel

end Variables

end TypeFlow
