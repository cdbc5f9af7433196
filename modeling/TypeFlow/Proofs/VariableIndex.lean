import Mathlib.Data.List.Nodup
import TypeFlow.Proofs.VariableLookup
import TypeFlow.Variable.Command

/-!
# An exact index of variables

Operations on variables are described by what they do to the bucket of a type:
making a variable appends it to the buckets of its types, retyping one moves it
and deleting one takes it out.  As long as no two filed variables share an id,
each stands exactly once in the bucket of each of its types and in no other,
and lookups by id and the list of all variables agree with the buckets.
-/

namespace TypeFlow

theorem TypeRequest.nodup_variableTypes (request : TypeRequest) :
    request.variableTypes.Nodup := by
  cases request with
  | none => simp [TypeRequest.variableTypes]
  | one type => simp [TypeRequest.variableTypes]
  | many types =>
      simp only [TypeRequest.variableTypes]
      split
      · simp
      · exact TypeList.nodup_distinct types

namespace Variables

variable {store : Variables} {place : VariableId}

section Buckets

theorem mem_filed_iff (distinct : store.index.keys.Nodup) (place : VariableId) :
    place ∈ store.filed ↔ ∃ type, place ∈ store.ofType type := by
  constructor
  · intro filed
    obtain ⟨bucket, listed, member⟩ := List.mem_flatten.mp filed
    obtain ⟨entry, isEntry, rfl⟩ := List.mem_map.mp listed
    refine ⟨entry.1, ?_⟩
    unfold ofType OrderedMap.getD
    rw [OrderedMap.get?_of_mem distinct isEntry]
    exact member
  · rintro ⟨type, member⟩
    exact mem_places_of_mem_getD member

theorem get_eq_of_pool {other : Variables} (same : other.pool = store.pool)
    (place : VariableId) : other.get place = store.get place := by
  unfold get
  rw [same]

theorem getD_fileUnder (place : VariableId) {types : TypeList}
    (distinct : types.Nodup) (index : VariableIndex) (type : Tag) :
    (fileUnder index place types).getD type [] =
      index.getD type [] ++ if type ∈ types then [place] else [] := by
  induction types generalizing index with
  | nil => simp [fileUnder]
  | cons head rest induction =>
      rw [List.nodup_cons] at distinct
      have later :=
        induction distinct.2 (index.insert head (index.getD head [] ++ [place]))
      unfold fileUnder at later ⊢
      rw [List.foldl_cons, later, OrderedMap.getD_insert]
      by_cases here : head = type
      · subst here
        simp [distinct.1]
      · have reversed : ¬ type = head := fun equal => here equal.symm
        simp [here, reversed]

theorem ofType_unfileFrom (store : Variables) (id : String) (type other : Tag) :
    (store.unfileFrom id type).2.ofType other =
      if type = other then (store.ofType other).eraseP fun place =>
      (store.get place).id = id else store.ofType other := by
  unfold unfileFrom
  dsimp only
  split
  · by_cases same : type = other
    · subst same
      rw [if_pos rfl]
      cases remaining : (store.ofType type).eraseP fun place =>
        (store.get place).id = id with
      | nil => simp [ofType, OrderedMap.getD]
      | cons head rest => simp [ofType]
    · rw [if_neg same]
      cases remaining : (store.ofType type).eraseP fun place =>
        (store.get place).id = id with
      | nil => simp [ofType, OrderedMap.getD, same]
      | cons head rest => simp [ofType, same]
  · rename_i absent
    split
    · rename_i same
      subst same
      rw [List.eraseP_of_forall_not]
      intro place member isListed
      exact absent (List.any_eq_true.mpr ⟨place, member, isListed⟩)
    · rfl

theorem eraseP_eq_erase {test : VariableId → Bool} {item : VariableId}
    {items : List VariableId}
    (only : ∀ other ∈ items, test other = true ↔ other = item) :
    items.eraseP test = items.erase item := by
  induction items with
  | nil => rfl
  | cons head rest induction =>
      have headOnly := only head List.mem_cons_self
      by_cases here : head = item
      · rw [List.eraseP_cons_of_pos (headOnly.mpr here), here,
          List.erase_cons_head]
      · rw [List.eraseP_cons_of_neg fun passes => here (headOnly.mp passes),
          List.erase_cons_tail (by simpa using here),
          induction fun other member =>
            only other (List.mem_cons_of_mem head member)]

/-- A variable leaves the buckets of its types by its id. -/
theorem ofType_unfile (distinct : (store.get place).types.Nodup) (type : Tag) :
    (store.unfile place).2.ofType type =
      if type ∈ (store.get place).types then
        (store.ofType type).eraseP fun other =>
          (store.get other).id = (store.get place).id
      else store.ofType type := by
  unfold unfile
  dsimp only
  suffices walk : ∀ (types : TypeList) (removed : Bool) (current : Variables),
      types.Nodup →
      current.pool = store.pool →
      (types.foldl (fun progress type =>
        (progress.1 || (unfileFrom progress.2 (store.get place).id type).1,
          (unfileFrom progress.2 (store.get place).id type).2)) (removed,
          current)).2.ofType type =
        if type ∈ types then
          (current.ofType type).eraseP fun other =>
            (store.get other).id = (store.get place).id
        else current.ofType type from
    walk _ false store distinct rfl
  intro types
  induction types with
  | nil =>
      intro removed current _ _
      simp
  | cons head rest induction =>
      intro removed current distinct samePool
      rw [List.nodup_cons] at distinct
      rw [List.foldl_cons,
        induction _ _ distinct.2 ((pool_unfileFrom _ _ _).trans samePool)]
      simp only [ofType_unfileFrom, get_eq_of_pool samePool]
      by_cases here : head = type
      · subst here
        simp [distinct.1]
      · have reversed : ¬ type = head := fun equal => here equal.symm
        simp [here, reversed]

/-- Nothing is taken out where no bucket of the types has the id. -/
theorem unfile_eq_self
    (absent : ∀ type ∈ (store.get place).types, ∀ other ∈ store.ofType type,
      (store.get other).id ≠ (store.get place).id) :
    store.unfile place = (false, store) := by
  have idle : ∀ type ∈ (store.get place).types,
      store.unfileFrom (store.get place).id type = (false, store) := by
    intro type listed
    unfold unfileFrom
    dsimp only
    rw [if_neg]
    intro found
    obtain ⟨other, member, sameId⟩ := List.any_eq_true.mp found
    exact absent type listed other member (of_decide_eq_true sameId)
  unfold unfile
  dsimp only
  revert idle
  generalize (store.get place).types = types
  intro idle
  induction types with
  | nil => rfl
  | cons type rest induction =>
      rw [List.foldl_cons, idle type List.mem_cons_self]
      exact induction fun other listed =>
        idle other (List.mem_cons_of_mem type listed)

/-- No bucket is empty. -/
def Filled (index : VariableIndex) : Prop :=
  ∀ bucket ∈ index.values, bucket ≠ []

theorem Filled.insert {index : VariableIndex}
    (filled : Filled index) (type : Tag) {bucket : List VariableId}
    (nonempty : bucket ≠ []) : Filled (index.insert type bucket) := by
  intro other member
  rcases OrderedMap.mem_values_insert member with isNew | earlier
  · rw [isNew]
    exact nonempty
  · exact filled other earlier

theorem Filled.fileUnder {index : VariableIndex} (filled : Filled index)
    (place : VariableId) (types : TypeList) :
    Filled (fileUnder index place types) := by
  induction types generalizing index with
  | nil => exact filled
  | cons type rest induction =>
      apply induction
      exact filled.insert type
        (List.append_ne_nil_of_right_ne_nil _ (List.cons_ne_nil _ _))

theorem Filled.unfileFrom (filled : Filled store.index) (id : String)
    (type : Tag) :
    Filled (store.unfileFrom id type).2.index := by
  unfold Variables.unfileFrom
  dsimp only
  split
  · cases remaining : (store.ofType type).eraseP fun place =>
      (store.get place).id = id with
    | nil =>
        intro bucket member
        exact filled bucket (OrderedMap.mem_values_erase member)
    | cons head rest => exact filled.insert type (List.cons_ne_nil head rest)
  · exact filled

theorem Filled.unfile (filled : Filled store.index) (place : VariableId) :
    Filled (store.unfile place).2.index := by
  unfold Variables.unfile
  dsimp only
  generalize start : (false, store) = progress
  have sofar : Filled progress.2.index := by
    rw [← start]
    exact filled
  clear start
  induction (store.get place).types generalizing progress with
  | nil => exact sofar
  | cons type rest induction =>
      exact induction _ (sofar.unfileFrom (store.get place).id type)

end Buckets

section Made

variable {after : Variables} {generated name : String} {request : TypeRequest}
  {id : Option String}
  (made : store.create generated name request id = .ok (.made place after))

include made

theorem get_made_of_ne {other : VariableId} (differs : other ≠ place) :
    after.get other = store.get other := by
  obtain ⟨_, _, own, _, rfl⟩ := made_of_create made
  rw [get, OrderedMap.getD_insert, if_neg fun same => differs same.symm]
  rfl

theorem ofType_made (type : Tag) :
    after.ofType type =
      store.ofType type ++ if type ∈ request.variableTypes
        then [place] else [] := by
  obtain ⟨_, _, own, _, rfl⟩ := made_of_create made
  exact getD_fileUnder place request.nodup_variableTypes store.index type

end Made

section Retype

variable {request : TypeRequest}

theorem retype_of_same
    (same : TypeList.same (store.get place).types request.variableTypes =
      true) :
    store.retype place request = (false, store) :=
  if_pos same

variable (differ : ¬ TypeList.same (store.get place).types
  request.variableTypes = true)

include differ

theorem retype_of_differ :
    store.retype place request =
      (true, ⟨(store.unfile place).2.pool.insert place
        { store.get place with types := request.variableTypes },
        fileUnder (store.unfile place).2.index place request.variableTypes⟩) :=
  if_neg differ

theorem ofType_retype (type : Tag) :
    (store.retype place request).2.ofType type =
      (store.unfile place).2.ofType type ++
        if type ∈ request.variableTypes then [place] else [] := by
  rw [retype_of_differ differ]
  exact getD_fileUnder place request.nodup_variableTypes _ type

end Retype

end Variables

/-- What may be asked of a map of variables. -/
inductive VariableOperation where
  | create (generated name : String) (request : TypeRequest)
    (id : Option String)
  | retype (place : VariableId) (request : TypeRequest)
  | delete (place : VariableId)

/-- The variables after an operation, however it ends. -/
def VariableOperation.perform (store : Variables) : VariableOperation →
    Variables
  | .create generated name request id =>
      match store.create generated name request id with
      | .ok (.made _ after) => after
      | .ok (.found _) | .error _ => store
  | .retype place request => (store.retype place request).2
  | .delete place => (store.delete place).2

namespace VariableOperation

theorem perform_create (store : Variables) (generated name : String)
    (request : TypeRequest) (id : Option String) :
    (create generated name request id).perform store = store ∨
      ∃ place, store.create generated name request id =
        .ok
          (.made place ((create generated name request id).perform store)) := by
  simp only [perform]
  cases store.create generated name request id with
  | error fault => exact Or.inl rfl
  | ok creation =>
      cases creation with
      | found place => exact Or.inl rfl
      | made place after => exact Or.inr ⟨place, rfl⟩

/-- What a map has, and has when a variable was made, it has after every request
for one. -/
theorem keeps_create {store : Variables} {generated name : String}
    {request : TypeRequest} {id : Option String} (good : Variables → Prop)
    (holds : good store)
    (holdsMade : ∀ {place after}, store.create generated name request id =
      .ok (.made place after) →
      good after) :
    good ((create generated name request id).perform store) := by
  rcases perform_create store generated name request id with same
    | ⟨place, made⟩
  · rw [same]
    exact holds
  · exact holdsMade made

/-- Carries out operations in turn. -/
def performAll : List VariableOperation → Variables → Variables
  | [], store => store
  | operation :: rest, store => performAll rest (operation.perform store)

/-- Each operation is admitted in its turn. -/
def AllAdmitted (admits : Variables → VariableOperation → Prop) :
    List VariableOperation → Variables → Prop
  | [], _ => True
  | operation :: rest, store =>
      admits store operation ∧ AllAdmitted admits rest (operation.perform store)

instance decidableAllAdmitted (admits : Variables → VariableOperation → Prop)
    [∀ store operation, Decidable (admits store operation)] :
    (operations : List VariableOperation) → (store : Variables) →
      Decidable (AllAdmitted admits operations store)
  | [], _ => isTrue trivial
  | operation :: rest, store =>
      have later := decidableAllAdmitted admits rest (operation.perform store)
      @instDecidableAnd _ _ inferInstance later

end VariableOperation

namespace Variables

/-- The maps that operations lead to, starting from an empty one. -/
inductive Reached (admits : Variables → VariableOperation → Prop) : Variables →
    Prop
  | empty : Reached admits {}
  | performed {store : Variables} {operation : VariableOperation} :
      Reached admits store → admits store operation →
        Reached admits (operation.perform store)

theorem Reached.performAll {admits : Variables → VariableOperation → Prop}
    (operations : List VariableOperation) :
    ∀ {store : Variables}, Reached admits store →
      VariableOperation.AllAdmitted admits operations store →
        Reached admits (VariableOperation.performAll operations store) := by
  induction operations with
  | nil =>
      intro store reached _
      exact reached
  | cons operation rest induction =>
      intro store reached admitted
      exact induction (Reached.performed reached admitted.1) admitted.2

/-- Filed variables come from the pool, types have one bucket each, and every
variable has distinct types. -/
structure Kept (store : Variables) : Prop where
  numbered : store.pool.Numbered VariableId.number
  known : ∀ place ∈ store.filed, store.pool.contains place
  distinct : store.index.keys.Nodup
  typed : ∀ place, store.pool.contains place →
    (store.get place).types ≠ [] ∧ (store.get place).types.Nodup

namespace Kept

variable {store after : Variables} {place : VariableId}

theorem empty : Kept {} where
  numbered := OrderedMap.numbered_empty _
  known := fun _ filed => by cases filed
  distinct := List.nodup_nil
  typed := fun _ known => by cases known

section Kept

variable (kept : store.Kept)

include kept

theorem not_filed_next : (⟨store.pool.size⟩ : VariableId) ∉ store.filed :=
  fun filed => kept.numbered.not_contains rfl (kept.known _ filed)

theorem made {generated name : String} {request : TypeRequest}
    {id : Option String}
    (made : store.create generated name request id = .ok (.made place after)) :
    after.Kept := by
  obtain ⟨_, isNext, own, _, rfl⟩ := made_of_create made
  have refiled := refiled_fileUnder store.pool place
    request.variableTypes store.index
  constructor
  · exact kept.numbered.insert_next _ (by rw [isNext])
  · intro other filed
    refine (OrderedMap.contains_insert _ _ _ _).mpr ?_
    rcases refiled.member other filed with isPlace | earlier
    · exact Or.inl isPlace.symm
    · exact Or.inr (kept.known other earlier)
  · exact refiled.distinct kept.distinct
  · intro other known
    rw [get, OrderedMap.getD_insert]
    split
    · exact ⟨variableTypes_ne_nil request, request.nodup_variableTypes⟩
    · rename_i differs
      rcases (OrderedMap.contains_insert _ _ _ _).mp known with isPlace
        | earlier
      · exact absurd isPlace differs
      · exact kept.typed other earlier

theorem nodup_types (place : VariableId) :
    (store.get place).types.Nodup := by
  by_cases known : store.pool.contains place
  · exact (kept.typed place known).2
  · rw [get, OrderedMap.getD_of_not_contains known]
    exact List.nodup_nil

theorem mem_of_mem_unfile {other : VariableId} {type : Tag}
    (member : other ∈ (store.unfile place).2.ofType type) :
    other ∈ store.ofType type := by
  rw [ofType_unfile (kept.nodup_types place)] at member
  split at member
  · exact List.mem_of_mem_eraseP member
  · exact member

theorem unfile (place : VariableId) : (store.unfile place).2.Kept := by
  obtain ⟨samePool, refiled⟩ := refiled_unfile store place
  have distinct := refiled.distinct kept.distinct
  refine ⟨?_, ?_, distinct, ?_⟩
  · rw [samePool]
    exact kept.numbered
  · intro other filed
    obtain ⟨type, member⟩ := (mem_filed_iff distinct other).mp filed
    rw [samePool]
    exact kept.known other
      ((mem_filed_iff kept.distinct other).mpr
        ⟨type, kept.mem_of_mem_unfile member⟩)
  · intro other known
    rw [get_eq_of_pool samePool]
    rw [samePool] at known
    exact kept.typed other known

theorem retype (known : store.pool.contains place) (request : TypeRequest) :
    (store.retype place request).2.Kept := by
  by_cases same : TypeList.same (store.get place).types
    request.variableTypes = true
  · rw [retype_of_same same]
    exact kept
  · rw [retype_of_differ same]
    have removed := kept.unfile place
    have samePool := (refiled_unfile store place).1
    have refiled := refiled_fileUnder store.pool place request.variableTypes
      (store.unfile place).2.index
    have still : (store.unfile place).2.pool.contains place := by rwa [samePool]
    constructor
    · exact removed.numbered.insert_known _ still
    · intro other filed
      refine (OrderedMap.contains_insert _ _ _ _).mpr ?_
      rcases refiled.member other filed with isPlace | earlier
      · exact Or.inl isPlace.symm
      · exact Or.inr (removed.known other earlier)
    · exact refiled.distinct removed.distinct
    · intro other present
      rw [get, OrderedMap.getD_insert]
      split
      · exact ⟨variableTypes_ne_nil request, request.nodup_variableTypes⟩
      · rename_i differs
        rcases (OrderedMap.contains_insert _ _ _ _).mp present with isPlace
          | earlier
        · exact absurd isPlace differs
        · exact removed.typed other earlier

end Kept

end Kept

/-- Every filed variable stands once in the bucket of each of its types and in
no other bucket, and ids tell filed variables apart. -/
structure Indexed (store : Variables) : Prop extends Kept store where
  filled : Filled store.index
  once : ∀ type, (store.ofType type).Nodup
  bucket : ∀ place ∈ store.filed, ∀ type,
    place ∈ store.ofType type ↔ type ∈ (store.get place).types
  ids : ∀ place ∈ store.filed, ∀ other ∈ store.filed,
    (store.get place).id = (store.get other).id → place = other

namespace Indexed

variable {store after : Variables} {place : VariableId}

theorem empty : Indexed {} where
  toKept := Kept.empty
  filled := fun _ member => by cases member
  once := fun _ => List.nodup_nil
  bucket := fun _ filed => by cases filed
  ids := fun _ filed => by cases filed

section Filed

variable (indexed : store.Indexed)

include indexed

/-- One variable leaves all buckets and is appended to those of some types. -/
theorem refiled (kept : after.Kept) (filled : Filled after.index)
    (place : VariableId) (types : TypeList)
    (others : ∀ other, other ≠ place → after.get other = store.get other)
    (buckets : ∀ type, after.ofType type =
      (store.ofType type).erase place ++ if type ∈ types then [place] else [])
    (own : types ≠ [] → (after.get place).types = types ∧
      ∀ other ∈ store.filed, other ≠ place →
        (store.get other).id ≠ (after.get place).id) :
    after.Indexed := by
  have member : ∀ other type, other ∈ after.ofType type ↔
      (other ≠ place ∧ other ∈ store.ofType type) ∨
        (other = place ∧ type ∈ types) := by
    intro other type
    rw [buckets, List.mem_append, (indexed.once type).mem_erase_iff]
    by_cases listed : type ∈ types <;> simp [listed]
  have filed : ∀ other ∈ after.filed,
      (other ≠ place ∧ other ∈ store.filed) ∨ (other = place ∧ types ≠ []) := by
    intro other isFiled
    obtain ⟨type, inBucket⟩ := (mem_filed_iff kept.distinct other).mp isFiled
    rcases (member other type).mp inBucket with ⟨differs, earlier⟩
      | ⟨isPlace, listed⟩
    · exact Or.inl ⟨differs, (mem_filed_iff indexed.distinct other).mpr
        ⟨type, earlier⟩⟩
    · exact Or.inr ⟨isPlace, List.ne_nil_of_mem listed⟩
  refine { kept with filled, once := ?_, bucket := ?_, ids := ?_ }
  · intro type
    rw [buckets, List.nodup_append]
    refine ⟨(indexed.once type).erase place, ?_, ?_⟩
    · split <;> simp
    · intro other earlier new isNew same
      subst same
      rw [(indexed.once type).mem_erase_iff] at earlier
      split at isNew
      · exact earlier.1 (List.mem_singleton.mp isNew)
      · cases isNew
  · intro other isFiled type
    rw [member]
    rcases filed other isFiled with ⟨differs, earlier⟩ | ⟨rfl, listed⟩
    · rw [others other differs, ← indexed.bucket other earlier type]
      simp [differs]
    · rw [(own listed).1]
      simp
  · intro left leftFiled right rightFiled sameId
    rcases filed left leftFiled with ⟨leftDiffers, leftEarlier⟩ | ⟨rfl, listed⟩
    · rcases filed right rightFiled with ⟨rightDiffers, rightEarlier⟩
        | ⟨rfl, listed⟩
      · rw [others left leftDiffers, others right rightDiffers] at sameId
        exact indexed.ids left leftEarlier right rightEarlier sameId
      · rw [others left leftDiffers] at sameId
        exact absurd sameId ((own listed).2 left leftEarlier leftDiffers)
    · rcases filed right rightFiled with ⟨rightDiffers, rightEarlier⟩ | ⟨rfl, _⟩
      · rw [others right rightDiffers] at sameId
        exact absurd sameId.symm
          ((own listed).2 right rightEarlier rightDiffers)
      · rfl

theorem made {generated name : String} {request : TypeRequest}
    {id : Option String}
    (fresh : id.getD "" = "" →
      ∀ other ∈ store.filed, (store.get other).id ≠ generated)
    (made : store.create generated name request id = .ok (.made place after)) :
    after.Indexed := by
  refine indexed.refiled (indexed.toKept.made made) ?_ place
    request.variableTypes (fun _ => get_made_of_ne made) ?_ ?_
  · obtain ⟨_, _, own, _, rfl⟩ := made_of_create made
    exact indexed.filled.fileUnder place request.variableTypes
  · intro type
    have notFiled : place ∉ store.ofType type := by
      intro member
      rw [(made_of_create made).2.1] at member
      exact indexed.not_filed_next (mem_places_of_mem_getD member)
    rw [List.erase_of_not_mem notFiled]
    exact ofType_made made type
  · intro _
    obtain ⟨_, _, own, unused, rfl⟩ := made_of_create made
    rw [get, OrderedMap.getD_insert, if_pos rfl]
    refine ⟨rfl, ?_⟩
    intro other filed _
    rcases unused with ⟨unasked, rfl⟩ | absent
    · exact fresh unasked other filed
    · exact findById?_eq_none_iff.mp absent other filed

/-- A filed variable leaves exactly the buckets it stands in. -/
theorem ofType_unfile (filed : place ∈ store.filed) (type : Tag) :
    (store.unfile place).2.ofType type = (store.ofType type).erase place := by
  rw [Variables.ofType_unfile (indexed.nodup_types place)]
  split
  · apply eraseP_eq_erase
    intro other member
    have otherFiled := (mem_filed_iff indexed.distinct other).mpr ⟨type, member⟩
    rw [decide_eq_true_eq]
    constructor
    · exact indexed.ids other otherFiled place filed
    · intro same
      rw [same]
  · rename_i untyped
    rw [List.erase_of_not_mem]
    intro member
    exact untyped ((indexed.bucket place filed type).mp member)

theorem unfile (filed : place ∈ store.filed) :
    (store.unfile place).2.Indexed := by
  have samePool := (refiled_unfile store place).1
  refine indexed.refiled (indexed.toKept.unfile place)
    (indexed.filled.unfile place) place [] ?_ ?_ ?_
  · exact fun other _ => get_eq_of_pool samePool other
  · intro type
    rw [indexed.ofType_unfile filed]
    simp
  · exact fun impossible => absurd rfl impossible

theorem retype (filed : place ∈ store.filed) (request : TypeRequest) :
    (store.retype place request).2.Indexed := by
  by_cases same : TypeList.same (store.get place).types
    request.variableTypes = true
  · rw [retype_of_same same]
    exact indexed
  · have kept := indexed.toKept.retype (indexed.known place filed) request
    refine indexed.refiled kept ?_ place request.variableTypes ?_ ?_ ?_
    · rw [retype_of_differ same]
      exact (indexed.filled.unfile place).fileUnder place request.variableTypes
    · intro other differs
      exact get_retype_of_ne store request fun same => differs same.symm
    · intro type
      rw [ofType_retype same, indexed.ofType_unfile filed]
    · intro _
      rw [retype_of_differ same, get, OrderedMap.getD_insert, if_pos rfl]
      refine ⟨rfl, ?_⟩
      intro other otherFiled differs sameId
      exact differs (indexed.ids other otherFiled place filed sameId)

/-- Each variable is found by its id. -/
theorem findById?_id (filed : place ∈ store.filed) :
    store.findById? (store.get place).id = some place := by
  cases found : store.findById? (store.get place).id with
  | none => exact absurd rfl (findById?_eq_none_iff.mp found place filed)
  | some other =>
      obtain ⟨otherFiled, sameId⟩ := mem_filed_of_findById? found
      rw [indexed.ids other otherFiled place filed sameId]

end Filed

end Indexed

section All

variable (store : Variables)

theorem mem_of_mem_firstById {place : VariableId} (places : List VariableId) :
    ∀ seen, place ∈ store.firstById seen places → place ∈ places ∧
      (store.get place).id ∉ seen := by
  induction places with
  | nil =>
      intro seen member
      cases member
  | cons head rest induction =>
      intro seen member
      rw [firstById] at member
      split at member
      · obtain ⟨later, unseen⟩ := induction seen member
        exact ⟨List.mem_cons_of_mem head later, unseen⟩
      · rename_i unseen
        rcases List.mem_cons.mp member with rfl | later
        · exact ⟨List.mem_cons_self, fun isSeen =>
            unseen (List.contains_iff_mem.mpr isSeen)⟩
        · obtain ⟨inRest, unseenLater⟩ := induction _ later
          exact ⟨List.mem_cons_of_mem head inRest,
            fun isSeen => unseenLater (List.mem_cons_of_mem _ isSeen)⟩

theorem nodup_firstById (places : List VariableId) :
    ∀ seen, (store.firstById seen places).Nodup := by
  induction places with
  | nil => exact fun _ => List.nodup_nil
  | cons head rest induction =>
      intro seen
      rw [firstById]
      split
      · exact induction seen
      · refine List.nodup_cons.mpr ⟨?_, induction _⟩
        intro again
        exact (mem_of_mem_firstById store rest _ again).2 List.mem_cons_self

/-- Where ids tell places apart, none is left out. -/
theorem mem_firstById {place : VariableId} (places : List VariableId) :
    ∀ seen, place ∈ places → (store.get place).id ∉ seen →
      (∀ other ∈ places, (store.get other).id = (store.get place).id →
        other = place) →
        place ∈ store.firstById seen places := by
  induction places with
  | nil =>
      intro seen member
      cases member
  | cons head rest induction =>
      intro seen member unseen alone
      have aloneLater : ∀ other ∈ rest,
          (store.get other).id = (store.get place).id →
          other = place := fun other later =>
            alone other (List.mem_cons_of_mem head later)
      rw [firstById]
      by_cases here : head = place
      · subst here
        rw [if_neg fun isSeen => unseen (List.contains_iff_mem.mp isSeen)]
        exact List.mem_cons_self
      · have later : place ∈ rest := (List.mem_cons.mp member).resolve_left
          fun same => here same.symm
        split
        · exact induction seen later unseen aloneLater
        · refine List.mem_cons_of_mem head (induction _ later ?_ aloneLater)
          intro isSeen
          rcases List.mem_cons.mp isSeen with sameId | earlier
          · exact here (alone head List.mem_cons_self sameId.symm)
          · exact unseen earlier

end All

theorem Indexed.mem_all_iff {store : Variables} (indexed : store.Indexed)
    (place : VariableId) :
    place ∈ store.all ↔ place ∈ store.filed := by
  constructor
  · intro listed
    exact (mem_of_mem_firstById store store.filed [] listed).1
  · intro filed
    apply mem_firstById store store.filed [] filed List.not_mem_nil
    intro other otherFiled sameId
    exact indexed.ids other otherFiled place filed sameId

end Variables

/-- Generated ids are not in use, only filed variables are retyped, and a
variable that is deleted is filed or has an id of its own. -/
def VariableOperation.Proper (store : Variables) : VariableOperation → Prop
  | .create generated _ _ id =>
      id.getD "" = "" → ∀ place ∈ store.filed, (store.get place).id ≠ generated
  | .retype place _ => place ∈ store.filed
  | .delete place =>
      place ∈ store.filed ∨ ∀ other ∈ store.filed,
        (store.get other).id ≠ (store.get place).id

instance VariableOperation.decidableProper (store : Variables) :
    (operation : VariableOperation) → Decidable (operation.Proper store)
  | .create generated _ _ id =>
      inferInstanceAs (Decidable (id.getD "" = "" →
        ∀ place ∈ store.filed, (store.get place).id ≠ generated))
  | .retype place _ => inferInstanceAs (Decidable (place ∈ store.filed))
  | .delete place =>
      inferInstanceAs (Decidable (place ∈ store.filed ∨
        ∀ other ∈ store.filed, (store.get other).id ≠ (store.get place).id))

namespace Variables

theorem Indexed.perform {store : Variables} (indexed : store.Indexed)
    {operation : VariableOperation} (proper : operation.Proper store) :
    (operation.perform store).Indexed := by
  cases operation with
  | create generated name request id =>
      exact VariableOperation.keeps_create Indexed indexed (indexed.made proper)
  | retype place request => exact indexed.retype proper request
  | delete place =>
      rcases proper with filed | absent
      · exact indexed.unfile filed
      · have idle : store.unfile place = (false, store) :=
          unfile_eq_self fun _ _ other member =>
            absent other (mem_places_of_mem_getD member)
        rw [VariableOperation.perform, delete, idle]
        exact indexed

theorem Reached.indexed {store : Variables}
    (reached : Reached (fun store operation => operation.Proper store) store) :
    store.Indexed := by
  induction reached with
  | empty => exact Indexed.empty
  | performed _ proper indexed => exact indexed.perform proper

end Variables

namespace VariableDesk

/-- The operation on variables that a command comes down to. -/
def operation? (desk : VariableDesk) : VariableCommand →
    Option VariableOperation
  | .create name request id _ =>
      some (.create (Text.generatedId (desk.drawn + 1)) name request id)
  | .retype handle request => (desk.handles.get? handle).map (.retype · request)
  | .delete handle => (desk.handles.get? handle).map .delete
  | .find .. | .findById .. | .ofType .. | .hasType .. => none

theorem store_run (desk : VariableDesk) (command : VariableCommand) :
    (desk.run command).2.store =
      match desk.operation? command with
      | some operation => operation.perform desk.store
      | none => desk.store := by
  cases command with
  | create name request id handle =>
      simp only [run, operation?, VariableOperation.perform]
      cases desk.store.create (Text.generatedId (desk.drawn + 1)) name
        request id with
      | error fault => rfl
      | ok creation => cases creation <;> rfl
  | retype handle request =>
      simp only [run, operation?, withHandle]
      cases desk.handles.get? handle <;> rfl
  | delete handle =>
      simp only [run, operation?, withHandle]
      cases desk.handles.get? handle <;> rfl
  | hasType handle type =>
      simp only [run, operation?, withHandle]
      cases desk.handles.get? handle <;> rfl
  | find name request => rfl
  | findById id => rfl
  | ofType type => rfl

/-- Asking for a variable leaves the map alone when that fails and when there
is one of that name. -/
theorem store_run_create {desk : VariableDesk} {name : String}
    {request : TypeRequest} {id handle : Option String}
    (unmade : (∃ fault, (desk.run (.create name request id handle)).1 =
      .error fault) ∨
      (desk.store.find? name request.variableTypes).isSome) :
    (desk.run (.create name request id handle)).2.store = desk.store := by
  rw [store_run]
  rcases VariableOperation.perform_create desk.store
    (Text.generatedId (desk.drawn + 1)) name
    request id with same | ⟨place, made⟩
  · exact same
  · rcases unmade with ⟨fault, fails⟩ | named
    · rw [run, made] at fails
      cases fails
    · rw [(Variables.made_of_create made).1] at named
      cases named

end VariableDesk

namespace Variables

open VariableOperation (performAll)

/-- In every map that operations lead to, each variable stands once in the
bucket of each of its types and in no other, has types, and is the one found by
its id; no bucket is empty, ids are not shared, and the list of all variables
has each once.  Asking for a variable changes the map only if one is made. -/
theorem index_exact {store : Variables}
    (reached : Reached (fun store operation => operation.Proper store) store) :
    (∀ place ∈ store.filed,
      (∀ type, (store.ofType type).count place =
        if type ∈ (store.get place).types then 1 else 0) ∧
      (store.get place).types ≠ [] ∧ (store.get place).types.Nodup ∧
      store.findById? (store.get place).id = some place) ∧
    (∀ bucket ∈ store.index.values, bucket ≠ []) ∧
    (∀ place ∈ store.filed, ∀ other ∈ store.filed,
      (store.get place).id = (store.get other).id → place = other) ∧
    (∀ place, store.all.count place = if place ∈ store.filed then 1 else 0) ∧
    ∀ (desk : VariableDesk) name request id handle, desk.store = store →
      (∃ fault, (desk.run (.create name request id handle)).1 = .error fault) ∨
        (store.find? name request.variableTypes).isSome →
      (desk.run (.create name request id handle)).2.store = store := by
  have indexed := reached.indexed
  refine ⟨?_, indexed.filled, indexed.ids, ?_, ?_⟩
  · intro place filed
    obtain ⟨nonempty, distinct⟩ :=
      indexed.typed place (indexed.known place filed)
    refine ⟨?_, nonempty, distinct, indexed.findById?_id filed⟩
    intro type
    rw [(indexed.once type).count]
    simp only [indexed.bucket place filed type]
  · intro place
    have listed : store.all.Nodup := nodup_firstById store store.filed []
    rw [listed.count]
    simp only [indexed.mem_all_iff place]
  · rintro desk name request id handle rfl unmade
    exact VariableDesk.store_run_create unmade

/-- A variable of two types moves to another two while a second one of its name,
which is of a third type, is deleted twice. -/
def movedVariable : List VariableOperation :=
  [.create "0" "Item" (.many ["A", "B", "A"]) none, .create "1" "ITEM"
    (.one "C") (some "own"),
    .create "2" "item" (.one "B") (some "own"), .delete ⟨1⟩,
    .retype ⟨0⟩ (.many ["C", "B"]), .delete ⟨1⟩]

/-- The variable is in its new buckets, and asking for its name under another id
fails without a trace. -/
theorem index_exact_movedVariable :
    ∃ store, Reached (fun store operation => operation.Proper store) store ∧
      store.filed = [⟨0⟩, ⟨0⟩] ∧ (store.get ⟨0⟩).types = ["C", "B"] ∧
      (store.ofType "A").count ⟨0⟩ = 0 ∧ (store.ofType "B").count ⟨0⟩ = 1 ∧
      (store.ofType "C").count ⟨0⟩ = 1 ∧ store.all.count ⟨0⟩ = 1 ∧
      store.findById? (store.get ⟨0⟩).id = some ⟨0⟩ ∧
      (VariableDesk.run { store }
        (.create "iTEM" (.one "C") (some "own") none)).1 =
        .error (.variableNameTaken "iTEM" "0" "own") ∧
      (VariableDesk.run { store }
        (.create "iTEM" (.one "C") (some "own") none)).2.store =
        store := by
  have reached : Reached (fun store operation => operation.Proper store)
      (performAll movedVariable {}) :=
    Reached.empty.performAll movedVariable (by decide +kernel)
  have filed : (performAll movedVariable {}).filed = [⟨0⟩, ⟨0⟩] := by
    decide +kernel
  have types : ((performAll movedVariable {}).get ⟨0⟩).types = ["C", "B"] := by
    decide +kernel
  have fails : (VariableDesk.run { store := performAll movedVariable {} }
      (.create "iTEM" (.one "C") (some "own") none)).1 =
        .error (.variableNameTaken "iTEM" "0" "own") := by
    decide +kernel
  obtain ⟨entries, _, _, listed, unmade⟩ := index_exact reached
  have member : (⟨0⟩ : VariableId) ∈ (performAll movedVariable {}).filed := by
    rw [filed]
    exact List.mem_cons_self
  obtain ⟨counts, _, _, found⟩ := entries ⟨0⟩ member
  refine ⟨_, reached, filed, types, ?_, ?_, ?_, ?_, found, fails,
    unmade _ _ _ _ _ rfl (Or.inl ⟨_, fails⟩)⟩
  · rw [counts, types]
    rfl
  · rw [counts, types]
    rfl
  · rw [counts, types]
    rfl
  · rw [listed, if_pos member]

end Variables

end TypeFlow
