import TypeFlow.Proofs.VariableIndex

/-!
# Names of variables

A variable is made only when none of its types has one of that name.  Retyping
does not look at names, so variables of one type keep different names as long
as no variable is moved to a type where its name is taken.
-/

namespace TypeFlow

/-- Only filed variables are retyped or deleted. -/
def VariableOperation.OnFiled (store : Variables) : VariableOperation → Prop
  | .create .. => True
  | .retype place _ | .delete place => place ∈ store.filed

instance VariableOperation.decidableOnFiled (store : Variables) :
    (operation : VariableOperation) → Decidable (operation.OnFiled store)
  | .create .. => isTrue trivial
  | .retype place _ | .delete place =>
      inferInstanceAs (Decidable (place ∈ store.filed))

/-- A variable is moved to a type of which there is another one of its name. -/
def VariableOperation.Clashes (store : Variables) : VariableOperation → Prop
  | .create .. | .delete _ => False
  | .retype place request =>
      ∃ type ∈ request.variableTypes, ∃ other ∈ store.ofType type,
        Text.lower (store.get other).name = Text.lower (store.get place).name ∧
          other ≠ place

instance VariableOperation.decidableClashes (store : Variables) :
    (operation : VariableOperation) → Decidable (operation.Clashes store)
  | .create .. | .delete _ => isFalse id
  | .retype place request =>
      inferInstanceAs (Decidable (∃ type ∈ request.variableTypes,
        ∃ other ∈ store.ofType type, Text.lower (store.get other).name =
          Text.lower (store.get place).name ∧ other ≠ place))

namespace Variables

variable {store after : Variables} {place : VariableId}

/-- Variables of one type have names that differ in more than case. -/
def DistinctNames (store : Variables) : Prop :=
  ∀ type, ∀ place ∈ store.ofType type, ∀ other ∈ store.ofType type,
    Text.lower (store.get place).name = Text.lower (store.get other).name →
      place = other

namespace DistinctNames

theorem empty : DistinctNames {} := by
  intro type place member
  cases member

/-- One variable may join the types where no other has its name. -/
theorem joined (distinct : store.DistinctNames) (place : VariableId)
    (types : TypeList) (members : ∀ type, ∀ other ∈ after.ofType type,
      other ∈ store.ofType type ∨ type ∈ types ∧ other = place)
    (names : ∀ type, ∀ other ∈ store.ofType type,
      (after.get other).name = (store.get other).name)
    (alone : ∀ type ∈ types, ∀ other ∈ store.ofType type,
      Text.lower (store.get other).name = Text.lower (after.get place).name →
        other = place) :
    after.DistinctNames := by
  intro type left leftMember right rightMember sameName
  rcases members type left leftMember with leftEarlier | ⟨joins, rfl⟩
  · rw [names type left leftEarlier] at sameName
    rcases members type right rightMember with rightEarlier | ⟨joins, rfl⟩
    · rw [names type right rightEarlier] at sameName
      exact distinct type left leftEarlier right rightEarlier sameName
    · exact alone type joins left leftEarlier sameName
  · rcases members type right rightMember with rightEarlier | ⟨_, rfl⟩
    · rw [names type right rightEarlier] at sameName
      exact (alone type joins right rightEarlier sameName.symm).symm
    · rfl

theorem unfile (distinct : store.DistinctNames) (kept : store.Kept)
    (place : VariableId) :
    (store.unfile place).2.DistinctNames := by
  have samePool := (refiled_unfile store place).1
  intro type left leftMember right rightMember sameName
  rw [get_eq_of_pool samePool, get_eq_of_pool samePool] at sameName
  exact distinct type left (kept.mem_of_mem_unfile leftMember) right
    (kept.mem_of_mem_unfile rightMember) sameName

end DistinctNames

theorem name_of_find?_eq_none {name : String} {types : TypeList}
    (absent : store.find? name types = none) {type : Tag}
    (listed : type ∈ types) {other : VariableId}
    (member : other ∈ store.ofType type) :
    Text.lower (store.get other).name ≠ Text.lower name := by
  have unnamed := List.findSome?_eq_none_iff.mp absent type listed
  have differs := List.find?_eq_none.mp unnamed other member
  intro sameName
  exact differs (decide_eq_true sameName)

theorem DistinctNames.made (distinct : store.DistinctNames) (kept : store.Kept)
    {generated name : String} {request : TypeRequest} {id : Option String}
    (made : store.create generated name request id = .ok (.made place after)) :
    after.DistinctNames := by
  obtain ⟨absent, isNext, own, _, isAfter⟩ := made_of_create made
  have isNamed : (after.get place).name = name := by
    rw [isAfter, get, OrderedMap.getD_insert, if_pos rfl]
  refine distinct.joined place request.variableTypes ?_ ?_ ?_
  · intro type other member
    rw [ofType_made made, List.mem_append] at member
    rcases member with earlier | new
    · exact Or.inl earlier
    · exact Or.inr (by simpa using new)
  · intro type other member
    rw [get_made_of_ne made]
    rintro rfl
    rw [isNext] at member
    exact kept.not_filed_next (mem_places_of_mem_getD member)
  · intro type listed other member sameName
    rw [isNamed] at sameName
    exact absurd sameName (name_of_find?_eq_none absent listed member)

theorem name_retype (store : Variables) (place other : VariableId)
    (request : TypeRequest) :
    ((store.retype place request).2.get other).name =
      (store.get other).name := by
  obtain ⟨types, entry⟩ := get_retype store place request other
  rw [entry]

theorem DistinctNames.retype (distinct : store.DistinctNames)
    (kept : store.Kept) {request : TypeRequest}
    (noClash : ¬ (VariableOperation.retype place request).Clashes store) :
    (store.retype place request).2.DistinctNames := by
  by_cases same : TypeList.same (store.get place).types
    request.variableTypes = true
  · rw [retype_of_same same]
    exact distinct
  · refine distinct.joined place request.variableTypes ?_
      (fun _ other _ => name_retype store place other request) ?_
    · intro type other member
      rw [ofType_retype same, List.mem_append] at member
      rcases member with left | new
      · exact Or.inl (kept.mem_of_mem_unfile left)
      · exact Or.inr (by simpa using new)
    · intro type listed other member sameName
      rw [name_retype] at sameName
      exact Classical.byContradiction fun differs =>
        noClash ⟨type, listed, other, member, sameName, differs⟩

theorem DistinctNames.perform (distinct : store.DistinctNames)
    (kept : store.Kept) {operation : VariableOperation}
    (noClash : ¬ operation.Clashes store) :
    (operation.perform store).DistinctNames := by
  cases operation with
  | create generated name request id =>
      exact VariableOperation.keeps_create DistinctNames distinct
        (distinct.made kept)
  | retype place request => exact distinct.retype kept noClash
  | delete place => exact distinct.unfile kept place

theorem Kept.perform (kept : store.Kept) {operation : VariableOperation}
    (onFiled : operation.OnFiled store) : (operation.perform store).Kept := by
  cases operation with
  | create generated name request id =>
      exact VariableOperation.keeps_create Kept kept kept.made
  | retype place request => exact kept.retype (kept.known place onFiled) request
  | delete place => exact kept.unfile place

theorem Reached.distinctNames (reached : Reached (fun store operation =>
      operation.OnFiled store ∧ ¬ operation.Clashes store) store) :
    store.Kept ∧ store.DistinctNames := by
  induction reached with
  | empty => exact ⟨Kept.empty, DistinctNames.empty⟩
  | performed _ admitted sofar =>
      exact ⟨sofar.1.perform admitted.1, sofar.2.perform sofar.1 admitted.2⟩

/-- What is found under a name is the only variable of the type that has it. -/
theorem DistinctNames.find?_eq_some_iff (distinct : store.DistinctNames)
    (name : String) (type : Tag) (place : VariableId) :
    store.find? name (TypeRequest.one type).variableTypes = some place ↔
      place ∈ store.ofType type ∧
        Text.lower (store.get place).name = Text.lower name := by
  have only : store.find? name (TypeRequest.one type).variableTypes =
      (store.ofType type).find? fun other =>
        Text.sameIgnoringCase (store.get other).name name := by
    simp [find?, TypeRequest.variableTypes]
  rw [only]
  constructor
  · intro found
    have isNamed := List.find?_some found
    exact ⟨List.mem_of_find?_eq_some found, of_decide_eq_true isNamed⟩
  · rintro ⟨member, isNamed⟩
    cases found : (store.ofType type).find? fun other =>
        Text.sameIgnoringCase (store.get other).name name with
    | none =>
        exact absurd (decide_eq_true isNamed)
          (List.find?_eq_none.mp found place member)
    | some other =>
        have otherNamed := List.find?_some found
        rw [distinct type other (List.mem_of_find?_eq_some found) place member
          ((of_decide_eq_true otherNamed).trans isNamed.symm)]

/-- Variables of one type have names that differ in more than case, and what is
found under a name is the only variable of the type that has it, as long as no
variable is moved to a type where its name is taken. -/
theorem names_unique_per_type (reached : Reached (fun store operation =>
      operation.OnFiled store ∧ ¬ operation.Clashes store) store) :
    (∀ type, ∀ place ∈ store.ofType type, ∀ other ∈ store.ofType type,
      Text.lower (store.get place).name = Text.lower (store.get other).name →
        place = other) ∧
    ∀ name type place,
      store.find? name (TypeRequest.one type).variableTypes = some place ↔
        place ∈ store.ofType type ∧
          Text.lower (store.get place).name = Text.lower name := by
  have distinct := reached.distinctNames.2
  exact ⟨distinct, distinct.find?_eq_some_iff⟩

/-- Two variables of one name swap types by way of a third type. -/
def swappedVariables : List VariableOperation :=
  [.create "0" "item" (.one "A") none, .create "1" "ITEM"
    (.many ["B", "C"]) none,
    .create "2" "Item" (.many ["C", "A"]) none, .retype ⟨0⟩ (.one "D"),
    .retype ⟨1⟩ (.one "A"), .retype ⟨0⟩ (.one "B")]

theorem names_unique_per_type_swappedVariables :
    ∃ store, Reached (fun store operation =>
        operation.OnFiled store ∧ ¬ operation.Clashes store) store ∧
      store.find? "iTeM" (TypeRequest.one "A").variableTypes = some ⟨1⟩ ∧
      store.find? "iTeM" (TypeRequest.one "B").variableTypes = some ⟨0⟩ ∧
      ∀ other ∈ store.ofType "A",
        Text.lower (store.get ⟨1⟩).name = Text.lower (store.get other).name →
          ⟨1⟩ = other := by
  have reached : Reached (fun store operation =>
      operation.OnFiled store ∧ ¬ operation.Clashes store)
      (VariableOperation.performAll swappedVariables {}) :=
    Reached.empty.performAll swappedVariables (by decide +kernel)
  obtain ⟨unique, found⟩ := names_unique_per_type reached
  have member : ⟨1⟩ ∈ (VariableOperation.performAll swappedVariables {}).ofType
      "A" := by
    decide +kernel
  refine ⟨_, reached, ?_, ?_, unique "A" ⟨1⟩ member⟩
  · exact (found _ _ _).mpr ⟨member, by decide +kernel⟩
  · exact (found _ _ _).mpr (by decide +kernel)

/-- A variable is moved to a type that already has one of its name. -/
def crowdedType : List VariableOperation :=
  [.create "0" "item" (.one "A") none, .create "1" "Item" (.one "B") none,
    .retype ⟨1⟩ (.one "A")]

/-- The type has two variables of one name, and only one of them is found. -/
theorem name_shared_after_retype :
    ∃ store, Reached (fun store operation => operation.OnFiled store) store ∧
      store.ofType "A" = [⟨0⟩, ⟨1⟩] ∧
      Text.lower (store.get ⟨0⟩).name = Text.lower (store.get ⟨1⟩).name ∧
      store.find? (store.get ⟨1⟩).name (TypeRequest.one "A").variableTypes =
        some ⟨0⟩ := by
  refine ⟨_, Reached.empty.performAll crowdedType (by decide +kernel), ?_⟩
  decide +kernel

end Variables

end TypeFlow
