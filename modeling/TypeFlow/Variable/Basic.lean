import TypeFlow.Fault
import TypeFlow.OrderedMap
import TypeFlow.Text.Lowercase

/-!
# Variables

A variable has an id, a name and one or more types; an untyped variable has
the empty type.  Variables live in a pool, where a deleted one stays, and are
filed in an index under each of their types.
-/

namespace TypeFlow

/-- Types as they are asked for: none, a single one or several. -/
inductive TypeRequest where
  | none
  | one (type : Tag)
  | many (types : TypeList)
  deriving DecidableEq, Repr

/-- The types of a variable for which these types are asked. -/
def TypeRequest.variableTypes : TypeRequest → TypeList
  | .none => [""]
  | .one type => [type]
  | .many types =>
      match TypeList.distinct types with
      | [] => [""]
      | unique => unique

structure Variable where
  id : String
  name : String
  types : TypeList
  deriving DecidableEq, Repr, Inhabited

def Variable.hasType (entry : Variable) (type : Tag) : Bool :=
  entry.types.contains type

/-- The place of a variable in the pool. -/
structure VariableId where
  number : Nat
  deriving DecidableEq, Repr, Inhabited

abbrev VariablePool := OrderedMap VariableId Variable

/-- Variables by type, in the order of filing. -/
abbrev VariableIndex := OrderedMap Tag (List VariableId)

/-- A pool together with one index into it. -/
structure Variables where
  pool : VariablePool := {}
  index : VariableIndex := {}
  deriving DecidableEq, Repr, Inhabited

namespace Variables

def get (store : Variables) (place : VariableId) : Variable :=
  store.pool.getD place default

def ofType (store : Variables) (type : Tag) : List VariableId :=
  store.index.getD type []

/-- The filed variables bucket by bucket; one with several types occurs
several times. -/
def filed (store : Variables) : List VariableId :=
  store.index.values.flatten

/-- A filed variable of one of the types whose name is the same but for case. -/
def find? (store : Variables) (name : String) (types : TypeList) :
    Option VariableId :=
  types.findSome? fun type =>
    (store.ofType type).find? fun place =>
      Text.sameIgnoringCase (store.get place).name name

def findById? (store : Variables) (id : String) : Option VariableId :=
  store.filed.find? fun place => (store.get place).id = id

/-- Keeps the first place of each id. -/
def firstById (store : Variables) : List String → List VariableId →
    List VariableId
  | _, [] => []
  | seen, place :: rest =>
      let id := (store.get place).id
      if seen.contains id then firstById store seen rest
      else place :: firstById store (id :: seen) rest

/-- Every filed variable once. -/
def all (store : Variables) : List VariableId :=
  store.firstById [] store.filed

/-- Adds a place to the buckets of the types. -/
def fileUnder (index : VariableIndex) (place : VariableId) (types : TypeList) :
    VariableIndex :=
  types.foldl (fun index type =>
    index.insert type (index.getD type [] ++ [place])) index

/-- Removes the first variable with this id from a bucket. -/
def unfileFrom (store : Variables) (id : String) (type : Tag) :
    Bool × Variables :=
  let bucket := store.ofType type
  if bucket.any fun place => (store.get place).id = id then
    let index := match bucket.eraseP fun place => (store.get place).id = id with
      | [] => store.index.erase type
      | remaining => store.index.insert type remaining
    (true, { store with index })
  else (false, store)

/-- Removes a variable from the buckets of its types, by its id. -/
def unfile (store : Variables) (place : VariableId) : Bool × Variables :=
  let entry := store.get place
  entry.types.foldl
    (fun progress type =>
      let step := unfileFrom progress.2 entry.id type
      (progress.1 || step.1, step.2))
    (false, store)

/-- Gives a variable other types and moves it between the buckets. -/
def retype (store : Variables) (place : VariableId) (request : TypeRequest) :
    Bool × Variables :=
  let entry := store.get place
  let types := request.variableTypes
  if TypeList.same entry.types types then (false, store)
  else
    let removed := (store.unfile place).2
    (true,
      { pool := removed.pool.insert place { entry with types }
        index := fileUnder removed.index place types })

/-- Takes a variable out of the index; `false` if it was not there. -/
def delete (store : Variables) (place : VariableId) : Bool × Variables :=
  store.unfile place

/-- The outcome of asking for a variable by name. -/
inductive Creation where
  | found (place : VariableId)
  | made (place : VariableId) (store : Variables)

/-- Asks for a variable.  One of that name is returned; otherwise a variable
is made, under the generated id unless another id is requested. -/
def create (store : Variables) (generated name : String) (request : TypeRequest)
    (id : Option String) : Except Fault Creation :=
  let types := request.variableTypes
  let requested := id.getD ""
  match store.find? name types with
  | some place =>
      let known := (store.get place).id
      if requested ≠ "" ∧ known ≠ requested then
        .error (.variableNameTaken name known requested)
      else .ok (.found place)
  | none =>
      if requested ≠ "" ∧ (store.findById? requested).isSome then
        .error (.variableIdTaken requested)
      else
        let place : VariableId := ⟨store.pool.size⟩
        let entry : Variable :=
          ⟨if requested = "" then generated else requested, name, types⟩
        .ok (.made place
          { pool := store.pool.insert place entry
            index := fileUnder store.index place types })

end Variables

end TypeFlow
