import TypeFlow.Editor.Basic

/-!
# Reading slots

The key, the check and the provided types of a connection or field.  A
connection provides the check of the connection at its other end; a dropdown
provides the types of the selected choice and a variable field the types of
its variable.
-/

namespace TypeFlow.Editor

variable {σ : Type}

/-- The key of a field on the block it is attached to. -/
def fieldKey (editor : Editor σ) (field : FieldId) : Except Fault SlotKey :=
  let entry := editor.field field
  match entry.block with
  | some block => .ok ⟨(editor.block block).id, .field, entry.name⟩
  | none => .error (.fieldDetached entry.name)

def slotKey (editor : Editor σ) : Slot → Except Fault SlotKey
  | .connection connection => .ok (editor.connection connection).key
  | .field field => editor.fieldKey field

def slotCheck (editor : Editor σ) : Slot → Check
  | .connection connection => (editor.connection connection).check
  | .field field => (editor.field field).check

/-- The block a slot belongs to. -/
def slotBlock (editor : Editor σ) : Slot → Except Fault BlockId
  | .connection connection => .ok (editor.connection connection).block
  | .field field =>
      match (editor.field field).block with
      | some block => .ok block
      | none => .error (.fieldDetached (editor.field field).name)

/-- The variable an attached field refers to. -/
def variableOf (editor : Editor σ) (field : FieldId) : Option VariableId :=
  let entry := editor.field field
  match entry.block, entry.value with
  | some block, .text id =>
      (editor.variablesOf (editor.block block).workspace).findById? id
  | _, _ => none

/-- The types of a variable that are not the empty one. -/
def variableTypes (editor : Editor σ) (place : VariableId) : TypeList :=
  (editor.pool.getD place default).types.filter fun type => type ≠ ""

def fieldProvides (editor : Editor σ) (field : FieldId) :
    Except Fault TypeList :=
  let entry := editor.field field
  match entry.kind with
  | .text => .ok []
  | .dropdown choices => (Choice.find choices entry.value).map Choice.typesOf
  | .reference _ =>
      match editor.variableOf field with
      | some place => .ok (editor.variableTypes place)
      | none => .ok []

/-- The types a slot provides to the directives that name it. -/
def provides (editor : Editor σ) : Slot → Except Fault TypeList
  | .connection connection =>
      match (editor.connection connection).target with
      | some far => .ok (editor.connection far).check.types
      | none => .ok []
  | .field field => editor.fieldProvides field

/-- The field of this name on a block. -/
def findField? (editor : Editor σ) (block : BlockId) (name : String) :
    Option FieldId :=
  (editor.block block).fields.find? fun field =>
    (editor.field field).name = name

/-- Whether a field allows one of the types. -/
def allows (editor : Editor σ) (field : FieldId) (request : TypeRequest) :
    Bool :=
  match (editor.field field).check with
  | none => true
  | some allowed =>
      match request with
      | .none => allowed.contains ""
      | .one type => allowed.contains type
      | .many types => types.any allowed.contains

end TypeFlow.Editor
