import TypeFlow.Editor.Notify

/-!
# Fields

Setting the value of an attached field calls its listeners.  The check of a
variable field can be written like that of a connection; writing types also
retypes the variable the field refers to.
-/

namespace TypeFlow.Editor

variable {σ : Type}

/-- Calls the listeners of a field that is attached to a block. -/
def notifyField (react : Reaction σ) (field : FieldId) : EditM σ Unit := do
  match ← look fun editor => (editor.field field).block with
  | none => return
  | some block =>
      let workspace ← look fun editor => (editor.block block).workspace
      let key ← lookup (·.fieldKey field)
      discard (notify react workspace key)

def setValue (react : Reaction σ) (field : FieldId) (value : FieldValue) :
    EditM σ Unit := do
  modify (·.updateField field fun entry => { entry with value })
  notifyField react field

/-- Retypes the variable a field refers to and tells whether that changed it.
An unrestricted or empty check leaves the variable alone. -/
def retypeVariable (field : FieldId) (check : Check) : EditM σ Bool := do
  let editor ← get
  match check.types, editor.variableOf field, (editor.field field).block with
  | type :: types, some place, some block =>
      let workspace := (editor.block block).workspace
      let result := (editor.variablesOf workspace).retype place
        (.many (type :: types))
      set (editor.setVariables workspace result.2)
      return result.1
  | _, _, _ => return false

/-- Replaces the check of a variable field and tells whether it accepts other
types now.  Other fields have no check to replace. -/
def setFieldTypes (react : Reaction σ) (field : FieldId) (check : Check) :
    EditM σ Bool := do
  match ← look fun editor => (editor.field field).kind with
  | .reference previous =>
      modify (·.updateField field fun entry => { entry with
        kind := .reference check.distinct })
      let changed := !Check.same previous check.distinct
      let retyped ← retypeVariable field check
      if changed || retyped then notifyField react field
      return changed
  | _ => return false

/-- Puts back a list as it was, without calling anyone. -/
def resetFieldTypes (editor : Editor σ) (field : FieldId)
    (check : Check) : Editor σ :=
  match (editor.field field).kind with
  | .reference _ =>
      editor.updateField field fun entry => { entry with
        kind := .reference check }
  | _ => editor

/-- Makes a field that is not attached to a block. -/
def newField (field : Field) : EditM σ FieldId := do
  let id : FieldId := ⟨← look fun editor => editor.fields.size⟩
  modify fun editor => { editor with fields := editor.fields.insert id field }
  return id

/-- A dropdown starts with the value of its first choice unless it is given one.
-/
def dropdown (name : String) (choices : List Choice) (value : FieldValue) :
    Except Fault Field :=
  match choices, value with
  | first :: _, .nothing => do
      return { name, kind := .dropdown choices, value := ← first.value }
  | _, _ => .ok { name, kind := .dropdown choices, value }

end TypeFlow.Editor
