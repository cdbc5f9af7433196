/-!
# Slot keys

A slot is identified by its block's id, the place where it sits on the block
and its name.
-/

namespace TypeFlow

/-- Where a slot sits on its block. -/
inductive SlotKind where
  | output
  | input
  | field
  deriving DecidableEq, Repr

namespace SlotKind

def text : SlotKind → String
  | .output => "output"
  | .input => "input"
  | .field => "field"

def ofText? (text : String) : Option SlotKind :=
  if text = "output" then some .output
  else if text = "input" then some .input
  else if text = "field" then some .field
  else none

@[simp] theorem ofText?_text (kind : SlotKind) :
    ofText? kind.text = some kind := by
  cases kind <;> decide

end SlotKind

structure SlotKey where
  blockId : String
  kind : SlotKind
  name : String
  deriving DecidableEq, Repr

/-- `block.kind:name`. -/
def SlotKey.text (key : SlotKey) : String :=
  key.blockId ++ "." ++ key.kind.text ++ ":" ++ key.name

/-- A key as it is written by a user, whose kind may be unknown. -/
structure KeyText where
  blockId : String
  kind : String
  name : String
  deriving DecidableEq, Repr

end TypeFlow
