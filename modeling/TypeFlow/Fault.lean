import TypeFlow.Slot.Key
import TypeFlow.Text.Quoted
import TypeFlow.Types.Check

/-!
# Faults

Everything that can stop an operation, as a cause, with the wording of each
cause in `Fault.message`.
-/

namespace TypeFlow

/-- The check as it is shown to a user. -/
def Check.text : Check → String
  | none => "None"
  | some types => Text.quotedList types

inductive Fault where
  /-- The directives of a block refer to each other in a circle. -/
  | cyclicDirectives (blockId : String) (cycle : List SlotKey)
  /-- A slot was reached again while it was being recomputed. -/
  | cyclicPropagation (slot : SlotKey) (stack : List SlotKey)
  /-- A cascade is as deep as it may be. -/
  | cascadeTooDeep (slot : SlotKey) (limit : Int)
  | blockIdTaken (id : String)
  | fieldDetached (name : String)
  | fieldNameTaken (name block : String)
  | inputNameTaken (name block : String)
  | incompatible (left : SlotKey) (leftCheck : Check) (right : SlotKey)
    (rightCheck : Check)
  | variableNameTaken (name id requested : String)
  | variableIdTaken (id : String)
  | extensionNameTaken (name : String)
  | extensionUnknown (name : String)
  | leadTextEmpty
  | depthLimitTooSmall (limit : Int)
  | unknownModifier (text : String)
  | unknownSlotKind (text : String)
  | unknownWiringMode (text : String)
  /-- A share is outside the range of numbers that are kept. -/
  | quotientTooLarge
  /-- A dropdown choice has no value. -/
  | choiceTooShort
  /-- Raised on purpose by a script. -/
  | raised (message : String)
  | unknownReference (name : String)
  | unknownCommand (name : String)
  | unknownVariable (name : String)
  | noSlot (address : List String)
  | noRow
  | noSubscription
  /-- A cascade used up the bound on its nesting. -/
  | unsettled
  deriving DecidableEq, Repr

namespace Fault

/-- Keys joined by arrows. -/
def path (keys : List SlotKey) : String :=
  String.intercalate " -> " (keys.map SlotKey.text)

def message : Fault → String
  | .cyclicDirectives blockId cycle =>
      "Cyclic type directives on block " ++ blockId ++ ": " ++ path cycle
  | .cyclicPropagation slot stack =>
      "Cyclic type propagation: " ++ path (stack ++ [slot])
  | .cascadeTooDeep slot limit =>
      "Type propagation exceeded max depth " ++ toString limit ++
        " at " ++ slot.text
  | .blockIdTaken id => "Block id " ++ Text.quoted id ++ " is already in use"
  | .fieldDetached name =>
      "Field " ++ Text.quoted name ++ " is not attached to a block"
  | .fieldNameTaken name block =>
      "Duplicate field name " ++ Text.quoted name ++ " on " ++ block
  | .inputNameTaken name block =>
      "Duplicate input name " ++ Text.quoted name ++ " on " ++ block
  | .incompatible left leftCheck right rightCheck =>
      "Cannot connect " ++ left.text ++ " " ++ leftCheck.text ++ " to " ++
        right.text ++ " " ++ rightCheck.text
  | .variableNameTaken name id requested =>
      "Variable \"" ++ name ++ "\" is already in use and its id is \"" ++ id
        ++ "\" which conflicts with the passed in id, \"" ++ requested ++ "\"."
  | .variableIdTaken id => "Variable id, \"" ++ id ++ "\", is already in use."
  | .extensionNameTaken name =>
      "Extension \"" ++ name ++ "\" is already registered."
  | .extensionUnknown name =>
      "Error when applying extension \"" ++ name ++ "\": not registered."
  | .leadTextEmpty => "directive_prefix must be a non-empty string"
  | .depthLimitTooSmall limit =>
      "max_cascade_depth must be >= 1, got " ++ toString limit
  | .unknownModifier text => Text.quoted text ++ " is not a valid TypeModifier"
  | .unknownSlotKind text => Text.quoted text ++ " is not a valid SlotKind"
  | .unknownWiringMode text => Text.quoted text ++ " is not a valid WiringMode"
  | .quotientTooLarge => "integer division result too large for a float"
  | .choiceTooShort => "list index out of range"
  | .raised message => message
  | .unknownReference name => "no such reference " ++ name
  | .unknownCommand name => "unknown step " ++ name
  | .unknownVariable name => "no variable " ++ name
  | .noSlot address => "no slot " ++ String.intercalate "/" address
  | .noRow => "no row"
  | .noSubscription => "no subscription"
  | .unsettled => "cascade did not settle"

end Fault

/-- The key a user wrote, if its kind is known. -/
def KeyText.resolve (written : KeyText) : Except Fault SlotKey :=
  match SlotKind.ofText? written.kind with
  | some kind => .ok ⟨written.blockId, kind, written.name⟩
  | none => .error (.unknownSlotKind written.kind)

end TypeFlow
