import TypeFlow.Fault
import TypeFlow.Types.Algebra

/-!
# Directives

A directive names the slot a type list is taken from and, optionally, a
modifier and a higher type.  Its body is written `NAME`, or `NAME` followed by
the modifier's symbol and the higher type.  `parse?` reads a body and `text`
writes it.
-/

namespace TypeFlow

structure Directive where
  source : String
  modifier : Option Modifier := none
  higher : Option String := none
  deriving DecidableEq, Repr

namespace Directive

/-- Whether the source's types are taken over unchanged. -/
def isPassthrough (directive : Directive) : Bool :=
  directive.modifier.isNone || directive.higher.getD "" = ""

def text (directive : Directive) : String :=
  match directive.modifier with
  | none => directive.source
  | some modifier =>
      directive.source ++ modifier.text ++ directive.higher.getD ""

/-- Characters that may occur in the name of a source. -/
def isNameChar (character : Char) : Bool :=
  (Modifier.ofChar? character).isNone

/-- Reads a body: the longest name, which must not be empty, and then
optionally a symbol with all the text that follows it. -/
def parse? (body : String) : Option Directive :=
  match body.toList.takeWhile isNameChar, body.toList.dropWhile isNameChar with
  | [], _ => none
  | name, [] => some ⟨String.ofList name, none, none⟩
  | name, symbol :: higher =>
      some ⟨String.ofList name, Modifier.ofChar? symbol,
        some (String.ofList higher)⟩

/-- A directive from its parts, with the modifier given by its symbol. -/
def ofParts (source : String) (symbol higher : Option String) :
    Except Fault Directive :=
  match symbol with
  | none => .ok ⟨source, none, higher⟩
  | some symbol =>
      match Modifier.ofText? symbol with
      | some modifier => .ok ⟨source, some modifier, higher⟩
      | none => .error (.unknownModifier symbol)

/-- The types the directive derives from the types of its source. -/
def derive (directive : Directive) (types : TypeList) : TypeList :=
  TypeList.modify types directive.modifier directive.higher

end Directive

end TypeFlow
