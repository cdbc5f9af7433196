import TypeFlow.Directive.Basic
import TypeFlow.Types.Filter

/-!
# Declared type lists

A declared list mixes directives with regular types.  A tag is a directive
when it starts with the lead text and the rest can be read; every other tag is
a regular type, also one that starts with the lead text.
-/

namespace TypeFlow

structure Declared where
  directives : List Directive := []
  regular : TypeList := []
  /-- Tags with the lead text that cannot be read; they are regular too. -/
  unread : TypeList := []
  deriving DecidableEq, Repr

namespace Declared

def hasDirectives (declared : Declared) : Bool :=
  !declared.directives.isEmpty

/-- The directive a tag stands for, if it is one. -/
def directive? (lead : String) (tag : Tag) : Option Directive :=
  (Tag.after? lead tag).bind Directive.parse?

def ofTypes (lead : String) : TypeList → Declared
  | [] => {}
  | tag :: rest =>
      let declared := ofTypes lead rest
      match directive? lead tag with
      | some directive =>
          { declared with directives := directive :: declared.directives }
      | none =>
          { declared with
            regular := tag :: declared.regular
            unread := if Tag.startsWith lead tag then tag :: declared.unread
              else declared.unread }

end Declared

end TypeFlow
