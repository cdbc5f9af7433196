import Mathlib.Data.List.Pairwise
import TypeFlow.Directive.Declared
import TypeFlow.Proofs.DirectiveGrammar

/-!
# Declared lists and their parts

A declared list is divided into directives and regular types.  Every tag goes to
one of the two and keeps its place among the tags that go there, so the list is
an interleaving of both.  A directive is written back as the tag it was read
from.
-/

namespace TypeFlow

/-- The third list is made of the first two, each in its order. -/
inductive Interleaving {α : Type} : List α → List α → List α → Prop
  | nil : Interleaving [] [] []
  | left {item : α} {left right whole : List α} :
      Interleaving left right whole →
      Interleaving (item :: left) right (item :: whole)
  | right {item : α} {left right whole : List α} :
      Interleaving left right whole →
      Interleaving left (item :: right) (item :: whole)

theorem Tag.after?_eq_some_iff {lead : String} {tag : Tag} {body : String} :
    Tag.after? lead tag = some body ↔ tag = lead ++ body := by
  unfold after?
  rw [Option.map_eq_some_iff]
  constructor
  · rintro ⟨rest, found, rfl⟩
    rw [List.isPrefixOf?_eq_some_iff_append_eq] at found
    apply String.toList_injective
    rw [String.toList_append, String.toList_ofList, found]
  · rintro rfl
    refine ⟨body.toList, ?_, String.ofList_toList⟩
    rw [List.isPrefixOf?_eq_some_iff_append_eq, String.toList_append]

namespace Declared

variable {lead : String} {tag : Tag}

section Tags

variable {directive : Directive}

/-- A directive is written as the tag it was read from. -/
theorem lead_append_text (isRead : directive? lead tag = some directive) :
    lead ++ directive.text = tag := by
  obtain ⟨body, follows, read⟩ := Option.bind_eq_some_iff.mp isRead
  rw [(Directive.of_parse? read).2.1]
  exact (Tag.after?_eq_some_iff.mp follows).symm

theorem startsWith_of_directive?
    (isRead : directive? lead tag = some directive) :
    Tag.startsWith lead tag = true :=
  Tag.startsWith_iff.mpr ⟨directive.text, (lead_append_text isRead).symm⟩

end Tags

section Parts

section Types

variable (types : TypeList)

/-- The directives are the tags that can be read. -/
theorem directives_ofTypes :
    (ofTypes lead types).directives = types.filterMap (directive? lead) := by
  induction types with
  | nil => rfl
  | cons tag rest induction =>
      rw [ofTypes]
      cases isRead : directive? lead tag with
      | none =>
          rw [List.filterMap_cons_none isRead]
          exact induction
      | some directive =>
          rw [List.filterMap_cons_some isRead]
          exact congrArg (directive :: ·) induction

/-- The regular types are the tags that cannot be read. -/
theorem regular_ofTypes :
    (ofTypes lead types).regular = types.filter fun tag =>
      (directive? lead tag).isNone := by
  induction types with
  | nil => rfl
  | cons tag rest induction =>
      rw [ofTypes]
      cases isRead : directive? lead tag with
      | none =>
          rw [List.filter_cons_of_pos (by rw [isRead]; rfl)]
          exact congrArg (tag :: ·) induction
      | some directive =>
          rw [List.filter_cons_of_neg
            (by rw [isRead]; exact Bool.false_ne_true)]
          exact induction

theorem unread_ofTypes :
    (ofTypes lead types).unread = TypeList.startingWith lead
      (ofTypes lead types).regular := by
  induction types with
  | nil => rfl
  | cons tag rest induction =>
      rw [ofTypes]
      cases directive? lead tag with
      | some directive => exact induction
      | none =>
          rw [TypeList.startingWith, List.filter_cons, ← TypeList.startingWith]
          exact congrArg (fun unread => if Tag.startsWith lead tag
            then tag :: unread else unread) induction

theorem interleaving_ofTypes :
    Interleaving ((ofTypes lead types).directives.map fun directive =>
      lead ++ directive.text) (ofTypes lead types).regular types := by
  induction types with
  | nil => exact .nil
  | cons tag rest induction =>
      rw [ofTypes]
      cases isRead : directive? lead tag with
      | none => exact .right induction
      | some directive =>
          have written := lead_append_text isRead
          dsimp only
          rw [List.map_cons, written]
          exact .left induction

/-- Tags without the lead text are regular. -/
theorem notStartingWith_ofTypes :
    TypeList.notStartingWith lead types =
      TypeList.notStartingWith lead (ofTypes lead types).regular := by
  rw [regular_ofTypes, TypeList.notStartingWith, TypeList.notStartingWith,
    List.filter_filter]
  refine List.filter_congr ?_
  intro tag _
  cases isRead : directive? lead tag with
  | none => simp
  | some directive => simp [startsWith_of_directive? isRead]

theorem directives_eq_bodies :
    (ofTypes lead types).directives =
      (TypeList.bodiesAfter lead types).filterMap Directive.parse? := by
  rw [directives_ofTypes, TypeList.bodiesAfter, List.filterMap_filterMap]
  rfl

end Types

/-- No regular type can be read. -/
theorem directive?_of_regular {types : TypeList}
    (regular : tag ∈ (ofTypes lead types).regular) :
    directive? lead tag = none := by
  rw [regular_ofTypes, List.mem_filter] at regular
  exact Option.isNone_iff_eq_none.mp regular.2

theorem ofTypes_regular (types : TypeList) :
    (ofTypes lead (ofTypes lead types).regular).directives = [] ∧
      (ofTypes lead (ofTypes lead types).regular).regular =
        (ofTypes lead types).regular := by
  constructor
  · rw [directives_ofTypes, List.filterMap_eq_nil_iff]
    exact fun tag regular => directive?_of_regular regular
  · rw [regular_ofTypes, List.filter_eq_self]
    intro tag regular
    rw [directive?_of_regular regular]
    rfl

end Parts

/-- Dividing a declared list loses and adds nothing.  The list is an
interleaving of its regular types and its directives as they are written; the
unread tags are the regular types with the lead text; no tag without it is lost;
the directives are read from what follows it; and the regular types cannot be
divided further. -/
theorem split_exact (lead : String) (types : TypeList) :
    Interleaving ((ofTypes lead types).directives.map fun directive =>
        lead ++ directive.text) (ofTypes lead types).regular types ∧
      (ofTypes lead types).unread = TypeList.startingWith lead
        (ofTypes lead types).regular ∧
      TypeList.notStartingWith lead types =
        TypeList.notStartingWith lead (ofTypes lead types).regular ∧
      (ofTypes lead types).directives =
        (TypeList.bodiesAfter lead types).filterMap Directive.parse? ∧
      (ofTypes lead (ofTypes lead types).regular).directives = [] ∧
      (ofTypes lead (ofTypes lead types).regular).regular =
          (ofTypes lead types).regular :=
  ⟨interleaving_ofTypes types, unread_ofTypes types,
    notStartingWith_ofTypes types, directives_eq_bodies types,
    ofTypes_regular types⟩

end Declared

end TypeFlow
