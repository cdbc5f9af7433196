/-!
# Type tags

A tag is a text.  A colon divides a namespaced tag into the name of a higher
type and the rest; `Name:*` is the wildcard of the higher type `Name`.
-/

namespace TypeFlow

abbrev Tag := String

namespace Tag

/-- Divides a higher type from the type inside. -/
def separator : Char := ':'

/-- Stands for every type inside a higher type. -/
def wildcard : String := "*"

def isNamespaced (tag : Tag) : Bool :=
  tag.toList.contains separator

def wildcardOf (higher : String) : Tag :=
  higher ++ separator.toString ++ wildcard

/-- The tag `higher:inner`. -/
def inside (higher inner : String) : Tag :=
  higher ++ separator.toString ++ inner

/-- The parts before and after the first mark. -/
def cutChars (mark : Char) : List Char → Option (List Char × List Char)
  | [] => none
  | character :: rest =>
      if character = mark then some ([], rest)
      else (cutChars mark rest).map fun parts => (character :: parts.1, parts.2)

/-- The higher type and what stands inside it, cut at the first separator. -/
def cut? (tag : Tag) : Option (String × String) :=
  (cutChars separator tag.toList).map fun parts =>
    (String.ofList parts.1, String.ofList parts.2)

def startsWith (lead : String) (tag : Tag) : Bool :=
  lead.toList.isPrefixOf tag.toList

/-- What follows `lead` in a tag that starts with it. -/
def after? (lead : String) (tag : Tag) : Option String :=
  (lead.toList.isPrefixOf? tag.toList).map String.ofList

theorem startsWith_iff {lead : String} {tag : Tag} :
    startsWith lead tag = true ↔ ∃ rest, tag = lead ++ rest := by
  rw [startsWith, List.isPrefixOf_iff_prefix]
  constructor
  · rintro ⟨rest, whole⟩
    refine ⟨String.ofList rest, String.toList_injective ?_⟩
    rw [String.toList_append, String.toList_ofList, whole]
  · rintro ⟨rest, rfl⟩
    exact ⟨rest.toList, String.toList_append.symm⟩

end Tag

end TypeFlow
