import TypeFlow.Types.Check

/-!
# Dividing type lists by the start of a tag
-/

namespace TypeFlow.TypeList

/-- What follows `lead` in the tags that start with it. -/
def bodiesAfter (lead : String) (types : TypeList) : List String :=
  types.filterMap (Tag.after? lead)

def startingWith (lead : String) (types : TypeList) : TypeList :=
  types.filter (Tag.startsWith lead)

def notStartingWith (lead : String) (types : TypeList) : TypeList :=
  types.filter fun tag => !Tag.startsWith lead tag

end TypeFlow.TypeList
