import TypeFlow.Wildcard.Cache

/-!
# Compatibility through wildcards

Two checks that share no type are still compatible when a wildcard on one
side names the start of a tag on the other side.  Names come from a cache, so
each question returns the cache after it.
-/

namespace TypeFlow.Wildcard.Cache

/-- Whether a wildcard of `offered` admits a tag of `types`. -/
def admits (cache : Cache) (types offered : TypeList) : Bool × Cache :=
  let names := cache.findAll offered
  (names.1.any fun name =>
    name ≠ "" && types.any fun tag => tag ≠ "" && Tag.startsWith name tag,
      names.2)

/-- Wildcard compatibility, tried in both directions. -/
def compatible (cache : Cache) : Check → Check → Bool × Cache
  | some (thisTag :: thisRest), some (otherTag :: otherRest) =>
      let forward := cache.admits (thisTag :: thisRest) (otherTag :: otherRest)
      if forward.1 then forward
      else forward.2.admits (otherTag :: otherRest) (thisTag :: thisRest)
  | _, _ => (false, cache)

/-- A strict verdict, relaxed by wildcards when both checks list types. -/
def relax (cache : Cache) (this other : Check) (strict : Bool) : Bool × Cache :=
  if strict || this.types.isEmpty || other.types.isEmpty then (strict, cache)
  else cache.compatible this other

end TypeFlow.Wildcard.Cache
