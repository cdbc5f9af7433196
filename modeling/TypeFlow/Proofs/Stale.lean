import TypeFlow.Proofs.Host.AtHome
import TypeFlow.Proofs.SameTypes

/-!
# Stale bindings

A binding is up to date when its target has the check that would be computed
now, as a set.  A change makes it stale only if it concerns the target or what
a source provides.  `Attuned` states are those in which a binding hears of
every change of its sources.
-/

namespace TypeFlow.Editor

variable {σ : Type} {left right before after : Editor σ} {binding : Binding}

open TypeList (Agree)

/-- The target of the binding has the check that is computed for it. -/
def UpToDate (editor : Editor σ) (binding : Binding) : Prop :=
  ∃ check, editor.computed binding = .ok check ∧
    Check.same (editor.slotCheck binding.target) check = true

def Stale (editor : Editor σ) (wiring : WiringId) (key : SlotKey) : Prop :=
  ∃ binding, editor.OpenBinding wiring key binding ∧ ¬ editor.UpToDate binding

/-- What one slot provides on the left, another one provides on the right, as a
set. -/
def ProvidesAs (left right : Editor σ) (slot slot' : Slot) : Prop :=
  ∀ types, left.provides slot = .ok types →
    ∃ types', right.provides slot' = .ok types' ∧ Agree types types'

/-- What the slot provided it still provides, as a set. -/
abbrev ProvidesAlike (before after : Editor σ) (slot : Slot) : Prop :=
  ProvidesAs before after slot slot

theorem ProvidesAs.of_eq {slot slot' : Slot}
    (same : right.provides slot' = left.provides slot) :
    ProvidesAs left right slot slot' := by
  intro types provided
  exact ⟨types, same.trans provided, Agree.refl types⟩

/-- The links take the same from sources that provide the same. -/
def LinksAlike (left right : Editor σ) (link link' : Link) : Prop :=
  link.directive = link'.directive ∧
    ProvidesAs left right link.source link'.source

theorem linkTypes_alike {link link' : Link} {types : TypeList}
    (alike : LinksAlike left right link link')
    (derived : left.linkTypes link = .ok types) :
    ∃ types', right.linkTypes link' = .ok types' ∧ Agree types types' := by
  obtain ⟨sameDirective, provides⟩ := alike
  unfold linkTypes at *
  cases provided : left.provides link.source with
  | error fault =>
      rw [provided] at derived
      cases derived
  | ok given =>
      rw [provided] at derived
      cases derived
      obtain ⟨given', provided', agree⟩ := provides given provided
      refine ⟨_, by rw [provided']; rfl, ?_⟩
      rw [sameDirective]
      exact link'.directive.derive_agree agree

theorem mapM_linkTypes_alike {links links' : List Link}
    {derived : List TypeList}
    (alike : List.Forall₂ (LinksAlike left right) links links')
    (run : links.mapM left.linkTypes = .ok derived) :
    ∃ derived', links'.mapM right.linkTypes = .ok derived' ∧
      List.Forall₂ Agree derived derived' := by
  simp only [mapM_eq_ok_iff] at run ⊢
  induction alike generalizing derived with
  | nil =>
      cases run
      exact ⟨[], .nil, .nil⟩
  | cons here _ induction =>
      cases run with
      | cons first later =>
          obtain ⟨types', first', agree⟩ := linkTypes_alike here first
          obtain ⟨others', later', agrees⟩ := induction later
          exact ⟨types' :: others', .cons first' later', .cons agree agrees⟩

/-- What is computed for a binding depends on what its sources provide, as
sets. -/
theorem computed_alike {binding' : Binding} {check : Check}
    (sameRegular : binding.regular = binding'.regular)
    (alike : List.Forall₂ (LinksAlike left right) binding.links binding'.links)
    (computes : left.computed binding = .ok check) :
    ∃ check', right.computed binding' = .ok check' ∧
      Check.same check check' = true := by
  unfold computed at *
  cases derives : binding.links.mapM left.linkTypes with
  | error fault =>
      rw [derives] at computes
      cases computes
  | ok derived =>
      rw [derives] at computes
      cases computes
      obtain ⟨derived', derives', agrees⟩ := mapM_linkTypes_alike alike derives
      refine ⟨_, by rw [derives']; rfl, ?_⟩
      rw [sameRegular]
      exact Check.same_derived binding'.regular agrees

/-- Sources that provide the same as before keep what is computed. -/
theorem computed_again {check : Check}
    (alike : ∀ link ∈ binding.links, ProvidesAlike before after link.source)
    (computes : before.computed binding = .ok check) :
    ∃ check', after.computed binding = .ok check' ∧
      Check.same check check' = true :=
  computed_alike rfl (List.forall₂_same.mpr fun link member =>
    ⟨rfl, alike link member⟩) computes

theorem UpToDate.keep (upToDate : before.UpToDate binding)
    (alike : ∀ link ∈ binding.links, ProvidesAlike before after link.source)
    (sameCheck : after.slotCheck binding.target = before.slotCheck
      binding.target) :
    after.UpToDate binding := by
  obtain ⟨check, computes, same⟩ := upToDate
  obtain ⟨check', computes', same'⟩ := computed_again alike computes
  refine ⟨check', computes', ?_⟩
  rw [sameCheck]
  exact Check.same_trans same same'

/-- A binding that got stale has a source that provides something else, or its
target was written. -/
theorem Stale.cause {wiring : WiringId} {key : SlotKey}
    (stale : after.Stale wiring key) (before : Editor σ)
    (opens : ∀ binding, after.OpenBinding wiring key binding →
      before.OpenBinding wiring key binding) :
    ∃ binding, before.OpenBinding wiring key binding ∧
      ¬ after.UpToDate binding ∧
      (¬ before.UpToDate binding ∨
        after.slotCheck binding.target ≠ before.slotCheck binding.target ∨
        ∃ link ∈ binding.links, ¬ ProvidesAlike before after link.source) := by
  obtain ⟨binding, isOpen, outdated⟩ := stale
  refine ⟨binding, opens binding isOpen, outdated, ?_⟩
  by_cases upToDate : before.UpToDate binding
  · by_cases sameCheck :
      after.slotCheck binding.target = before.slotCheck binding.target
    · refine Or.inr (Or.inr ?_)
      by_cases alike : ∀ link ∈ binding.links,
        ProvidesAlike before after link.source
      · exact absurd (upToDate.keep alike sameCheck) outdated
      · simpa using alike
    · exact Or.inr (Or.inl sameCheck)
  · exact Or.inl upToDate

/-- The tables that bindings read and write are the same. -/
structure SameReadings (before after : Editor σ) : Prop where
  blocks : after.blocks = before.blocks
  connections : after.connections = before.connections
  fields : after.fields = before.fields
  pool : after.pool = before.pool
  index : ∀ id, (after.workspace id).variableIndex =
    (before.workspace id).variableIndex

namespace SameReadings

variable {before after : Editor σ} (same : SameReadings before after)

include same

theorem block (id : BlockId) : after.block id = before.block id := by
  unfold Editor.block
  rw [same.blocks]

theorem connection (id : ConnectionId) :
    after.connection id = before.connection id := by
  unfold Editor.connection
  rw [same.connections]

theorem field (id : FieldId) : after.field id = before.field id := by
  unfold Editor.field
  rw [same.fields]

theorem variablesOf (id : WorkspaceId) :
    after.variablesOf id = before.variablesOf id := by
  unfold Editor.variablesOf
  rw [same.pool, same.index]

theorem variableOf (id : FieldId) :
    after.variableOf id = before.variableOf id := by
  unfold Editor.variableOf
  simp only [same.field, same.block, same.variablesOf]

theorem slotCheck (slot : Slot) :
    after.slotCheck slot = before.slotCheck slot := by
  cases slot with
  | connection connection => simp only [Editor.slotCheck, same.connection]
  | field field => simp only [Editor.slotCheck, same.field]

theorem provides (slot : Slot) :
    after.provides slot = before.provides slot := by
  cases slot with
  | connection connection => simp only [Editor.provides, same.connection]
  | field field =>
      simp only [Editor.provides, fieldProvides, same.field, same.variableOf,
        variableTypes, same.pool]

theorem upToDate (upToDate : before.UpToDate binding) :
    after.UpToDate binding :=
  upToDate.keep (fun _ _ => ProvidesAs.of_eq (same.provides _))
    (same.slotCheck _)

theorem stale {wiring : WiringId} {key : SlotKey}
    (opens : ∀ binding, after.OpenBinding wiring key binding →
      before.OpenBinding wiring key binding)
    (stale : after.Stale wiring key) : before.Stale wiring key := by
  obtain ⟨binding, isOpen, outdated⟩ := stale
  exact ⟨binding, opens binding isOpen, fun upToDate =>
    outdated (same.upToDate upToDate)⟩

end SameReadings

theorem Quiet.sameReadings {wiring : WiringId}
    (quiet : Quiet wiring before after) :
    SameReadings before after :=
  ⟨quiet.blocks, quiet.connections, quiet.fields, quiet.pool, quiet.index⟩

end TypeFlow.Editor
