import Mathlib.Data.Fintype.Card
import Mathlib.Data.Set.Finite.Basic
import TypeFlow.Proofs.Host.Layout

/-!
# How blocks are plugged together

A block is plugged into another one when its output is linked to an input of
the other.  As there are finitely many blocks, going up the links comes to an
end unless they form a circle.
-/

namespace TypeFlow

variable {α : Type}

theorem Acyclic.of_rank {relation : α → α → Prop} (rank : α → Nat)
    (rises : ∀ lower upper, relation lower upper → rank lower < rank upper) :
    Acyclic relation := by
  have climbs : ∀ lower upper, Relation.TransGen relation lower upper →
      rank lower < rank upper := by
    intro lower upper path
    induction path with
    | single step => exact rises _ _ step
    | tail _ step induction => exact induction.trans (rises _ _ step)
  intro item circle
  exact Nat.lt_irrefl _ (climbs item item circle)

/-- A relation without circles between finitely many items is well-founded. -/
theorem Acyclic.wellFounded {relation : α → α → Prop}
    (acyclic : Acyclic relation) (items : List α)
    (between : ∀ lower upper, relation lower upper → lower ∈ items ∧
      upper ∈ items) :
    WellFounded relation := by
  let below (lower upper : { item // item ∈ items }) : Prop :=
    Relation.TransGen relation lower.1 upper.1
  have finite : Finite { item // item ∈ items } :=
    (List.finite_toSet items).to_subtype
  have transitive : IsTrans { item // item ∈ items } below :=
    ⟨fun _ _ _ first second => first.trans second⟩
  have irreflexive : Std.Irrefl below := ⟨fun item => acyclic item.1⟩
  have descends := Finite.wellFounded_of_trans_of_irrefl below
  have listed : ∀ item : { item // item ∈ items }, Acc relation item.1 := by
    intro item
    induction item using descends.induction with
    | _ item induction =>
        refine Acc.intro _ fun lower step => ?_
        exact induction ⟨lower, (between lower item.1 step).1⟩
          (Relation.TransGen.single step)
  refine ⟨fun item => Acc.intro _ fun lower step => ?_⟩
  exact listed ⟨lower, (between lower item step).1⟩

namespace Editor

variable {σ : Type}

/-- An output of the first block is linked to an input of the second. -/
def Plugged (editor : Editor σ) (source target : BlockId) : Prop :=
  ∃ output input, (editor.connection output).target = some input ∧
    (editor.connection output).isOutput = true ∧
    (editor.connection output).block = source ∧
    (editor.connection input).block = target

/-- No two blocks have the same id. -/
def UniqueIds (editor : Editor σ) : Prop :=
  ∀ left right, editor.blocks.contains left → editor.blocks.contains right →
    (editor.block left).id = (editor.block right).id → left = right

section Plugged

variable {workspace : WorkspaceId} {editor : Editor σ}

theorem Plugged.known {source target : BlockId}
    (plugged : editor.Plugged source target) (layout : Layout workspace editor)
    (linking : editor.Linking) :
    editor.blocks.contains source ∧ editor.blocks.contains target := by
  obtain ⟨output, input, linked, _, rfl, rfl⟩ := plugged
  exact ⟨layout.home output (contains_of_target linked),
    layout.home input (contains_of_target (linking.back output input linked))⟩

theorem wellFounded_plugged (layout : Layout workspace editor)
    (linking : editor.Linking) (acyclic : Acyclic editor.Plugged) :
    WellFounded editor.Plugged := by
  refine acyclic.wellFounded editor.blocks.keys ?_
  intro source target plugged
  obtain ⟨knownSource, knownTarget⟩ := plugged.known layout linking
  exact ⟨(OrderedMap.mem_keys_iff _ _).mpr knownSource,
    (OrderedMap.mem_keys_iff _ _).mpr knownTarget⟩

/-- Connections of the same key are on the same block. -/
theorem UniqueIds.sameBlock (ids : editor.UniqueIds)
    (layout : Layout workspace editor) {left right : ConnectionId}
    (knownLeft : editor.connections.contains left)
    (knownRight : editor.connections.contains right)
    (sameKey : (editor.connection left).key = (editor.connection right).key) :
    (editor.connection left).block = (editor.connection right).block := by
  refine ids _ _ (layout.home left knownLeft) (layout.home right knownRight) ?_
  rw [← layout.homeKey left knownLeft, ← layout.homeKey right knownRight,
    sameKey]

/-- Links from blocks to later ones form no circle. -/
theorem acyclic_plugged_of_rises
    (rises : ∀ output ∈ editor.connections.keys,
      (editor.connection output).isOutput = true →
      ∀ input ∈ (editor.connection output).target,
        (editor.connection output).block.number <
          (editor.connection input).block.number) :
    Acyclic editor.Plugged := by
  refine Acyclic.of_rank BlockId.number ?_
  rintro _ _ ⟨output, input, linked, isOutput, rfl, rfl⟩
  exact rises output
    ((OrderedMap.mem_keys_iff _ _).mpr (contains_of_target linked)) isOutput
    input linked

theorem uniqueIds_iff :
    editor.UniqueIds ↔ ∀ left ∈ editor.blocks.keys,
      ∀ right ∈ editor.blocks.keys,
        (editor.block left).id = (editor.block right).id → left = right := by
  simp only [UniqueIds, OrderedMap.mem_keys_iff]
  exact ⟨fun ids left knownLeft right knownRight =>
    ids left right knownLeft knownRight,
    fun ids left right knownLeft knownRight =>
      ids left knownLeft right knownRight⟩

instance decidableUniqueIds (editor : Editor σ) : Decidable editor.UniqueIds :=
  decidable_of_iff _ uniqueIds_iff.symm

end Plugged

end Editor

end TypeFlow
