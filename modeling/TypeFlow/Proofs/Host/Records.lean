import TypeFlow.Proofs.Host.Conduct

/-!
# Wirings on record

An engine keeps the wirings it has made on record.  A wiring gets there only
when its block is wired, and operations that wire no block at most close
wirings and take them off the record.
-/

namespace TypeFlow.Editor

variable {σ : Type}

/-- Wirings are disposed for good, and until then they stay on record. -/
structure Retains (engine : EngineId) (before after : Editor σ) : Prop where
  undisposed : ∀ wiring, (after.wiring wiring).disposed = false →
    (before.wiring wiring).disposed = false
  kept : ∀ id wiring, (before.engine engine).wirings.get? id = some wiring →
    (after.wiring wiring).disposed = false →
      (after.engine engine).wirings.get? id = some wiring

theorem Retains.trans {engine : EngineId} {before middle after : Editor σ}
    (first : Retains engine before middle)
    (second : Retains engine middle after) :
    Retains engine before after where
  undisposed := fun wiring isOpen => first.undisposed wiring
    (second.undisposed wiring isOpen)
  kept := fun id wiring found isOpen =>
    second.kept id wiring
      (first.kept id wiring found (second.undisposed wiring isOpen)) isOpen

/-- Blocks are the same.  Wirings on record that are not disposed were so
before, or their blocks are among those that are wired. -/
structure Tracks (engine : EngineId) (wires : BlockId → Prop)
    (before after : Editor σ) : Prop extends Retains engine before after where
  known : ∀ block, after.blocks.contains block ↔ before.blocks.contains block
  blockId : ∀ block, (after.block block).id = (before.block block).id
  records : ∀ id wiring, (after.engine engine).wirings.get? id = some wiring →
    (after.wiring wiring).disposed = false →
      wires (after.wiring wiring).block ∨
        (before.engine engine).wirings.get? id = some wiring ∧
          (before.wiring wiring).disposed = false ∧
            (after.wiring wiring).block = (before.wiring wiring).block

namespace Tracks

variable {engine : EngineId} {wires : BlockId → Prop}
  {before middle after editor : Editor σ}

/-- The record is the same. -/
theorem of_records (known : ∀ block, after.blocks.contains block ↔
    before.blocks.contains block)
    (blockId : ∀ block, (after.block block).id = (before.block block).id)
    (recorded : (after.engine engine).wirings = (before.engine engine).wirings)
    (undisposed : ∀ wiring, (after.wiring wiring).disposed = false →
      (before.wiring wiring).disposed = false ∧
        (after.wiring wiring).block = (before.wiring wiring).block) :
    Tracks engine wires before after where
  known := known
  blockId := blockId
  records := fun _ wiring found isOpen =>
    Or.inr ⟨recorded ▸ found, undisposed wiring isOpen⟩
  undisposed := fun wiring isOpen => (undisposed wiring isOpen).1
  kept := fun _ _ found _ => recorded ▸ found

theorem steady (steady : Steady before after) :
    Tracks engine wires before after := by
  refine of_records steady.knownBlock steady.blockId (steady.recorded engine) ?_
  intro wiring isOpen
  rw [steady.wiring] at isOpen ⊢
  exact ⟨isOpen, rfl⟩

/-- Blocks may have been changed except for their ids. -/
theorem of_tables (known : ∀ block, after.blocks.contains block ↔
    before.blocks.contains block)
    (blockId : ∀ block, (after.block block).id = (before.block block).id)
    (engines : after.engines = before.engines)
    (wirings : after.wirings = before.wirings) :
    Tracks engine wires before after := by
  refine of_records known blockId ?_ ?_
  · unfold Editor.engine
    rw [engines]
  · intro wiring isOpen
    unfold Editor.wiring at isOpen ⊢
    rw [wirings] at isOpen ⊢
    exact ⟨isOpen, rfl⟩

theorem of_blocks (blocks : after.blocks = before.blocks)
    (engines : after.engines = before.engines)
    (wirings : after.wirings = before.wirings) :
    Tracks engine wires before after := by
  refine of_tables ?_ ?_ engines wirings
  · intro block
    rw [blocks]
  · intro block
    unfold Editor.block
    rw [blocks]

theorem refl (editor : Editor σ) : Tracks engine wires editor editor :=
  of_blocks rfl rfl rfl

theorem trans (first : Tracks engine wires before middle)
    (second : Tracks engine wires middle after) :
    Tracks engine wires before after where
  known := fun block => (second.known block).trans (first.known block)
  blockId := fun block => (second.blockId block).trans (first.blockId block)
  records := by
    intro id wiring found isOpen
    rcases second.records id wiring found isOpen with isWired
      | ⟨earlier, wasOpen, sameBlock⟩
    · exact Or.inl isWired
    · rcases first.records id wiring earlier wasOpen with wasWired
        | ⟨earliest, first⟩
      · rw [← sameBlock] at wasWired
        exact Or.inl wasWired
      · exact Or.inr ⟨earliest, first.1, sameBlock.trans first.2⟩
  toRetains := first.toRetains.trans second.toRetains

/-- A block is changed except for its id, after changes to other tables. -/
theorem updateBlock {block : BlockId} {change : Block → Block}
    (known : before.blocks.contains block)
    (blocks : middle.blocks = before.blocks)
    (engines : middle.engines = before.engines)
    (wirings : middle.wirings = before.wirings)
    (keeps : ∀ entry, (change entry).id = entry.id) :
    Tracks engine wires before (middle.updateBlock block change) := by
  have first : Tracks engine wires before middle :=
    of_blocks blocks engines wirings
  apply first.trans
  refine of_tables ?_ ?_ rfl rfl
  · intro other
    refine (OrderedMap.contains_insert _ _ _ _).trans ⟨?_, Or.inr⟩
    rintro (rfl | earlier)
    · rwa [blocks]
    · exact earlier
  · exact fun _ => OrderedMap.read_getD_insert Block.id (keeps _)

theorem closeWiring (editor : Editor σ) (wiring : WiringId) :
    Tracks engine wires editor (editor.closeWiring wiring) := by
  refine of_records ?_ ?_ ?_ ?_
  · intro block
    rw [blocks_closeWiring]
  · intro block
    unfold Editor.block
    rw [blocks_closeWiring]
  · rw [engine_closeWiring]
    split
    · rename_i same
      rw [same]
    · rfl
  · intro other isOpen
    rw [wiring_closeWiring] at isOpen ⊢
    split at isOpen
    · cases isOpen
    · rename_i differs
      rw [if_neg differs]
      exact ⟨isOpen, rfl⟩

/-- A wiring is taken off the record and disposed in the end. -/
theorem forgetWiring {block : BlockId} {wiring : WiringId}
    (found : before.wiringFor? engine block = some wiring)
    (tracks : Tracks engine wires (before.forgetWiring engine block) after)
    (isClosed : (after.wiring wiring).disposed = true) :
    Tracks engine wires before after := by
  have erased : ∀ id,
      ((before.forgetWiring engine block).engine engine).wirings.get? id =
      if (before.block block).id = id
        then none else (before.engine engine).wirings.get? id := by
    intro id
    rw [Editor.forgetWiring, engine_updateEngine, if_pos rfl,
      OrderedMap.get?_erase]
  refine ⟨⟨tracks.undisposed, ?_⟩, tracks.known, tracks.blockId, ?_⟩
  · intro id other isRecord isOpen
    refine tracks.kept id other ?_ isOpen
    rw [erased, if_neg, isRecord]
    rintro rfl
    cases found.symm.trans isRecord
    rw [isClosed] at isOpen
    cases isOpen
  · intro id other isRecord isOpen
    rcases tracks.records id other isRecord isOpen with isWired
      | ⟨earlier, same⟩
    · exact Or.inl isWired
    · rw [erased] at earlier
      exact Or.inr ⟨(Option.ite_none_left_eq_some.mp earlier).2, same⟩

theorem assembled {workspace : WorkspaceId} {slots : Slot → Prop}
    {wiring : WiringId}
    (assembly : Assembly workspace engine slots wiring before after) :
    Tracks engine wires before after := by
  cases assembly with
  | ripple rippled => exact Tracks.steady rippled.toSteady
  | @bind key binding _ _ _ _ _ =>
      refine of_records (fun _ => Iff.rfl) (fun _ => rfl) rfl ?_
      intro other isOpen
      rw [addBinding, wiring_updateWiring] at isOpen ⊢
      split at isOpen
      · rename_i same
        rw [if_pos same, ← same]
        exact ⟨isOpen, rfl⟩
      · rename_i differs
        rw [if_neg differs]
        exact ⟨isOpen, rfl⟩
  | @listen key source _ _ _ _ _ _ =>
      refine of_records (fun _ => Iff.rfl) (fun _ => rfl) ?_ ?_
      · rw [addListener, updateStats, engine_updateEngine, if_pos rfl]
        rfl
      · intro other isOpen
        have same := bare_wiring_addListener before workspace engine wiring
          other key source
        have sameFlag :
          ((before.addListener workspace engine wiring key source).wiring
          other).disposed = (before.wiring other).disposed :=
          (congrArg Wiring.disposed same :)
        rw [sameFlag] at isOpen
        exact ⟨isOpen, (congrArg Wiring.block same :)⟩

theorem assembly {workspace : WorkspaceId} {slots : Slot → Prop}
    {wiring : WiringId}
    (course : AssemblyCourse workspace engine slots wiring before after) :
    Tracks engine wires before after := by
  induction course with
  | refl => exact refl before
  | tail _ step induction => exact induction.trans (assembled step)

end Tracks

section Wire

variable {settings : Settings} {workspace : WorkspaceId} {engine : EngineId}
  {wires : BlockId → Prop} {block : BlockId} {mode : WiringMode}
  {react : Reaction σ} {editor after : Editor σ}

/-- A wiring that was begun is not on record yet. -/
theorem Sound.tracks_beginWiring
    (sound : Sound settings workspace engine none editor) :
    Tracks engine wires editor (editor.beginWiring engine block mode) where
  known := fun _ => Iff.rfl
  blockId := fun _ => rfl
  records := by
    intro id wiring found isOpen
    have known := (sound.wired.recorded id wiring found).1
    have differs : editor.nextWiring ≠ wiring := by
      rintro rfl
      exact sound.tables.wiring_next known
    rw [wiring_beginWiring, if_neg differs] at isOpen ⊢
    exact Or.inr ⟨found, isOpen, rfl⟩
  undisposed := by
    intro wiring isOpen
    rw [wiring_beginWiring] at isOpen
    split at isOpen
    · rename_i same
      rw [← same, sound.tables.wiring_default]
      rfl
    · exact isOpen
  kept := fun _ _ found _ => found

/-- However the wiring of a block ends, only a wiring of the block is put on
record. -/
theorem Sound.tracks_wireEnd
    (sound : Sound settings workspace engine none editor)
    (known : editor.blocks.contains block) (isWired : wires block)
    (ending : WireEnd workspace engine block mode editor after) :
    Tracks engine wires editor after := by
  have begins : Tracks engine wires editor
      (editor.beginWiring engine block mode) :=
    sound.tracks_beginWiring
  cases ending with
  | kept => exact Tracks.refl editor
  | @recorded assembled idle course =>
      have sofar := begins.trans (Tracks.assembly course)
      have inserted : ∀ id,
          ((assembled.recordWiring engine block editor.nextWiring).engine
          engine).wirings.get? id = if (assembled.block block).id = id then
            some editor.nextWiring
                else (assembled.engine engine).wirings.get? id := by
        intro id
        rw [recordWiring, engine_updateEngine, if_pos rfl,
          OrderedMap.get?_insert]
      refine ⟨⟨sofar.undisposed, ?_⟩, sofar.known, sofar.blockId, ?_⟩
      · intro id wiring found isOpen
        rw [inserted, if_neg]
        · exact sofar.kept id wiring found isOpen
        · rintro rfl
          rw [sofar.blockId] at found
          have wasOpen := sofar.undisposed wiring isOpen
          rw [liveWiringFor?, wiringFor?, found] at idle
          simp [wasOpen] at idle
      · intro id wiring found isOpen
        rw [inserted] at found
        split at found
        · cases found
          have sameBlock : (assembled.wiring editor.nextWiring).block =
              block := by
            rw [course.kept.block, wiring_beginWiring, if_pos rfl]
          refine Or.inl ?_
          change wires (assembled.wiring editor.nextWiring).block
          rw [sameBlock]
          exact isWired
        · exact sofar.records id wiring found isOpen
  | dropped idle course => exact begins.trans (Tracks.assembly course)
  | @undone broken idle course =>
      have ready := ready_beginWiring sound known idle mode
      exact ((begins.trans (Tracks.assembly course)).trans
        (Tracks.closeWiring broken editor.nextWiring)).trans
          (Tracks.steady (steady_undo_close ready course))

end Wire

end TypeFlow.Editor
