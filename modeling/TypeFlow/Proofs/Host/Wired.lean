import TypeFlow.Proofs.Host.Layout

/-!
# Wirings and their listeners

Every open binding writes and reads slots that exist.  An open wiring is on
record under the id of its block unless it is pending.  The recomputations in
the registry belong to open bindings, and each wiring owns the subscriptions
made for it.
-/

namespace TypeFlow

open OrderedMap (contains_congr contains_insert mem_keys_iff read_getD_insert)

/-- The listener recomputes a binding of the wiring. -/
def Listener.isOf (wiring : WiringId) : Listener → Bool
  | .recompute other _ => other = wiring
  | .callback _ => false

theorem Listener.isOf_eq_true_iff {wiring : WiringId} {listener : Listener} :
    listener.isOf wiring = true ↔
      ∃ target, listener = .recompute wiring target := by
  cases listener with
  | recompute other target => simp [isOf]
  | callback callback => simp [isOf]

/-- A wiring without its subscriptions. -/
def Wiring.bare (wiring : Wiring) : Wiring :=
  { wiring with subscriptions := [] }

namespace Editor

variable {σ : Type} {editor : Editor σ} {block : BlockId}
  {key : SlotKey} {slot : Slot} {wiring : WiringId} {binding : Binding}

/-- A slot that a binding under this key of a wiring of the block may write. -/
def FitsTarget (editor : Editor σ) (block : BlockId) (key : SlotKey) : Slot →
    Prop
  | .connection connection =>
      editor.connections.contains connection ∧
        (editor.connection connection).block = block ∧
        (editor.connection connection).key = key
  | .field field =>
      editor.fields.contains field ∧
        (editor.field field).kind.bare = .reference none

/-- A slot that a binding of a wiring of the block may read. -/
def FitsSource (editor : Editor σ) (block : BlockId) : Slot → Prop
  | .connection connection =>
      editor.connections.contains connection ∧
        (editor.connection connection).block = block ∧
        (editor.connection connection).key.kind = .input
  | .field field => editor.fields.contains field

theorem FitsTarget.known (fits : editor.FitsTarget block key slot) :
    editor.Known slot := by
  cases slot <;> exact fits.1

theorem FitsTarget.hasCheck (fits : editor.FitsTarget block key slot) :
    editor.HasCheck slot := by
  cases slot with
  | connection connection => trivial
  | field field => exact fits.2

theorem FitsSource.known (fits : editor.FitsSource block slot) :
    editor.Known slot := by
  cases slot with
  | connection connection => exact fits.1
  | field field => exact fits

/-- How wirings, bindings and records belong together. -/
structure Wired (engine : EngineId) (pending : Option WiringId)
    (editor : Editor σ) : Prop where
  block : ∀ wiring, editor.wirings.contains wiring →
    editor.blocks.contains (editor.wiring wiring).block
  engineOf : ∀ wiring, editor.wirings.contains wiring →
    (editor.wiring wiring).engine = engine
  target : ∀ wiring key binding, editor.OpenBinding wiring key binding →
    editor.FitsTarget (editor.wiring wiring).block key binding.target
  source : ∀ wiring key binding, editor.OpenBinding wiring key binding →
    ∀ link ∈ binding.links,
      editor.FitsSource (editor.wiring wiring).block link.source
  recorded : ∀ id wiring, (editor.engine engine).wirings.get? id = some wiring →
    editor.wirings.contains wiring ∧
      (editor.block (editor.wiring wiring).block).id = id
  onRecord : ∀ wiring key binding, editor.OpenBinding wiring key binding →
    pending ≠ some wiring →
      (editor.engine engine).wirings.get?
        (editor.block (editor.wiring wiring).block).id =
        some wiring
  pending : ∀ wiring, pending = some wiring →
    editor.wirings.contains wiring ∧
      ∀ other, (editor.engine engine).wirings.get?
        (editor.block (editor.wiring wiring).block).id = some other →
          (editor.wiring other).disposed = true

/-- The registry holds the listeners of open bindings and of callbacks. -/
structure Heard (workspace : WorkspaceId) (editor : Editor σ) : Prop where
  exact : (editor.workspace workspace).registry.Exact
  silent : ∀ other, other ≠ workspace → ∀ key,
    (editor.workspace other).registry.listenersAt key = []
  bound : ∀ key wiring target,
    .recompute wiring target ∈ (editor.workspace workspace).registry.listenersAt
      key →
      ∃ binding, editor.OpenBinding wiring target binding
  owned : ∀ number subscription wiring target,
    (editor.workspace workspace).registry.subscription? number =
      some subscription →
    subscription.active = true →
      subscription.listener = .recompute wiring target →
      ⟨workspace, number⟩ ∈ (editor.wiring wiring).subscriptions
  own : ∀ wiring id, id ∈ (editor.wiring wiring).subscriptions →
    id.workspace = workspace ∧ ∃ subscription target,
      (editor.workspace workspace).registry.subscription? id.number =
        some subscription ∧
        subscription.listener = .recompute wiring target

theorem contains_of_openBinding
    (isOpen : editor.OpenBinding wiring key binding) :
    editor.wirings.contains wiring := by
  by_cases known : editor.wirings.contains wiring
  · exact known
  · have found := isOpen.2
    unfold Editor.wiring at found
    rw [OrderedMap.getD_of_not_contains known] at found
    cases found

theorem openTarget_iff (editor : Editor σ) (slot : Slot) :
    editor.OpenTarget slot ↔ ∃ wiring ∈ editor.wirings.keys,
      (editor.wiring wiring).disposed = false ∧
        ∃ key ∈ (editor.wiring wiring).bindings.keys,
          ((editor.wiring wiring).bindings.get? key).map Binding.target =
            some slot := by
  constructor
  · rintro ⟨wiring, key, binding, isOpen, isTarget⟩
    refine ⟨wiring, (mem_keys_iff _ _).mpr
      (contains_of_openBinding isOpen), isOpen.1, key, (mem_keys_iff _ _).mpr
      (OrderedMap.contains_of_get? isOpen.2), ?_⟩
    rw [isOpen.2, Option.map_some, isTarget]
  · rintro ⟨wiring, _, undisposed, key, _, isTarget⟩
    obtain ⟨binding, found, isSlot⟩ := Option.map_eq_some_iff.mp isTarget
    exact ⟨wiring, key, binding, ⟨undisposed, found⟩, isSlot⟩

instance decidableOpenTarget (editor : Editor σ) (slot : Slot) :
    Decidable (editor.OpenTarget slot) :=
  decidable_of_iff _ (editor.openTarget_iff slot).symm

section Outgrows

variable {before after : Editor σ} (outgrows : Outgrows before after)

include outgrows

theorem Outgrows.fitsTarget (fits : before.FitsTarget block key slot) :
    after.FitsTarget block key slot := by
  cases slot with
  | connection connection =>
      obtain ⟨known, sameBlock, sameKey⟩ := fits
      exact ⟨outgrows.knownConnection connection known,
        (outgrows.connectionBlock connection known).trans sameBlock,
        (outgrows.connectionKey connection known).trans sameKey⟩
  | field field =>
      obtain ⟨known, sameKind⟩ := fits
      exact ⟨outgrows.knownField field known,
        (outgrows.fieldKind field known).trans sameKind⟩

theorem Outgrows.fitsSource (fits : before.FitsSource block slot) :
    after.FitsSource block slot := by
  cases slot with
  | connection connection =>
      obtain ⟨known, sameBlock, sameKind⟩ := fits
      refine ⟨outgrows.knownConnection connection known,
        (outgrows.connectionBlock connection known).trans sameBlock, ?_⟩
      rw [outgrows.connectionKey connection known]
      exact sameKind
  | field field => exact outgrows.knownField field fits

/-- Changes that leave the wirings alone but for their subscriptions. -/
theorem Wired.outgrow {engine : EngineId} {pending : Option WiringId}
    (wired : Wired engine pending before)
    (known : ∀ wiring, after.wirings.contains wiring ↔
      before.wirings.contains wiring)
    (same : ∀ wiring, (after.wiring wiring).bare = (before.wiring wiring).bare)
    (records : (after.engine engine).wirings = (before.engine engine).wirings) :
    Wired engine pending after := by
  have sameBlock : ∀ wiring, (after.wiring wiring).block =
      (before.wiring wiring).block :=
    fun wiring => (congrArg Wiring.block (same wiring) :)
  have sameEngine : ∀ wiring, (after.wiring wiring).engine =
      (before.wiring wiring).engine :=
    fun wiring => (congrArg Wiring.engine (same wiring) :)
  have sameBindings : ∀ wiring, (after.wiring wiring).bindings =
      (before.wiring wiring).bindings :=
    fun wiring => (congrArg Wiring.bindings (same wiring) :)
  have sameDisposed : ∀ wiring, (after.wiring wiring).disposed =
      (before.wiring wiring).disposed :=
    fun wiring => (congrArg Wiring.disposed (same wiring) :)
  have sameOpen : ∀ wiring key binding,
      after.OpenBinding wiring key binding →
        before.OpenBinding wiring key binding := by
    intro wiring key binding isOpen
    unfold OpenBinding at isOpen
    rwa [sameDisposed, sameBindings] at isOpen
  have sameId : ∀ wiring, before.wirings.contains wiring →
      (after.block (before.wiring wiring).block).id =
        (before.block (before.wiring wiring).block).id :=
    fun wiring contained => outgrows.blockId _ (wired.block wiring contained)
  constructor
  · intro wiring contained
    rw [sameBlock]
    exact outgrows.knownBlock
      _ (wired.block wiring ((known wiring).mp contained))
  · intro wiring contained
    rw [sameEngine]
    exact wired.engineOf wiring ((known wiring).mp contained)
  · intro wiring key binding isOpen
    rw [sameBlock]
    exact outgrows.fitsTarget (wired.target wiring key binding
      (sameOpen wiring key binding isOpen))
  · intro wiring key binding isOpen link member
    rw [sameBlock]
    exact outgrows.fitsSource
      (wired.source wiring key binding (sameOpen wiring key binding isOpen)
        link member)
  · intro id wiring found
    rw [records] at found
    obtain ⟨contained, hasId⟩ := wired.recorded id wiring found
    rw [sameBlock, sameId wiring contained]
    exact ⟨(known wiring).mpr contained, hasId⟩
  · intro wiring key binding isOpen notPending
    have earlier := sameOpen wiring key binding isOpen
    rw [records, sameBlock, sameId wiring (contains_of_openBinding earlier)]
    exact wired.onRecord wiring key binding earlier notPending
  · intro wiring isPending
    obtain ⟨contained, disposed⟩ := wired.pending wiring isPending
    refine ⟨(known wiring).mpr contained, ?_⟩
    intro other found
    rw [records, sameBlock, sameId wiring contained] at found
    rw [sameDisposed]
    exact disposed other found

end Outgrows

section WiringChanges

variable {engine : EngineId} {pending : Option WiringId}

theorem Wired.begun (wired : Wired engine none editor) (tables : editor.Tables)
    (mode : WiringMode) (knownBlock : editor.blocks.contains block)
    (idle : editor.liveWiringFor? engine block = none) :
    Wired engine (some editor.nextWiring)
      (editor.beginWiring engine block mode) := by
  have old : ∀ other, editor.wirings.contains other →
      (editor.beginWiring engine block mode).wiring other =
        editor.wiring other := by
    intro other known
    rw [wiring_beginWiring, if_neg]
    rintro rfl
    exact tables.wiring_next known
  have cases : ∀ other,
      (editor.beginWiring engine block mode).wirings.contains other →
      editor.nextWiring = other ∨ editor.wirings.contains other :=
    fun other known => (contains_insert _ _ _ _).mp known
  have openBefore : ∀ wiring key binding,
      (editor.beginWiring engine block mode).OpenBinding wiring key binding →
        (editor.beginWiring engine block mode).wiring wiring =
          editor.wiring wiring ∧
          editor.OpenBinding wiring key binding := by
    intro wiring key binding isOpen
    have same := wiring_beginWiring_of_bound isOpen.2
    unfold OpenBinding at isOpen
    rw [same] at isOpen
    exact ⟨same, isOpen⟩
  constructor
  · intro wiring known
    rcases cases wiring known with rfl | earlier
    · rw [wiring_beginWiring, if_pos rfl]
      exact knownBlock
    · rw [old wiring earlier]
      exact wired.block wiring earlier
  · intro wiring known
    rcases cases wiring known with rfl | earlier
    · rw [wiring_beginWiring, if_pos rfl]
    · rw [old wiring earlier]
      exact wired.engineOf wiring earlier
  · intro wiring key binding isOpen
    obtain ⟨same, earlier⟩ := openBefore wiring key binding isOpen
    rw [same]
    exact wired.target wiring key binding earlier
  · intro wiring key binding isOpen
    obtain ⟨same, earlier⟩ := openBefore wiring key binding isOpen
    rw [same]
    exact wired.source wiring key binding earlier
  · intro id wiring found
    obtain ⟨known, hasId⟩ := wired.recorded id wiring found
    rw [old wiring known]
    exact ⟨(contains_insert _ _ _ _).mpr (Or.inr known), hasId⟩
  · intro wiring key binding isOpen _
    obtain ⟨same, earlier⟩ := openBefore wiring key binding isOpen
    rw [same]
    exact wired.onRecord wiring key binding earlier (by simp)
  · intro wiring isNext
    cases isNext
    refine ⟨(contains_insert _ _ _ _).mpr (Or.inl rfl), ?_⟩
    intro other found
    rw [wiring_beginWiring, if_pos rfl] at found
    rw [old other (wired.recorded _ other found).1]
    unfold liveWiringFor? wiringFor? at idle
    change (editor.engine engine).wirings.get? (editor.block block).id =
      some other at found
    rw [found] at idle
    simpa using idle

theorem openBinding_addBinding {other : WiringId} {otherKey : SlotKey}
    {otherBinding : Binding}
    (isOpen : (editor.addBinding wiring key binding).OpenBinding other otherKey
      otherBinding) :
    (other = wiring ∧ otherKey = key ∧ otherBinding = binding) ∨
      editor.OpenBinding other otherKey otherBinding := by
  unfold OpenBinding addBinding at isOpen
  rw [wiring_updateWiring] at isOpen
  split at isOpen
  · rename_i sameWiring
    subst sameWiring
    obtain ⟨undisposed, found⟩ := isOpen
    rw [OrderedMap.get?_insert] at found
    split at found
    · rename_i sameKey
      cases found
      exact Or.inl ⟨rfl, sameKey.symm, rfl⟩
    · exact Or.inr ⟨undisposed, found⟩
  · exact Or.inr isOpen

section Wired

variable (wired : Wired engine (some wiring) editor)

include wired

theorem Wired.bind
    (target : editor.FitsTarget (editor.wiring wiring).block key binding.target)
    (source : ∀ link ∈ binding.links,
      editor.FitsSource (editor.wiring wiring).block link.source) :
    Wired engine (some wiring) (editor.addBinding wiring key binding) := by
  have known := (wired.pending wiring rfl).1
  have knownSame : ∀ other,
      (editor.addBinding wiring key binding).wirings.contains other ↔
      editor.wirings.contains other :=
    contains_congr (OrderedMap.keys_insert_of_contains _ known)
  have sameBlock : ∀ other,
      ((editor.addBinding wiring key binding).wiring other).block =
      (editor.wiring other).block := fun _ => read_getD_insert Wiring.block rfl
  have sameEngine : ∀ other,
      ((editor.addBinding wiring key binding).wiring other).engine =
      (editor.wiring other).engine :=
    fun _ => read_getD_insert Wiring.engine rfl
  have sameDisposed :
      ∀ other, ((editor.addBinding wiring key binding).wiring other).disposed =
      (editor.wiring other).disposed :=
    fun _ => read_getD_insert Wiring.disposed rfl
  constructor
  · intro other contained
    rw [sameBlock]
    exact wired.block other ((knownSame other).mp contained)
  · intro other contained
    rw [sameEngine]
    exact wired.engineOf other ((knownSame other).mp contained)
  · intro other otherKey otherBinding isOpen
    rw [sameBlock]
    rcases openBinding_addBinding isOpen with ⟨rfl, rfl, rfl⟩ | earlier
    · exact target
    · exact wired.target other otherKey otherBinding earlier
  · intro other otherKey otherBinding isOpen
    rw [sameBlock]
    rcases openBinding_addBinding isOpen with ⟨rfl, rfl, rfl⟩ | earlier
    · exact source
    · exact wired.source other otherKey otherBinding earlier
  · intro id other found
    obtain ⟨contained, hasId⟩ := wired.recorded id other found
    rw [sameBlock]
    exact ⟨(knownSame other).mpr contained, hasId⟩
  · intro other otherKey otherBinding isOpen notPending
    rw [sameBlock]
    rcases openBinding_addBinding isOpen with ⟨rfl, _, _⟩ | earlier
    · exact absurd rfl notPending
    · exact wired.onRecord other otherKey otherBinding earlier notPending
  · intro other isPending
    obtain ⟨contained, disposed⟩ := wired.pending other isPending
    refine ⟨(knownSame other).mpr contained, ?_⟩
    intro recorded found
    rw [sameBlock] at found
    rw [sameDisposed]
    exact disposed recorded found

theorem Wired.record :
    Wired engine none (editor.recordWiring engine (editor.wiring wiring).block
      wiring) := by
  let id := (editor.block (editor.wiring wiring).block).id
  have records :
      ((editor.recordWiring engine (editor.wiring wiring).block wiring).engine
      engine).wirings = (editor.engine engine).wirings.insert id wiring := by
    rw [recordWiring, engine_updateEngine, if_pos rfl]
  obtain ⟨known, disposed⟩ := wired.pending wiring rfl
  refine ⟨wired.block, wired.engineOf, wired.target, wired.source, ?_, ?_, ?_⟩
  · intro other recorded found
    rw [records, OrderedMap.get?_insert] at found
    split at found
    · rename_i sameId
      cases found
      exact ⟨known, sameId⟩
    · exact wired.recorded other recorded found
  · intro other key binding isOpen _
    change editor.OpenBinding other key binding at isOpen
    rw [records, OrderedMap.get?_insert]
    change (if id = (editor.block (editor.wiring other).block).id
      then some wiring
      else (editor.engine engine).wirings.get?
        (editor.block (editor.wiring other).block).id) = _
    by_cases same : other = wiring
    · subst same
      exact if_pos rfl
    · have earlier := wired.onRecord other key binding isOpen
        (by simpa using Ne.symm same)
      split
      · rename_i sameId
        rw [← sameId] at earlier
        have closed := disposed other earlier
        rw [isOpen.1] at closed
        cases closed
      · exact earlier
  · intro other impossible
    cases impossible

theorem Wired.dropped
    (nothing : ∀ key binding, ¬ editor.OpenBinding wiring key binding) :
    Wired engine none editor := by
  refine ⟨wired.block, wired.engineOf, wired.target, wired.source,
    wired.recorded, ?_, ?_⟩
  · intro other key binding isOpen _
    refine wired.onRecord other key binding isOpen ?_
    rintro ⟨⟩
    exact nothing key binding isOpen
  · intro other impossible
    cases impossible

end Wired

theorem Wired.forgotten (wired : Wired engine none editor)
    (found : editor.wiringFor? engine block = some wiring) :
    Wired engine (some wiring) (editor.forgetWiring engine block) := by
  have records : ((editor.forgetWiring engine block).engine engine).wirings =
      (editor.engine engine).wirings.erase (editor.block block).id := by
    rw [forgetWiring, engine_updateEngine, if_pos rfl]
  obtain ⟨known, hasId⟩ := wired.recorded _ wiring found
  refine ⟨wired.block, wired.engineOf, wired.target, wired.source, ?_, ?_, ?_⟩
  · intro id other recorded
    rw [records, OrderedMap.get?_erase] at recorded
    split at recorded
    · cases recorded
    · exact wired.recorded id other recorded
  · intro other key binding isOpen notPending
    have earlier := wired.onRecord other key binding isOpen (by simp)
    rw [records, OrderedMap.get?_erase]
    split
    · rename_i sameId
      unfold wiringFor? at found
      rw [sameId] at found
      exact absurd (found.symm.trans earlier) notPending
    · exact earlier
  · intro other isPending
    cases isPending
    refine ⟨known, ?_⟩
    intro recorded still
    rw [records, OrderedMap.get?_erase] at still
    change (if (editor.block block).id =
      (editor.block (editor.wiring wiring).block).id then none
      else _) = some recorded at still
    rw [if_pos hasId.symm] at still
    cases still

theorem openBinding_closeWiring {other : WiringId} :
    (editor.closeWiring wiring).OpenBinding other key binding ↔
      other ≠ wiring ∧ editor.OpenBinding other key binding := by
  unfold OpenBinding
  rw [wiring_closeWiring]
  by_cases same : wiring = other
  · subst same
    simp
  · have reversed : other ≠ wiring := fun equal => same equal.symm
    simp [same, reversed]

theorem Wired.closed (wired : Wired engine pending editor)
    (mine : pending = none ∨ pending = some wiring)
    (known : editor.wirings.contains wiring) :
    Wired engine none (editor.closeWiring wiring) := by
  have outgrows : Outgrows editor (editor.closeWiring wiring) :=
    Outgrows.of_tables (by simp) (by simp) (by simp)
  have knownSame : ∀ other, (editor.closeWiring wiring).wirings.contains other ↔
      editor.wirings.contains other := by
    intro other
    rw [wirings_closeWiring]
    exact contains_congr (OrderedMap.keys_insert_of_contains _ known) other
  have sameBlock : ∀ other, ((editor.closeWiring wiring).wiring other).block =
      (editor.wiring other).block := by
    intro other
    rw [wiring_closeWiring]
    split
    · rename_i same
      rw [same]
    · rfl
  have blockOf : ∀ id, (editor.closeWiring wiring).block id =
      editor.block id := by
    intro id
    unfold Editor.block
    rw [blocks_closeWiring]
  have records : ((editor.closeWiring wiring).engine engine).wirings =
      (editor.engine engine).wirings := by
    rw [engine_closeWiring]
    split
    · rename_i same
      rw [same]
    · rfl
  constructor
  · intro other contained
    rw [sameBlock, blocks_closeWiring]
    exact wired.block other ((knownSame other).mp contained)
  · intro other contained
    rw [wiring_closeWiring]
    split
    · exact wired.engineOf wiring known
    · exact wired.engineOf other ((knownSame other).mp contained)
  · intro other key binding isOpen
    rw [sameBlock]
    exact outgrows.fitsTarget (wired.target other key binding
      (openBinding_closeWiring.mp isOpen).2)
  · intro other key binding isOpen link member
    rw [sameBlock]
    exact outgrows.fitsSource
      (wired.source other key binding (openBinding_closeWiring.mp isOpen).2
        link member)
  · intro id other found
    rw [records] at found
    obtain ⟨contained, hasId⟩ := wired.recorded id other found
    rw [sameBlock, blockOf]
    exact ⟨(knownSame other).mpr contained, hasId⟩
  · intro other key binding isOpen _
    obtain ⟨differs, earlier⟩ := openBinding_closeWiring.mp isOpen
    rw [records, sameBlock, blockOf]
    refine wired.onRecord other key binding earlier ?_
    rcases mine with rfl | rfl
    · simp
    · simpa using Ne.symm differs
  · intro other impossible
    cases impossible

end WiringChanges

end Editor

end TypeFlow
