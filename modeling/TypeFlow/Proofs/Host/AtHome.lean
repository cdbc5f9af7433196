import TypeFlow.Proofs.Host.Reached

/-!
# Bindings stay on their blocks

As long as fields are not moved and only engines listen, a binding writes and
reads slots of the block it was made for, it listens to its sources and to
nothing else, and its dependencies on fields go in no circle if circles are
refused.
-/

namespace TypeFlow.Editor

variable {σ : Type} {wiring : WiringId} {liberties : Liberties}

/-- Bindings and listeners keep to the slots of their blocks. -/
structure AtHome (workspace : WorkspaceId) (engine : EngineId)
    (pending : Option WiringId) (editor : Editor σ) : Prop where
  rowField : ∀ block field, field ∈ (editor.block block).fields →
    (editor.field field).block = some block
  target : ∀ wiring key binding, editor.OpenBinding wiring key binding →
    ∀ field, binding.target = .field field →
      (editor.field field).block = some (editor.wiring wiring).block ∧
        editor.fieldKey field = .ok key
  source : ∀ wiring key binding, editor.OpenBinding wiring key binding →
    ∀ link ∈ binding.links, ∀ field, link.source = .field field →
      (editor.field field).block = some (editor.wiring wiring).block
  attends : ∀ wiring key binding, editor.OpenBinding wiring key binding →
    pending ≠ some wiring → editor.Attends workspace wiring key binding
  answers : ∀ key wiring target,
    .recompute wiring target ∈ (editor.workspace workspace).registry.listenersAt
      key →
      ∀ binding, editor.OpenBinding wiring target binding →
        ∃ link ∈ binding.links, editor.slotKey link.source = .ok key
  recomputes : ∀ key callback,
    .callback callback ∉ (editor.workspace workspace).registry.listenersAt key
  acyclic : (editor.engine engine).config.rejectCycles = true →
    ∀ wiring, (editor.wiring wiring).disposed = false →
      Acyclic (editor.FieldEdge wiring)

section Keep

variable {settings : Settings} {workspace : WorkspaceId} {engine : EngineId}
  {pending : Option WiringId} {before after editor : Editor σ}

/-- The key of an attached field stays with the field and its block. -/
theorem Outgrows.fieldKey (outgrows : Outgrows before after) {field : FieldId}
    {block : BlockId} (known : before.fields.contains field)
    (knownBlock : before.blocks.contains block)
    (attached : (before.field field).block = some block)
    (sameBlock : (after.field field).block = (before.field field).block) :
    after.fieldKey field = before.fieldKey field := by
  rw [fieldKey_of_attached attached,
    fieldKey_of_attached (sameBlock.trans attached), outgrows.fieldName field
      known, outgrows.blockId block knownBlock]

section Moves

variable (home : AtHome workspace engine pending before)

include home

/-- Changes that leave attached fields, bindings and listeners where they are.
-/
theorem AtHome.keep
    (sound : Sound settings workspace engine pending before)
    (outgrows : Outgrows before after)
    (fields : ∀ field, (before.field field).block ≠ none →
      (after.field field).block = (before.field field).block)
    (rows : ∀ block field, field ∈ (after.block block).fields →
      (after.field field).block = some block)
    (wirings : ∀ wiring, (after.wiring wiring).bare =
      (before.wiring wiring).bare)
    (listeners : ∀ key, (after.workspace workspace).registry.listenersAt key =
      (before.workspace workspace).registry.listenersAt key)
    (config : (after.engine engine).config = (before.engine engine).config) :
    AtHome workspace engine pending after := by
  have blockOf : ∀ wiring, (after.wiring wiring).block =
      (before.wiring wiring).block :=
    fun wiring => (congrArg Wiring.block (wirings wiring) :)
  have bindingsOf : ∀ wiring, (after.wiring wiring).bindings =
      (before.wiring wiring).bindings :=
    fun wiring => (congrArg Wiring.bindings (wirings wiring) :)
  have disposedOf : ∀ wiring, (after.wiring wiring).disposed =
      (before.wiring wiring).disposed :=
    fun wiring => (congrArg Wiring.disposed (wirings wiring) :)
  have fieldKey : ∀ field block, (before.field field).block = some block →
      after.fieldKey field = before.fieldKey field := by
    intro field block attached
    exact outgrows.fieldKey (contains_of_attached attached)
      (sound.layout.fieldHome field block attached) attached
      (fields field (by rw [attached]; simp))
  have sourceKey : ∀ wiring key binding, before.OpenBinding wiring key binding →
      ∀ link ∈ binding.links, after.slotKey link.source = before.slotKey
        link.source := by
    intro wiring key binding isOpen link member
    have fits := sound.wired.source wiring key binding isOpen link member
    cases hSource : link.source with
    | connection connection =>
        rw [hSource] at fits
        simp only [slotKey, outgrows.connectionKey connection fits.1]
    | field field =>
        exact fieldKey field
          _ (home.source wiring key binding isOpen link member field hSource)
  constructor
  · exact rows
  · intro wiring key binding isOpen field isTarget
    rw [openBinding_of_bare (wirings wiring)] at isOpen
    obtain ⟨attached, hasKey⟩ :=
      home.target wiring key binding isOpen field isTarget
    rw [blockOf, fields field (by rw [attached]; simp),
      fieldKey field _ attached]
    exact ⟨attached, hasKey⟩
  · intro wiring key binding isOpen link member field isSource
    rw [openBinding_of_bare (wirings wiring)] at isOpen
    have attached := home.source wiring key binding isOpen link member
      field isSource
    rw [blockOf, fields field (by rw [attached]; simp)]
    exact attached
  · intro wiring key binding isOpen notPending link member source hasKey
    rw [openBinding_of_bare (wirings wiring)] at isOpen
    rw [sourceKey wiring key binding isOpen link member] at hasKey
    rw [listeners]
    exact home.attends wiring key binding isOpen notPending link
      member source hasKey
  · intro key wiring target listed binding isOpen
    rw [openBinding_of_bare (wirings wiring)] at isOpen
    rw [listeners] at listed
    obtain ⟨link, member, hasKey⟩ :=
      home.answers key wiring target listed binding isOpen
    exact ⟨link, member,
      (sourceKey wiring target binding isOpen link member).trans hasKey⟩
  · intro key callback listed
    rw [listeners] at listed
    exact home.recomputes key callback listed
  · intro rejects wiring isOpen
    rw [config] at rejects
    rw [disposedOf] at isOpen
    refine (home.acyclic rejects wiring isOpen).mono ?_
    rintro target source ⟨binding, found, link, member, field,
      isField, hasSource⟩
    rw [bindingsOf] at found
    have attached := home.source wiring target binding ⟨isOpen, found⟩ link
      member field isField
    rw [fieldKey field _ attached] at hasSource
    exact ⟨binding, found, link, member, field, isField, hasSource⟩

theorem AtHome.steady
    (sound : Sound settings workspace engine pending before)
    (steady : Steady before after) :
    AtHome workspace engine pending after := by
  refine home.keep sound steady.outgrows
    (fun field _ => steady.fieldBlock field) ?_
    (fun wiring => by rw [steady.wiring]) (fun key => by rw [steady.registry])
    (steady.config engine)
  intro block field member
  rw [steady.blockFields] at member
  rw [steady.fieldBlock]
  exact home.rowField block field member

/-- Changes of wirings, records and listeners that bind nothing new. -/
theorem AtHome.rewire {pending' : Option WiringId}
    (blocks : after.blocks = before.blocks)
    (connections : after.connections = before.connections)
    (fields : after.fields = before.fields)
    (config : (after.engine engine).config = (before.engine engine).config)
    (wirings : ∀ wiring, (after.wiring wiring).disposed = false →
      (before.wiring wiring).disposed = false ∧
        (after.wiring wiring).bindings = (before.wiring wiring).bindings ∧
        ((before.wiring wiring).bindings = {} ∨
          (after.wiring wiring).block = (before.wiring wiring).block))
    (attends : ∀ wiring key binding, before.OpenBinding wiring key binding →
      after.OpenBinding wiring key binding → pending' ≠ some wiring →
        after.Attends workspace wiring key binding)
    (listeners : ∀ key listener,
      listener ∈ (after.workspace workspace).registry.listenersAt key →
        listener ∈ (before.workspace workspace).registry.listenersAt key ∨
          ∃ wiring target, listener = .recompute wiring target ∧
            ∀ binding, before.OpenBinding wiring target binding →
              ∃ link ∈ binding.links, before.slotKey link.source = .ok key) :
    AtHome workspace engine pending' after := by
  have blockOf : ∀ id, after.block id = before.block id := fun id => by
    unfold Editor.block
    rw [blocks]
  have fieldOf : ∀ id, after.field id = before.field id := fun id => by
    unfold Editor.field
    rw [fields]
  have fieldKey : ∀ id, after.fieldKey id = before.fieldKey id := fun id => by
    unfold Editor.fieldKey
    simp only [fieldOf, blockOf]
  have slotKey : ∀ slot, after.slotKey slot = before.slotKey slot := by
    intro slot
    cases slot with
    | connection connection =>
        simp only [Editor.slotKey, Editor.connection, connections]
    | field field => exact fieldKey field
  have opens : ∀ wiring key binding, after.OpenBinding wiring key binding →
      before.OpenBinding wiring key binding ∧
        (after.wiring wiring).block = (before.wiring wiring).block := by
    intro wiring key binding isOpen
    obtain ⟨undisposed, sameBindings, sameBlock⟩ := wirings wiring isOpen.1
    have found := isOpen.2
    rw [sameBindings] at found
    refine ⟨⟨undisposed, found⟩, ?_⟩
    rcases sameBlock with empty | same
    · rw [empty] at found
      cases found
    · exact same
  constructor
  · intro block field member
    rw [blockOf] at member
    rw [fieldOf]
    exact home.rowField block field member
  · intro wiring key binding isOpen field isTarget
    obtain ⟨earlier, sameBlock⟩ := opens wiring key binding isOpen
    rw [fieldOf, sameBlock, fieldKey]
    exact home.target wiring key binding earlier field isTarget
  · intro wiring key binding isOpen link member field isSource
    obtain ⟨earlier, sameBlock⟩ := opens wiring key binding isOpen
    rw [fieldOf, sameBlock]
    exact home.source wiring key binding earlier link member field isSource
  · intro wiring key binding isOpen notPending
    exact attends wiring key binding (opens wiring key binding isOpen).1
      isOpen notPending
  · intro key wiring target listed binding isOpen
    have earlier := (opens wiring target binding isOpen).1
    simp only [slotKey]
    rcases listeners key _ listed with wasListed | ⟨_, _, isListener, links⟩
    · exact home.answers key wiring target wasListed binding earlier
    · cases isListener
      exact links binding earlier
  · intro key callback listed
    rcases listeners key _ listed with wasListed | ⟨_, _, isListener, _⟩
    · exact home.recomputes key callback wasListed
    · cases isListener
  · intro rejects wiring isOpen
    rw [config] at rejects
    obtain ⟨undisposed, sameBindings, _⟩ := wirings wiring isOpen
    refine (home.acyclic rejects wiring undisposed).mono ?_
    rintro target source ⟨binding, found, link, member, field,
      isField, hasSource⟩
    rw [sameBindings] at found
    rw [fieldKey] at hasSource
    exact ⟨binding, found, link, member, field, isField, hasSource⟩

end Moves

theorem AtHome.bound {slots : Slot → Prop} {key : SlotKey} {binding : Binding}
    (home : AtHome workspace engine (some wiring) editor)
    (sound : Sound settings workspace engine (some wiring) editor)
    (offered : ∀ slot, slots slot →
      editor.Offers (editor.wiring wiring).block slot)
    (isSlot : slots binding.target)
    (hasKey : editor.slotKey binding.target = .ok key)
    (fresh : (editor.wiring wiring).bindings.get? key = none)
    (resolved : ∀ link ∈ binding.links,
      editor.findSource? (editor.wiring wiring).block link.directive.source =
        some link.source)
    (acyclic : (editor.engine engine).config.rejectCycles = true →
      Acyclic ((editor.addBinding wiring key binding).FieldEdge wiring)) :
    AtHome workspace engine (some wiring)
      (editor.addBinding wiring key binding) := by
  have blockOf : ∀ other,
      ((editor.addBinding wiring key binding).wiring other).block =
      (editor.wiring other).block :=
    fun _ => OrderedMap.read_getD_insert Wiring.block rfl
  constructor
  · exact home.rowField
  · intro other otherKey found isOpen field isTarget
    rw [blockOf]
    rcases openBinding_addBinding isOpen with ⟨rfl, rfl, rfl⟩ | earlier
    · have onBlock := offered _ isSlot
      rw [isTarget] at onBlock hasKey
      exact ⟨home.rowField _ field onBlock.1, hasKey⟩
    · exact home.target other otherKey found earlier field isTarget
  · intro other otherKey found isOpen link member field isSource
    rw [blockOf]
    rcases openBinding_addBinding isOpen with ⟨rfl, rfl, rfl⟩ | earlier
    · have inBlock := resolved link member
      rw [isSource] at inBlock
      rcases findSource?_cases inBlock with ⟨same, isField, hasField⟩
        | ⟨_, _, _, _, _, impossible⟩
      · cases isField
        exact home.rowField _ field (mem_fields_of_findField? hasField).1
      · cases impossible
    · exact home.source other otherKey found earlier link member field isSource
  · intro other otherKey found isOpen notPending
    rcases openBinding_addBinding isOpen with ⟨rfl, _, _⟩ | earlier
    · exact absurd rfl notPending
    · have attending := home.attends other otherKey found earlier notPending
      exact (quiet_addBinding editor wiring key binding).attends attending
  · intro sourceKey other target listed found isOpen
    have sameKey := (quiet_addBinding editor wiring key binding).slotKey
    simp only [sameKey]
    rcases openBinding_addBinding isOpen with ⟨rfl, rfl, _⟩ | earlier
    · exact absurd listed (sound.heard.unheard fresh sourceKey)
    · exact home.answers sourceKey other target listed found earlier
  · exact home.recomputes
  · intro rejects other isOpen
    by_cases same : other = wiring
    · rw [same]
      exact acyclic rejects
    · have sameWiring :=
        (quiet_addBinding editor wiring key binding).others other same
      rw [sameWiring] at isOpen
      refine (home.acyclic rejects other isOpen).mono ?_
      rintro target source ⟨found, isBinding, link, member, field,
        isField, hasSource⟩
      rw [sameWiring] at isBinding
      exact ⟨found, isBinding, link, member, field, isField, hasSource⟩

theorem AtHome.listen {key source : SlotKey} {binding : Binding} {link : Link}
    (home : AtHome workspace engine pending editor)
    (isOpen : editor.OpenBinding wiring key binding)
    (member : link ∈ binding.links)
    (hasKey : editor.slotKey link.source = .ok source) :
    AtHome workspace engine pending
      (editor.addListener workspace engine wiring key source) := by
  have quiet := quiet_addListener editor workspace engine wiring key source
  refine home.rewire rfl rfl rfl ?_ ?_ ?_ ?_
  · rw [addListener, updateStats, engine_updateEngine, if_pos rfl]
    rfl
  · intro other undisposed
    have same := bare_wiring_addListener editor workspace engine wiring
      other key source
    have sameDisposed : _ = (editor.wiring other).disposed :=
      (congrArg Wiring.disposed same :)
    rw [← sameDisposed]
    exact ⟨undisposed, (congrArg Wiring.bindings same :),
      Or.inr (congrArg Wiring.block same :)⟩
  · intro other otherKey found earlier _ notPending
    exact quiet.attends (home.attends other otherKey found earlier notPending)
  · intro otherKey listener listed
    rw [listenersAt_addListener] at listed
    rcases List.mem_append.mp listed with wasListed | isNew
    · exact Or.inl wasListed
    · split at isNew
      · rename_i here
        rw [List.mem_singleton] at isNew
        refine Or.inr ⟨wiring, key, isNew, ?_⟩
        intro other otherOpen
        have same : other = binding :=
          Option.some.inj (otherOpen.2.symm.trans isOpen.2)
        rw [same, ← here.2]
        exact ⟨link, member, hasKey⟩
      · cases isNew

theorem AtHome.closed (home : AtHome workspace engine pending editor)
    (sound : Sound settings workspace engine pending editor)
    (mine : pending = none ∨ pending = some wiring) :
    AtHome workspace engine none (editor.closeWiring wiring) := by
  refine home.rewire (by simp) (by simp) (by simp) ?_ ?_ ?_ ?_
  · rw [engine_closeWiring]
    split
    · rename_i same
      rw [same]
    · rfl
  · intro other undisposed
    rw [wiring_closeWiring] at undisposed ⊢
    split at undisposed
    · cases undisposed
    · rename_i differs
      rw [if_neg differs]
      exact ⟨undisposed, rfl, Or.inr rfl⟩
  · intro other key binding earlier isOpen _
    have differs : other ≠ wiring := by
      rintro rfl
      have disposed := isOpen.1
      rw [wiring_closeWiring, if_pos rfl] at disposed
      cases disposed
    intro link member source hasKey
    have notPending : pending ≠ some other := by
      rcases mine with rfl | rfl
      · simp
      · simpa using Ne.symm differs
    have sameKey : (editor.closeWiring wiring).slotKey link.source =
        editor.slotKey link.source := by
      cases link.source <;>
        simp [slotKey, fieldKey, Editor.connection, Editor.field, Editor.block]
    rw [sameKey] at hasKey
    rw [sound.heard.listenersAt_closeWiring]
    refine List.mem_filter.mpr
      ⟨home.attends other key binding earlier notPending link member
        source hasKey, ?_⟩
    simpa [Listener.isOf] using differs
  · intro key listener listed
    rw [sound.heard.listenersAt_closeWiring] at listed
    exact Or.inl (List.mem_filter.mp listed).1

/-- A change of one block that adds no fields to it. -/
theorem AtHome.updateBlock (home : AtHome workspace engine pending before)
    (sound : Sound settings workspace engine pending before) {middle : Editor σ}
    {block : BlockId} {change : Block → Block}
    (outgrows : Outgrows before (middle.updateBlock block change))
    (sameBlocks : middle.blocks = before.blocks)
    (sameFields : middle.fields = before.fields)
    (wirings : middle.wirings = before.wirings)
    (workspaces : middle.workspaces = before.workspaces)
    (engines : middle.engines = before.engines)
    (fields : ∀ entry, (change entry).fields = entry.fields) :
    AtHome workspace engine pending (middle.updateBlock block change) := by
  have fieldOf : ∀ id, (middle.updateBlock block change).field id =
      before.field id := by
    intro id
    change middle.field id = before.field id
    unfold Editor.field
    rw [sameFields]
  refine home.keep sound outgrows (fun id _ => by rw [fieldOf]) ?_ ?_ ?_ ?_
  · intro id field member
    rw [fieldOf]
    refine home.rowField id field ?_
    have sameBlock : middle.block id = before.block id := by
      unfold Editor.block
      rw [sameBlocks]
    rw [block_updateBlock] at member
    split at member
    · rename_i same
      subst same
      rwa [fields, sameBlock] at member
    · rwa [sameBlock] at member
  · intro wiring
    change (middle.wiring wiring).bare = _
    unfold Editor.wiring
    rw [wirings]
  · intro key
    change ((middle.workspace workspace).registry.listenersAt key) = _
    unfold Editor.workspace
    rw [workspaces]
  · change (middle.engine engine).config = _
    unfold Editor.engine
    rw [engines]

/-- A field that is attached for the first time. -/
theorem AtHome.fieldAttached {block : BlockId} {place : Nat} {field : FieldId}
    (home : AtHome workspace engine pending editor)
    (sound : Sound settings workspace engine pending editor)
    (outgrows : Outgrows editor (editor.attachField block place field))
    (inRange : place < (editor.block block).rows.length)
    (detached : (editor.field field).block = none) :
    AtHome workspace engine pending (editor.attachField block place field) := by
  let attached := editor.updateField field fun entry => { entry with
      block := some block }
  have fieldOf : ∀ other, field ≠ other →
      attached.field other = editor.field other := by
    intro other differs
    rw [field_updateField, if_neg differs]
  have elsewhere : ∀ id other, other ∈ (editor.block id).fields →
      (attached.field other).block = some id := by
    intro id other member
    have atHome := home.rowField id other member
    rw [fieldOf]
    · exact atHome
    · rintro rfl
      rw [detached] at atHome
      cases atHome
  refine home.keep sound outgrows ?_ ?_ (fun _ => rfl) (fun _ => rfl) rfl
  · intro other isAttached
    change (attached.field other).block = _
    rw [fieldOf]
    rintro rfl
    exact isAttached detached
  · intro id other member
    change (attached.field other).block = some id
    rw [block_updateBlock] at member
    split at member
    · rename_i same
      subst same
      have inBlock :=
        (fields_modify_perm (attached.block block) field inRange).mem_iff.mp
          member
      rcases List.mem_cons.mp inBlock with isField | earlier
      · rw [isField, field_updateField, if_pos rfl]
      · exact elsewhere block other earlier
    · exact elsewhere id other member

/-- Every elementary change keeps bindings at home, if it neither moves a field
nor adds a callback. -/
theorem Change.atHome {pending' : Option WiringId} (stays : ¬ liberties.moves)
    (silent : ¬ liberties.listens)
    (change : Change liberties workspace engine pending before pending' after)
    (sound : Sound settings workspace engine pending before)
    (home : AtHome workspace engine pending before) :
    AtHome workspace engine pending' after := by
  have outgrows := change.outgrows sound.tables
  cases change with
  | steady steady => exact home.steady sound steady
  | blockMade type id extensions =>
      refine home.keep sound outgrows (fun _ _ => rfl) ?_ (fun _ => rfl)
        (fun _ => rfl) rfl
      intro block field member
      refine home.rowField block field ?_
      rw [block_addBlock] at member
      split at member
      · cases member
      · exact member
  | outputMade check known replaces =>
      exact home.updateBlock sound outgrows rfl rfl rfl rfl rfl fun _ => rfl
  | inputMade check known free =>
      exact home.updateBlock sound outgrows rfl rfl rfl rfl rfl fun entry =>
        fields_append entry rfl
  | dummyMade name known =>
      exact home.updateBlock sound outgrows rfl rfl rfl rfl rfl fun entry =>
        fields_append entry rfl
  | @fieldMade _ entry detached refers =>
      refine home.keep sound outgrows ?_ ?_ (fun _ => rfl) (fun _ => rfl) rfl
      · intro other isAttached
        cases attached : (before.field other).block with
        | none => exact absurd attached isAttached
        | some block =>
            rw [sound.tables.field_addField (contains_of_attached attached),
              attached]
      · intro block other member
        have atHome := home.rowField block other member
        rw [sound.tables.field_addField (contains_of_attached atHome)]
        exact atHome
  | @fieldAttached _ block place field knownBlock inRange
    knownField free moves =>
      exact home.fieldAttached sound outgrows inRange (moves.resolve_left stays)
  | @valueSet _ field value known =>
      have blockOf : ∀ other, ((before.updateField field fun entry =>
          { entry with value }).field other).block = (before.field
              other).block :=
        fun _ => OrderedMap.read_getD_insert Field.block rfl
      refine home.keep sound outgrows (fun other _ => blockOf other) ?_
        (fun _ => rfl) (fun _ => rfl) rfl
      intro block other member
      rw [blockOf]
      exact home.rowField block other member
  | unlinked linked =>
      exact home.keep sound outgrows (fun _ _ => rfl) home.rowField
        (fun _ => rfl) (fun _ => rfl) rfl
  | linked knownThis knownOther freeThis freeOther fits =>
      exact home.keep sound outgrows (fun _ _ => rfl) home.rowField
        (fun _ => rfl) (fun _ => rfl) rfl
  | @variableMade _ generated name request id place store drawn made =>
      refine home.keep sound outgrows (fun _ _ => rfl) home.rowField
        (fun _ => rfl) ?_ rfl
      intro key
      change ((before.setVariables workspace store).workspace
        workspace).registry.listenersAt key = _
      rw [workspace_setVariables, if_pos rfl]
  | @begun _ block mode known isIdle =>
      refine home.rewire rfl rfl rfl rfl ?_ ?_ (fun _ _ => Or.inl)
      · intro wiring undisposed
        have wiringOf := wiring_beginWiring before engine block mode wiring
        change ((before.beginWiring engine block mode).wiring wiring).disposed =
          false at undisposed
        change _ ∧
          ((before.beginWiring engine block mode).wiring wiring).bindings = _ ∧
          (_ ∨ ((before.beginWiring engine block mode).wiring wiring).block = _)
        rw [wiringOf] at undisposed ⊢
        split
        · rename_i isNext
          rw [← isNext, sound.tables.wiring_default]
          exact ⟨rfl, rfl, Or.inl rfl⟩
        · rename_i differs
          rw [if_neg differs] at undisposed
          exact ⟨undisposed, rfl, Or.inr rfl⟩
      · intro wiring key binding earlier _ _
        exact home.attends wiring key binding earlier (by simp)
  | assembled offered step =>
      cases step with
      | ripple rippled => exact home.steady sound rippled.toSteady
      | bind isSlot hasKey fresh resolved acyclic =>
          exact home.bound sound offered isSlot hasKey fresh resolved acyclic
      | listen isOpen member hasKey => exact home.listen isOpen member hasKey
  | @recorded _ wiring attends =>
      refine home.rewire rfl rfl rfl ?_
        (fun _ undisposed => ⟨undisposed, rfl, Or.inr rfl⟩) ?_
        (fun _ _ => Or.inl)
      · rw [recordWiring, engine_updateEngine, if_pos rfl]
      · intro other key binding earlier _ _
        by_cases same : other = wiring
        · subst same
          exact attends key binding earlier
        · exact home.attends other key binding earlier
            (by simpa using Ne.symm same)
  | @dropped _ wiring nothing =>
      refine home.rewire rfl rfl rfl rfl
        (fun _ undisposed => ⟨undisposed, rfl, Or.inr rfl⟩) ?_
        (fun _ _ => Or.inl)
      intro other key binding earlier _ _
      refine home.attends other key binding earlier ?_
      intro same
      cases same
      exact nothing key binding earlier
  | forgotten found =>
      refine home.rewire rfl rfl rfl ?_
        (fun _ undisposed => ⟨undisposed, rfl, Or.inr rfl⟩) ?_
        (fun _ _ => Or.inl)
      · rw [forgetWiring, engine_updateEngine, if_pos rfl]
      · intro other key binding earlier _ _
        exact home.attends other key binding earlier (by simp)
  | closed mine known isOpen => exact home.closed sound mine
  | listened key callback listens => exact absurd listens silent
  | unlistened listens found isCallback => exact absurd listens silent

theorem Course.atHome {start finish : Option WiringId × Editor σ}
    (stays : ¬ liberties.moves) (silent : ¬ liberties.listens)
    (course : Course liberties workspace engine start finish)
    (sound : Sound settings workspace engine start.1 start.2)
    (home : AtHome workspace engine start.1 start.2) :
    AtHome workspace engine finish.1 finish.2 :=
  course.keeps (AtHome workspace engine) (Change.atHome stays silent) sound home

theorem Blank.atHome (blank : Blank engine editor) :
    AtHome workspace engine none editor := by
  constructor
  · intro block field member
    rw [blank.block] at member
    cases member
  · exact fun _ _ _ isOpen => absurd isOpen blank.not_openBinding
  · exact fun _ _ _ isOpen => absurd isOpen blank.not_openBinding
  · exact fun _ _ _ isOpen => absurd isOpen blank.not_openBinding
  · intro key wiring target listed
    rw [blank.registry] at listed
    cases listed
  · intro key callback listed
    rw [blank.registry] at listed
    cases listed
  · intro _ wiring _ key circle
    obtain ⟨source, edge⟩ := Relation.TransGen.head'_iff.mp circle
    obtain ⟨binding, found, _⟩ := edge.1
    rw [blank.wiring] at found
    cases found

/-- Hosts that neither move fields nor listen find all bindings at home. -/
theorem Reached.atHome {outside : Callbacks σ} (keepsOut : KeepsOut outside)
    {admits : Editor σ → HostOperation → Except Fault Unit → Editor σ → Prop}
    (stays : ¬ liberties.moves) (silent : ¬ liberties.listens)
    (within : ∀ before operation outcome after, admits before operation
      outcome after →
      operation.Within liberties before)
    (reached : Reached outside admits settings workspace editor) :
    AtHome workspace ⟨0⟩ none editor :=
  reached.keeps keepsOut (AtHome workspace ⟨0⟩ none) within
    (fun run => (blank_openWorkspace.returns run).1.atHome)
    (Course.atHome stays silent)

end Keep

end TypeFlow.Editor
