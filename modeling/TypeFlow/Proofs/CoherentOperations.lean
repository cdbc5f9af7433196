import TypeFlow.Proofs.Settling

/-!
# Operations leave no binding stale

A sound state is coherent when no binding is stale.  If each variable is
referred to by one field at most, an operation that returns leaves a coherent
state behind: what it changes itself is heard of by the listeners it calls.
-/

namespace TypeFlow.Editor

variable {σ α : Type} {editor : Editor σ} {wiring : WiringId} {key : SlotKey}
  {settings : Settings} {workspace : WorkspaceId} {engine : EngineId}
  {field : FieldId} {react : Reaction σ} {this other : ConnectionId}
  {thisTarget otherTarget : Option ConnectionId} {source slot : Slot}

/-- No binding is stale. -/
def Coherent (editor : Editor σ) : Prop :=
  ∀ wiring key, ¬ editor.Stale wiring key

theorem Coherent.upToDate (coherent : editor.Coherent) {binding : Binding}
    (isOpen : editor.OpenBinding wiring key binding) :
    editor.UpToDate binding := by
  by_cases upToDate : editor.UpToDate binding
  · exact upToDate
  · exact absurd ⟨binding, isOpen, upToDate⟩ (coherent wiring key)

/-- A sound state between two operations, without a stale binding. -/
structure SoundCoherent (settings : Settings) (workspace : WorkspaceId)
    (engine : EngineId) (editor : Editor σ) : Prop where
  sound : Sound settings workspace engine none editor
  home : AtHome workspace engine none editor
  sole : editor.SoleReferences
  coherent : editor.Coherent

section Keep

variable {before after : Editor σ}

theorem SoundCoherent.course
    (held : SoundCoherent settings workspace engine before)
    (course : Course Liberties.plain workspace engine
      (none, before) (none, after)) (sole : after.SoleReferences) (coherent :
    after.Coherent) :
    SoundCoherent settings workspace engine after :=
  ⟨course.sound held.sound, course.atHome id id held.sound held.home,
    sole, coherent⟩

theorem Coherent.sameReadings (coherent : before.Coherent)
    (same : SameReadings before after)
    (opens : ∀ wiring key binding, after.OpenBinding wiring key binding →
      before.OpenBinding wiring key binding) : after.Coherent := by
  intro wiring key stale
  exact coherent wiring key (same.stale (opens wiring key) stale)

/-- What bindings read and write stays if connections, attached fields and
variables stay. -/
theorem SoundCoherent.keep
    (held : SoundCoherent settings workspace engine before)
    (wirings : after.wirings = before.wirings)
    (connections : ∀ id, before.connections.contains id →
      after.connection id = before.connection id)
    (fields : ∀ id, (before.field id).block ≠ none →
      after.field id = before.field id)
    (referents : ∀ id, (before.field id).block ≠ none →
      (before.field id).kind.bare = .reference none →
        after.variableOf id = before.variableOf id)
    (pool : ∀ place, before.pool.contains place →
      after.pool.getD place default = before.pool.getD place default) :
      after.Coherent := by
  have opens : ∀ wiring key binding, after.OpenBinding wiring key binding →
      before.OpenBinding wiring key binding := by
    intro wiring key binding isOpen
    unfold OpenBinding Editor.wiring at *
    rwa [wirings] at isOpen
  rintro wiring key ⟨binding, isOpen, outdated⟩
  have isOpenBefore := opens wiring key binding isOpen
  refine held.coherent wiring key
    ⟨binding, isOpenBefore, fun upToDate => outdated ?_⟩
  refine upToDate.keep ?_ ?_
  · intro link member
    refine ProvidesAs.of_eq ?_
    have fits := held.sound.wired.source wiring key binding
      isOpenBefore link member
    cases hSource : link.source with
    | connection connection =>
        rw [hSource] at fits
        simp only [provides, connections connection fits.1]
        split
        · rename_i far linked
          rw [connections far
            (contains_of_target
              (held.sound.linking.back connection far linked))]
        · rfl
    | field field =>
        have attached := held.home.source wiring key binding isOpenBefore link
          member field hSource
        have isAttached : (before.field field).block ≠ none := by
          simp [attached]
        simp only [provides, fieldProvides, fields field isAttached]
        split
        · rfl
        · rfl
        · rename_i types isReference
          rw [referents field isAttached
            (FieldKind.bare_eq_reference.mpr ⟨types, isReference⟩)]
          split
          · rename_i place refers
            obtain ⟨_, text, _, found⟩ :=
              held.sound.layout.variableOf_eq_some.mp refers
            have filed := (Variables.mem_filed_of_findById? found).1
            simp only [variableTypes,
              pool place (held.sound.filing.known workspace place filed)]
          · rfl
  · have fits := held.sound.wired.target wiring key binding isOpenBefore
    cases hTarget : binding.target with
    | connection connection =>
        rw [hTarget] at fits
        simp only [slotCheck, connections connection fits.1]
    | field field =>
        have attached :=
          (held.home.target wiring key binding isOpenBefore field hTarget).1
        simp only [slotCheck, fields field (by simp [attached])]

theorem variableOf_congr (sameField : after.field field = before.field field)
    (workspaces : ∀ block, (before.field field).block = some block →
      (after.block block).workspace = (before.block block).workspace)
    (stores : ∀ id, after.variablesOf id = before.variablesOf id) :
    after.variableOf field = before.variableOf field := by
  unfold variableOf
  dsimp only
  rw [sameField]
  split
  · rename_i block id attached _
    rw [workspaces block attached, stores]
  · rfl

/-- Making and changing blocks, rows and slots that no binding uses. -/
theorem SoundCoherent.reshape
    (held : SoundCoherent settings workspace engine before)
    (wirings : after.wirings = before.wirings) (pool : after.pool = before.pool)
    (index : ∀ id, (after.workspace id).variableIndex =
      (before.workspace id).variableIndex)
      (blocks : ∀ id, before.blocks.contains id →
      (after.block id).workspace = (before.block id).workspace)
    (connections : ∀ id, before.connections.contains id →
      after.connection id = before.connection id)
    (fields : ∀ id, (before.field id).block ≠ none →
      after.field id = before.field id) :
    after.Coherent := by
  refine held.keep wirings connections fields ?_ (fun place _ => by rw [pool])
  intro id isAttached _
  refine variableOf_congr (fields id isAttached) ?_ ?_
  · intro block attached
    exact blocks block (held.sound.layout.fieldHome id block attached)
  · intro other
    unfold variablesOf
    rw [pool, index]

/-- A block gets other rows or another output. -/
theorem SoundCoherent.updateBlock
    (held : SoundCoherent settings workspace engine before) {middle : Editor σ}
    {block : BlockId} {change : Block → Block}
    (blocks : middle.blocks = before.blocks)
    (workspaces : middle.workspaces = before.workspaces)
    (wirings : middle.wirings = before.wirings)
    (pool : middle.pool = before.pool)
    (connections : ∀ id, before.connections.contains id →
      middle.connection id = before.connection id)
    (fields : ∀ id, (before.field id).block ≠ none →
      middle.field id = before.field id)
    (sameWorkspace : ∀ entry, (change entry).workspace = entry.workspace) :
    (middle.updateBlock block change).Coherent := by
  refine held.reshape wirings pool ?_ ?_ connections fields
  · intro id
    change (middle.workspace id).variableIndex = _
    unfold Editor.workspace
    rw [workspaces]
  · intro id _
    have sameBlock : middle.block id = before.block id := by
      unfold Editor.block
      rw [blocks]
    rw [block_updateBlock]
    split
    · rename_i same
      subst same
      rw [sameWorkspace, sameBlock]
    · rw [sameBlock]

end Keep

section Making

variable (held : SoundCoherent settings workspace engine editor)

include held

theorem SoundCoherent.newBlock (type : String) (id : Option String)
    (extensions : List String) :
    Leads (newBlock workspace type id extensions) editor
      (fun _ after => after.Coherent) (fun _ _ => True) := by
  refine leads_newBlock (fun _ _ => True.intro) fun chosen drawn _ => ?_
  refine held.reshape rfl rfl
    (fun _ => OrderedMap.read_getD_insert Workspace.variableIndex rfl) ?_
    (fun _ _ => rfl) (fun _ _ => rfl)
  intro other known
  exact congrArg Block.workspace (held.sound.tables.block_addBlock known)

theorem SoundCoherent.setOutput (block : BlockId) (check : Check) :
    Leads (setOutput block check) editor (fun _ after => after.Coherent)
      (fun _ _ => True) := by
  simp only [Editor.setOutput, leads_bind, leads_newConnection, leads_modify,
    leads_pure]
  exact held.updateBlock rfl rfl rfl rfl
    (fun _ known =>
      connection_withConnection_of_contains held.sound.tables.toSlotTables
        _ _ _ _ known)
    (fun _ _ => rfl) (fun _ => rfl)

theorem SoundCoherent.appendInput (block : BlockId) (name : String)
    (check : Check) :
    Leads (appendInput block name check) editor (fun _ after => after.Coherent)
      (fun _ _ => True) := by
  refine leads_appendInput True.intro fun _ => ?_
  exact held.updateBlock rfl rfl rfl rfl
    (fun _ known =>
      connection_withConnection_of_contains held.sound.tables.toSlotTables
        _ _ _ _ known)
    (fun _ _ => rfl) (fun _ => rfl)

theorem SoundCoherent.appendDummyInput (block : BlockId) (name : String) :
    Leads (appendDummyInput block name) editor (fun _ after => after.Coherent)
      (fun _ _ => True) :=
  leads_appendDummyInput True.intro
    (held.updateBlock rfl rfl rfl rfl (fun _ _ => rfl) (fun _ _ => rfl)
      (fun _ => rfl))

theorem SoundCoherent.newField (field : Field) :
    Leads (newField field) editor (fun _ after => after.Coherent)
      (fun _ _ => True) := by
  simp only [Editor.newField, leads_bind, leads_look, leads_modify, leads_pure]
  refine held.reshape rfl rfl (fun _ => rfl) (fun _ _ => rfl)
    (fun _ _ => rfl) ?_
  intro id isAttached
  cases attached : (editor.field id).block with
  | none => exact absurd attached isAttached
  | some block =>
      exact held.sound.tables.field_addField (contains_of_attached attached)

theorem SoundCoherent.appendField (block : BlockId) (place : Nat)
    (detached : (editor.field field).block = none) :
    Leads (appendField block place field) editor (fun _ after => after.Coherent)
      (fun _ _ => True) := by
  refine leads_appendField True.intro fun _ => ?_
  refine held.updateBlock rfl rfl rfl rfl (fun _ _ => rfl) ?_ (fun _ => rfl)
  intro id isAttached
  rw [field_updateField, if_neg]
  rintro rfl
  exact isAttached detached

/-- A new variable matters to a field only if the field refers to it. -/
theorem SoundCoherent.createVariable (name : String) (request : TypeRequest)
    (id : Option String) :
    Leads (createVariable workspace name request id) editor
      (fun _ after => (∀ field, (editor.field field).kind.bare =
        .reference none →
        after.variableOf field = editor.variableOf field) → after.Coherent)
      (fun _ _ => True) := by
  simp only [Editor.createVariable, leads_bind, leads_get, leads_set,
    leads_discard, leads_lookup]
  refine ⟨fun _ _ => ?_, fun _ _ => True.intro⟩
  simp only [VariableDesk.run]
  split
  · intro _
    exact held.coherent.sameReadings
      { sameReadings_setVariables editor workspace with }
      (fun _ _ _ isOpen => isOpen)
  · intro _
    exact held.coherent.sameReadings
      { sameReadings_setVariables editor workspace with }
      (fun _ _ _ isOpen => isOpen)
  · rename_i place store made
    intro unreferred
    obtain ⟨isNext, entry, pool, _⟩ := Variables.create_made made
    refine held.keep rfl (fun _ _ => rfl) (fun _ _ => rfl)
      (fun field _ => unreferred field) ?_
    intro other known
    change store.pool.getD other default = _
    rw [pool, OrderedMap.getD_insert, if_neg]
    · rfl
    · rintro rfl
      exact held.sound.tables.pool.not_contains (by rw [isNext]; rfl) known

end Making

section Releasing

variable {pending : Option WiringId}

theorem sameReadings_closeWiring
    (sound : Sound settings workspace engine pending editor)
    (wiring : WiringId) : SameReadings editor (editor.closeWiring wiring) where
  blocks := blocks_closeWiring editor wiring
  connections := connections_closeWiring editor wiring
  fields := fields_closeWiring editor wiring
  pool := pool_closeWiring editor wiring
  index := by
    intro id
    rw [workspace_closeWiring editor wiring
      fun subscription member => (sound.heard.own wiring subscription member).1]
    split
    · rename_i same
      rw [same]
    · rfl

/-- Closing a wiring leaves fewer bindings. -/
theorem Coherent.closeWiring (coherent : editor.Coherent)
    (sound : Sound settings workspace engine pending editor)
    (wiring : WiringId) :
    (editor.closeWiring wiring).Coherent := by
  refine coherent.sameReadings (sameReadings_closeWiring sound wiring) ?_
  intro other key binding isOpen
  unfold OpenBinding at *
  rw [wiring_closeWiring] at isOpen
  split at isOpen
  · cases isOpen.1
  · exact isOpen

theorem SoundCoherent.disposeWiring
    (held : SoundCoherent settings workspace engine editor)
    (wiring : WiringId) :
    Leads (disposeWiring wiring) editor (fun _ after => after.Coherent)
      (fun _ _ => True) :=
  leads_disposeWiring wiring editor (fun _ => held.coherent)
    fun _ _ => held.coherent.closeWiring held.sound wiring

theorem SoundCoherent.releaseWiring
    (held : SoundCoherent settings workspace engine editor) (block : BlockId) :
    Leads (releaseWiring engine block) editor
      (fun _ after => after.SoleReferences ∧ after.Coherent)
      (fun _ _ => True) := by
  refine leads_releaseWiring (fun _ => ⟨held.sole, held.coherent⟩)
    fun wiring found => ?_
  have forgets : Change Liberties.plain workspace engine
    none editor (some wiring)
    (editor.forgetWiring engine block) := Change.forgotten found
  have sound := forgets.sound held.sound
  have sole : (editor.forgetWiring engine block).SoleReferences := held.sole
  have coherent : (editor.forgetWiring engine block).Coherent := held.coherent
  refine leads_disposeWiring wiring _ (fun _ => ⟨sole, coherent⟩) ?_
  intro _ _
  exact ⟨(sameReadings_closeWiring sound wiring).soleReferences sole,
    coherent.closeWiring sound wiring⟩

end Releasing

section Linking

/-- Linking and unlinking change what the two ends provide. -/
theorem provides_setTargets (notThis : source ≠ .connection this)
    (notOther : source ≠ .connection other) :
    ((editor.setTarget this thisTarget).setTarget other otherTarget).provides
      source =
      editor.provides source := by
  cases source with
  | field field => rfl
  | connection connection =>
      have sameTarget : (((editor.setTarget this thisTarget).setTarget other
          otherTarget).connection connection).target = (editor.connection
          connection).target := by
        rw [target_setTargets, if_neg, if_neg]
        · rintro rfl
          exact notThis rfl
        · rintro rfl
          exact notOther rfl
      simp only [provides, sameTarget, check_setTargets]

/-- After linking or unlinking, the listeners of the two ends know all that is
stale. -/
theorem SoundCoherent.listed_of_stale
    (held : SoundCoherent settings workspace engine editor)
    (stale : ((editor.setTarget this thisTarget).setTarget other
      otherTarget).Stale wiring key) :
    .recompute wiring key ∈ (editor.workspace workspace).registry.listenersAt
        (editor.connection this).key ∨
      .recompute wiring key ∈ (editor.workspace workspace).registry.listenersAt
        (editor.connection other).key := by
  obtain ⟨binding, isOpen, outdated, cause⟩ :=
    stale.cause editor fun _ isOpen => isOpen
  rcases cause with earlier | written | ⟨link, member, differs⟩
  · exact absurd ⟨binding, isOpen, earlier⟩ (held.coherent wiring key)
  · exact absurd (slotCheck_setTargets editor this other _ _ _) written
  · have attends := held.home.attends wiring key binding isOpen
      (by simp) link member
    by_cases isThis : link.source = .connection this
    · exact Or.inl (attends _ (by rw [isThis]; rfl))
    · by_cases isOther : link.source = .connection other
      · exact Or.inr (attends _ (by rw [isOther]; rfl))
      · exact absurd (ProvidesAs.of_eq (provides_setTargets isThis isOther))
          differs

theorem notifyEnds_eased (settles : Settles workspace react)
    (ripples : RipplesOnly react) (attuned : Attuned workspace editor)
    (known : editor.connections.contains this) (other : ConnectionId) :
    Leads (notifyEnds react this other) editor
      (fun _ after => ∀ wiring key, after.Stale wiring key →
        editor.Stale wiring key ∧
        .recompute wiring key ∉
          (editor.workspace workspace).registry.listenersAt
          (editor.connection this).key ∧
        .recompute wiring key ∉
          (editor.workspace workspace).registry.listenersAt
          (editor.connection other).key)
      (fun _ _ => True) := by
  have inWorkspace : editor.connectionWorkspace this = workspace :=
    attuned.layout.workspaceOf _ (attuned.layout.home this known)
  simp only [notifyEnds, leads_bind, leads_look, leads_discard, inWorkspace]
  refine Leads.mono ((notify_eased settles ripples attuned _).and
    (notify_echoed ripples attuned.responsive _ _)) ?_ (fun _ _ _ => True.intro)
  rintro _ middle ⟨first, echoed⟩
  refine Leads.imp (notify_eased settles ripples
    (attuned.steady echoed.toSteady) _) ?_
  intro _ after second wiring key stale
  obtain ⟨staleMiddle, notOther⟩ := second wiring key stale
  obtain ⟨staleFirst, notThis⟩ := first wiring key staleMiddle
  rw [echoed.toSteady.registry, echoed.toSteady.connectionKey] at notOther
  exact ⟨staleFirst, notThis, notOther⟩

theorem SoundCoherent.caches
    (held : SoundCoherent settings workspace engine editor)
    (caches : OrderedMap CacheId Wildcard.Cache) :
    SoundCoherent settings workspace engine { editor with caches } where
  sound := held.sound.steady (steady_caches editor caches)
  home := held.home.steady held.sound (steady_caches editor caches)
  sole := held.sole
  coherent := held.coherent

variable (held : SoundCoherent settings workspace engine editor)
  (settles : Settles workspace react) (ripples : RipplesOnly react)

include held settles ripples

/-- Linking or unlinking two connections, followed by their listeners. -/
theorem SoundCoherent.relinked
    (known : ((editor.setTarget this thisTarget).setTarget other
      otherTarget).connections.contains this)
    (change : Change Liberties.plain workspace engine none editor none
      ((editor.setTarget this thisTarget).setTarget other otherTarget)) :
    Leads (notifyEnds react this other)
      ((editor.setTarget this thisTarget).setTarget other otherTarget)
      (fun _ after => SoundCoherent settings workspace engine after)
      (fun _ _ => True) := by
  have sound := change.sound held.sound
  have home := change.atHome id id held.sound held.home
  have attuned := sound.attuned home held.sole (by simp)
  refine Leads.mono ((notifyEnds_eased settles ripples attuned known other).and
    (notifyEnds_echoed ripples sound.responsive this other)) ?_
    (fun _ _ _ => True.intro)
  rintro _ after ⟨eased, echoed⟩
  have steady := echoed.toSteady
  refine ⟨sound.steady steady, home.steady sound steady,
    (attuned.steady steady).sole, ?_⟩
  intro wiring key stale
  obtain ⟨relinked, notThis, notOther⟩ := eased wiring key stale
  have keyOf : ∀ id, (((editor.setTarget this thisTarget).setTarget other
      otherTarget).connection id).key = (editor.connection id).key := by
    intro id
    rw [connection_setTargets]
    split
    · rfl
    · split <;> rfl
  rw [keyOf] at notThis notOther
  rcases held.listed_of_stale relinked with atThis | atOther
  · exact notThis atThis
  · exact notOther atOther

theorem SoundCoherent.disconnect (this : ConnectionId) :
    Leads (disconnect react this) editor
      (fun _ after => SoundCoherent settings workspace engine after)
      (fun _ _ => True) := by
  refine leads_disconnect this (fun _ => held) ?_
  intro other linked
  have unlinks : Change Liberties.plain workspace engine none editor none
    (editor.unlink this other) := Change.unlinked linked
  exact held.relinked settles ripples
    ((unlinks.outgrows held.sound.tables).knownConnection this
    (contains_of_target linked)) unlinks

theorem SoundCoherent.connect (knownThis : editor.connections.contains this)
    (knownOther : editor.connections.contains other) :
    Leads (connect react this other) editor
      (fun _ after => SoundCoherent settings workspace engine after)
      (fun _ _ => True) := by
  refine Sound.leads_connect (SoundCoherent settings workspace engine)
    held.sound ripples knownThis knownOther
    held held.caches ?_ ?_ (fun _ _ _ _ _ => True.intro)
  · intro current connection _ _ heldCurrent
    exact heldCurrent.disconnect settles ripples connection
  · intro parted _ heldParted known change
    exact heldParted.relinked settles ripples known change

end Linking

section Values

theorem provides_setValue {value : FieldValue}
    (differs : source ≠ .field field) :
    (editor.updateField field fun entry => { entry with
      value }).provides source =
      editor.provides source := by
  cases source with
  | connection connection => rfl
  | field other =>
      have otherField : (editor.updateField field fun entry =>
          { entry with value }).field other = editor.field other := by
        rw [field_updateField, if_neg]
        rintro rfl
        exact differs rfl
      have sameVariable := variableOf_congr otherField (fun _ _ => rfl)
        (fun _ => rfl)
      simp only [provides, fieldProvides, otherField, sameVariable]
      rfl

section Held

variable (held : SoundCoherent settings workspace engine editor)

include held

/-- After a value is set, the listeners of the field know all that is stale. -/
theorem SoundCoherent.field_of_stale {value : FieldValue}
    (stale : (editor.updateField field fun entry => { entry with
      value }).Stale wiring key) :
    ∃ source, editor.fieldKey field = .ok source ∧
      .recompute wiring key ∈ (editor.workspace workspace).registry.listenersAt
        source := by
  obtain ⟨binding, isOpen, _, cause⟩ :=
    stale.cause editor fun _ isOpen => isOpen
  rcases cause with earlier | written | ⟨link, member, differs⟩
  · exact absurd ⟨binding, isOpen, earlier⟩ (held.coherent wiring key)
  · exact absurd (slotCheck_setValue editor field value _) written
  · by_cases isField : link.source = .field field
    · have attached := held.home.source wiring key binding isOpen link
        member field isField
      have hasKey := fieldKey_of_attached attached
      have attends := held.home.attends wiring key binding isOpen
        (by simp) link member
      rw [isField] at attends
      exact ⟨_, hasKey, attends _ hasKey⟩
    · exact absurd (ProvidesAs.of_eq (provides_setValue isField)) differs

theorem SoundCoherent.setValue
    (settles : Settles workspace react) (ripples : RipplesOnly react)
    (known : editor.fields.contains field) (value : FieldValue) :
    Leads (setValue react field value) editor
      (fun _ after => after.SoleReferences → after.Coherent)
      (fun _ _ => True) := by
  simp only [Editor.setValue, leads_bind, leads_modify]
  have sets : Change Liberties.plain workspace engine none editor none
      (editor.updateField field fun entry => { entry with value }) :=
    Change.valueSet value known
  have sound := sets.sound held.sound
  have home := sets.atHome id id held.sound held.home
  have sameKey : (editor.updateField field fun entry => { entry with
    value }).fieldKey field =
      editor.fieldKey field := by
    unfold fieldKey
    simp only [field_updateField, if_pos]
    rfl
  refine Leads.mono ((notifyField_echoed ripples sound.responsive field).and
    (?_ : Leads _ _ (fun _ after =>
      (editor.updateField field fun entry => { entry with
        value }).SoleReferences →
        after.Coherent) (fun _ _ => True))) ?_ (fun _ _ _ => True.intro)
  · by_cases sole : (editor.updateField field fun entry => { entry with
      value }).SoleReferences
    · have attuned := sound.attuned home sole (by simp)
      refine leads_notifyField sound.layout ?_ ?_
      · intro detached _ wiring key stale
        obtain ⟨source, hasKey, _⟩ := held.field_of_stale stale
        rw [← sameKey, fieldKey_of_detached detached] at hasKey
        cases hasKey
      · intro key hasKey
        refine Leads.imp (notify_eased settles ripples attuned key) ?_
        intro _ after eased _ wiring target stale
        obtain ⟨earlier, untold⟩ := eased wiring target stale
        obtain ⟨source, hasSource, listed⟩ := held.field_of_stale earlier
        rw [← sameKey, hasKey] at hasSource
        cases hasSource
        exact untold listed
    · exact Leads.imp (leads_trivial _ _)
        (fun _ _ _ isSole => absurd isSole sole)
  · rintro _ after ⟨echoed, settled⟩ soleAfter
    exact settled
      ((echoed.toSteady.soleReferences_iff sound.layout sound.filing).mp
        soleAfter)

theorem SoundCoherent.setTypes
    (settles : Settles workspace react) (ripples : RipplesOnly react)
    (known : editor.Known slot) (check : Check)
    (notTarget : ¬ editor.OpenTarget slot) :
    Leads (setTypes react slot check) editor (fun _ after => after.Coherent)
      (fun _ _ => True) := by
  have attuned := held.sound.attuned held.home held.sole (by simp)
  refine Leads.imp (setTypes_eased settles ripples attuned known check) ?_
  intro _ after eased wiring key stale
  obtain ⟨binding, isOpen, elsewhere | here⟩ := eased wiring key stale
  · exact held.coherent wiring key ⟨binding, isOpen, elsewhere.2⟩
  · exact notTarget ⟨wiring, key, binding, isOpen, here.1⟩

end Held

end Values

section Wiring

variable {slots : Slot → Prop} {allowed : SlotKey → SlotKey → Prop}
  {start current : Editor σ} {block : BlockId} {mode : WiringMode}

/-- While a block is being wired, its slots are written by the new wiring only.
-/
theorem Sound.pending_of_target
    (sound : Sound settings workspace engine (some wiring) editor)
    (home : AtHome workspace engine (some wiring) editor)
    (offered : editor.Offers (editor.wiring wiring).block slot)
    {other : WiringId} {binding : Binding}
    (isOpen : editor.OpenBinding other key binding)
    (isTarget : binding.target = slot) : other = wiring := by
  by_cases isPending : other = wiring
  · exact isPending
  · have recorded := sound.wired.onRecord other key binding isOpen
      (by simpa using Ne.symm isPending)
    have sameBlock : (editor.wiring other).block =
        (editor.wiring wiring).block := by
      have fits := sound.wired.target other key binding isOpen
      rw [isTarget] at fits
      cases slot with
      | connection connection =>
          refine fits.2.1.symm.trans ?_
          rcases offered with isOutput | ⟨row, member, isInput⟩
          · exact (sound.layout.output _ connection isOutput).2.1
          · exact (sound.layout.row _ row connection member isInput).2.1
      | field field =>
          have attached :=
            (home.target other key binding isOpen field isTarget).1
          rw [home.rowField _ field offered.1] at attached
          exact (Option.some.inj attached).symm
    rw [sameBlock] at recorded
    have disposed := (sound.wired.pending wiring rfl).2 other recorded
    rw [isOpen.1] at disposed
    cases disposed

theorem Midway.attuned
    (midway : Midway workspace engine slots wiring allowed start current)
    (ready : Ready settings workspace engine slots wiring start)
    (home : AtHome workspace engine (some wiring) start)
    (sole : current.SoleReferences) :
    Attuned workspace current := by
  have course : Course Liberties.plain workspace engine (some wiring, start)
    (some wiring, current) := midway.course.course ready.offered
  refine (course.sound ready.sound).attuned
    (course.atHome id id ready.sound home) sole ?_
  intro other isPending key binding isOpen
  cases isPending
  exact midway.attends key binding isOpen.2

theorem SameReadings.beginWiring (editor : Editor σ) (engine : EngineId)
    (block : BlockId) (mode : WiringMode) : SameReadings editor
      (editor.beginWiring engine block mode) :=
  ⟨rfl, rfl, rfl, rfl, fun _ => rfl⟩

variable (held : SoundCoherent settings workspace engine editor)
  (settles : Settles workspace react) (ripples : RipplesOnly react)
  (recomputes : settings.initialRecompute = true)
  (known : editor.blocks.contains block)

include held settles ripples recomputes known

/-- While a block is being wired only bindings of the new wiring are stale. -/
theorem SoundCoherent.walk
    (isIdle : editor.liveWiringFor? engine block = none) :
    Walk settings workspace engine react
      (TargetSlot (editor.targetsFor engine block))
      editor.nextWiring (editor.beginWiring engine block mode)
      (fun current => current.SoleReferences ∧
        ∀ wiring key, current.Stale wiring key → wiring = editor.nextWiring)
      (fun current => current.SoleReferences ∧ current.Coherent)
      (fun _ _ => True) := by
  have begins : Change Liberties.plain workspace engine
    none editor (some editor.nextWiring)
    (editor.beginWiring engine block mode) := Change.begun mode known isIdle
  have home := begins.atHome id id held.sound held.home
  have ready := ready_beginWiring held.sound known isIdle mode
  constructor
  · refine ⟨(SameReadings.beginWiring editor engine block mode).soleReferences
      held.sole, ?_⟩
    intro wiring key stale
    by_cases isNext : wiring = editor.nextWiring
    · exact isNext
    · refine absurd ?_ (held.coherent wiring key)
      refine (SameReadings.beginWiring editor engine block mode).stale ?_ stale
      intro binding isOpen
      unfold OpenBinding at *
      rwa [wiring_beginWiring, if_neg (Ne.symm isNext)] at isOpen
  · rintro before after ⟨sole, onlyNext⟩ quiet
    refine ⟨quiet.sameReadings.soleReferences sole, ?_⟩
    intro wiring key stale
    by_cases isNext : wiring = editor.nextWiring
    · exact isNext
    · refine onlyNext wiring key (quiet.sameReadings.stale ?_ stale)
      intro binding isOpen
      unfold OpenBinding at *
      rwa [quiet.others wiring isNext] at isOpen
  · rintro allowed before slot check midway isSlot ⟨sole, onlyNext⟩
    have attuned := midway.attuned ready home sole
    have course : Course Liberties.plain workspace engine
      (some editor.nextWiring, editor.beginWiring engine block mode)
      (some editor.nextWiring, before) := midway.course.course ready.offered
    have slotKnown := ready.known midway.course isSlot
    refine Leads.mono
      ((setTypes_eased settles ripples attuned slotKnown check).and
      (setTypes_rippled ripples attuned.responsive check slotKnown)) ?_
      (fun _ _ _ => True.intro)
    rintro _ after ⟨eased, rippled⟩
    refine ⟨(attuned.steady rippled.toSteady).sole, ?_⟩
    intro wiring key stale
    obtain ⟨binding, isOpen, elsewhere | here⟩ := eased wiring key stale
    · exact onlyNext wiring key ⟨binding, isOpen, elsewhere.2⟩
    · refine (course.sound ready.sound).pending_of_target
        (course.atHome id id ready.sound home) ?_ isOpen here.1
      rw [midway.course.kept.block, midway.course.kept.offers]
      exact ready.offered slot isSlot
  · rintro _ allowed before midway ⟨sole, onlyNext⟩
    have attuned := midway.attuned ready home sole
    have undisposed := midway.course.kept.disposed.trans ready.undisposed
    have echoes : Ends (recomputeAll react editor.nextWiring) before
        (Echoed before) := by
      simp only [Ends, recomputeAll, leads_bind, leads_look]
      exact recomputeEach_echoed ripples _ attuned.responsive undisposed
    refine Leads.mono
      ((recomputeAll_eased settles ripples attuned undisposed).and echoes) ?_
      (fun _ _ _ => True.intro)
    rintro _ after ⟨eased, echoed⟩
    refine ⟨(attuned.steady echoed.toSteady).sole, ?_⟩
    intro wiring key stale
    obtain ⟨isOther, earlier⟩ := eased wiring key stale
    exact isOther (onlyNext wiring key earlier)
  · intro skips
    rw [recomputes] at skips
    cases skips
  · rintro before noBindings ⟨sole, onlyNext⟩
    refine ⟨sole, ?_⟩
    intro wiring key stale
    obtain rfl := onlyNext wiring key stale
    obtain ⟨binding, isOpen, _⟩ := stale
    have found := isOpen.2
    rw [noBindings] at found
    cases found
  · rintro before after ⟨sole, coherent⟩ quiet
    have same := (quiet editor.nextWiring).sameReadings
    refine ⟨same.soleReferences sole, coherent.sameReadings same ?_⟩
    intro wiring key binding isOpen
    have elsewhere : wiring ≠ ⟨wiring.number + 1⟩ := by
      intro same
      have sameNumber := congrArg WiringId.number same
      simp at sameNumber
    unfold OpenBinding at *
    rwa [(quiet ⟨wiring.number + 1⟩).others wiring elsewhere] at isOpen
  · exact fun _ _ _ => True.intro
  · exact fun _ _ _ _ => True.intro
  · exact fun _ _ _ _ _ _ _ => True.intro

theorem SoundCoherent.wire (mode : WiringMode) :
    Leads (wire react engine block mode) editor
      (fun _ => SoundCoherent settings workspace engine) (fun _ _ => True) :=
  Leads.mono (leads_wire Liberties.plain held.sound known ripples
    (fun _ => ⟨held.sole, held.coherent⟩)
    (held.walk settles ripples recomputes known))
    (fun _ _ both => held.course both.1.course both.2.1 both.2.2)
    (fun _ _ _ => True.intro)

end Wiring

section Blocks

variable {block : BlockId}
  (held : SoundCoherent settings workspace engine editor)

include held

theorem SoundCoherent.removeBlock (block : BlockId) :
    SoundCoherent settings workspace engine
      (editor.removeBlock workspace block) := by
  have steady := steady_registered editor workspace fun blocks =>
    blocks.erase (editor.block block).id
  refine ⟨held.sound.steady steady, held.home.steady held.sound steady,
    (steady.soleReferences_iff held.sound.layout held.sound.filing).mpr
      held.sole, ?_⟩
  exact held.reshape rfl rfl
    (fun _ => OrderedMap.read_getD_insert Workspace.variableIndex rfl)
    (fun _ _ => rfl) (fun _ _ => rfl) (fun _ _ => rfl)

/-- Flags of a block matter to no binding. -/
theorem SoundCoherent.flag (known : editor.blocks.contains block)
    {change : Block → Block}
    (same : ∀ entry, (change entry).bare = entry.bare) :
    SoundCoherent settings workspace engine
      (editor.updateBlock block change) := by
  have steady := steady_flags editor known same
  refine ⟨held.sound.steady steady, held.home.steady held.sound steady,
    (steady.soleReferences_iff held.sound.layout held.sound.filing).mpr
      held.sole, ?_⟩
  refine held.updateBlock rfl rfl rfl rfl (fun _ _ => rfl) (fun _ _ => rfl) ?_
  intro entry
  exact (congrArg Block.workspace (same entry) :)

variable (settles : Settles workspace react) (ripples : RipplesOnly react)

include settles ripples

theorem SoundCoherent.initBlock (recomputes : settings.initialRecompute = true)
    (known : editor.blocks.contains block) :
    Leads (initBlock react block) editor
      (fun _ => SoundCoherent settings workspace engine) (fun _ _ => True) := by
  refine held.sound.leads_initBlock ripples known held ?_
    (fun _ _ _ => True.intro) ?_
  · intro _ _ current mode outgrows _ heldCurrent
    exact heldCurrent.wire settles ripples recomputes
      (outgrows.knownBlock block known) mode
  · intro current knownCurrent heldCurrent
    exact heldCurrent.flag knownCurrent fun _ => rfl

theorem SoundCoherent.disposeBlock (known : editor.blocks.contains block)
    (limit : Nat) :
    Leads (disposeBlock react limit block) editor
      (fun _ => SoundCoherent settings workspace engine) (fun _ _ => True) := by
  refine held.sound.leads_disposeBlock ripples known limit
    (fun _ => held) (Leads.mono
    ((conducts_releaseWiring held.sound block).and (held.releaseWiring block))
      (fun _ _ both => held.course both.1 both.2.1 both.2.2)
      (fun _ _ _ => True.intro)) ?_ ?_
  · intro current connection _ _ heldCurrent _
    exact heldCurrent.disconnect settles ripples connection
  · intro current knownCurrent heldCurrent
    exact (heldCurrent.removeBlock block).flag knownCurrent fun _ => rfl

end Blocks

end TypeFlow.Editor
