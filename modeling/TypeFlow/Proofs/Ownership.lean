import TypeFlow.Proofs.Locality

/-!
# Wirings and the blocks they belong to

An engine finds the wiring of a block by the block's id, which may go to a new
block when it is free.  A wiring stays with its block as long as ids go to new
blocks only when no wiring under them is left, and blocks whose ids went to
others are not wired any more.
-/

namespace TypeFlow

namespace Editor

variable {σ : Type}

/-- The id of the block went to a block that was made later. -/
def Superseded (editor : Editor σ) (block : BlockId) : Prop :=
  ∃ other ∈ editor.blocks.keys,
    block.number < other.number ∧
      (editor.block other).id = (editor.block block).id

instance decidableSuperseded (editor : Editor σ) (block : BlockId) :
    Decidable (editor.Superseded block) :=
  inferInstanceAs (Decidable (∃ other ∈ editor.blocks.keys,
    block.number < other.number ∧
      (editor.block other).id = (editor.block block).id))

end Editor

/-- An id goes to a new block only if no wiring under it is left, and a block
whose id went to another one is not wired. -/
def HostOperation.RespectsIds {σ : Type} (workspace : WorkspaceId)
    (before after : Editor σ) :
    HostOperation → Prop
  | .newBlock .. => ∀ block ∈ after.blocks.keys, block ∉ before.blocks.keys →
      after.liveWiringFor? (after.workspace workspace).engine block = none
  | .wire block _ => ¬ before.Superseded block
  | .initBlock block =>
      (before.block block).initialized = true ∨ ¬ before.Superseded block
  | _ => True

instance HostOperation.decidableRespectsIds {σ : Type} (workspace : WorkspaceId)
    (before after : Editor σ) :
    (operation : HostOperation) →
      Decidable (operation.RespectsIds workspace before after)
  | .newBlock .. => inferInstanceAs (Decidable (∀ block ∈ after.blocks.keys,
      block ∉ before.blocks.keys →
        after.liveWiringFor? (after.workspace workspace).engine block = none))
  | .wire block _ => inferInstanceAs (Decidable (¬ before.Superseded block))
  | .initBlock block => inferInstanceAs (Decidable
      ((before.block block).initialized = true ∨ ¬ before.Superseded block))
  | .removeBlock .. | .setOutput .. | .appendInput .. | .appendDummyInput ..
  | .newField ..
  | .appendField .. | .createVariable .. | .releaseWiring .. | .disposeWiring ..
  | .disposeBlock .. | .connect .. | .disconnect .. | .setValue ..
  | .setTypes .. | .listen ..
  | .unlisten .. => isTrue trivial

namespace Editor

variable {σ : Type} {settings : Settings} {workspace : WorkspaceId}
  {engine : EngineId} {editor : Editor σ} {wiring : WiringId}

section Owned

variable {block : BlockId} {before after : Editor σ}

/-- A wiring that is on record and not disposed is of the last block of its id.
-/
def Owned (engine : EngineId) (editor : Editor σ) : Prop :=
  ∀ id wiring, (editor.engine engine).wirings.get? id = some wiring →
    (editor.wiring wiring).disposed = false →
      ¬ editor.Superseded (editor.wiring wiring).block

theorem Tracks.superseded_iff {wires : BlockId → Prop}
    (tracks : Tracks engine wires before after) (block : BlockId) :
    after.Superseded block ↔ before.Superseded block := by
  unfold Superseded
  simp only [OrderedMap.mem_keys_iff, tracks.known, tracks.blockId]

theorem Owned.tracks {wires : BlockId → Prop} (owned : before.Owned engine)
    (tracks : Tracks engine wires before after)
    (last : ∀ block, wires block → ¬ before.Superseded block) :
    after.Owned engine := by
  intro id wiring found isOpen
  rw [tracks.superseded_iff]
  rcases tracks.records id wiring found isOpen with isWired
    | ⟨earlier, wasOpen, sameBlock⟩
  · exact last _ isWired
  · rw [sameBlock]
    exact owned id wiring earlier wasOpen

/-- Blocks are made, and nothing is left under their ids. -/
theorem Owned.blocksMade (owned : before.Owned engine)
    (sound : Sound settings workspace engine none before)
    (outgrows : Outgrows before after)
    (engines : after.engines = before.engines)
    (wirings : after.wirings = before.wirings)
    (unwired : ∀ block ∈ after.blocks.keys, block ∉ before.blocks.keys →
      after.liveWiringFor? engine block = none) : after.Owned engine := by
  have sameEngine : after.engine engine = before.engine engine := by
    unfold Editor.engine
    rw [engines]
  have sameWiring : ∀ wiring, after.wiring wiring = before.wiring wiring := by
    intro wiring
    unfold Editor.wiring
    rw [wirings]
  rintro id wiring found isOpen ⟨other, isKnown, later, sameId⟩
  rw [sameEngine] at found
  rw [sameWiring] at isOpen later sameId
  obtain ⟨recorded, isId⟩ := sound.wired.recorded id wiring found
  have known := sound.wired.block wiring recorded
  rw [outgrows.blockId _ known, isId] at sameId
  by_cases earlier : other ∈ before.blocks.keys
  · have otherKnown := (OrderedMap.mem_keys_iff _ _).mp earlier
    rw [outgrows.blockId other otherKnown, ← isId] at sameId
    exact owned id wiring found isOpen ⟨other, earlier, later, sameId⟩
  · have left := unwired other isKnown earlier
    rw [liveWiringFor?, wiringFor?, sameEngine, sameId, found] at left
    simp [sameWiring, isOpen] at left

theorem tables_newBlock (type : String) (id : Option String)
    (extensions : List String) :
    Ends (newBlock workspace type id extensions) editor fun after =>
      after.engines = editor.engines ∧ after.wirings = editor.wirings :=
  leads_newBlock (fun _ _ => ⟨rfl, rfl⟩) fun _ _ _ => ⟨rfl, rfl⟩

/-- Operations other than making blocks put wirings on record only of blocks
that they wire. -/
theorem Sound.tracks_perform {outside : Callbacks σ}
    (keepsOut : KeepsOut outside)
    (sound : Sound settings workspace engine none before)
    {operation : HostOperation} (limit : Nat)
    (refers : operation.Refers workspace before)
    (makesNone : ∀ type id extensions, operation ≠ .newBlock type id
      extensions) :
    Ends (operation.perform (reaction outside limit) limit workspace) before
      (Tracks engine (operation.Wires before) before) := by
  have surrounds : Surrounds workspace before operation fun _ => True :=
    ⟨fun _ _ => True.intro, fun _ _ _ _ => True.intro,
      fun _ _ _ _ _ _ _ _ _ => True.intro, fun _ _ _ _ _ _ _ _ _ => True.intro⟩
  exact Ends.mono (felt_perform sound (staysIn_reaction keepsOut limit)
    (ripplesOnly_reaction keepsOut limit) surrounds limit refers makesNone)
      fun _ felt => felt.toTracks

theorem Owned.perform {outside : Callbacks σ} (keepsOut : KeepsOut outside)
    (owned : before.Owned engine)
    (sound : Sound settings workspace engine none before)
    {operation : HostOperation} {limit : Nat} {outcome : Except Fault Unit}
    (refers : operation.Refers workspace before)
    (run : operation.perform (reaction outside limit) limit workspace before =
      (outcome, after)) (respects : operation.RespectsIds workspace before
        after) : after.Owned engine := by
  have course := sound.course_of_run keepsOut refers operation.within_all run
  by_cases makes : ∃ type id extensions,
    operation = .newBlock type id extensions
  · obtain ⟨type, id, extensions, rfl⟩ := makes
    have tables : Ends (discard (newBlock workspace type id extensions))
      before fun after =>
        after.engines = before.engines ∧ after.wirings = before.wirings := by
      simp only [Ends, leads_discard]
      exact tables_newBlock type id extensions
    obtain ⟨engines, wirings⟩ := tables.holds run
    refine owned.blocksMade sound (course.outgrows sound) engines wirings ?_
    rw [← (course.sound sound).desk.engineOf]
    exact respects
  · have tracks :=
      (sound.tracks_perform keepsOut limit refers
        fun type id extensions isMade =>
          makes ⟨type, id, extensions, isMade⟩).holds run
    apply owned.tracks tracks
    intro wired wires
    cases operation with
    | wire block mode =>
        rw [show wired = block from wires]
        exact respects
    | initBlock block =>
        obtain ⟨rfl, fresh, _⟩ := wires
        rcases respects with initialized | last
        · rw [fresh] at initialized
          cases initialized
        · exact last
    | _ => exact wires.elim

theorem Reached.owned {outside : Callbacks σ} (keepsOut : KeepsOut outside)
    (reached : Reached outside
      (fun before operation _ after => operation.RespectsIds workspace before
        after) settings workspace editor) : editor.Owned ⟨0⟩ := by
  induction reached with
  | opened run =>
      obtain ⟨blank, _⟩ := blank_openWorkspace.returns run
      intro id wiring found
      rw [blank.records] at found
      cases found
  | performed sofar refers run respects owned =>
      exact owned.perform keepsOut (sofar.sound keepsOut) refers run respects

/-- Of two blocks with the same id, the one made first is superseded. -/
theorem Owned.block_of_live (owned : editor.Owned engine)
    (sound : Sound settings workspace engine none editor)
    (known : editor.blocks.contains block) (last : ¬ editor.Superseded block)
    (live : editor.liveWiringFor? engine block = some wiring) :
    (editor.wiring wiring).block = block := by
  obtain ⟨found, isOpen⟩ := Option.filter_eq_some_iff.mp live
  rw [Bool.not_eq_true'] at isOpen
  obtain ⟨recorded, sameId⟩ := sound.wired.recorded _ wiring found
  have ownerKnown := sound.wired.block wiring recorded
  have ownerLast := owned _ wiring found isOpen
  rcases Nat.lt_trichotomy (editor.wiring wiring).block.number block.number with
    earlier | same | later
  · exact absurd ⟨block, (OrderedMap.mem_keys_iff _ _).mpr known, earlier,
      sameId.symm⟩ ownerLast
  · exact congrArg BlockId.mk same
  · exact absurd ⟨_, (OrderedMap.mem_keys_iff _ _).mpr ownerKnown,
      later, sameId⟩ last

end Owned

section Wire

variable {block : BlockId} {mode : WiringMode} {react : Reaction σ}
  {after : Editor σ}

theorem wiringFor?_recordWiring (editor : Editor σ) (engine : EngineId)
    (block : BlockId) (wiring : WiringId) :
    (editor.recordWiring engine block wiring).wiringFor? engine block =
      some wiring := by
  change ((editor.recordWiring engine block wiring).engine engine).wirings.get?
    _ = _
  rw [recordWiring, engine_updateEngine, if_pos rfl]
  exact (OrderedMap.get?_insert _ _ _ _).trans (if_pos rfl)

/-- The wiring that is on record is returned, or else a new one is put there. -/
theorem returns_wire :
    Leads (wire react engine block mode) editor
      (fun wiring after => editor.liveWiringFor? engine block = some wiring ∧
        after = editor ∨
        wiring = editor.nextWiring ∧
        after.wiringFor? engine block = some wiring)
      (fun _ _ => True) := by
  have records : ∀ current : Editor σ,
      (current.recordWiring engine block editor.nextWiring).wiringFor?
        engine block =
        some editor.nextWiring :=
    fun current => wiringFor?_recordWiring current engine block
      editor.nextWiring
  simp only [wire, leads_bind, leads_look]
  split
  · rename_i live
    exact Or.inl ⟨live, rfl⟩
  · simp only [newWiring, leads_bind, leads_look, leads_modify, leads_pure]
    cases mode with
    | static =>
        simp only [leads_bind, leads_modify]
        exact Leads.imp (leads_trivial _ _)
          (fun _ _ _ => Or.inr ⟨rfl, records _⟩)
    | live =>
        change Leads (if (editor.targetsFor engine block).isEmpty = true
          then _ else _) _ _ _
        split
        · exact Or.inr ⟨rfl, records _⟩
        · simp only [leads_bind, leads_modify]
          exact Leads.imp (leads_trivial _ _)
            (fun _ _ _ => Or.inr ⟨rfl, records _⟩)

/-- A wiring that was made is of the block it was made for. -/
theorem WireEnd.block_of_record
    (sound : Sound settings workspace engine none editor)
    (known : editor.blocks.contains block)
    (ending : WireEnd workspace engine block mode editor after)
    (recorded : after.wiringFor? engine block = some editor.nextWiring) :
    (after.wiring editor.nextWiring).block = block := by
  have assembledBlock : ∀ {assembled : Editor σ},
      AssemblyCourse workspace engine
        (TargetSlot (editor.targetsFor engine block))
        editor.nextWiring (editor.beginWiring engine block mode) assembled →
      (assembled.wiring editor.nextWiring).block = block := by
    intro assembled course
    rw [course.kept.block, wiring_beginWiring, if_pos rfl]
  cases ending with
  | kept =>
      exact absurd (sound.wired.recorded _ _ recorded).1
        sound.tables.wiring_next
  | @recorded assembled _ course =>
      change (assembled.wiring editor.nextWiring).block = block
      exact assembledBlock course
  | dropped _ course => exact assembledBlock course
  | @undone broken idle course =>
      have ready := ready_beginWiring sound known idle mode
      rw [(steady_undo_close ready course).wiring, wiring_closeWiring,
        if_pos rfl]
      exact assembledBlock course

theorem Owned.block_of_wire (owned : editor.Owned engine)
    (sound : Sound settings workspace engine none editor)
    (ripples : RipplesOnly react) (known : editor.blocks.contains block)
    (last : ¬ editor.Superseded block)
    (run : wire react engine block mode editor = (.ok wiring, after)) :
    (after.wiring wiring).block = block := by
  have wired := (leads_wire Liberties.all sound known ripples
    (fun _ => True.intro) (fun _ => Walk.trivial)).returns run
  rcases returns_wire.returns run with ⟨live, same⟩ | ⟨isNew, recorded⟩
  · rw [same]
    exact owned.block_of_live sound known last live
  · rw [isNew] at recorded ⊢
    exact wired.1.ending.block_of_record sound known recorded

end Wire

section Release

variable {block : BlockId} {react : Reaction σ} {before middle after : Editor σ}
  {id : SubscriptionId} {subscription : Subscription Listener}

/-- The block for whose wiring the subscription was made. -/
def subscriber? (editor : Editor σ) (id : SubscriptionId) : Option BlockId :=
  match editor.subscription? id with
  | some { listener := .recompute wiring _, .. } =>
      some (editor.wiring wiring).block
  | _ => none

theorem isActive_eq_true_iff : editor.isActive id = true ↔
    ∃ subscription, editor.subscription? id = some subscription ∧
      subscription.active = true := by
  unfold isActive
  cases editor.subscription? id with
  | none => simp
  | some subscription => simp

theorem subscriber?_eq_some_iff
    (found : editor.subscription? id = some subscription) :
    editor.subscriber? id = some block ↔
      ∃ wiring target, subscription.listener = .recompute wiring target ∧
        (editor.wiring wiring).block = block := by
  obtain ⟨key, listener, active⟩ := subscription
  unfold subscriber?
  rw [found]
  cases listener with
  | recompute wiring target => simp
  | callback callback => simp

/-- Of the active subscriptions, just those made for the block ended. -/
def EndsOwn (workspace : WorkspaceId) (block : BlockId)
    (before after : Editor σ) : Prop :=
  ∀ id, before.isActive id = true →
    (after.isActive id = false ↔ id.workspace = workspace ∧
      before.subscriber? id = some block)

theorem EndsOwn.of_registry (endsOwn : EndsOwn workspace block before middle)
    (registry : ∀ id, (after.workspace id).registry =
      (middle.workspace id).registry) :
    EndsOwn workspace block before after := by
  intro id active
  rw [Underway.isActive_congr registry]
  exact endsOwn id active

/-- Active subscriptions are made for wirings on record. -/
theorem Sound.onRecord_of_active
    (sound : Sound settings workspace engine none editor)
    (inWorkspace : id.workspace = workspace)
    (found : editor.subscription? id = some subscription)
    (active : subscription.active = true) {target : SlotKey}
    (isListener : subscription.listener = .recompute wiring target) :
    (editor.wiring wiring).disposed = false ∧
      editor.wiringFor? engine (editor.wiring wiring).block = some wiring := by
  unfold subscription? at found
  rw [inWorkspace] at found
  have listed :=
    (sound.heard.exact.mem_iff subscription.key (.recompute wiring target)).mpr
    ⟨id.number, subscription, found, active, rfl, isListener⟩
  obtain ⟨binding, isOpen⟩ := sound.heard.bound _ wiring target listed
  exact ⟨isOpen.1, sound.wired.onRecord wiring target binding isOpen nofun⟩

/-- A block without a wiring has no active subscriptions. -/
theorem Sound.endsOwn_refl (sound : Sound settings workspace engine none editor)
    (idle : editor.liveWiringFor? engine block = none) :
    EndsOwn workspace block editor editor := by
  intro id active
  rw [active]
  refine ⟨nofun, ?_⟩
  rintro ⟨inWorkspace, isOwn⟩
  obtain ⟨subscription, found, isActive⟩ := isActive_eq_true_iff.mp active
  obtain ⟨wiring, target, isListener, sameBlock⟩ :=
    (subscriber?_eq_some_iff found).mp isOwn
  obtain ⟨isOpen, onRecord⟩ :=
    sound.onRecord_of_active inWorkspace found isActive isListener
  rw [sameBlock] at onRecord
  rw [liveWiringFor?, onRecord] at idle
  simp [isOpen] at idle

/-- Closing a wiring ends just its own subscriptions. -/
theorem Heard.isActive_closeWiring (heard : Heard workspace editor)
    (wiring : WiringId) (found : editor.subscription? id = some subscription)
    (active : subscription.active = true) :
    (editor.closeWiring wiring).isActive id = false ↔
      id.workspace = workspace ∧ subscription.listener.isOf wiring = true := by
  have entry := workspace_closeWiring editor wiring
    (fun other isOwn => (heard.own wiring other isOwn).1) id.workspace
  by_cases here : workspace = id.workspace
  · have foundHere :
        (editor.workspace workspace).registry.subscription? id.number =
        some subscription := by
      rw [here]
      exact found
    rw [if_pos here] at entry
    have closed := Registry.subscription?_releaseAll
      (editor.workspace workspace).registry
      (((editor.wiring wiring).subscriptions.filter editor.isActive).map
        SubscriptionId.number)
      id.number
    rw [foundHere] at closed
    unfold isActive subscription?
    rw [entry, closed]
    by_cases isOwn : subscription.listener.isOf wiring = true
    · rw [if_pos ((heard.number_mem_iff foundHere).mpr ⟨active, isOwn⟩)]
      exact ⟨fun _ => ⟨here.symm, isOwn⟩, fun _ => rfl⟩
    · rw [if_neg fun member =>
        isOwn ((heard.number_mem_iff foundHere).mp member).2]
      simp [active, isOwn]
  · rw [if_neg here] at entry
    unfold isActive subscription?
    rw [entry, ← subscription?, found]
    simp [active, Ne.symm here]

theorem Owned.endsOwn_releaseWiring (owned : editor.Owned engine)
    (sound : Sound settings workspace engine none editor)
    (known : editor.blocks.contains block) (last : ¬ editor.Superseded block) :
    Ends (releaseWiring engine block) editor
      (EndsOwn workspace block editor) := by
  refine leads_releaseWiring (fun unrecorded => ?_) fun wiring found => ?_
  · refine sound.endsOwn_refl ?_
    rw [liveWiringFor?, unrecorded]
    rfl
  · have forgets : Change Liberties.all workspace engine
      none editor (some wiring)
      (editor.forgetWiring engine block) := Change.forgotten found
    apply leads_disposeWiring
    · intro disposed
      have wasDisposed : (editor.wiring wiring).disposed = true := disposed
      refine sound.endsOwn_refl ?_
      rw [liveWiringFor?, found]
      simp [wasDisposed]
    · intro isOpen _
      have live : editor.liveWiringFor? engine block = some wiring := by
        refine Option.filter_eq_some_iff.mpr ⟨found, ?_⟩
        rw [Bool.not_eq_true']
        exact isOpen
      have sameBlock := owned.block_of_live sound known last live
      intro id active
      obtain ⟨subscription, isFound, isActive⟩ := isActive_eq_true_iff.mp active
      refine ((forgets.sound sound).heard.isActive_closeWiring wiring isFound
        isActive).trans ?_
      refine and_congr_right fun inWorkspace => ?_
      rw [Listener.isOf_eq_true_iff, subscriber?_eq_some_iff isFound]
      constructor
      · rintro ⟨target, isListener⟩
        exact ⟨wiring, target, isListener, sameBlock⟩
      · rintro ⟨other, target, isListener, otherBlock⟩
        have onRecord :=
          (sound.onRecord_of_active inWorkspace isFound isActive isListener).2
        rw [otherBlock, found] at onRecord
        cases onRecord
        exact ⟨target, isListener⟩

theorem Owned.endsOwn_disposeBlock (owned : editor.Owned engine)
    (sound : Sound settings workspace engine none editor)
    (ripples : RipplesOnly react) (known : editor.blocks.contains block)
    (last : ¬ editor.Superseded block) (limit : Nat)
    (intact : (editor.block block).disposed = false) :
    Ends (disposeBlock react limit block) editor
      (EndsOwn workspace block editor) := by
  refine sound.leads_disposeBlock ripples known limit ?_
    (owned.endsOwn_releaseWiring sound known last) ?_ fun current known sofar =>
      sofar.of_registry (steady_retireBlock known).registry
  · intro disposed
    rw [intact] at disposed
    cases disposed
  · intro current connection _ soundHere sofar _
    apply Ends.mono (parted_disconnect soundHere ripples connection)
    intro next parted
    cases parted with
    | free _ same =>
        rw [same]
        exact sofar
    | parted other _ echoed => exact sofar.of_registry echoed.toSteady.registry

theorem keeps_disposeBlock_of_disposed
    (disposed : (editor.block block).disposed = true) (limit : Nat) :
    Ends (disposeBlock react limit block) editor (· = editor) := by
  simp only [Ends, disposeBlock, leads_bind, leads_look, disposed, if_true]
  rfl

end Release

/-- A block whose id has not gone to a later one is wired with a wiring of its
own, and releasing it or taking it apart ends just the subscriptions made for
it. -/
theorem wiring_belongs_to_block {outside : Callbacks σ}
    (keepsOut : KeepsOut outside) {settings : Settings}
    {workspace : WorkspaceId} {editor : Editor σ}
    (reached : Reached outside (fun before operation _ after =>
      operation.RespectsIds workspace before after) settings workspace editor)
    {block : BlockId} (known : editor.blocks.contains block)
    (last : ¬ editor.Superseded block) (limit : Nat) :
    (∀ mode wiring after,
      wire (reaction outside limit) (editor.workspace workspace).engine
        block mode editor = (.ok wiring, after) →
        (after.wiring wiring).block = block) ∧
    (∀ outcome after,
      releaseWiring (editor.workspace workspace).engine block editor =
        (outcome, after) →
        EndsOwn workspace block editor after) ∧
    (∀ outcome after,
      disposeBlock (reaction outside limit) limit block editor =
        (outcome, after) →
        (editor.block block).disposed = true ∧ after = editor ∨
          EndsOwn workspace block editor after) := by
  have sound := reached.sound keepsOut
  have owned := reached.owned keepsOut
  have ripples := ripplesOnly_reaction keepsOut limit
  rw [sound.desk.engineOf]
  refine ⟨?_, ?_, ?_⟩
  · intro mode wiring after run
    exact owned.block_of_wire sound ripples known last run
  · intro outcome after run
    exact (owned.endsOwn_releaseWiring sound known last).holds run
  · intro outcome after run
    cases disposed : (editor.block block).disposed with
    | true =>
        exact Or.inl ⟨rfl,
          (keeps_disposeBlock_of_disposed disposed limit).holds run⟩
    | false =>
        exact Or.inr ((owned.endsOwn_disposeBlock sound ripples known last limit
          disposed).holds run)

/-- A block was wired and taken apart, and its id went to another one that is
wired too, next to a third block. -/
def reusedId : List HostOperation :=
  [.newBlock "first" (some "A") [], .appendInput ⟨0⟩ "IN" none,
    .setOutput ⟨0⟩ (some ["From:IN"]), .wire ⟨0⟩ .live, .disposeBlock ⟨0⟩,
    .newBlock "second" (some "A") [], .appendInput ⟨1⟩ "IN" none,
    .setOutput ⟨1⟩ (some ["From:IN"]), .wire ⟨1⟩ .live,
    .newBlock "third" (some "B") [], .appendInput ⟨2⟩ "IN" none,
    .setOutput ⟨2⟩ (some ["From:IN"]), .wire ⟨2⟩ .live]

/-- The second block has a wiring of its own, and only its subscription ends
when it is taken apart. -/
theorem wiring_belongs_to_block_reusedId :
    ∃ editor : Editor Unit,
      Reached idle (fun before operation _ after =>
        operation.RespectsIds ⟨0⟩ before after) {} ⟨0⟩ editor ∧
      (editor.block ⟨0⟩).id = (editor.block ⟨1⟩).id ∧
      ∃ wiring after, wire (reaction idle 20) ⟨0⟩ ⟨1⟩ .live editor =
        (.ok wiring, after) ∧
        (after.wiring wiring).block = ⟨1⟩ ∧
        editor.isActive ⟨⟨0⟩, 1⟩ = true ∧ editor.isActive ⟨⟨0⟩, 2⟩ = true ∧
        (disposeBlock (reaction idle 20) 20 ⟨1⟩ editor).2.isActive
          ⟨⟨0⟩, 1⟩ = false ∧
        (disposeBlock (reaction idle 20) 20 ⟨1⟩ editor).2.isActive ⟨⟨0⟩, 2⟩ =
          true := by
  have reached : Reached idle
      (fun before operation _ after => operation.RespectsIds ⟨0⟩ before after)
      {} ⟨0⟩ (HostOperation.performAll idle 20 ⟨0⟩ reusedId freshWorkspace) :=
    reached_freshWorkspace.performAll 20 reusedId (by decide +kernel)
  generalize isEditor : HostOperation.performAll idle 20 ⟨0⟩ reusedId
    freshWorkspace =
    editor at reached
  have known : editor.blocks.contains ⟨1⟩ ∧ ¬ editor.Superseded ⟨1⟩ ∧
      (editor.workspace ⟨0⟩).engine = ⟨0⟩ ∧
      (editor.block ⟨1⟩).disposed = false := by
    rw [← isEditor]
    decide +kernel
  have active : editor.isActive ⟨⟨0⟩, 1⟩ = true ∧
      editor.isActive ⟨⟨0⟩, 2⟩ = true := by
    rw [← isEditor]
    decide +kernel
  have subscribers : editor.subscriber? ⟨⟨0⟩, 1⟩ = some ⟨1⟩ ∧
      editor.subscriber? ⟨⟨0⟩, 2⟩ = some ⟨2⟩ := by
    rw [← isEditor]
    decide +kernel
  have returns : (wire (reaction idle 20) ⟨0⟩ ⟨1⟩ .live editor).1 =
      .ok ⟨1⟩ := by
    rw [← isEditor]
    decide +kernel
  obtain ⟨wires, _, disposes⟩ := wiring_belongs_to_block keepsOut_idle reached
    known.1 known.2.1 20
  rw [known.2.2.1] at wires
  rcases disposes _ _ rfl with ⟨disposed, _⟩ | endsOwn
  · rw [known.2.2.2] at disposed
    cases disposed
  · have ended := endsOwn _ active.1
    have others := endsOwn _ active.2
    rw [subscribers.1] at ended
    rw [subscribers.2] at others
    refine ⟨editor, reached, ?_, ⟨1⟩, _, eq_of_outcome returns,
      wires _ _ _ (eq_of_outcome returns), active.1, active.2,
      ended.mpr ⟨rfl, rfl⟩, ?_⟩
    · rw [← isEditor]
      decide +kernel
    · rw [← Bool.not_eq_false]
      intro isEnded
      cases (others.mp isEnded).2

/-- A wired block left the workspace and its id went to another block. -/
def inheritedWiring : List HostOperation :=
  [.newBlock "first" (some "A") [], .appendInput ⟨0⟩ "IN" none,
    .setOutput ⟨0⟩ (some ["From:IN"]), .wire ⟨0⟩ .live, .removeBlock ⟨0⟩,
    .newBlock "second" (some "A") []]

/-- The second block gets the wiring of the first, and releasing it or taking
it apart ends the subscription of the first. -/
theorem inheritedWiring_of_other_block :
    ∃ editor : Editor Unit,
      Reached idle (fun _ _ outcome _ => outcome = .ok ()) {} ⟨0⟩ editor ∧
      editor.blocks.contains ⟨1⟩ ∧ ¬ editor.Superseded ⟨1⟩ ∧
      (wire (reaction idle 20) ⟨0⟩ ⟨1⟩ .live editor).1 = .ok ⟨0⟩ ∧
      ((wire (reaction idle 20) ⟨0⟩ ⟨1⟩ .live editor).2.wiring ⟨0⟩).block =
        ⟨0⟩ ∧
      editor.isActive ⟨⟨0⟩, 0⟩ = true ∧ editor.subscriber? ⟨⟨0⟩, 0⟩ = some ⟨0⟩ ∧
      (releaseWiring ⟨0⟩ ⟨1⟩ editor).2.isActive ⟨⟨0⟩, 0⟩ = false ∧
      (disposeBlock (reaction idle 20) 20 ⟨1⟩ editor).2.isActive ⟨⟨0⟩, 0⟩ =
        false := by
  refine ⟨HostOperation.performAll idle 20 ⟨0⟩ inheritedWiring freshWorkspace,
    ?_, ?_, ?_, ?_, ?_, ?_, ?_, ?_, ?_⟩
  · exact reached_freshWorkspace.performAll 20 inheritedWiring
      (by decide +kernel)
  all_goals decide +kernel

end Editor

end TypeFlow
