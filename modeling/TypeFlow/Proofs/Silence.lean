import TypeFlow.Proofs.Locality

/-!
# Checks change along live bindings only

A check that an operation changes was written by the operation, belongs to the
block that is wired, or is the target of a live binding that can be reached from
a slot the operation touches: from the sources of live bindings to their
targets, and from outputs to the inputs they are linked with.  So once the
wiring of a block is gone, the checks of the block stay as they are until it is
wired again.  A field that was moved is an exception, since the block it was
moved from still lists it.
-/

namespace TypeFlow

open HostOperation (AllAdmitted Refers perform performAll)

namespace Editor

variable {σ : Type}

/-- Types flow from the sources of a live binding to its target, and from an
output to the input it is linked with. -/
inductive Flows (editor : Editor σ) : Slot → Slot → Prop
  | bound {wiring : WiringId} {key : SlotKey} {binding : Binding}
      {link : Link} :
      editor.OpenBinding wiring key binding → link ∈ binding.links →
      Flows editor link.source binding.target
  | plugged {output input : ConnectionId} :
      (editor.connection output).isOutput = true →
      (editor.connection output).target = some input →
      Flows editor (.connection output) (.connection input)

/-- The slot is the target of a live binding that has a subscription. -/
def LiveTarget (workspace : WorkspaceId) (editor : Editor σ) (slot : Slot) :
    Prop :=
  ∃ wiring target binding source, editor.OpenBinding wiring target binding ∧
    binding.target = slot ∧
      .recompute wiring target ∈
        (editor.workspace workspace).registry.listenersAt source

/-- No binding of the block is live. -/
def Unbound (editor : Editor σ) (block : BlockId) : Prop :=
  ∀ wiring key binding, editor.OpenBinding wiring key binding →
    (editor.wiring wiring).block ≠ block

end Editor

namespace HostOperation

variable {σ : Type}

/-- The operation writes the slot itself, wires the block it is a slot of, or
touches a slot from which types flow to it. -/
def MayChange (workspace : WorkspaceId) (editor : Editor σ)
    (operation : HostOperation) (slot : Slot) : Prop :=
  operation.Writes slot ∨
    (∃ block, operation.Wires editor block ∧ editor.Offers block slot) ∨
    editor.LiveTarget workspace slot ∧
      ∃ source, operation.Touches editor source ∧
        Relation.ReflTransGen editor.Flows source slot

/-- The operation takes back or disposes of the wiring of the block. -/
def Unwires (workspace : WorkspaceId) (editor : Editor σ) (block : BlockId) :
    HostOperation → Prop
  | .releaseWiring released => released = block
  | .disposeWiring wiring =>
      editor.wiringFor? (editor.workspace workspace).engine block = some wiring
  | .disposeBlock disposed =>
      disposed = block ∧ (editor.block block).disposed = false
  | _ => False

/-- The operation wires none of the blocks and writes none of their slots. -/
def LeavesAlone (blocks : BlockId → Prop) (editor : Editor σ)
    (operation : HostOperation) : Prop :=
  ∀ block, blocks block → ¬ operation.Wires editor block ∧
    ∀ slot, editor.Belongs block slot → ¬ operation.Writes slot

end HostOperation

namespace Editor

variable {σ : Type} {settings : Settings} {workspace : WorkspaceId}
  {editor : Editor σ} {operation : HostOperation} {wiring : WiringId}
  {key : SlotKey} {slot : Slot} {binding : Binding} {limit : Nat}
  {outcome : Except Fault Unit}

section Flow

variable {engine : EngineId}

theorem OpenBinding.unique {left right : Binding}
    (isOpen : editor.OpenBinding wiring key left)
    (isOpen' : editor.OpenBinding wiring key right) : left = right :=
  Option.some.inj (isOpen.2.symm.trans isOpen'.2)

theorem Belongs.known (arranged : Arranged editor) {block : BlockId}
    (belongs : editor.Belongs block slot) : editor.Known slot := by
  cases slot with
  | connection connection => exact belongs.1
  | field field => exact (arranged.rowField block field belongs).1

theorem AtEnds.known (linking : editor.Linking) {connection : ConnectionId}
    (known : editor.connections.contains connection)
    (atEnds : editor.AtEnds connection slot) :
    editor.Known slot := by
  rcases atEnds with rfl | ⟨far, linked, rfl⟩
  · exact known
  · exact contains_of_target (linking.back connection far linked)

section Flows

variable (sound : Sound settings workspace engine none editor)

include sound

theorem known_of_touches
    (refers : operation.Refers workspace editor)
    (touches : operation.Touches editor slot) :
    editor.Known slot := by
  have arranged := sound.layout.toArranged
  cases operation with
  | setTypes written check =>
      cases touches
      exact refers
  | setValue field value =>
      cases touches
      exact refers
  | disconnect connection => exact touches.known sound.linking refers
  | connect this other =>
      rcases touches with atThis | atOther
      · exact atThis.known sound.linking refers.1
      · exact atOther.known sound.linking refers.2
  | disposeBlock block =>
      obtain ⟨connection, offers, atEnds⟩ := touches
      exact atEnds.known sound.linking (arranged.belongs_of_offers offers).1
  | _ =>
      obtain ⟨block, _, offers⟩ := touches
      exact (arranged.belongs_of_offers offers).known arranged

/-- Who listens under the key of a slot has types from it. -/
theorem Sound.flows_of_listener
    (housed : Housed workspace editor) (ids : editor.UniqueIds)
    {target : SlotKey} (known : editor.Known slot)
    (hasKey : editor.slotKey slot = .ok key)
    (listed : .recompute wiring target ∈
      (editor.workspace workspace).registry.listenersAt key)
    (isOpen : editor.OpenBinding wiring target binding) :
    editor.Flows slot binding.target := by
  obtain ⟨found, isFound, link, member, rfl⟩ :=
    sound.source_of_listener housed ids known hasKey listed
  cases isOpen.unique isFound
  exact Flows.bound isOpen member

/-- When a slot is written, types flow from it to the targets of those that are
called. -/
theorem Sound.flows_of_echo
    (housed : Housed workspace editor) (ids : editor.UniqueIds)
    {target : SlotKey} (echoes : editor.echoKey? slot = some key)
    (listed : .recompute wiring target ∈
      (editor.workspace workspace).registry.listenersAt key)
    (isOpen : editor.OpenBinding wiring target binding) :
    Relation.ReflTransGen editor.Flows slot binding.target := by
  cases slot with
  | connection connection =>
      obtain ⟨far, linked, hasKey⟩ := Option.map_eq_some_iff.mp echoes
      have knownFar : editor.Known (.connection far) :=
        contains_of_target (sound.linking.back connection far linked)
      have farKey : editor.slotKey (.connection far) = .ok key :=
        congrArg Except.ok hasKey
      obtain ⟨found, isFound, link, member, isSource⟩ :=
        sound.source_of_listener housed ids knownFar farKey listed
      -- Only inputs are listened to, so the written end is an output.
      have fits := sound.wired.source wiring target found isFound link member
      rw [isSource] at fits
      have differs := (sound.linking.faces connection far linked).2
      have isOutput : (editor.connection connection).isOutput = true := by
        simpa [Connection.isOutput, fits.2.2] using differs
      exact (Relation.ReflTransGen.single (Flows.plugged isOutput linked)).tail
        (sound.flows_of_listener housed ids knownFar farKey listed isOpen)
  | field field =>
      cases attached : (editor.field field).block with
      | none =>
          rw [echoKey?, fieldKey_of_detached attached] at echoes
          cases echoes
      | some block =>
          have hasKey := fieldKey_of_attached attached
          rw [echoKey?, hasKey] at echoes
          cases echoes
          exact Relation.ReflTransGen.single (sound.flows_of_listener housed ids
            (contains_of_attached attached) hasKey listed isOpen)

end Flows

theorem touches_of_writes (writes : operation.Writes slot) :
    operation.Touches editor slot := by
  cases operation with
  | setTypes written check => exact writes
  | _ => cases writes

theorem touches_of_wires {block : BlockId}
    (wires : operation.Wires editor block) (offers : editor.Offers block slot) :
    operation.Touches editor slot := by
  cases operation with
  | wire wired mode => exact ⟨block, wires, offers⟩
  | initBlock created => exact ⟨block, wires, offers⟩
  | _ => cases wires

/-- What an operation may change surrounds it. -/
theorem Sound.surrounds_mayChange
    (sound : Sound settings workspace engine none editor)
    (housed : Housed workspace editor) (ids : editor.UniqueIds)
    (refers : operation.Refers workspace editor) :
    Surrounds workspace editor operation (operation.MayChange workspace editor)
      where
  written := fun _ => Or.inl
  wired := fun block _ wires offers => Or.inr (Or.inl ⟨block, wires, offers⟩)
  called := by
    intro slot key touches hasKey wiring target binding listed isOpen
    refine Or.inr (Or.inr ⟨⟨wiring, target, binding, key, isOpen, rfl, listed⟩,
      slot, touches, ?_⟩)
    exact Relation.ReflTransGen.single (sound.flows_of_listener housed ids
      (known_of_touches sound refers touches) hasKey listed isOpen)
  encloses := by
    intro slot key wiring target binding mayChange echoes listed isOpen
    refine Or.inr
      (Or.inr ⟨⟨wiring, target, binding, key, isOpen, rfl, listed⟩, ?_⟩)
    have flows := sound.flows_of_echo housed ids echoes listed isOpen
    rcases mayChange with writes | ⟨block, wires, offers⟩
      | ⟨_, source, touches, path⟩
    · exact ⟨slot, touches_of_writes writes, flows⟩
    · exact ⟨slot, touches_of_wires wires offers, flows⟩
    · exact ⟨source, touches, path.trans flows⟩

end Flow

section Unbound

variable {engine : EngineId} {block : BlockId} {before after : Editor σ}
  {react : Reaction σ}

theorem Unbound.of_opensOnly {wires : BlockId → Prop}
    (unbound : before.Unbound block) (opens : OpensOnly wires before after)
    (unwired : ¬ wires block) : after.Unbound block := by
  intro wiring key binding isOpen onBlock
  rcases opens wiring key binding isOpen with isWired | ⟨earlier, sameBlock⟩
  · rw [onBlock] at isWired
    exact unwired isWired
  · exact unbound wiring key binding earlier (sameBlock.symm.trans onBlock)

theorem Unbound.of_wirings (unbound : before.Unbound block)
    (same : after.wirings = before.wirings) : after.Unbound block := by
  have opens : OpensOnly (fun _ => False) before after :=
    OpensOnly.of_wirings same
  exact unbound.of_opensOnly opens id

/-- The live bindings of a block are on the wiring that is on record for it. -/
theorem Sound.wiring_eq_of_onBlock
    (sound : Sound settings workspace engine none editor) {other : WiringId}
    (found : editor.wiringFor? engine block = some wiring)
    (isOpen : editor.OpenBinding other key binding)
    (onBlock : (editor.wiring other).block = block) : other = wiring := by
  subst onBlock
  have recorded : editor.wiringFor? engine
      (editor.wiring other).block = some other :=
    sound.wired.onRecord other key binding isOpen (by simp)
  rw [recorded] at found
  exact Option.some.inj found

theorem Sound.unbound_of_unrecorded
    (sound : Sound settings workspace engine none editor)
    (unrecorded : editor.wiringFor? engine block = none) :
    editor.Unbound block := by
  rintro wiring key binding isOpen rfl
  have recorded : editor.wiringFor? engine (editor.wiring wiring).block =
      some wiring :=
    sound.wired.onRecord wiring key binding isOpen (by simp)
  rw [unrecorded] at recorded
  cases recorded

/-- After the only wiring of a block with live bindings is disposed of, no
binding of the block is live. -/
theorem unbound_disposeWiring
    (only : ∀ other key binding, editor.OpenBinding other key binding →
      (editor.wiring other).block = block → other = wiring) :
    Ends (disposeWiring wiring) editor (fun after => after.Unbound block) := by
  refine leads_disposeWiring wiring editor ?_ ?_
  · intro disposed other key binding isOpen onBlock
    rw [← only other key binding isOpen onBlock, isOpen.1] at disposed
    cases disposed
  · intro _ _ other key binding isOpen onBlock
    obtain ⟨differs, earlier⟩ := openBinding_closeWiring.mp isOpen
    rw [wiring_closeWiring, if_neg (Ne.symm differs)] at onBlock
    exact differs (only other key binding earlier onBlock)

theorem Sound.unbound_releaseWiring
    (sound : Sound settings workspace engine none editor) :
    Ends (releaseWiring engine block) editor
      (fun after => after.Unbound block) := by
  refine leads_releaseWiring sound.unbound_of_unrecorded fun wiring found => ?_
  refine unbound_disposeWiring ?_
  intro other key binding isOpen onBlock
  exact sound.wiring_eq_of_onBlock found isOpen onBlock

/-- Taking a block apart releases its wiring first. -/
theorem Sound.unbound_disposeBlock
    (sound : Sound settings workspace engine none editor)
    (ripples : RipplesOnly react) (known : editor.blocks.contains block)
    (intact : (editor.block block).disposed = false) (limit : Nat) :
    Ends (disposeBlock react limit block) editor
      (fun after => after.Unbound block) := by
  refine sound.leads_disposeBlock ripples known limit ?_
    sound.unbound_releaseWiring ?_ fun _ _ unbound => unbound.of_wirings rfl
  · intro disposed
    rw [intact] at disposed
    cases disposed
  · intro current connection _ soundHere unbound _
    refine Ends.mono (parted_disconnect soundHere ripples connection) ?_
    intro after parted
    cases parted with
    | free _ same =>
        rw [same]
        exact unbound
    | parted other linked echoed =>
        exact unbound.of_wirings echoed.toSteady.wirings

theorem Sound.unbound_of_unwires {outside : Callbacks σ}
    (keepsOut : KeepsOut outside)
    (sound : Sound settings workspace ⟨0⟩ none before)
    (refers : operation.Refers workspace before)
    (unwires : operation.Unwires workspace before block)
    (run : operation.perform (reaction outside limit) limit workspace before =
      (outcome, after)) : after.Unbound block := by
  suffices ends : Ends (operation.perform (reaction outside limit) limit
      workspace) before (fun after => after.Unbound block) by
    have unbound := (ends_iff _ _ _).mp ends
    rwa [run] at unbound
  cases operation with
  | releaseWiring released =>
      cases unwires
      simp only [Ends, perform, leads_bind, leads_look, leads_discard,
        sound.desk.engineOf]
      exact sound.unbound_releaseWiring
  | disposeWiring wiring =>
      simp only [HostOperation.Unwires, sound.desk.engineOf] at unwires
      exact (leads_discard _).mpr
        (unbound_disposeWiring fun other key binding isOpen onBlock =>
          sound.wiring_eq_of_onBlock unwires isOpen onBlock)
  | disposeBlock disposed =>
      obtain ⟨rfl, intact⟩ := unwires
      exact sound.unbound_disposeBlock (ripplesOnly_reaction keepsOut limit)
        refers intact limit
  | _ => cases unwires

end Unbound

/-- The blocks have no live binding, and checks of slots that no other block
lists stay. -/
structure Silent (blocks : BlockId → Prop) (before after : Editor σ) :
    Prop where
  unbound : ∀ block, blocks block → after.Unbound block
  belongs : ∀ block slot, before.Belongs block slot → after.Belongs block slot
  checks : ∀ block slot, before.Belongs block slot →
    (∀ other, after.Belongs other slot → blocks other) →
      after.slotCheck slot = before.slotCheck slot

section Run

variable {blocks : BlockId → Prop} {before middle after : Editor σ}
  {outside : Callbacks σ}

theorem Silent.refl (unbound : ∀ block, blocks block → editor.Unbound block) :
    Silent blocks editor editor :=
  ⟨unbound, fun _ _ => id, fun _ _ _ _ => rfl⟩

theorem Silent.trans (first : Silent blocks before middle)
    (second : Silent blocks middle after) :
    Silent blocks before after where
  unbound := second.unbound
  belongs := fun block slot listed => second.belongs block slot
    (first.belongs block slot listed)
  checks := by
    intro block slot listed sole
    have soleFirst : ∀ other, middle.Belongs other slot → blocks other :=
      fun other isListed => sole other (second.belongs other slot isListed)
    exact (second.checks block slot (first.belongs block slot listed)
      sole).trans (first.checks block slot listed soleFirst)

theorem Surrounds.confined_of_run {region : Slot → Prop}
    (keepsOut : KeepsOut outside)
    (surrounds : Surrounds workspace before operation region)
    (sound : Sound settings workspace ⟨0⟩ none before)
    (refers : operation.Refers workspace before)
    (run : operation.perform (reaction outside limit) limit workspace before =
      (outcome, after)) : Confined (operation.Wires before) region before
      after :=
  (confined_perform sound (staysIn_reaction keepsOut limit)
    (ripplesOnly_reaction keepsOut limit) surrounds limit refers).holds run

/-- Besides what is written or wired, only targets of live bindings change. -/
theorem surrounds_liveTarget :
    Surrounds workspace editor operation fun slot => operation.Writes slot ∨
      (∃ block, operation.Wires editor block ∧ editor.Offers block slot) ∨
        editor.LiveTarget workspace slot where
  written := fun _ => Or.inl
  wired := fun block _ wires offers => Or.inr (Or.inl ⟨block, wires, offers⟩)
  called := fun _ key _ _ wiring target binding listed isOpen =>
    Or.inr (Or.inr ⟨wiring, target, binding, key, isOpen, rfl, listed⟩)
  encloses := fun _ key wiring target binding _ _ listed isOpen =>
    Or.inr (Or.inr ⟨wiring, target, binding, key, isOpen, rfl, listed⟩)

/-- One operation leaves unbound blocks alone. -/
theorem Silent.step (keepsOut : KeepsOut outside)
    (sound : Sound settings workspace ⟨0⟩ none before)
    (housed : Housed workspace before)
    (unbound : ∀ block, blocks block → before.Unbound block)
    (refers : operation.Refers workspace before)
    (spares : operation.LeavesAlone blocks before)
    (run : operation.perform (reaction outside limit) limit workspace before =
      (outcome, after)) : Silent blocks before after := by
  have course := sound.course_of_run keepsOut refers operation.within_all run
  have grows : ∀ block slot, before.Belongs block slot →
      after.Belongs block slot :=
    fun _ _ => (course.outgrows sound).belongs (course.enlarged sound)
  have confined := surrounds_liveTarget.confined_of_run keepsOut
    sound refers run
  refine ⟨?_, grows, ?_⟩
  · intro block isOne
    exact (unbound block isOne).of_opensOnly confined.opens
      (spares block isOne).1
  · intro block slot listed sole
    have soleBefore : ∀ other, before.Belongs other slot → blocks other :=
      fun other isListed => sole other (grows other slot isListed)
    refine confined.checks slot (listed.known sound.layout.toArranged) ?_
    rintro (writes | ⟨wired, wires, offers⟩ | ⟨wiring, target, binding, _,
      isOpen, rfl, _⟩)
    · exact (spares block (soleBefore block listed)).2 slot listed writes
    · have isListed := sound.layout.toArranged.belongs_of_offers offers
      exact (spares wired (soleBefore wired isListed)).1 wires
    · have onBlock := housed.target wiring target binding isOpen
      exact unbound _ (soleBefore _ onBlock) wiring target binding isOpen rfl

theorem silent_run (keepsOut : KeepsOut outside) (limit : Nat)
    (operations : List HostOperation)
    (sound : Sound settings workspace ⟨0⟩ none editor)
    (housed : Housed workspace editor)
    (unbound : ∀ block, blocks block → editor.Unbound block)
    (admitted : AllAdmitted outside
      (fun current operation _ _ => operation.LeavesAlone blocks current) limit
        workspace operations editor) :
    Silent blocks editor
      (performAll outside limit workspace operations editor) := by
  refine (HostOperation.keeps_performAll (fun current =>
    Sound settings workspace ⟨0⟩ none current ∧ Housed workspace current ∧
      Silent blocks editor current) ?_ operations
      ⟨sound, housed, Silent.refl unbound⟩ admitted).2.2
  rintro before operation outcome after refers run spares
    ⟨sound, housed, silent⟩
  have course := sound.course_of_run keepsOut refers operation.within_all run
  exact ⟨course.sound sound, course.housed sound housed,
    silent.trans (Silent.step keepsOut sound housed silent.unbound
      refers spares run)⟩

end Run

/-- In a reachable state, an operation changes checks only where its own writes
or the bindings called on from the slots it touches lead, whether it returns or
raises.  When the wiring of a block was released or disposed of, the block has
no live binding.  Blocks without live bindings keep the checks that they alone
list until one of them is wired again. -/
theorem checks_change_locally {outside : Callbacks σ}
    (keepsOut : KeepsOut outside) {settings : Settings}
    {workspace : WorkspaceId} {before : Editor σ}
    (reached : Reached outside (fun _ _ _ _ => True) settings workspace
      before) :
    (before.UniqueIds →
      ∀ (operation : HostOperation) (limit : Nat) outcome (after : Editor σ),
      operation.Refers workspace before →
      operation.perform (reaction outside limit) limit workspace before =
        (outcome, after) →
      ∀ slot, before.Known slot → after.slotCheck slot ≠ before.slotCheck slot →
        operation.MayChange workspace before slot) ∧
    (∀ (operation : HostOperation) (limit : Nat) outcome
      (after : Editor σ) block, operation.Refers workspace before →
      operation.Unwires workspace before block →
      operation.perform (reaction outside limit) limit workspace before =
        (outcome, after) →
        after.Unbound block) ∧
    ∀ (blocks : BlockId → Prop) (limit : Nat) (operations : List HostOperation),
      (∀ block, blocks block → before.Unbound block) →
      AllAdmitted outside
        (fun current operation _ _ => operation.LeavesAlone blocks current)
        limit workspace operations before →
        Silent blocks before
          (performAll outside limit workspace operations before) := by
  have sound := reached.sound keepsOut
  have housed := reached.housed keepsOut
  refine ⟨?_, ?_, ?_⟩
  · intro ids operation limit outcome after refers run slot known differs
    by_contra elsewhere
    have confined :=
      (sound.surrounds_mayChange housed ids refers).confined_of_run
        keepsOut sound
      refers run
    exact differs (confined.checks slot known elsewhere)
  · intro operation limit outcome after block refers unwires run
    exact sound.unbound_of_unwires keepsOut refers unwires run
  · intro blocks limit operations unbound admitted
    exact silent_run keepsOut limit operations sound housed unbound admitted

/-- A relay between a source and a sink.  Relay and sink are wired and linked
with each other. -/
def relayChain : List HostOperation :=
  [.newBlock "source" (some "A") [], .setOutput ⟨0⟩ (some ["X"]),
    .newBlock "relay" (some "B") [], .setOutput ⟨1⟩ (some ["From:IN"]),
    .appendInput ⟨1⟩ "IN" none, .newBlock "sink" (some "C") [],
    .setOutput ⟨2⟩ (some ["From:IN"]), .appendInput ⟨2⟩ "IN" none,
    .wire ⟨1⟩ .live, .wire ⟨2⟩ .live, .connect ⟨1⟩ ⟨4⟩]

/-- Linking the source with the relay changes the output of the sink, and does
so no more when the sink is released. -/
theorem checks_change_locally_relayChain :
    ∃ before after released : Editor Unit,
      Reached idle (fun _ _ _ _ => True) {} ⟨0⟩ before ∧ before.UniqueIds ∧
      perform (reaction idle 20) 20 ⟨0⟩ (.connect ⟨0⟩ ⟨2⟩) before =
        (.ok (), after) ∧
      after.slotCheck (.connection ⟨3⟩) ≠ before.slotCheck (.connection ⟨3⟩) ∧
      HostOperation.MayChange ⟨0⟩ before (.connect ⟨0⟩ ⟨2⟩) (.connection ⟨3⟩) ∧
      perform (reaction idle 20) 20 ⟨0⟩ (.releaseWiring ⟨2⟩) before =
        (.ok (), released) ∧
      released.Unbound ⟨2⟩ ∧
      (performAll idle 20 ⟨0⟩ [.connect ⟨0⟩ ⟨2⟩] released).slotCheck
        (.connection ⟨3⟩) = released.slotCheck (.connection ⟨3⟩) := by
  have reached : Reached idle (fun _ _ _ _ => True) {} ⟨0⟩
      (performAll idle 20 ⟨0⟩ relayChain freshWorkspace) :=
    reached_freshWorkspace.performAll 20 relayChain (by decide +kernel)
  generalize isBefore :
    performAll idle 20 ⟨0⟩ relayChain freshWorkspace = before at reached
  have ids : before.UniqueIds := by
    rw [← isBefore]
    decide +kernel
  have connects :
      (perform (reaction idle 20) 20 ⟨0⟩ (.connect ⟨0⟩ ⟨2⟩) before).1 =
      .ok () := by
    rw [← isBefore]
    decide +kernel
  have releases : (perform (reaction idle 20) 20 ⟨0⟩ (.releaseWiring ⟨2⟩)
      before).1 = .ok () := by
    rw [← isBefore]
    decide +kernel
  have refersConnect : Refers ⟨0⟩ before (.connect ⟨0⟩ ⟨2⟩) := by
    rw [← isBefore]
    decide +kernel
  have refersRelease : Refers ⟨0⟩ before (.releaseWiring ⟨2⟩) := by
    rw [← isBefore]
    decide +kernel
  have known : before.connections.contains ⟨3⟩ := by
    rw [← isBefore]
    decide +kernel
  have differs : (perform (reaction idle 20) 20 ⟨0⟩ (.connect ⟨0⟩ ⟨2⟩)
      before).2.slotCheck (.connection ⟨3⟩) ≠ before.slotCheck
      (.connection ⟨3⟩) := by
    rw [← isBefore]
    decide +kernel
  obtain ⟨locally, unwires, _⟩ := checks_change_locally keepsOut_idle reached
  have unbound := unwires (.releaseWiring ⟨2⟩) 20 _ _ ⟨2⟩ refersRelease rfl
    (eq_of_outcome releases)
  have reachedReleased :=
    Reached.performed reached refersRelease (eq_of_outcome releases)
    True.intro
  have silent := (checks_change_locally keepsOut_idle reachedReleased).2.2
    (· = ⟨2⟩) 20
    [.connect ⟨0⟩ ⟨2⟩] (by rintro _ rfl; exact unbound)
      ⟨by rw [← isBefore]; decide +kernel,
      fun _ _ => ⟨nofun, fun _ _ => nofun⟩, True.intro⟩
  refine ⟨before, _, _, reached, ids, eq_of_outcome connects, differs,
    locally ids _ 20 _ _ refersConnect (eq_of_outcome connects) _ known differs,
    eq_of_outcome releases, unbound, silent.checks ⟨2⟩ _ ?_ ?_⟩
  · rw [← isBefore]
    decide +kernel
  · rintro other ⟨_, rfl⟩
    rw [← isBefore]
    decide +kernel

/-- Two wired blocks and a source.  The variable field of the first one, which
takes its types from an input, was moved to the second. -/
def movedField : List HostOperation :=
  [.newBlock "wired" (some "A") [], .appendInput ⟨0⟩ "IN" none,
    .newField "V" (.reference (some ["From:IN"])) .nothing,
    .appendField ⟨0⟩ 0 ⟨0⟩, .newBlock "released" (some "B") [],
    .appendDummyInput ⟨1⟩ "", .newBlock "source" (some "C") [],
    .setOutput ⟨2⟩ (some ["X"]), .wire ⟨0⟩ .live, .wire ⟨1⟩ .live,
    .appendField ⟨1⟩ 0 ⟨0⟩]

/-- After the second block is released, its field still follows the input of the
first one. -/
theorem movedField_not_silent :
    ∃ before released : Editor Unit,
      Reached idle (fun before operation _ _ =>
        operation.Within { Liberties.plain with moves := True } before)
        {} ⟨0⟩ before ∧
      before.UniqueIds ∧ before.liveWiringFor? ⟨0⟩ ⟨1⟩ ≠ none ∧
      perform (reaction idle 20) 20 ⟨0⟩ (.releaseWiring ⟨1⟩) before =
        (.ok (), released) ∧
      released.Belongs ⟨1⟩ (.field ⟨0⟩) ∧
      AllAdmitted idle
        (fun current operation _ _ => operation.LeavesAlone (· = ⟨1⟩) current)
        20 ⟨0⟩ [.connect ⟨1⟩ ⟨0⟩] released ∧
      (performAll idle 20 ⟨0⟩ [.connect ⟨1⟩ ⟨0⟩] released).slotCheck
        (.field ⟨0⟩) ≠ released.slotCheck (.field ⟨0⟩) := by
  have releases : (perform (reaction idle 20) 20 ⟨0⟩ (.releaseWiring ⟨1⟩)
      (performAll idle 20 ⟨0⟩ movedField freshWorkspace)).1 = .ok () := by
    decide +kernel
  refine ⟨performAll idle 20 ⟨0⟩ movedField freshWorkspace, _, ?_, ?_, ?_,
    eq_of_outcome releases, ?_,
    ⟨?_, fun _ _ => ⟨nofun, fun _ _ => nofun⟩, True.intro⟩, ?_⟩
  · exact reached_freshWorkspace.performAll 20 movedField (by decide +kernel)
  all_goals decide +kernel

end Editor

end TypeFlow
