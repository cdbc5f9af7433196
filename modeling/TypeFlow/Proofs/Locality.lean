import TypeFlow.Proofs.Containment
import TypeFlow.Proofs.Host.Housed
import TypeFlow.Proofs.Host.Records

/-!
# How far an operation is felt

An operation writes some slots of its own accord and calls listeners under the
keys of the slots it touches.  Everything else is done by the bindings that are
called.  So if a region holds the slots that are written and the targets of the
bindings that are called from there, checks outside the region stay, whether
the operation returns or raises.
-/

namespace TypeFlow

namespace Editor

variable {σ : Type}

/-- The slot is the connection or the one at its far end. -/
def AtEnds (editor : Editor σ) (connection : ConnectionId) (slot : Slot) :
    Prop :=
  slot = .connection connection ∨
    ∃ far, (editor.connection connection).target = some far ∧
      slot = .connection far

end Editor

namespace HostOperation

variable {σ : Type}

/-- The slot is written by the operation itself. -/
def Writes : HostOperation → Slot → Prop
  | .setTypes written _, slot => slot = written
  | _, _ => False

/-- The operation wires the block or tries to. -/
def Wires (editor : Editor σ) : HostOperation → BlockId → Prop
  | .wire wired _, block => block = wired
  | .initBlock created, block => block = created ∧
      (editor.block created).initialized = false ∧
        Editor.wireExtension ∈ (editor.block created).extensions
  | _, _ => False

/-- Listeners of the slot may be called by the operation itself. -/
def Touches (editor : Editor σ) (operation : HostOperation) (slot : Slot) :
    Prop :=
  match operation with
  | .setTypes written _ => slot = written
  | .setValue field _ => slot = .field field
  | .disconnect connection => editor.AtEnds connection slot
  | .connect this other => editor.AtEnds this slot ∨ editor.AtEnds other slot
  | .disposeBlock block => ∃ connection,
      editor.Offers block (.connection connection) ∧
        editor.AtEnds connection slot
  | operation =>
      ∃ block, operation.Wires editor block ∧ editor.Offers block slot

end HostOperation

namespace Editor

variable {σ : Type} {wires : BlockId → Prop}
  {after current : Editor σ} {slot : Slot} {settings : Settings}
  {workspace : WorkspaceId} {engine : EngineId} {region : Slot → Prop}
  {touched : SlotKey → Prop} {this other : ConnectionId} {block : BlockId}

/-- Open bindings were open before, or their blocks are among those that are
wired. -/
def OpensOnly (wires : BlockId → Prop) (before after : Editor σ) : Prop :=
  ∀ wiring key binding, after.OpenBinding wiring key binding →
    wires (after.wiring wiring).block ∨ before.OpenBinding wiring key binding ∧
      (after.wiring wiring).block = (before.wiring wiring).block

/-- Outside the region the checks of the slots there are stay. -/
structure Confined (wires : BlockId → Prop) (region : Slot → Prop)
    (before after : Editor σ) :
    Prop where
  checks : ∀ slot, before.Known slot → ¬ region slot →
    after.slotCheck slot = before.slotCheck slot
  opens : OpensOnly wires before after

/-- In addition, only wirings of blocks that are wired are put on record. -/
structure Felt (engine : EngineId) (wires : BlockId → Prop)
    (region : Slot → Prop) (before after : Editor σ) : Prop
    extends Confined wires region before after, Tracks engine wires before after

/-- Blocks and slots are where they were, links are not new unless listeners of
their ends are called anyway, and all calls stay in the region. -/
structure Framed (workspace : WorkspaceId) (region : Slot → Prop)
    (wires : BlockId → Prop) (touched : SlotKey → Prop)
    (start current : Editor σ) : Prop where
  layout : SameLayout start current
  links : ∀ this other, (current.connection this).target = some other →
    (start.connection this).target = some other ∨
      touched (start.connection other).key
  encloses : Encloses workspace current region
  calls : ∀ key, touched key → CallsInto workspace current region key
  opens : OpensOnly wires start current

/-- In addition, checks outside the region are as they were, and only wirings of
blocks that are wired are put on record. -/
structure Holding (workspace : WorkspaceId) (engine : EngineId)
    (region : Slot → Prop) (wires : BlockId → Prop) (touched : SlotKey → Prop)
    (start current : Editor σ) : Prop extends Framed workspace region wires
      touched start current where
  tracks : Tracks engine wires start current
  checks : ∀ slot, ¬ region slot → current.slotCheck slot = start.slotCheck slot

section Opens

variable {before middle : Editor σ}

theorem OpensOnly.of_wirings (same : after.wirings = before.wirings) :
    OpensOnly wires before after := by
  intro wiring key binding isOpen
  have sameWiring : after.wiring wiring = before.wiring wiring := by
    unfold Editor.wiring
    rw [same]
  refine Or.inr ⟨?_, by rw [sameWiring]⟩
  unfold OpenBinding at isOpen ⊢
  rwa [sameWiring] at isOpen

theorem OpensOnly.trans (first : OpensOnly wires before middle)
    (second : OpensOnly wires middle after) : OpensOnly wires before after := by
  intro wiring key binding isOpen
  rcases second wiring key binding isOpen with isWired | ⟨earlier, sameBlock⟩
  · exact Or.inl isWired
  · rcases first wiring key binding earlier with wasWired | ⟨earliest, wasSame⟩
    · rw [← sameBlock] at wasWired
      exact Or.inl wasWired
    · exact Or.inr ⟨earliest, sameBlock.trans wasSame⟩

theorem opensOnly_closeWiring (editor : Editor σ) (wiring : WiringId) :
    OpensOnly wires editor (editor.closeWiring wiring) := by
  intro other key binding isOpen
  obtain ⟨differs, earlier⟩ := openBinding_closeWiring.mp isOpen
  rw [wiring_closeWiring, if_neg (Ne.symm differs)]
  exact Or.inr ⟨earlier, rfl⟩

end Opens

/-- With the same keys and no new link, no other listeners are called when a
slot is written. -/
theorem echoKey?_of_links {before : Editor σ}
    (slotKey : ∀ slot, after.slotKey slot = before.slotKey slot)
    (links : ∀ this other, (after.connection this).target = some other →
      (before.connection this).target = some other) {key : SlotKey}
    (echoes : after.echoKey? slot = some key) :
    before.echoKey? slot = some key := by
  cases slot with
  | connection connection =>
      obtain ⟨far, linked, hasKey⟩ := Option.map_eq_some_iff.mp echoes
      have sameKey : (after.connection far).key = (before.connection far).key :=
        Except.ok.inj (slotKey (.connection far))
      refine Option.map_eq_some_iff.mpr ⟨far, links connection far linked, ?_⟩
      rw [← sameKey]
      exact hasKey
  | field field =>
      exact (congrArg Except.toOption (slotKey (.field field))).symm.trans
        echoes

section Frame

variable {start : Editor σ}
  (framed : Framed workspace region wires touched start current)

include framed

/-- Changes after which nobody new listens and nothing new is linked. -/
theorem Framed.step (layout : SameLayout current after)
    (slotKey : ∀ slot, after.slotKey slot = current.slotKey slot)
    (links : ∀ this other, (after.connection this).target = some other →
      (current.connection this).target = some other) (listeners :
      ∀ key wiring target,
      .recompute wiring target ∈
        (after.workspace workspace).registry.listenersAt key →
        .recompute wiring target ∈
          (current.workspace workspace).registry.listenersAt key)
    (opens : ∀ wiring key binding, after.OpenBinding wiring key binding →
      current.OpenBinding wiring key binding ∧
        (after.wiring wiring).block = (current.wiring wiring).block) :
    Framed workspace region wires touched start after := by
  have calls : ∀ key, CallsInto workspace current region key →
      CallsInto workspace after region key := by
    intro key calls wiring target binding listed isOpen
    exact calls wiring target binding (listeners key wiring target listed)
      (opens wiring target binding isOpen).1
  constructor
  · exact framed.layout.trans layout
  · intro this other linked
    exact framed.links this other (links this other linked)
  · rw [encloses_iff]
    intro slot key inside echoes
    exact calls key (encloses_iff.mp framed.encloses slot key inside
      (echoKey?_of_links slotKey links echoes))
  · intro key isTouched
    exact calls key (framed.calls key isTouched)
  · exact framed.opens.trans fun wiring key binding isOpen =>
      Or.inr (opens wiring key binding isOpen)

theorem Framed.steady (steady : Steady current after) :
    Framed workspace region wires touched start after := by
  refine framed.step steady.sameLayout steady.slotKey ?_ ?_ ?_
  · intro this other linked
    rwa [steady.connectionTarget] at linked
  · intro key wiring target listed
    rwa [steady.registry] at listed
  · intro wiring key binding isOpen
    exact ⟨steady.openBinding.mp isOpen, by rw [steady.wiring]⟩

theorem Framed.unlink (linking : current.Linking)
    (linked : (current.connection this).target = some other) :
    Framed workspace region wires touched start
      (current.unlink this other) := by
  have back := linking.back this other linked
  refine framed.step (sameLayout_setTargets (contains_of_target linked)
    (contains_of_target back)
    none none) (slotKey_setTargets current this other none none) ?_
    (fun _ _ _ => id)
    (fun _ _ _ isOpen => ⟨isOpen, rfl⟩)
  intro left right joined
  rw [target_unlink] at joined
  split at joined
  · cases joined
  · exact joined

/-- A link between connections whose listeners are called. -/
theorem Framed.link (knownThis : current.connections.contains this)
    (knownOther : current.connections.contains other)
    (near : touched (start.connection this).key)
    (far : touched (start.connection other).key) :
    Framed workspace region wires touched start (current.link this other) := by
  have layout : SameLayout current (current.link this other) :=
    sameLayout_setTargets knownThis knownOther (some other) (some this)
  have joins : ∀ left right,
      ((current.link this other).connection left).target = some right →
      (current.connection left).target = some right ∨
        touched (start.connection right).key := by
    intro left right joined
    rw [Editor.link, target_setTargets] at joined
    split at joined
    · cases joined
      exact Or.inr near
    · split at joined
      · cases joined
        exact Or.inr far
      · exact Or.inl joined
  constructor
  · exact framed.layout.trans layout
  · intro left right joined
    rcases joins left right joined with earlier | isTouched
    · exact framed.links left right earlier
    · exact Or.inr isTouched
  · rw [encloses_iff]
    intro slot key inside echoes
    have encloses := encloses_iff.mp framed.encloses slot key inside
    cases slot with
    | field field => exact encloses echoes
    | connection left =>
        obtain ⟨right, joined, hasKey⟩ := Option.map_eq_some_iff.mp echoes
        rw [layout.connectionKey] at hasKey
        rcases joins left right joined with earlier | isTouched
        · exact encloses (Option.map_eq_some_iff.mpr ⟨right, earlier, hasKey⟩)
        · rw [← framed.layout.connectionKey, hasKey] at isTouched
          exact framed.calls key isTouched
  · exact framed.calls
  · exact framed.opens

theorem Framed.forgetWiring (engine : EngineId) (block : BlockId) :
    Framed workspace region wires touched start
      (current.forgetWiring engine block) :=
  framed.step (SameLayout.of_tables rfl rfl rfl)
    (fun slot => by cases slot <;> rfl)
    (fun _ _ => id) (fun _ _ _ => id) (fun _ _ _ isOpen => ⟨isOpen, rfl⟩)

theorem Framed.closeWiring (heard : Heard workspace current)
    (wiring : WiringId) :
    Framed workspace region wires touched start
      (current.closeWiring wiring) := by
  refine framed.step (SameLayout.of_tables (by simp) (by simp) (by simp)) ?_
    ?_ ?_ ?_
  · intro slot
    cases slot <;> simp [slotKey, fieldKey, Editor.connection, Editor.field,
      Editor.block]
  · intro this other linked
    unfold Editor.connection at linked ⊢
    rwa [connections_closeWiring] at linked
  · intro key other target listed
    rw [heard.listenersAt_closeWiring] at listed
    exact (List.mem_filter.mp listed).1
  · intro other key binding isOpen
    obtain ⟨differs, earlier⟩ := openBinding_closeWiring.mp isOpen
    rw [wiring_closeWiring, if_neg (Ne.symm differs)]
    exact ⟨earlier, rfl⟩

end Frame

section Wire

variable {mode : WiringMode} {start : Editor σ}

theorem Framed.beginWiring
    (framed : Framed workspace region wires touched start current) :
    Framed workspace region wires touched start
      (current.beginWiring engine block mode) := by
  refine framed.step (SameLayout.of_tables rfl rfl rfl)
    (fun slot => by cases slot <;> rfl) (fun _ _ => id) (fun _ _ _ => id) ?_
  intro wiring key binding isOpen
  have same := wiring_beginWiring_of_bound isOpen.2
  unfold OpenBinding at isOpen
  rw [same] at isOpen ⊢
  exact ⟨isOpen, rfl⟩

theorem AssemblyCourse.sameLayout {slots : Slot → Prop} {wiring : WiringId}
    (course : AssemblyCourse workspace engine slots wiring start current) :
    SameLayout start current := by
  induction course with
  | refl => exact SameLayout.of_tables rfl rfl rfl
  | tail _ step induction =>
      refine induction.trans ?_
      cases step with
      | ripple rippled => exact rippled.toSteady.sameLayout
      | bind => exact SameLayout.of_tables rfl rfl rfl
      | listen => exact SameLayout.of_tables rfl rfl rfl

/-- While a block is wired, its own bindings are the only ones that are new. -/
theorem Framed.assemble {slots : Slot → Prop} {wiring : WiringId}
    (framed : Framed workspace region wires touched start current)
    (ready : Ready settings workspace engine slots wiring current)
    (unheld : (current.wiring wiring).subscriptions = [])
    (isWired : wires (current.wiring wiring).block)
    (covers : ∀ slot, slots slot → region slot)
    (course : AssemblyCourse workspace engine slots wiring current after) :
    Framed workspace region wires touched start after := by
  have targets := (course.underway unheld).targets
  constructor
  · exact framed.layout.trans course.sameLayout
  · intro this other linked
    rw [targets] at linked
    exact framed.links this other linked
  · exact course.encloses ready unheld covers framed.encloses
  · intro key isTouched
    exact course.callsInto ready unheld covers (framed.calls key isTouched)
  · refine framed.opens.trans ?_
    intro other key binding isOpen
    by_cases mine : other = wiring
    · subst mine
      rw [course.kept.block]
      exact Or.inl isWired
    · have same := (course.bindings ready.noBindings).1 other mine
      unfold OpenBinding at isOpen ⊢
      rw [same] at isOpen ⊢
      exact Or.inr ⟨isOpen, rfl⟩

/-- However the wiring of a block ends, calls stay in a region that covers its
targets. -/
theorem Framed.wireEnd
    (framed : Framed workspace region wires touched start current)
    (sound : Sound settings workspace engine none current)
    (known : current.blocks.contains block) (isWired : wires block)
    (covers : ∀ slot, TargetSlot (current.targetsFor engine block) slot →
      region slot) (ending : WireEnd workspace engine block mode current
        after) :
    Framed workspace region wires touched start after := by
  have unheld : ((current.beginWiring engine block mode).wiring
      current.nextWiring).subscriptions = [] := by
    rw [wiring_beginWiring, if_pos rfl]
  have assembles : ∀ {assembled : Editor σ}, current.liveWiringFor? engine
      block = none →
      AssemblyCourse workspace engine
        (TargetSlot (current.targetsFor engine block))
        current.nextWiring (current.beginWiring engine block mode) assembled →
      Framed workspace region wires touched start assembled := by
    intro assembled idle course
    refine framed.beginWiring.assemble (ready_beginWiring sound known idle mode)
      unheld ?_ covers course
    rw [wiring_beginWiring, if_pos rfl]
    exact isWired
  cases ending with
  | kept => exact framed
  | recorded idle course =>
      exact (assembles idle course).step (SameLayout.of_tables rfl rfl rfl)
        (fun slot => by cases slot <;> rfl) (fun _ _ => id) (fun _ _ _ => id)
        (fun _ _ _ isOpen => ⟨isOpen, rfl⟩)
  | dropped idle course => exact assembles idle course
  | undone idle course =>
      have ready := ready_beginWiring sound known idle mode
      have heard := (course.sound ready.offered ready.sound).heard
      exact ((assembles idle course).closeWiring heard
        current.nextWiring).steady (steady_undo_close ready course)

end Wire

section Cascade

variable {react : Reaction σ} {start : Editor σ}

theorem Holding.felt
    (holding : Holding workspace engine region wires touched start current) :
    Felt engine wires region start current :=
  ⟨⟨fun slot _ => holding.checks slot, holding.opens⟩, holding.tracks⟩

theorem Holding.reframe
    (holding : Holding workspace engine region wires touched start current)
    (framed : Framed workspace region wires touched start after)
    (tracks : Tracks engine wires current after)
    (checks : ∀ slot, ¬ region slot →
      after.slotCheck slot = current.slotCheck slot) :
    Holding workspace engine region wires touched start after where
  toFramed := framed
  tracks := holding.tracks.trans tracks
  checks := fun slot outside => (checks slot outside).trans
    (holding.checks slot outside)

section Linking

variable (holding : Holding workspace engine region wires touched start current)
  (sound : Sound settings workspace engine none current)
  (stays : StaysIn workspace region react) (ripples : RipplesOnly react)

include holding sound stays ripples

/-- Listeners of a touched slot are called. -/
theorem Holding.notify {key : SlotKey} (isTouched : touched key) :
    Ends (notify react workspace key) current
      (fun after => Steady current after ∧
        Holding workspace engine region wires touched start after) := by
  have step : ∀ after, Spared region current after ∧ Echoed current after →
      Steady current after ∧ Holding workspace engine region wires touched
        start after := by
    rintro after ⟨spared, echoed⟩
    exact ⟨echoed.toSteady,
      holding.reframe (holding.toFramed.steady echoed.toSteady)
        (Tracks.steady echoed.toSteady) spared.checks⟩
  refine Leads.mono
    ((notify_spared stays ripples sound.grounded holding.encloses
    (holding.calls key isTouched)).and
    (notify_echoed ripples sound.responsive workspace key))
    (fun _ => step) (fun _ => step)

theorem Holding.notifyEnds (known : current.connections.contains this)
    (near : touched (start.connection this).key)
    (far : touched (start.connection other).key) :
    Ends (notifyEnds react this other) current
      (Holding workspace engine region wires touched start) := by
  have inWorkspace : current.connectionWorkspace this = workspace :=
    sound.layout.workspaceOf _ (sound.layout.home this known)
  simp only [Ends, Editor.notifyEnds, leads_bind, leads_look, leads_discard,
    inWorkspace, holding.layout.connectionKey]
  refine Leads.mono (holding.notify sound stays ripples near) ?_
    (fun _ _ both => both.2)
  rintro _ middle ⟨steady, holdingMiddle⟩
  rw [holdingMiddle.layout.connectionKey]
  exact Ends.mono (holdingMiddle.notify (sound.steady steady) stays ripples far)
    fun _ both => both.2

theorem Holding.disconnect (near : touched (start.connection this).key)
    (far : ∀ other, (start.connection this).target = some other →
      touched (start.connection other).key) :
    Ends (disconnect react this) current
      (Holding workspace engine region wires touched start) := by
  refine leads_disconnect this (fun _ => holding) ?_
  intro other linked
  have unlinks : Change Liberties.all workspace engine none current none
    (current.unlink this other) := Change.unlinked linked
  have unlinked :=
    holding.reframe (holding.toFramed.unlink sound.linking linked)
    (Tracks.of_blocks rfl rfl rfl) fun slot _ =>
      slotCheck_setTargets current this other none none slot
  have known := (unlinks.outgrows sound.tables).knownConnection this
    (contains_of_target linked)
  have farEnd : touched (start.connection other).key :=
    (holding.links this other linked).elim (far other) id
  exact unlinked.notifyEnds (unlinks.sound sound) stays ripples
    known near farEnd

/-- Both ends are set free, linked and told. -/
theorem Holding.connect (knownThis : current.connections.contains this)
    (knownOther : current.connections.contains other)
    (near : ∀ connection, connection = this ∨ connection = other →
      touched (start.connection connection).key)
    (far : ∀ connection, connection = this ∨ connection = other →
      ∀ partner, (start.connection connection).target = some partner →
        touched (start.connection partner).key) :
    Ends (connect react this other) current
      (Holding workspace engine region wires touched start) := by
  have cached : ∀ caches, Holding workspace engine region wires touched start
      { current with caches } := fun caches =>
    holding.reframe (holding.toFramed.steady (steady_caches current caches))
      (Tracks.of_blocks rfl rfl rfl) fun slot _ => by cases slot <;> rfl
  refine Sound.leads_connect (Holding workspace engine region wires touched
    start) sound ripples
    knownThis knownOther holding cached ?_ ?_
      (fun caches _ _ _ _ => cached caches)
  · intro parted connection isEnd soundParted holdingParted
    exact holdingParted.disconnect soundParted stays ripples
      (near connection isEnd) (far connection isEnd)
  · intro parted soundParted holdingParted known change
    have links : Change Liberties.all workspace engine none parted none
      (parted.link this other) := change
    have knownParted : ∀ {connection : ConnectionId},
        current.connections.contains connection →
        parted.connections.contains connection := fun isKnown =>
      (holdingParted.layout.knownConnection _).mpr
        ((holding.layout.knownConnection _).mp isKnown)
    have linked :=
      holdingParted.reframe (holdingParted.toFramed.link (knownParted knownThis)
      (knownParted knownOther) (near this (Or.inl rfl))
        (near other (Or.inr rfl)))
      (Tracks.of_blocks rfl rfl rfl) fun slot _ =>
        slotCheck_setTargets parted this other (some other) (some this) slot
    exact linked.notifyEnds (links.sound soundParted) stays ripples known
      (near this (Or.inl rfl)) (near other (Or.inr rfl))

end Linking

theorem Holding.releaseWiring
    (holding : Holding workspace engine region wires touched start current)
    (sound : Sound settings workspace engine none current) (block : BlockId) :
    Ends (releaseWiring engine block) current
      (Holding workspace engine region wires touched start) := by
  refine leads_releaseWiring (fun _ => holding) fun wiring found => ?_
  have forgets : Change Liberties.all workspace engine
    none current (some wiring)
    (current.forgetWiring engine block) := Change.forgotten found
  have forgotten := holding.toFramed.forgetWiring engine block
  have same : ∀ slot, (current.forgetWiring engine block).slotCheck slot =
      current.slotCheck slot := fun slot => by cases slot <;> rfl
  apply leads_disposeWiring
  · intro isClosed
    exact holding.reframe forgotten
      (Tracks.forgetWiring found (Tracks.refl _) isClosed)
      fun slot _ => same slot
  · intro _ _
    refine holding.reframe
      (forgotten.closeWiring (forgets.sound sound).heard wiring)
      (Tracks.forgetWiring found (Tracks.closeWiring _ wiring) ?_)
      fun slot _ => (slotCheck_closeWiring _ wiring slot).trans (same slot)
    rw [wiring_closeWiring, if_pos rfl]

/-- The slots of the block that is wired have to be in the region. -/
theorem Holding.wire
    (holding : Holding workspace engine region wires touched start current)
    (sound : Sound settings workspace engine none current)
    (stays : StaysIn workspace region react) (ripples : RipplesOnly react)
    (known : current.blocks.contains block) (isWired : wires block)
    (covers : ∀ slot, current.Offers block slot → region slot)
    (mode : WiringMode) :
    Ends (wire react engine block mode) current
      (Holding workspace engine region wires touched start) := by
  have coversTargets :
      ∀ slot, TargetSlot (current.targetsFor engine block) slot →
      region slot := by
    rintro slot ⟨target, member, rfl⟩
    exact covers _ (targets_offered member).1
  have step : ∀ after, WireRun Liberties.all workspace engine block mode
      current after →
      Spared region current after →
        Holding workspace engine region wires touched start after := by
    intro after run spared
    exact holding.reframe (holding.toFramed.wireEnd sound known isWired
      coversTargets run.ending)
      (sound.tracks_wireEnd known isWired run.ending) spared.checks
  exact Leads.mono (leads_wire Liberties.all sound known ripples
    (fun _ => Spared.refl current) fun idle =>
      sound.enclosedWalk ripples stays known idle holding.encloses
        coversTargets)
    (fun _ after both => step after both.1 both.2)
      (fun _ after both => step after both.1 both.2.1)

end Cascade

section Making

variable {editor : Editor σ}

/-- Changes that touch neither slots nor wirings. -/
theorem Confined.of_tables
    (connections : after.connections = editor.connections)
    (fields : after.fields = editor.fields)
    (wirings : after.wirings = editor.wirings) :
    Confined wires region editor after where
  checks := by
    intro slot _ _
    cases slot with
    | connection connection =>
        simp only [slotCheck, Editor.connection]
        rw [connections]
    | field field =>
        simp only [slotCheck, Editor.field]
        rw [fields]
  opens := OpensOnly.of_wirings wirings

/-- A new connection leaves the checks of the others. -/
theorem confined_withConnection (tables : editor.SlotTables) (block : BlockId)
    (kind : SlotKind) (name : String) (check : Check) (change : Block → Block) :
    Confined wires region editor
      ((editor.withConnection block kind name check).updateBlock block change)
        where
  checks := by
    intro slot known _
    cases slot with
    | connection connection =>
        exact congrArg Connection.check
          (connection_withConnection_of_contains tables block kind
            name check known)
    | field field => rfl
  opens := OpensOnly.of_wirings rfl

end Making

/-- The region holds what the operation writes and wires, and what is called
from there and from the slots that the operation touches. -/
structure Surrounds (workspace : WorkspaceId) (editor : Editor σ)
    (operation : HostOperation) (region : Slot → Prop) : Prop where
  written : ∀ slot, operation.Writes slot → region slot
  wired : ∀ block slot, operation.Wires editor block →
    editor.Offers block slot → region slot
  called : ∀ slot key, operation.Touches editor slot →
    editor.slotKey slot = .ok key →
    CallsInto workspace editor region key
  encloses : Encloses workspace editor region

section Perform

variable {react : Reaction σ} {editor : Editor σ} {operation : HostOperation}

/-- The keys under which an operation calls listeners itself. -/
def TouchedKey (editor : Editor σ) (operation : HostOperation) (key : SlotKey) :
    Prop :=
  ∃ slot, operation.Touches editor slot ∧ editor.slotKey slot = .ok key

theorem Surrounds.holding
    (surrounds : Surrounds workspace editor operation region) :
    Holding workspace engine region (operation.Wires editor)
      (editor.TouchedKey operation) editor editor where
  layout := SameLayout.of_tables rfl rfl rfl
  links := fun _ _ => Or.inl
  encloses := surrounds.encloses
  calls := by
    rintro key ⟨slot, isTouched, hasKey⟩
    exact surrounds.called slot key isTouched hasKey
  opens := OpensOnly.of_wirings rfl
  tracks := Tracks.refl editor
  checks := fun _ _ => rfl

variable (sound : Sound settings workspace engine none editor)
  (stays : StaysIn workspace region react) (ripples : RipplesOnly react)

include sound stays ripples

/-- An operation other than making a block changes no check outside a region
that surrounds it, whether it returns or raises. -/
theorem felt_perform (surrounds : Surrounds workspace editor operation region)
    (limit : Nat) (refers : operation.Refers workspace editor)
    (makesNone : ∀ type id extensions, operation ≠ .newBlock type id
      extensions) :
    Ends (operation.perform react limit workspace) editor
      (Felt engine (operation.Wires editor) region editor) := by
  have holding : Holding workspace engine region _ _ editor editor :=
    surrounds.holding
  have same : ∀ {wires : BlockId → Prop}, Felt engine wires region
      editor editor :=
    ⟨Confined.of_tables rfl rfl rfl, Tracks.refl editor⟩
  cases operation with
  | newBlock type id extensions =>
      exact absurd rfl (makesNone type id extensions)
  | removeBlock block =>
      exact ⟨Confined.of_tables rfl rfl rfl, Tracks.of_blocks rfl rfl rfl⟩
  | setOutput block check =>
      simp only [Ends, HostOperation.perform, leads_discard, setOutput,
        leads_bind, leads_newConnection, leads_modify, leads_pure]
      exact ⟨confined_withConnection sound.tables.toSlotTables block _ _ _ _,
        Tracks.updateBlock refers rfl rfl rfl fun _ => rfl⟩
  | appendInput block name check =>
      exact (leads_discard _).mpr (leads_appendInput same fun _ =>
        ⟨confined_withConnection sound.tables.toSlotTables block _ _ _ _,
          Tracks.updateBlock refers rfl rfl rfl fun _ => rfl⟩)
  | appendDummyInput block name =>
      exact (leads_discard _).mpr (leads_appendDummyInput same
        ⟨Confined.of_tables rfl rfl rfl, Tracks.updateBlock refers rfl rfl rfl
          fun _ => rfl⟩)
  | newField name kind value =>
      refine ⟨⟨?_, OpensOnly.of_wirings rfl⟩, Tracks.of_blocks rfl rfl rfl⟩
      intro slot known _
      cases slot with
      | connection connection => rfl
      | field other =>
          exact congrArg Field.check (sound.tables.field_addField known)
  | appendField block place field =>
      refine leads_appendField same fun _ =>
        ⟨⟨?_, OpensOnly.of_wirings rfl⟩, Tracks.updateBlock refers.1 rfl rfl
          rfl fun _ => rfl⟩
      intro slot _ _
      cases slot with
      | connection connection => rfl
      | field other => exact OrderedMap.read_getD_insert Field.check rfl
  | createVariable name request id =>
      simp only [Ends, HostOperation.perform, createVariable, leads_bind,
        leads_get, leads_set, leads_discard, leads_lookup]
      exact ⟨fun _ _ => ⟨Confined.of_tables rfl rfl rfl,
        Tracks.of_blocks rfl rfl rfl⟩,
        fun _ _ => ⟨Confined.of_tables rfl rfl rfl,
          Tracks.of_blocks rfl rfl rfl⟩⟩
  | initBlock block =>
      refine Ends.mono (sound.leads_initBlock ripples refers holding ?_
        (fun _ _ => id) ?_) fun _ holding => holding.felt
      · intro fresh listed current mode outgrows soundHere holding
        have isWired : HostOperation.Wires editor (.initBlock block) block :=
          ⟨rfl, fresh, listed⟩
        refine holding.wire soundHere stays ripples
          (outgrows.knownBlock block refers) isWired ?_ mode
        intro slot offered
        exact surrounds.wired block slot isWired
          (holding.layout.offers sound.layout.toArranged outgrows offered)
      · intro current known holding
        have flags := steady_flags current known fun entry =>
          (rfl : Block.bare { entry with initialized := true } = entry.bare)
        exact holding.reframe (holding.toFramed.steady flags)
          (Tracks.steady flags) fun slot _ => by cases slot <;> rfl
  | wire block mode =>
      simp only [Ends, HostOperation.perform, leads_bind, leads_look,
        leads_discard, sound.desk.engineOf]
      exact Ends.mono (holding.wire sound stays ripples refers rfl
        (fun slot => surrounds.wired block slot rfl) mode)
        fun _ holding => holding.felt
  | releaseWiring block =>
      simp only [Ends, HostOperation.perform, leads_bind, leads_look,
        leads_discard, sound.desk.engineOf]
      exact Ends.mono (holding.releaseWiring sound block)
        fun _ holding => holding.felt
  | disposeWiring wiring =>
      refine (leads_discard _).mpr
        (leads_disposeWiring wiring editor (fun _ => same) ?_)
      intro _ _
      exact ⟨⟨fun slot _ _ => slotCheck_closeWiring editor wiring slot,
        opensOnly_closeWiring editor wiring⟩, Tracks.closeWiring editor wiring⟩
  | disposeBlock block =>
      refine Ends.mono (sound.leads_disposeBlock ripples refers limit
        (fun _ => holding)
        (holding.releaseWiring sound block) ?_ ?_) fun _ holding => holding.felt
      · intro current connection outgrows soundHere holding offered
        have offers := holding.layout.offers sound.layout.toArranged
          outgrows offered
        refine holding.disconnect soundHere stays ripples ?_ ?_
        · exact ⟨.connection connection, ⟨connection, offers, Or.inl rfl⟩, rfl⟩
        · intro far linked
          exact ⟨.connection far,
            ⟨connection, offers, Or.inr ⟨far, linked, rfl⟩⟩, rfl⟩
      · intro current known holding
        have retires : Steady current (current.retireBlock workspace block) :=
          steady_retireBlock known
        exact holding.reframe (holding.toFramed.steady retires)
          (Tracks.steady retires) fun slot _ => by cases slot <;> rfl
  | connect this other =>
      have atEnds : ∀ connection slot, connection = this ∨ connection = other →
          editor.AtEnds connection slot →
            HostOperation.Touches editor (.connect this other) slot := by
        rintro connection slot (rfl | rfl) atEnds
        · exact Or.inl atEnds
        · exact Or.inr atEnds
      refine Ends.mono (holding.connect sound stays ripples refers.1
        refers.2 ?_ ?_) fun _ holding => holding.felt
      · intro connection isEnd
        exact ⟨.connection connection,
          atEnds connection _ isEnd (Or.inl rfl), rfl⟩
      · intro connection isEnd far linked
        exact ⟨.connection far,
          atEnds connection _ isEnd (Or.inr ⟨far, linked, rfl⟩), rfl⟩
  | disconnect connection =>
      refine Ends.mono (holding.disconnect sound stays ripples
        ⟨.connection connection, Or.inl rfl, rfl⟩ ?_)
        fun _ holding => holding.felt
      intro far linked
      exact ⟨.connection far, Or.inr ⟨far, linked, rfl⟩, rfl⟩
  | setValue field value =>
      have sets : Change Liberties.all workspace engine none editor none
        (editor.updateField field fun entry => { entry with value }) :=
        Change.valueSet value refers
      have set :=
        holding.reframe (holding.toFramed.step
          (sameLayout_setValue refers value)
        (slotKey_setValue editor field value) (fun _ _ => id) (fun _ _ _ => id)
        (fun _ _ _ isOpen => ⟨isOpen, rfl⟩)) (Tracks.of_blocks rfl rfl rfl)
        fun slot _ => slotCheck_setValue editor field value slot
      simp only [Ends, HostOperation.perform, setValue, leads_bind,
        leads_modify]
      refine leads_notifyField (sets.sound sound).layout (fun _ => set.felt) ?_
      intro key hasKey
      have sameKey := slotKey_setValue editor field value (.field field)
      exact Ends.mono (set.notify (sets.sound sound) stays ripples
        ⟨.field field, rfl, sameKey.symm.trans hasKey⟩)
        fun _ both => both.2.felt
  | setTypes slot check =>
      have step : ∀ after, Spared region editor after ∧
          Rippled (· = slot) editor after →
          Felt engine (HostOperation.Wires editor (.setTypes slot check)) region
            editor after := by
        rintro after ⟨spared, rippled⟩
        exact ⟨⟨fun slot _ => spared.checks slot,
          OpensOnly.of_wirings rippled.toSteady.wirings⟩,
          Tracks.steady rippled.toSteady⟩
      exact (leads_discard _).mpr
        (Leads.mono ((setTypes_spared stays ripples sound.grounded
        surrounds.encloses refers (surrounds.written slot rfl) check).and
          (setTypes_rippled ripples sound.responsive check refers))
          (fun _ => step) (fun _ => step))
  | listen slot callback =>
      simp only [Ends, HostOperation.perform, leads_discard, subscribe,
        leads_bind, leads_look, leads_lookup, leads_modify, leads_pure]
      refine ⟨?_, fun _ _ => same⟩
      intro home _
      exact ⟨fun _ _ => ⟨Confined.of_tables rfl rfl rfl,
        Tracks.of_blocks rfl rfl rfl⟩, fun _ _ => same⟩
  | unlisten subscription =>
      exact ⟨Confined.of_tables rfl rfl rfl, Tracks.of_blocks rfl rfl rfl⟩

theorem confined_perform
    (surrounds : Surrounds workspace editor operation region) (limit : Nat)
    (refers : operation.Refers workspace editor) :
    Ends (operation.perform react limit workspace) editor
      (Confined (operation.Wires editor) region editor) := by
  by_cases makes : ∃ type id extensions,
    operation = .newBlock type id extensions
  · obtain ⟨type, id, extensions, rfl⟩ := makes
    exact (leads_discard _).mpr
      (leads_newBlock (fun _ _ => Confined.of_tables rfl rfl rfl)
      fun _ _ _ => Confined.of_tables rfl rfl rfl)
  · exact Ends.mono (felt_perform sound stays ripples surrounds limit refers
      fun type id extensions isMade => makes ⟨type, id, extensions, isMade⟩)
        fun _ felt => felt.toConfined

end Perform

end Editor

end TypeFlow
