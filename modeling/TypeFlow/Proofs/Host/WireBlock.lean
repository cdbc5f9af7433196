import TypeFlow.Proofs.Host.Assemble

/-!
# Wiring a block

A block is scanned for targets, a wiring is begun and, unless the targets
cannot be wired, put on record.  Whichever way this ends it is a course of
elementary changes.
-/

namespace TypeFlow

/-- A target is made of a check that lists types. -/
theorem Target.ofCheck?_eq_some {lead label : String} {slot : Slot}
    {check : Check} {target : Target}
    (found : Target.ofCheck? lead slot label check = some target) :
    target.slot = slot ∧ check = some target.types := by
  unfold ofCheck? at found
  dsimp only at found
  split at found
  · rename_i hasDirectives
    cases found
    refine ⟨rfl, ?_⟩
    cases check with
    | none => cases hasDirectives
    | some types => rfl
  · cases found

namespace Editor

variable {σ : Type} {editor : Editor σ} {workspace : WorkspaceId}
  {wiring : WiringId}

theorem hasCheck_of_offers {slot : Slot} {block : BlockId}
    (offered : editor.Offers block slot) :
    editor.HasCheck slot := by
  cases slot with
  | connection connection => trivial
  | field field => exact offered.2

/-- Each target is made of a slot of the block and the check it has. -/
theorem ofCheck?_of_target {lead : String} {block : BlockId} {target : Target}
    (member : target ∈ editor.targets lead block) :
    editor.Offers block target.slot ∧ ∃ label,
      Target.ofCheck? lead target.slot label (editor.slotCheck target.slot) =
        some target := by
  unfold targets at member
  dsimp only at member
  rcases List.mem_append.mp member with inConnections | inFields
  · rcases List.mem_append.mp inConnections with isOutput | inRows
    · obtain ⟨connection, has, found⟩ :=
        Option.bind_eq_some_iff.mp (Option.mem_toList.mp isOutput)
      rw [(Target.ofCheck?_eq_some found).1]
      exact ⟨Or.inl has, _, found⟩
    · obtain ⟨row, inBlock, fromRow⟩ := List.mem_filterMap.mp inRows
      obtain ⟨connection, has, found⟩ := Option.bind_eq_some_iff.mp fromRow
      rw [(Target.ofCheck?_eq_some found).1]
      exact ⟨Or.inr ⟨row, inBlock, has⟩, _, found⟩
  · obtain ⟨field, inBlock, found⟩ := List.mem_filterMap.mp inFields
    obtain ⟨sameSlot, sameCheck⟩ := Target.ofCheck?_eq_some found
    rw [sameSlot]
    refine ⟨⟨inBlock, ?_⟩, _, found⟩
    unfold Field.check at sameCheck
    split at sameCheck
    · rename_i types isReference
      rw [isReference]
      rfl
    · cases sameCheck

theorem targets_offered {lead : String} {block : BlockId} {target : Target}
    (member : target ∈ editor.targets lead block) :
    editor.Offers block target.slot ∧
      editor.slotCheck target.slot = some target.types := by
  obtain ⟨offered, _, found⟩ := ofCheck?_of_target member
  exact ⟨offered, (Target.ofCheck?_eq_some found).2⟩

/-- The key of a slot of a block tells its place and its name there. -/
theorem slotKey_connection {connection : ConnectionId} {key : SlotKey}
    (hasKey : editor.slotKey (.connection connection) = .ok key) :
    (editor.connection connection).key = key := by
  cases hasKey
  rfl

theorem slotKey_field {field : FieldId} {key : SlotKey}
    (hasKey : editor.slotKey (.field field) = .ok key) :
    key.kind = .field ∧ key.name = (editor.field field).name := by
  unfold slotKey fieldKey at hasKey
  dsimp only at hasKey
  split at hasKey
  · cases hasKey
    exact ⟨rfl, rfl⟩
  · cases hasKey

/-- No two targets of a block share a key. -/
theorem targets_differ (layout : Layout workspace editor)
    (naming : editor.Naming) (lead : String) (block : BlockId) :
    (editor.targets lead block).Pairwise fun left right =>
      editor.KeysDiffer left.slot right.slot := by
  have named := naming block
  unfold targets
  dsimp only
  refine List.pairwise_append.mpr
    ⟨List.pairwise_append.mpr ⟨?_, ?_, ?_⟩, ?_, ?_⟩
  · -- There is at most one output.
    cases (editor.block block).output.bind _ with
    | none => exact List.Pairwise.nil
    | some target => exact List.pairwise_singleton _ _
  · rw [List.pairwise_filterMap]
    refine List.Pairwise.imp_of_mem ?_ named.inputs
    intro row other inRows otherInRows differ left fromRow right fromOther key
      hasKey hasOtherKey
    obtain ⟨connection, has, found⟩ := Option.bind_eq_some_iff.mp fromRow
    obtain ⟨otherConnection, otherHas, otherFound⟩ :=
      Option.bind_eq_some_iff.mp fromOther
    rw [(Target.ofCheck?_eq_some found).1] at hasKey
    rw [(Target.ofCheck?_eq_some otherFound).1] at hasOtherKey
    have rowName := named.row row connection inRows has
    have otherName := named.row other otherConnection otherInRows otherHas
    rw [slotKey_connection hasKey] at rowName
    rw [slotKey_connection hasOtherKey] at otherName
    exact differ (by simp [otherHas]) (rowName.symm.trans otherName)
  · -- An output and an input differ in kind.
    intro left isOutput right inRows key hasKey hasOtherKey
    obtain ⟨connection, has, found⟩ :=
      Option.bind_eq_some_iff.mp (Option.mem_toList.mp isOutput)
    obtain ⟨row, inBlock, fromRow⟩ := List.mem_filterMap.mp inRows
    obtain ⟨otherConnection, otherHas, otherFound⟩ :=
      Option.bind_eq_some_iff.mp fromRow
    rw [(Target.ofCheck?_eq_some found).1] at hasKey
    rw [(Target.ofCheck?_eq_some otherFound).1] at hasOtherKey
    have outputKind := (layout.output block connection has).2.2
    have inputKind :=
      (layout.row block row otherConnection inBlock otherHas).2.2
    rw [slotKey_connection hasKey] at outputKind
    rw [slotKey_connection hasOtherKey, outputKind] at inputKind
    cases inputKind
  · have distinct := named.fields
    rw [List.Nodup, List.pairwise_map] at distinct
    rw [List.pairwise_filterMap]
    refine distinct.imp ?_
    intro field other differ left fromField right fromOther key
      hasKey hasOtherKey
    rw [(Target.ofCheck?_eq_some fromField).1] at hasKey
    rw [(Target.ofCheck?_eq_some fromOther).1] at hasOtherKey
    exact differ ((slotKey_field hasKey).2.symm.trans
      (slotKey_field hasOtherKey).2)
  · -- A connection and a field differ in kind.
    intro left isConnection right inFields key hasKey hasOtherKey
    obtain ⟨field, inBlock, fromField⟩ := List.mem_filterMap.mp inFields
    rw [(Target.ofCheck?_eq_some fromField).1] at hasOtherKey
    have fieldKind := (slotKey_field hasOtherKey).1
    rcases List.mem_append.mp isConnection with isOutput | inRows
    · obtain ⟨connection, has, found⟩ :=
        Option.bind_eq_some_iff.mp (Option.mem_toList.mp isOutput)
      rw [(Target.ofCheck?_eq_some found).1] at hasKey
      rw [← slotKey_connection hasKey] at fieldKind
      exact layout.kind connection (layout.output block connection has).1
        fieldKind
    · obtain ⟨row, rowInBlock, fromRow⟩ := List.mem_filterMap.mp inRows
      obtain ⟨connection, has, found⟩ := Option.bind_eq_some_iff.mp fromRow
      rw [(Target.ofCheck?_eq_some found).1] at hasKey
      rw [← slotKey_connection hasKey] at fieldKind
      exact layout.kind connection
        (layout.row block row connection rowInBlock has).1 fieldKind

theorem leads_disposeWiring (wiring : WiringId) (editor : Editor σ)
    {returned : Nat → Editor σ → Prop} {raised : Fault → Editor σ → Prop}
    (already : (editor.wiring wiring).disposed = true → returned 0 editor)
    (closes : (editor.wiring wiring).disposed = false →
      ∀ count, returned count (editor.closeWiring wiring)) :
    Leads (disposeWiring wiring) editor returned raised := by
  simp only [disposeWiring, leads_bind, leads_get]
  split
  · rename_i disposed
    exact already disposed
  · rename_i isOpen
    rw [Bool.not_eq_true] at isOpen
    simp only [leads_bind, leads_set, leads_modify, leads_pure]
    exact closes isOpen _

theorem leads_releaseWiring {engine : EngineId} {block : BlockId}
    {returned : Nat → Editor σ → Prop} {raised : Fault → Editor σ → Prop}
    (unrecorded : editor.wiringFor? engine block = none → returned 0 editor)
    (recorded : ∀ wiring, editor.wiringFor? engine block = some wiring →
      Leads (disposeWiring wiring) (editor.forgetWiring engine block) returned
        raised) :
    Leads (releaseWiring engine block) editor returned raised := by
  simp only [releaseWiring, leads_bind, leads_look]
  split
  · rename_i missing
    exact unrecorded missing
  · rename_i wiring found
    simp only [leads_bind, leads_modify]
    exact recorded wiring found

/-- The state with the lists of all targets put back. -/
def undo (targets : List Target) (editor : Editor σ) : Editor σ :=
  targets.foldl (fun editor target => editor.resetTypes target.slot
    (some target.types)) editor

theorem steady_undo (targets : List Target) :
    ∀ {editor : Editor σ}, (∀ target ∈ targets, editor.Known target.slot) →
      Steady editor (undo targets editor) := by
  induction targets with
  | nil =>
      intro editor _
      exact Steady.refl editor
  | cons target rest induction =>
      intro editor known
      have first := steady_resetTypes editor (some target.types)
        (known target (by simp))
      refine first.trans (induction ?_)
      intro other member
      exact (first.known other.slot).mpr (known other (by simp [member]))

theorem slotCheck_resetTypes_of_ne (editor : Editor σ) {slot other : Slot}
    (check : Check) (differs : other ≠ slot) :
    (editor.resetTypes slot check).slotCheck other = editor.slotCheck
      other := by
  cases slot with
  | connection connection => exact slotCheck_setCheck_of_ne editor check differs
  | field field =>
      simp only [resetTypes, resetFieldTypes]
      split
      · exact slotCheck_setKind_of_ne editor check differs
      · rfl

/-- Undoing touches neither variables nor other checks than those of the
targets. -/
theorem undo_elsewhere (targets : List Target) :
    ∀ editor : Editor σ, (undo targets editor).pool = editor.pool ∧
      ∀ slot, ¬ TargetSlot targets slot →
        (undo targets editor).slotCheck slot = editor.slotCheck slot := by
  induction targets with
  | nil =>
      intro editor
      exact ⟨rfl, fun _ _ => rfl⟩
  | cons target rest induction =>
      intro editor
      obtain ⟨samePool, sameChecks⟩ :=
        induction (editor.resetTypes target.slot (some target.types))
      refine ⟨samePool.trans ?_, ?_⟩
      · cases target.slot with
        | connection connection => rfl
        | field field =>
            simp only [resetTypes, resetFieldTypes]
            split <;> rfl
      · intro slot notTarget
        have notHere : slot ≠ target.slot := by
          rintro rfl
          exact notTarget ⟨target, by simp, rfl⟩
        refine (sameChecks slot ?_).trans
          (slotCheck_resetTypes_of_ne editor _ notHere)
        rintro ⟨other, member, isSlot⟩
        exact notTarget ⟨other, by simp [member], isSlot⟩

theorem slotCheck_closeWiring (editor : Editor σ) (wiring : WiringId)
    (slot : Slot) :
    (editor.closeWiring wiring).slotCheck slot = editor.slotCheck slot := by
  cases slot with
  | connection connection => simp [slotCheck, Editor.connection]
  | field field => simp [slotCheck, Editor.field]

section Wire

variable {settings : Settings} {engine : EngineId} {start : Editor σ}
  {react : Reaction σ} {invariant finished : Editor σ → Prop}
  {permitted : Fault → Editor σ → Prop} {targets : List Target}

section Ready

variable (ready : Ready settings workspace engine (TargetSlot targets) wiring
  start)

include ready

theorem steady_undo_close {broken : Editor σ}
    (course : AssemblyCourse workspace engine (TargetSlot targets) wiring start
      broken) :
    Steady (broken.closeWiring wiring)
      (undo targets (broken.closeWiring wiring)) := by
  refine steady_undo targets ?_
  intro target member
  have known := ready.known course ⟨target, member, rfl⟩
  cases hSlot : target.slot with
  | connection connection =>
      rw [hSlot] at known
      simpa [Known] using known
  | field field =>
      rw [hSlot] at known
      simpa [Known] using known

/-- If wiring a live block fails, the wiring is closed and the lists are put
back. -/
theorem leads_wireLiveOrUndo
    (differ : targets.Pairwise fun left right => start.KeysDiffer left.slot
      right.slot)
    (ripples : RipplesOnly react)
    (walk : Walk settings workspace engine react (TargetSlot targets) wiring
      start invariant finished permitted) :
    Leads (wireLiveOrUndo react engine (start.wiring wiring).block wiring
      targets) start (fun _ after => (∃ allowed,
        Midway workspace engine (TargetSlot targets) wiring allowed start
          after) ∧ finished after)
      (fun fault after => permitted fault after ∧ ∃ broken,
        AssemblyCourse workspace engine (TargetSlot targets) wiring
          start broken ∧
          after = undo targets (broken.closeWiring wiring)) := by
  simp only [wireLiveOrUndo, leads_tryCatch]
  refine Leads.mono (leads_wireLive ready differ ripples walk)
    (fun _ _ => id) ?_
  rintro fault broken ⟨course, isPermitted⟩
  simp only [leads_bind, leads_discard]
  refine leads_disposeWiring wiring broken ?_ ?_
  · intro disposed
    rw [course.kept.disposed, ready.undisposed] at disposed
    cases disposed
  · intro _ _
    simp only [leads_modify, leads_throw]
    have elsewhere := undo_elsewhere targets (broken.closeWiring wiring)
    have undone := steady_undo_close ready course
    refine ⟨walk.undone fault broken _ isPermitted ?_ ?_ ?_,
      broken, course, rfl⟩
    · exact elsewhere.1.trans (pool_closeWiring broken wiring)
    · intro field
      refine (undone.fieldValue field).trans ?_
      simp [Editor.field]
    · intro slot notTarget
      exact (elsewhere.2 slot notTarget).trans
        (slotCheck_closeWiring broken wiring slot)

/-- Each target of a static block is left with its regular types. -/
theorem leads_wireStatic (ripples : RipplesOnly react)
    (walk : Walk settings workspace engine react (TargetSlot targets) wiring
      start invariant finished permitted) :
    Leads (wireStatic react targets) start
      (fun _ after => Rippled (TargetSlot targets) start after ∧
        invariant after)
      (fun fault after => Rippled (TargetSlot targets) start after ∧
        permitted fault after) := by
  refine leads_forM (fun _ current => Rippled (TargetSlot targets)
    start current ∧
    invariant current) targets ?_ ⟨Rippled.refl start, walk.holds⟩
  rintro target _ before member ⟨rippled, holds⟩
  have isSlot : TargetSlot targets target.slot := ⟨target, member, rfl⟩
  have midway : Midway workspace engine (TargetSlot targets) wiring
      (fun _ _ => False) start
      before := (Midway.refl ready.noBindings).rippled rippled
  have sound := ready.sound.steady rippled.toSteady
  rw [leads_discard]
  refine Leads.mono ((setTypes_rippled ripples sound.responsive _
    (ready.known midway.course isSlot)).and
      (walk.write _ before target.slot _ midway isSlot holds)) ?_ ?_
  · rintro _ after ⟨written, stillHolds⟩
    refine ⟨rippled.trans (written.absorb ?_), stillHolds⟩
    rintro slot rfl
    exact Or.inl isSlot
  · rintro fault after ⟨written, isPermitted⟩
    refine ⟨rippled.trans (written.absorb ?_), isPermitted⟩
    rintro slot rfl
    exact Or.inl isSlot

end Ready

end Wire

/-- The targets an engine finds on a block. -/
def targetsFor (editor : Editor σ) (engine : EngineId) (block : BlockId) :
    List Target :=
  editor.targets (editor.engine engine).config.lead block

section WireBlock

variable {settings : Settings} {engine : EngineId} {block : BlockId}
  {mode : WiringMode} {react : Reaction σ}
  {invariant finished : Editor σ → Prop} {permitted : Fault → Editor σ → Prop}
  {liberties : Liberties}

theorem ready_beginWiring (sound : Sound settings workspace engine none editor)
    (known : editor.blocks.contains block)
    (idle : editor.liveWiringFor? engine block = none) (mode : WiringMode) :
    Ready settings workspace engine
      (TargetSlot (editor.targetsFor engine block))
      editor.nextWiring (editor.beginWiring engine block mode) where
  sound := by
    have change : Change Liberties.all workspace engine
      none editor (some editor.nextWiring)
      (editor.beginWiring engine block mode) := Change.begun mode known idle
    exact change.sound sound
  offered := by
    rintro slot ⟨target, member, rfl⟩
    rw [wiring_beginWiring, if_pos rfl]
    have offered := (targets_offered member).1
    cases hSlot : target.slot with
    | connection connection =>
        rw [hSlot] at offered
        exact offered
    | field field =>
        rw [hSlot] at offered
        exact offered
  undisposed := by rw [wiring_beginWiring, if_pos rfl]
  noBindings := by rw [wiring_beginWiring, if_pos rfl]

theorem quiet_recordWiring (wiring other : WiringId) (before : Editor σ)
    (block : BlockId) :
    Quiet other before (before.recordWiring engine block wiring) :=
  { Quiet.refl other before with }

/-- A wiring whose bindings attend to their sources is put on record. -/
theorem change_recordWiring {before : Editor σ}
    (attends : ∀ key binding, (before.wiring wiring).bindings.get? key =
      some binding →
      before.Attends workspace wiring key binding)
    (sameBlock : (before.wiring wiring).block = block) :
    Change liberties workspace engine (some wiring) before none
      (before.recordWiring engine block wiring) := by
  subst sameBlock
  exact Change.recorded fun key binding isOpen => attends key binding isOpen.2

/-- It is counted before. -/
theorem course_recordWiring {before : Editor σ}
    (attends : ∀ key binding, (before.wiring wiring).bindings.get? key =
      some binding →
      before.Attends workspace wiring key binding)
    (sameBlock : (before.wiring wiring).block = block) (change : Stats → Stats)
    (keeps : ∀ stats, (change stats).subscriptions = stats.subscriptions ∧
      (change stats).released = stats.released) :
    Course liberties workspace engine (some wiring, before)
      (none, (before.updateStats engine change).recordWiring engine block
        wiring) := by
  have counts := steady_updateStats before engine change keeps
  refine (Course.steady counts).tail (change_recordWiring ?_ sameBlock)
  intro key binding found
  exact counts.attends (attends key binding found)

/-- A wiring that failed is closed and its targets get their lists back. -/
theorem course_undo {targets : List Target} {start broken : Editor σ}
    (ready : Ready settings workspace engine (TargetSlot targets) wiring start)
    (course : AssemblyCourse workspace engine (TargetSlot targets) wiring start
      broken) :
    Course liberties workspace engine (some wiring, start)
      (none, undo targets (broken.closeWiring wiring)) := by
  have sound := course.sound ready.offered ready.sound
  have closes : Change liberties workspace engine (some wiring) broken none
      (broken.closeWiring wiring) :=
    Change.closed (Or.inr rfl) (sound.wired.pending _ rfl).1
      (course.kept.disposed.trans ready.undisposed)
  exact ((course.course ready.offered).tail closes).trans
    (Course.steady (steady_undo_close ready course))

/-- The states in which wiring a block can end.  The new wiring is put on
record, left without bindings or closed again. -/
inductive WireEnd (workspace : WorkspaceId) (engine : EngineId)
    (block : BlockId) (mode : WiringMode) (before : Editor σ) : Editor σ → Prop
  | kept : WireEnd workspace engine block mode before before
  | recorded {assembled : Editor σ} :
      before.liveWiringFor? engine block = none →
      AssemblyCourse workspace engine
        (TargetSlot (before.targetsFor engine block))
        before.nextWiring (before.beginWiring engine block mode) assembled →
      WireEnd workspace engine block mode before
        (assembled.recordWiring engine block before.nextWiring)
  | dropped {assembled : Editor σ} : before.liveWiringFor? engine block = none →
      AssemblyCourse workspace engine
        (TargetSlot (before.targetsFor engine block))
        before.nextWiring (before.beginWiring engine block mode) assembled →
      WireEnd workspace engine block mode before assembled
  | undone {broken : Editor σ} : before.liveWiringFor? engine block = none →
      AssemblyCourse workspace engine
        (TargetSlot (before.targetsFor engine block))
        before.nextWiring (before.beginWiring engine block mode) broken →
      WireEnd workspace engine block mode before
        (undo (before.targetsFor engine block)
          (broken.closeWiring before.nextWiring))

/-- Wiring a block as a course of changes, with the form of its last state. -/
structure WireRun (liberties : Liberties) (workspace : WorkspaceId)
    (engine : EngineId) (block : BlockId) (mode : WiringMode)
    (before after : Editor σ) : Prop where
  course : Course liberties workspace engine (none, before) (none, after)
  ending : WireEnd workspace engine block mode before after

theorem AssemblyCourse.counted {slots : Slot → Prop} {start current : Editor σ}
    (course : AssemblyCourse workspace engine slots wiring start current)
    (change : Stats → Stats)
    (keeps : ∀ stats, (change stats).subscriptions = stats.subscriptions ∧
      (change stats).released = stats.released) :
    AssemblyCourse workspace engine slots wiring start
      (current.updateStats engine change) := by
  refine Relation.ReflTransGen.tail course (Assembly.ripple (Rippled.of_checks
    (steady_updateStats current engine change keeps) ?_))
  intro slot
  cases slot <;> rfl

/-- Wiring a block, whether it was wired already, is wired now or cannot be
wired. -/
theorem leads_wire (liberties : Liberties)
    (sound : Sound settings workspace engine none editor)
    (known : editor.blocks.contains block) (ripples : RipplesOnly react)
    (existing : editor.liveWiringFor? engine block ≠ none → finished editor)
    (walk : editor.liveWiringFor? engine block = none →
      Walk settings workspace engine react
        (TargetSlot (editor.targetsFor engine block)) editor.nextWiring
          (editor.beginWiring engine block mode) invariant finished permitted) :
    Leads (wire react engine block mode) editor
      (fun _ after => WireRun liberties workspace engine block mode
        editor after ∧
        finished after)
      (fun fault after => WireRun liberties workspace engine block mode
        editor after ∧
        permitted fault after ∧
        (mode = .live → editor.liveWiringFor? engine block = none ∧
          ∃ broken, AssemblyCourse workspace engine
            (TargetSlot (editor.targetsFor engine block)) editor.nextWiring
              (editor.beginWiring engine block mode) broken ∧
            after = undo (editor.targetsFor engine block)
              (broken.closeWiring editor.nextWiring))) := by
  simp only [wire, leads_bind, leads_look]
  split
  · rename_i wired
    exact ⟨⟨Course.refl _, WireEnd.kept⟩, existing (by rw [wired]; simp)⟩
  · rename_i idle
    have begins : Change liberties workspace engine
      none editor (some editor.nextWiring)
      (editor.beginWiring engine block mode) := Change.begun mode known idle
    have ready := ready_beginWiring sound known idle mode
    have walking := walk idle
    have sameBlock :
        ((editor.beginWiring engine block mode).wiring
          editor.nextWiring).block =
        block := by rw [wiring_beginWiring, if_pos rfl]
    simp only [newWiring, leads_bind, leads_look, leads_modify, leads_pure]
    change Leads _ (editor.beginWiring engine block mode) _ _
    cases mode with
    | static =>
        simp only [leads_bind, leads_modify]
        refine Leads.mono (leads_wireStatic ready ripples walking) ?_ ?_
        · rintro _ after ⟨rippled, holds⟩
          have same := rippled.toSteady.wiring editor.nextWiring
          have noBindings : (after.wiring editor.nextWiring).bindings = {} := by
            rw [same]
            exact ready.noBindings
          have written : Course liberties workspace engine (none, editor)
              (some editor.nextWiring, after) :=
            (Course.single begins).trans (Course.steady rippled.toSteady)
          have assembled : AssemblyCourse workspace engine
              (TargetSlot (editor.targetsFor engine block)) editor.nextWiring
              (editor.beginWiring engine block .static) after :=
            Relation.ReflTransGen.single (Assembly.ripple rippled)
          refine ⟨⟨written.trans
            (course_recordWiring ?_ (by rw [same]; exact sameBlock) _
            fun _ => ⟨rfl, rfl⟩), WireEnd.recorded idle
              (assembled.counted _ fun _ => ⟨rfl, rfl⟩)⟩, ?_⟩
          · intro key binding found
            rw [noBindings] at found
            cases found
          · refine walking.settled after _ (walking.idle after noBindings holds)
              fun other => ?_
            exact (quiet_updateStats other after engine _).trans
              (quiet_recordWiring _ other _ block)
        · rintro fault after ⟨rippled, isPermitted⟩
          have drops : Change liberties workspace engine
              (some editor.nextWiring) after none after := by
            refine Change.dropped ?_
            intro key binding isOpen
            have found := (rippled.toSteady.openBinding.mp isOpen).2
            rw [ready.noBindings] at found
            cases found
          refine ⟨⟨((Course.single begins).trans
            (Course.steady rippled.toSteady)).tail drops,
            WireEnd.dropped idle
              (Relation.ReflTransGen.single (Assembly.ripple rippled))⟩,
            isPermitted, ?_⟩
          intro impossible
          cases impossible
    | live =>
        change Leads (if (editor.targetsFor engine block).isEmpty = true
          then _ else _) _ _ _
        split
        · simp only [leads_bind, leads_pure, leads_modify]
          refine ⟨⟨(Course.single begins).tail
            (change_recordWiring ?_ sameBlock),
            WireEnd.recorded idle Relation.ReflTransGen.refl⟩, ?_⟩
          · intro key binding found
            rw [ready.noBindings] at found
            cases found
          · exact walking.settled
              _ _ (walking.idle _ ready.noBindings walking.holds)
              fun other => quiet_recordWiring _ other _ block
        · simp only [leads_bind, leads_pure, leads_modify]
          have differ : (editor.targetsFor engine block).Pairwise
            fun left right =>
              (editor.beginWiring engine block .live).KeysDiffer
                  left.slot right.slot :=
            targets_differ ready.sound.layout ready.sound.naming _ block
          have wiring := leads_wireLiveOrUndo ready differ ripples walking
          rw [sameBlock] at wiring
          refine Leads.mono wiring ?_ ?_
          · rintro _ after ⟨⟨allowed, midway⟩, done⟩
            have assembled : Course liberties workspace engine (none, editor)
                (some editor.nextWiring, after) :=
              (Course.single begins).trans (midway.course.course ready.offered)
            refine ⟨⟨assembled.trans (course_recordWiring midway.attends
              (midway.course.kept.block.trans sameBlock) _ fun _ => ⟨rfl, rfl⟩),
              WireEnd.recorded idle (midway.course.counted _ fun _ =>
                ⟨rfl, rfl⟩)⟩, ?_⟩
            refine walking.settled after _ done fun other => ?_
            exact (quiet_updateStats other after engine _).trans
              (quiet_recordWiring _ other _ block)
          · rintro fault after ⟨isPermitted, broken, course, rfl⟩
            exact ⟨⟨(Course.single begins).trans (course_undo ready course),
              WireEnd.undone idle course⟩, isPermitted, fun _ =>
              ⟨idle, broken, course, rfl⟩⟩

end WireBlock

end Editor

end TypeFlow
