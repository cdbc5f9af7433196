import TypeFlow.Proofs.CircularDirectives
import TypeFlow.Proofs.DerivedCheck
import TypeFlow.Proofs.Ownership
import TypeFlow.Proofs.Silence

/-!
# Static wirings

A static wiring listens to nothing.  Each list of the block with directives is
replaced by its regular types, and the cascades this sets off write only what
live bindings write.  The wiring then stays on record until it is disposed.
-/

namespace TypeFlow

open HostOperation (AllAdmitted performAll)

theorem Declared.hasDirectives_regular (lead : String) (types : TypeList) :
    (ofTypes lead
      (Check.ofTypes (ofTypes lead types).regular).types).hasDirectives =
      false := by
  have unread : (ofTypes lead
      (TypeList.distinct (ofTypes lead types).regular)).directives = [] := by
    rw [directives_ofTypes, List.filterMap_eq_nil_iff]
    exact fun tag member =>
      directive?_of_regular (TypeList.mem_distinct.mp member)
  rw [Check.types_ofTypes, hasDirectives, unread]
  rfl

namespace Editor

variable {σ : Type} {settings : Settings} {workspace : WorkspaceId}
  {engine : EngineId} {block : BlockId} {slot : Slot} {react : Reaction σ}
  {before after editor : Editor σ}

section Targets

/-- What the list of a slot says. -/
def declared (editor : Editor σ) (lead : String) (slot : Slot) : Declared :=
  Declared.ofTypes lead (editor.slotCheck slot).types

theorem declared_of_target {lead : String} {target : Target}
    (member : target ∈ editor.targets lead block) :
    target.declared = editor.declared lead target.slot ∧
      (editor.declared lead target.slot).hasDirectives = true := by
  obtain ⟨_, label, found⟩ := ofCheck?_of_target member
  unfold Target.ofCheck? at found
  obtain ⟨hasDirectives, isTarget⟩ := Option.ite_none_right_eq_some.mp found
  refine ⟨?_, hasDirectives⟩
  rw [← Option.some.inj isTarget]
  rfl

theorem targetSlot_iff {lead : String} :
    TargetSlot (editor.targets lead block) slot ↔
      editor.Offers block slot ∧
        (editor.declared lead slot).hasDirectives = true := by
  constructor
  · rintro ⟨target, member, rfl⟩
    exact ⟨(targets_offered member).1, (declared_of_target member).2⟩
  · rintro ⟨offers, hasDirectives⟩
    have made : ∀ label, Target.ofCheck? lead slot label
        (editor.slotCheck slot) =
        some ⟨slot, _, editor.declared lead slot, label⟩ :=
      fun _ => if_pos hasDirectives
    cases slot with
    | connection connection =>
        rcases offers with isOutput | ⟨row, member, has⟩
        · exact ⟨_, List.mem_append_left
            _ (List.mem_append_left _ (Option.mem_toList.mpr
            (Option.bind_eq_some_iff.mpr ⟨_, isOutput, made _⟩))), rfl⟩
        · exact ⟨_, List.mem_append_left
            _ (List.mem_append_right _ (List.mem_filterMap.mpr
            ⟨row, member, Option.bind_eq_some_iff.mpr ⟨_, has, made _⟩⟩)), rfl⟩
    | field field =>
        exact ⟨_, List.mem_append_right
          _ (List.mem_filterMap.mpr ⟨field, offers.1, made _⟩), rfl⟩

end Targets

section Strip

/-- Apart from what bindings write, a single check is replaced. -/
theorem leads_setTypes_ofList (grounded : Grounded workspace editor)
    (ripples : RipplesOnly react) (known : editor.Known slot)
    (hasCheck : editor.HasCheck slot) (types : TypeList) :
    Leads (setTypes react slot (Check.ofList types)) editor
      (fun _ after => Steady editor after ∧ ∀ other, ¬ editor.OpenTarget other →
        after.slotCheck other = if other = slot then Check.ofTypes types
          else editor.slotCheck other)
      (fun _ _ => True) := by
  have checks : ∀ {told middle}, Written editor slot
      (Check.ofList types) told middle →
      ∀ other, middle.slotCheck other =
        if other = slot then Check.ofTypes types
          else editor.slotCheck other := by
    intro told middle written other
    split
    · rename_i same
      rw [same, written.here hasCheck, Check.distinct_ofList]
    · rename_i differs
      exact written.elsewhere other differs
  refine leads_setTypes grounded known ?_ ?_
  · exact fun middle written _ =>
      ⟨written.toSteady, fun other _ => checks written other⟩
  · intro key middle written
    have steady := written.toSteady
    refine Leads.mono (notify_echoed ripples
      (steady.responsive grounded.responsive) workspace key)
      ?_ (fun _ _ _ => True.intro)
    intro _ after echoed _
    refine ⟨steady.trans echoed.toSteady, fun other free => ?_⟩
    rw [← checks written other]
    by_contra differs
    exact (echoed.written other differs).elim id fun isTarget =>
      free (steady.openTarget.mp isTarget)

/-- After some of the targets were written, their slots hold their regular types
and the others what they held. -/
theorem strips_wireStatic {targets : List Target} (lead : String)
    (grounded : Grounded workspace before) (ripples : RipplesOnly react)
    (known : ∀ target ∈ targets, before.Known target.slot)
    (hasCheck : ∀ target ∈ targets, before.HasCheck target.slot)
    (declares : ∀ target ∈ targets, target.declared = before.declared lead
      target.slot) :
    Leads (wireStatic react targets) before
      (fun _ after => Steady before after ∧ ∀ slot, ¬ before.OpenTarget slot →
        (TargetSlot targets slot →
          after.slotCheck slot = Check.ofTypes
            (before.declared lead slot).regular) ∧
        (¬ TargetSlot targets slot →
          after.slotCheck slot = before.slotCheck slot))
      (fun _ _ => True) := by
  -- Two targets may share a slot, so a slot counts as done only when no target
  -- that is left has it.
  refine Leads.imp (leads_forM (fun rest current => Steady before current ∧
    ∀ slot, ¬ before.OpenTarget slot →
      (TargetSlot targets slot → ¬ TargetSlot rest slot →
        current.slotCheck slot = Check.ofTypes
          (before.declared lead slot).regular) ∧
      (¬ TargetSlot targets slot →
        current.slotCheck slot = before.slotCheck slot))
    targets ?_ ⟨Steady.refl before, ?_⟩) ?_
  · rintro target rest current member ⟨steady, holds⟩
    have hasStill : current.HasCheck target.slot := by
      have has := hasCheck target member
      cases isSlot : target.slot with
      | connection connection => trivial
      | field field =>
          rw [isSlot] at has
          exact (steady.fieldKind field).trans has
    rw [leads_discard]
    refine Leads.imp (leads_setTypes_ofList (grounded.steady steady) ripples
      ((steady.known _).mpr (known target member)) hasStill
        target.declared.regular) ?_
    rintro _ after ⟨writes, checks⟩
    refine ⟨steady.trans writes, fun slot free => ?_⟩
    obtain ⟨done, untouched⟩ := holds slot free
    rw [checks slot (fun isTarget => free (steady.openTarget.mp isTarget))]
    by_cases same : slot = target.slot
    · rw [if_pos same, declares target member, same]
      exact ⟨fun _ _ => rfl, fun noTarget =>
        absurd ⟨target, member, rfl⟩ noTarget⟩
    · rw [if_neg same]
      refine ⟨fun isTarget notLeft => done isTarget ?_, untouched⟩
      rintro ⟨other, listed, isSlot⟩
      rcases List.mem_cons.mp listed with rfl | later
      · exact same isSlot.symm
      · exact notLeft ⟨other, later, isSlot⟩
  · exact fun slot _ =>
      ⟨fun isTarget left => absurd isTarget left, fun _ => rfl⟩
  · rintro _ after ⟨steady, holds⟩
    refine ⟨steady, fun slot free => ?_⟩
    exact ⟨fun isTarget => (holds slot free).1 isTarget
      (by rintro ⟨_, member, _⟩; cases member), (holds slot free).2⟩

/-- A block is wired statically. -/
theorem Sound.strips_wire (sound : Sound settings workspace engine none before)
    (ripples : RipplesOnly react) (known : before.blocks.contains block)
    (idle : before.liveWiringFor? engine block = none) :
    Leads (wire react engine block .static) before
      (fun wiring after => after.wiringFor? engine block = some wiring ∧
        after.wiring wiring = { block, mode := .static, engine } ∧
        (∀ id, (after.workspace id).registry = (before.workspace id).registry) ∧
        ∀ slot, ¬ before.OpenTarget slot →
          (TargetSlot (before.targetsFor engine block) slot →
            after.slotCheck slot =
            Check.ofTypes (before.declared (before.engine engine).config.lead
              slot).regular) ∧
          (¬ TargetSlot (before.targetsFor engine block) slot →
            after.slotCheck slot = before.slotCheck slot))
      (fun _ _ => True) := by
  have ready := ready_beginWiring sound known idle .static
  have arranged := sound.layout.toArranged
  have knownTargets : ∀ target ∈ before.targetsFor engine block,
      before.Known target.slot :=
    fun _ member =>
      (arranged.belongs_of_offers (targets_offered member).1).known arranged
  simp only [wire, leads_bind, leads_look]
  split
  · rename_i live
    cases idle.symm.trans live
  · simp only [newWiring, leads_bind, leads_look, leads_modify, leads_pure]
    refine Leads.imp (strips_wireStatic (before.engine engine).config.lead
      ready.sound.grounded ripples ?_ ?_ ?_) ?_
    · exact knownTargets
    · exact fun target member => hasCheck_of_offers (targets_offered member).1
    · exact fun target member => (declared_of_target member).1
    · rintro _ after ⟨steady, strips⟩
      refine ⟨wiringFor?_recordWiring _ engine block _, ?_, steady.registry, ?_⟩
      · exact (steady.wiring before.nextWiring).trans
          ((wiring_beginWiring ..).trans (if_pos rfl))
      · exact fun slot free => strips slot fun isTarget =>
          free (openTarget_beginWiring isTarget)

end Strip

section Retain

variable {outside : Callbacks σ} {wiring : WiringId}

theorem Sound.retains_perform (keepsOut : KeepsOut outside)
    (sound : Sound settings workspace engine none before)
    {operation : HostOperation} {limit : Nat}
    (refers : operation.Refers workspace before) :
    Ends (operation.perform (reaction outside limit) limit workspace) before
      (Retains engine before) := by
  by_cases makes : ∃ type id extensions,
    operation = .newBlock type id extensions
  · obtain ⟨type, id, extensions, rfl⟩ := makes
    refine (leads_discard _).mpr
      (Ends.mono (tables_newBlock type id extensions) ?_)
    rintro after ⟨engines, wirings⟩
    constructor
    · unfold Editor.wiring
      rw [wirings]
      exact fun _ isOpen => isOpen
    · unfold Editor.engine
      rw [engines]
      exact fun _ _ found _ => found
  · exact Ends.mono (sound.tracks_perform keepsOut limit refers
      fun type id extensions isMade =>
        makes ⟨type, id, extensions, isMade⟩) fun _ tracks => tracks.toRetains

theorem Sound.retains_run (keepsOut : KeepsOut outside) (limit : Nat)
    (operations : List HostOperation)
    (sound : Sound settings workspace engine none editor)
    (admitted : AllAdmitted outside (fun _ _ _ _ => True) limit workspace
      operations editor) :
    Outgrows editor (performAll outside limit workspace operations editor) ∧
      Retains engine editor
        (performAll outside limit workspace operations editor) := by
  refine (HostOperation.keeps_performAll (fun current =>
    Sound settings workspace engine none current ∧ Outgrows editor current ∧
      Retains engine editor current) ?_ operations
        ⟨sound, Outgrows.refl _, ⟨fun _ => id, fun _ _ found _ => found⟩⟩
          admitted).2
  rintro before operation outcome after refers run _ ⟨sound, outgrows, retains⟩
  have course := sound.course_of_run keepsOut refers operation.within_all run
  exact ⟨course.sound sound, outgrows.trans (course.outgrows sound),
    retains.trans ((sound.retains_perform keepsOut refers).holds run)⟩

/-- A wiring that is not disposed is returned as long as it is on record. -/
theorem wire_of_live {mode : WiringMode}
    (live : editor.liveWiringFor? engine block = some wiring) :
    wire react engine block mode editor = (.ok wiring, editor) := by
  apply run_of_leads
  simp only [wire, leads_bind, leads_look]
  rw [live]
  rfl

theorem Retains.live (retains : Retains engine before after)
    (outgrows : Outgrows before after) (known : before.blocks.contains block)
    (recorded : before.wiringFor? engine block = some wiring)
    (isOpen : (after.wiring wiring).disposed = false) :
    after.liveWiringFor? engine block = some wiring := by
  have found := retains.kept _ wiring recorded isOpen
  rw [← outgrows.blockId block known] at found
  rw [liveWiringFor?, wiringFor?, found]
  simp [isOpen]

end Retain

/-- When a block without a live wiring is wired statically, nobody listens anew
and the wiring has no bindings.  Of the slots of the block, those whose lists
hold directives are left with their regular types and the others as they were,
so that no directives remain.  This holds of the connections, and of the fields
that no live binding of another block writes.  Until the wiring is disposed,
wiring the block again returns it and changes nothing. -/
theorem static_wiring_exact {outside : Callbacks σ}
    (keepsOut : KeepsOut outside)
    (reached : Reached outside (fun _ _ _ _ => True) settings workspace before)
    (known : before.blocks.contains block)
    (idle : before.liveWiringFor? (before.workspace workspace).engine block =
      none) {limit : Nat} {wiring : WiringId}
    (run : wire (reaction outside limit) (before.workspace workspace).engine
      block .static before = (.ok wiring, after)) :
    (∀ id key, (after.workspace id).registry.listenersAt key =
      (before.workspace id).registry.listenersAt key) ∧
    (after.wiring wiring).bindings = {} ∧
    (after.wiring wiring).subscriptions = [] ∧
    (∀ slot, before.Offers block slot →
      (∀ field, slot = .field field → ¬ before.OpenTarget slot) →
        let lead :=
          (before.engine (before.workspace workspace).engine).config.lead
        ((before.declared lead slot).hasDirectives = true →
          after.slotCheck slot = Check.ofTypes
            (before.declared lead slot).regular) ∧
        ((before.declared lead slot).hasDirectives = false →
          after.slotCheck slot = before.slotCheck slot) ∧
        (after.declared lead slot).hasDirectives = false) ∧
    ∀ (limit : Nat) (operations : List HostOperation),
      AllAdmitted outside (fun _ _ _ _ => True) limit workspace
        operations after →
      let later := performAll outside limit workspace operations after
      (later.wiring wiring).disposed = false →
        ∀ (limit : Nat) (mode : WiringMode),
        wire (reaction outside limit) (before.workspace workspace).engine
          block mode later =
          (.ok wiring, later) := by
  have sound := reached.sound keepsOut
  have ripples := ripplesOnly_reaction keepsOut limit
  rw [sound.desk.engineOf] at idle run ⊢
  obtain ⟨recorded, isWiring, registries, strips⟩ :=
    (sound.strips_wire ripples known idle).returns run
  refine ⟨fun id key => by rw [registries], by rw [isWiring], by
    rw [isWiring], ?_, ?_⟩
  · intro slot offers unbound lead
    -- The cascades write targets of live bindings only, and this slot is none.
    have free : ¬ before.OpenTarget slot := by
      cases slot with
      | connection connection =>
          exact sound.not_openTarget idle
            (sound.layout.toArranged.belongs_of_offers offers).2
      | field field => exact unbound field rfl
    obtain ⟨stripped, untouched⟩ := strips slot free
    have strip := fun has => stripped (targetSlot_iff.mpr ⟨offers, has⟩)
    have leave : (before.declared lead slot).hasDirectives = false →
        after.slotCheck slot = before.slotCheck slot := by
      intro hasNone
      refine untouched fun isTarget => ?_
      cases hasNone.symm.trans (targetSlot_iff.mp isTarget).2
    refine ⟨strip, leave, ?_⟩
    unfold Editor.declared
    cases has : (before.declared lead slot).hasDirectives with
    | true =>
        rw [strip has]
        exact Declared.hasDirectives_regular lead _
    | false =>
        rw [leave has]
        exact has
  · intro limit operations admitted later isOpen limit' mode
    have conducts : Conducts Liberties.all workspace ⟨0⟩
      (wire (reaction outside _) ⟨0⟩ block .static) before :=
        conducts_wire sound ripples .static known
    have course := conducts.holds run
    obtain ⟨outgrows, retains⟩ :=
      (course.sound sound).retains_run keepsOut limit operations admitted
    have knownAfter := (course.outgrows sound).knownBlock block known
    exact wire_of_live (retains.live outgrows knownAfter recorded isOpen)

/-- A relay with directives in a list that has repeats and in the list of a
field, linked with a sink that is wired. -/
def staticRelay : List HostOperation :=
  [.newBlock "relay" (some "A") [], .setOutput ⟨0⟩ (some ["From:IN", "Y", "Y"]),
    .appendInput ⟨0⟩ "IN" (some ["X"]),
    .newField "V" (.reference (some ["From:IN", "Z"])) .nothing,
    .appendField ⟨0⟩ 0 ⟨0⟩, .newBlock "sink" (some "B") [],
    .setOutput ⟨1⟩ (some ["From:IN"]), .appendInput ⟨1⟩ "IN" none,
    .wire ⟨1⟩ .live, .connect ⟨0⟩ ⟨3⟩]

/-- The relay's lists are left with one type each, and wiring it again after the
link is cut and the sink disposed returns the wiring it has. -/
theorem static_wiring_exact_staticRelay :
    ∃ (before after : Editor Unit) (wiring : WiringId),
      Reached idle (fun _ _ _ _ => True) {} ⟨0⟩ before ∧
      before.blocks.contains ⟨0⟩ ∧
      before.liveWiringFor? (before.workspace ⟨0⟩).engine ⟨0⟩ = none ∧
      wire (reaction idle 20) (before.workspace ⟨0⟩).engine ⟨0⟩ .static before =
        (.ok wiring, after) ∧
      before.slotCheck (.connection ⟨0⟩) = some ["From:IN", "Y", "Y"] ∧
      after.slotCheck (.connection ⟨0⟩) = some ["Y"] ∧
      after.slotCheck (.connection ⟨1⟩) = some ["X"] ∧
      after.slotCheck (.field ⟨0⟩) = some ["Z"] ∧
      wire (reaction idle 20) (before.workspace ⟨0⟩).engine ⟨0⟩ .live
          (performAll idle 20 ⟨0⟩ [.disconnect ⟨0⟩, .disposeBlock ⟨1⟩] after) =
        (.ok wiring,
          performAll idle 20 ⟨0⟩ [.disconnect ⟨0⟩, .disposeBlock ⟨1⟩]
            after) := by
  have reached : Reached idle (fun _ _ _ _ => True) {} ⟨0⟩
      (performAll idle 20 ⟨0⟩ staticRelay freshWorkspace) :=
    reached_freshWorkspace.performAll 20 staticRelay (by decide +kernel)
  generalize isBefore :
    performAll idle 20 ⟨0⟩ staticRelay freshWorkspace = before at reached
  have known : before.blocks.contains ⟨0⟩ := by
    rw [← isBefore]
    decide +kernel
  have isIdle : before.liveWiringFor? (before.workspace ⟨0⟩).engine
      ⟨0⟩ = none := by
    rw [← isBefore]
    decide +kernel
  have returns : (wire (reaction idle 20) (before.workspace ⟨0⟩).engine
    ⟨0⟩ .static before).1 =
      .ok ⟨1⟩ := by
    rw [← isBefore]
    decide +kernel
  obtain ⟨_, _, _, strips, again⟩ :=
    static_wiring_exact keepsOut_idle reached known isIdle
      (eq_of_outcome returns)
  have ofConnection : ∀ (connection : ConnectionId) field,
      Slot.connection connection = .field field →
        ¬ before.OpenTarget (.connection connection) := by
    intro _ _ impossible
    cases impossible
  have unbound : ¬ before.OpenTarget (.field ⟨0⟩) := by
    rw [← isBefore]
    decide +kernel
  have output := (strips (.connection ⟨0⟩) (by rw [← isBefore]; decide +kernel)
    (ofConnection _)).1 (by rw [← isBefore]; decide +kernel)
  have input := (strips (.connection ⟨1⟩) (by rw [← isBefore]; decide +kernel)
    (ofConnection _)).2.1 (by rw [← isBefore]; decide +kernel)
  have field := (strips (.field ⟨0⟩) (by rw [← isBefore]; decide +kernel)
    fun _ _ => unbound).1
    (by rw [← isBefore]; decide +kernel)
  refine ⟨before, _, ⟨1⟩, reached, known, isIdle, eq_of_outcome returns, ?_,
    output.trans ?_, input.trans ?_, field.trans ?_, again 20 _ ?_ ?_ 20 .live⟩
  all_goals
    rw [← isBefore]
    decide +kernel

/-- A wired block shares two fields with another block.  The first, which takes
its types from the second, holds a list of its own. -/
def sharedFields : List HostOperation :=
  [.newBlock "wired" (some "a") [], .appendDummyInput ⟨0⟩ "",
    .newField "V" (.reference (some ["From:W"])) .nothing,
    .newField "W" (.reference (some ["X"])) .nothing, .appendField ⟨0⟩ 0 ⟨0⟩,
    .appendField ⟨0⟩ 0 ⟨1⟩, .newBlock "cleaned" (some "b") [],
    .appendDummyInput ⟨1⟩ "", .appendField ⟨1⟩ 0 ⟨0⟩, .appendField ⟨1⟩ 0 ⟨1⟩,
    .wire ⟨0⟩ .live, .setTypes (.field ⟨1⟩) (some ["From:IN"]),
    .setTypes (.field ⟨0⟩) (some ["Z"])]

/-- When the other block is wired statically, the second field loses its
directive and with it the first one, which had none, its list. -/
theorem sharedFields_not_kept :
    ∃ (before after : Editor Unit) (wiring : WiringId),
      Reached idle (fun before operation _ _ =>
        operation.Within { Liberties.plain with moves := True } before)
        {} ⟨0⟩ before ∧
      before.UniqueIds ∧ before.liveWiringFor? ⟨0⟩ ⟨1⟩ = none ∧
      wire (reaction idle 20) ⟨0⟩ ⟨1⟩ .static before = (.ok wiring, after) ∧
      before.Offers ⟨1⟩ (.field ⟨0⟩) ∧
      (before.declared (before.engine ⟨0⟩).config.lead
        (.field ⟨0⟩)).hasDirectives = false ∧
      before.slotCheck (.field ⟨0⟩) = some ["Z"] ∧
      after.slotCheck (.field ⟨0⟩) = none := by
  have returns : (wire (reaction idle 20) ⟨0⟩ ⟨1⟩ .static
      (performAll idle 20 ⟨0⟩ sharedFields freshWorkspace)).1 = .ok ⟨1⟩ := by
    decide +kernel
  refine ⟨_, _, ⟨1⟩, reached_freshWorkspace.performAll 20 sharedFields
    (by decide +kernel), ?_, ?_, eq_of_outcome returns, ?_, ?_, ?_, ?_⟩
  all_goals decide +kernel

end Editor

end TypeFlow
