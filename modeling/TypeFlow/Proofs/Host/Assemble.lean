import TypeFlow.Proofs.Host.Install

/-!
# Wiring the targets of a live block

The walk through the wiring of a block, once for all: it follows `Assembly`
steps, ends with bindings that attend to their sources, and keeps any further
invariant that quiet steps and the writing of a target keep.
-/

namespace TypeFlow

theorem mapM_error_mem {α β ε : Type} {action : α → Except ε β} {fault : ε} :
    ∀ {items : List α}, items.mapM action = .error fault →
      ∃ item ∈ items, action item = .error fault
  | [], run => by cases run
  | item :: rest, run => by
      rw [List.mapM_cons] at run
      cases first : action item with
      | error here =>
          rw [first] at run
          cases run
          exact ⟨item, by simp, first⟩
      | ok result =>
          rw [first] at run
          cases later : rest.mapM action with
          | error there =>
              rw [later] at run
              cases run
              obtain ⟨other, member, fails⟩ := mapM_error_mem later
              exact ⟨other, by simp [member], fails⟩
          | ok results =>
              rw [later] at run
              cases run

namespace Editor

variable {σ : Type} {editor : Editor σ} {plan : Plan}

theorem planEdges_error {fault : Fault}
    (fails : editor.planEdges plan = .error fault) :
    ∃ name, fault = .fieldDetached name := by
  unfold planEdges at fails
  obtain ⟨field, _, failsHere⟩ := mapM_error_mem fails
  cases hasKey : editor.slotKey plan.target.slot with
  | error first =>
      rw [hasKey] at failsHere
      cases failsHere
      exact slotKey_error hasKey
  | ok key =>
      rw [hasKey] at failsHere
      cases hasSource : editor.fieldKey field with
      | error second =>
          rw [hasSource] at failsHere
          cases failsHere
          have failsKey : editor.slotKey (.field field) = .error fault :=
            hasSource
          exact slotKey_error failsKey
      | ok source =>
          rw [hasSource] at failsHere
          cases failsHere

theorem mem_planEdges {edges : List (SlotKey × SlotKey)}
    (found : editor.planEdges plan = .ok edges) {key source : SlotKey}
    (hasKey : editor.slotKey plan.target.slot = .ok key) {link : Link}
    (member : link ∈ plan.links) {field : FieldId}
    (isField : link.source = .field field)
    (hasSource : editor.fieldKey field = .ok source) :
    (key, source) ∈ edges := by
  unfold planEdges at found
  have listed := mapM_ok_mem found field
  obtain ⟨edge, inEdges, isEdge⟩ :=
    listed (List.mem_filterMap.mpr ⟨link, member, by rw [isField]⟩)
  rw [hasKey, hasSource] at isEdge
  cases isEdge
  exact inEdges

/-- Unless it raises, the search for circles leaves the state as it is. -/
theorem leads_rejectCycle (slots : Slot → Prop) (engine : EngineId)
    (block : BlockId) (plans : List Plan) (editor : Editor σ) :
    Leads (rejectCycle engine block plans) editor
      (fun _ after => after = editor ∧
        ∃ edges, plans.mapM editor.planEdges = .ok edges ∧
        ((editor.engine engine).config.rejectCycles = true →
          (DirectiveGraph.ofEdges edges.flatten).findCycle = none))
      (fun fault after => Rippled slots editor after ∧
        (∀ wiring, Quiet wiring editor after) ∧
        ((∃ name, fault = .fieldDetached name) ∨
          ∃ id cycle, fault = .cyclicDirectives id cycle)) := by
  simp only [rejectCycle, leads_bind, leads_lookup]
  refine ⟨?_, ?_⟩
  · intro edges found
    split
    · rename_i none
      exact ⟨rfl, edges, found, fun _ => none⟩
    · rename_i cycle _
      simp only [leads_bind, leads_look]
      split
      · simp only [leads_bind, leads_modify, leads_look, leads_throw]
        refine ⟨Rippled.of_checks (steady_updateStats editor engine _ fun _ =>
          ⟨rfl, rfl⟩) ?_,
          fun wiring => quiet_updateStats wiring editor engine _,
            Or.inr ⟨_, cycle, rfl⟩⟩
        intro slot
        cases slot <;> rfl
      · rename_i allows
        exact ⟨rfl, edges, found, fun rejects => absurd rejects allows⟩
  · intro fault fails
    obtain ⟨plan, _, planFails⟩ := mapM_error_mem fails
    exact ⟨Rippled.refl editor, fun wiring => Quiet.refl wiring editor,
      Or.inl (planEdges_error planFails)⟩

/-- The slots of the listed targets. -/
def TargetSlot (targets : List Target) (slot : Slot) : Prop :=
  ∃ target ∈ targets, target.slot = slot

section Assemble

variable {settings : Settings} {workspace : WorkspaceId} {engine : EngineId}
  {wiring : WiringId} {slots : Slot → Prop} {allowed : SlotKey → SlotKey → Prop}
  {start : Editor σ}

/-- The wiring of a block between two plans. -/
structure Midway (workspace : WorkspaceId) (engine : EngineId)
    (slots : Slot → Prop) (wiring : WiringId)
    (allowed : SlotKey → SlotKey → Prop) (start current : Editor σ) :
    Prop where
  course : AssemblyCourse workspace engine slots wiring start current
  edges : ∀ target source, current.FieldEdge wiring target source →
    allowed target source
  attends : ∀ key binding, (current.wiring wiring).bindings.get? key =
    some binding →
    current.Attends workspace wiring key binding

theorem Midway.refl (noBindings : (start.wiring wiring).bindings = {}) :
    Midway workspace engine slots wiring allowed start start where
  course := Relation.ReflTransGen.refl
  edges := by
    rintro target source ⟨binding, found, _⟩
    rw [noBindings] at found
    cases found
  attends := by
    intro key binding found
    rw [noBindings] at found
    cases found

theorem Midway.rippled {before after : Editor σ}
    (midway : Midway workspace engine slots wiring allowed start before)
    (rippled : Rippled slots before after) :
    Midway workspace engine slots wiring allowed start after where
  course := midway.course.tail (Assembly.ripple rippled)
  edges := by
    rintro target source ⟨binding, found, link, member, field,
      isField, hasSource⟩
    rw [rippled.toSteady.wiring] at found
    rw [rippled.toSteady.fieldKey] at hasSource
    exact midway.edges target source ⟨binding, found, link, member, field,
      isField, hasSource⟩
  attends := by
    intro key binding found
    rw [rippled.toSteady.wiring] at found
    exact rippled.toSteady.attends (midway.attends key binding found)

/-- What the start of a wiring has to provide. -/
structure Ready (settings : Settings) (workspace : WorkspaceId)
    (engine : EngineId) (slots : Slot → Prop) (wiring : WiringId)
    (start : Editor σ) : Prop where
  sound : Sound settings workspace engine (some wiring) start
  offered : ∀ slot, slots slot → start.Offers (start.wiring wiring).block slot
  undisposed : (start.wiring wiring).disposed = false
  noBindings : (start.wiring wiring).bindings = {}

theorem Ready.known (ready : Ready settings workspace engine slots wiring start)
    {current : Editor σ}
    (course : AssemblyCourse workspace engine slots wiring start current)
    {slot : Slot} (isSlot : slots slot) : current.Known slot := by
  have sound := course.sound ready.offered ready.sound
  have offered := (course.kept.offers (start.wiring wiring).block slot).mpr
    (ready.offered slot isSlot)
  cases slot with
  | connection connection =>
      rcases offered with isOutput | ⟨row, member, isInput⟩
      · exact (sound.layout.output _ connection isOutput).1
      · exact (sound.layout.row _ row connection member isInput).1
  | field field => exact (sound.layout.rowField _ field offered.1).1

/-- What is to be kept while a block is wired, and what is to hold once it is
wired.  Writing a target and the first recomputation are the only steps that
call listeners; faults that arise there have to be permitted, with the state
they leave, and stay so when the targets get their lists back. -/
structure Walk (settings : Settings) (workspace : WorkspaceId)
    (engine : EngineId) (react : Reaction σ) (slots : Slot → Prop)
    (wiring : WiringId) (start : Editor σ)
    (invariant finished : Editor σ → Prop)
    (permitted : Fault → Editor σ → Prop) : Prop where
  holds : invariant start
  quietly : ∀ before after, invariant before → Quiet wiring before after →
    invariant after
  write : ∀ allowed before slot check,
    Midway workspace engine slots wiring allowed start before → slots slot →
      invariant before →
      Leads (setTypes react slot check) before
        (fun _ after => invariant after) permitted
  recomputed : settings.initialRecompute = true → ∀ allowed before,
    Midway workspace engine slots wiring allowed start before →
      invariant before →
      Leads (recomputeAll react wiring) before
        (fun _ after => finished after) permitted
  skipped : settings.initialRecompute = false → ∀ before, invariant before →
    finished before
  idle : ∀ before, (before.wiring wiring).bindings = {} → invariant before →
    finished before
  settled : ∀ before after, finished before →
    (∀ other, Quiet other before after) →
    finished after
  detached : ∀ name before, invariant before →
    permitted (.fieldDetached name) before
  circular : ∀ id cycle before, invariant before →
    permitted (.cyclicDirectives id cycle) before
  undone : ∀ fault before after, permitted fault before →
    after.pool = before.pool →
    (∀ field, (after.field field).value = (before.field field).value) →
    (∀ slot, ¬ slots slot → after.slotCheck slot = before.slotCheck slot) →
      permitted fault after

variable {react : Reaction σ} {invariant finished : Editor σ → Prop}
  {permitted : Fault → Editor σ → Prop}

/-- Nothing need be asked of the last state. -/
theorem Walk.unfinished
    (walk : Walk settings workspace engine react slots wiring start invariant
      finished permitted) :
    Walk settings workspace engine react slots wiring start invariant
      (fun _ => True) permitted :=
  { walk with
    recomputed := fun recomputes allowed before midway holds =>
      Leads.imp (walk.recomputed recomputes allowed before midway holds)
        (fun _ _ _ => True.intro)
    skipped := fun _ _ _ => True.intro
    idle := fun _ _ _ => True.intro
    settled := fun _ _ _ _ => True.intro }

/-- All plans are installed in turn. -/
theorem leads_installAll
    (ready : Ready settings workspace engine slots wiring start)
    (ripples : RipplesOnly react)
    (walk : Walk settings workspace engine react slots wiring start invariant
      finished permitted)
      (acyclic : (start.engine engine).config.rejectCycles = true →
        Acyclic allowed) (block : BlockId)
    (plans : List Plan)
    (fits : ∀ plan ∈ plans, start.PlanFits (start.wiring wiring).block
      slots allowed plan)
    (differ : plans.Pairwise fun left right =>
      start.KeysDiffer left.target.slot right.target.slot)
    (noBindings : (editor.wiring wiring).bindings = {})
    (midway : Midway workspace engine slots wiring allowed start editor)
    (holds : invariant editor) :
    Leads (plans.forM (install react engine block wiring)) editor
      (fun _ after => Midway workspace engine slots wiring allowed start after ∧
        invariant after)
      (fun fault after => AssemblyCourse workspace engine slots
        wiring start after ∧
        permitted fault after) := by
  -- The plans that are still to be installed have keys without a binding.
  let installing (rest : List Plan) (current : Editor σ) : Prop :=
    (Midway workspace engine slots wiring allowed start current ∧
      invariant current) ∧
      rest.Pairwise (fun left right => start.KeysDiffer left.target.slot
        right.target.slot) ∧
      ∀ plan ∈ rest, ∀ key, start.slotKey plan.target.slot = .ok key →
        (current.wiring wiring).bindings.get? key = none
  suffices walked : Leads (plans.forM (install react engine block wiring))
      editor (fun _ after => installing [] after)
      (fun fault after => AssemblyCourse workspace engine slots
        wiring start after ∧
        permitted fault after) from
    Leads.imp walked (fun _ _ installed => installed.1)
  refine leads_forM installing plans ?_ ⟨⟨midway, holds⟩, differ, ?_⟩
  rotate_left
  · intro plan _ key _
    rw [noBindings]
    rfl
  rintro plan rest before member ⟨⟨midway, holds⟩, differ, fresh⟩
  obtain ⟨differHere, differLater⟩ := List.pairwise_cons.mp differ
  have kept := midway.course.kept
  have sound := midway.course.sound ready.offered ready.sound
  have fitsHere := kept.planFits (fits plan member)
  by_cases hasLinks : plan.links = []
  · have empty : plan.links.isEmpty = true := by simp [hasLinks]
    simp only [install, if_pos empty, leads_discard]
    have known := ready.known midway.course fitsHere.target
    refine Leads.mono ((setTypes_rippled ripples sound.responsive _ known).and
      (walk.write allowed before _ _ midway fitsHere.target holds)) ?_ ?_
    · rintro _ after ⟨rippled, stillHolds⟩
      refine ⟨⟨midway.rippled (rippled.absorb ?_), stillHolds⟩, differLater, ?_⟩
      · rintro slot rfl
        exact Or.inl fitsHere.target
      · intro other inRest key hasKey
        rw [rippled.toSteady.wiring]
        exact fresh other (by simp [inRest]) key hasKey
    · rintro fault after ⟨rippled, isPermitted⟩
      refine ⟨(midway.rippled (rippled.absorb ?_)).course, isPermitted⟩
      rintro slot rfl
      exact Or.inl fitsHere.target
  · have offered : ∀ slot, slots slot →
        before.Offers (before.wiring wiring).block slot := by
      intro slot isSlot
      rw [kept.block, kept.offers]
      exact ready.offered slot isSlot
    rw [← kept.block] at fitsHere
    refine Leads.mono (leads_install_binding fitsHere
      (by rw [kept.config]; exact acyclic) midway.edges sound offered
      (kept.disposed.trans ready.undisposed)
      (by rw [kept.slotKey]; exact fresh plan (by simp)) hasLinks block) ?_ ?_
    · rintro _ after ⟨course, quiet, key, binding, hasKey, sameTarget,
        sameLinks, bindings, attends⟩
      refine ⟨⟨⟨midway.course.trans course, ?_, ?_⟩,
        walk.quietly before after holds quiet⟩, differLater, ?_⟩
      · intro target source edge
        rcases fieldEdge_insert bindings quiet.fieldKey edge with
          ⟨rfl, link, inLinks, field, isField, hasSource⟩ | earlier
        · rw [sameLinks] at inLinks
          exact fitsHere.edges target hasKey link inLinks field isField
            source hasSource
        · exact midway.edges target source earlier
      · intro other found isFound
        rw [bindings, OrderedMap.get?_insert] at isFound
        split at isFound
        · rename_i sameKey
          cases isFound
          rw [← sameKey]
          exact attends
        · exact quiet.attends (midway.attends other found isFound)
      · intro other inRest otherKey hasOtherKey
        have distinctKeys : key ≠ otherKey := by
          rintro rfl
          rw [kept.slotKey] at hasKey
          exact differHere other inRest key hasKey hasOtherKey
        rw [bindings, OrderedMap.get?_insert, if_neg distinctKeys]
        exact fresh other (by simp [inRest]) otherKey hasOtherKey
    · rintro fault after ⟨course, quiet, name, rfl⟩
      exact ⟨midway.course.trans course,
        walk.detached name after (walk.quietly before after holds quiet)⟩

theorem plan_links (editor : Editor σ) (block : BlockId) (target : Target) :
    ∀ link ∈ (editor.plan block target).links,
      editor.findSource? block link.directive.source = some link.source := by
  intro link inLinks
  obtain ⟨directive, _, found⟩ := List.mem_filterMap.mp inLinks
  obtain ⟨source, hasSource, isLink⟩ := Option.map_eq_some_iff.mp found
  subst isLink
  exact hasSource

/-- The plans of all targets fit once their dependencies on fields are known. -/
theorem planFits_of_planEdges {targets : List Target} {block : BlockId}
    {edges : List (List (SlotKey × SlotKey))} {before after : Editor σ}
    (steady : Steady before after)
    (found : (targets.map (before.plan block)).mapM after.planEdges = .ok
      edges) :
    ∀ plan ∈ targets.map (before.plan block), before.PlanFits block
      (TargetSlot targets)
      (fun target source => (target, source) ∈ edges.flatten) plan := by
  intro plan inPlans
  obtain ⟨ofPlan, inEdges, planned⟩ := mapM_ok_mem found plan inPlans
  obtain ⟨target, inTargets, isPlan⟩ := List.mem_map.mp inPlans
  have links := plan_links before block target
  rw [isPlan] at links
  refine ⟨⟨target, inTargets, by rw [← isPlan]; rfl⟩, links, ?_⟩
  intro key hasKey link inLinks field isField source hasSource
  rw [← steady.slotKey] at hasKey
  rw [← steady.fieldKey] at hasSource
  exact List.mem_flatten.mpr
    ⟨ofPlan, inEdges, mem_planEdges planned hasKey inLinks isField hasSource⟩

/-- The whole wiring of a live block. -/
theorem leads_wireLive {targets : List Target}
    (ready : Ready settings workspace engine (TargetSlot targets) wiring start)
    (differ : targets.Pairwise fun left right => start.KeysDiffer left.slot
      right.slot)
    (ripples : RipplesOnly react)
    (walk : Walk settings workspace engine react (TargetSlot targets) wiring
      start invariant finished permitted) :
    Leads (wireLive react engine (start.wiring wiring).block wiring targets)
      start (fun _ after => (∃ allowed,
        Midway workspace engine (TargetSlot targets) wiring allowed start
          after) ∧ finished after)
      (fun fault after =>
        AssemblyCourse workspace engine (TargetSlot targets)
          wiring start after ∧
          permitted fault after) := by
  simp only [wireLive, leads_bind, leads_look, leads_modify]
  -- Counting the directives without a source is a quiet step.
  generalize hPlans :
    targets.map (start.plan (start.wiring wiring).block) = plans
  generalize hCounted : start.updateStats engine _ = counted
  have counts : Rippled (TargetSlot targets) start counted := by
    subst hCounted
    refine Rippled.of_checks (steady_updateStats start engine _ fun _ =>
      ⟨rfl, rfl⟩) ?_
    intro slot
    cases slot <;> rfl
  have quiet : Quiet wiring start counted := by
    subst hCounted
    exact quiet_updateStats wiring start engine _
  refine Leads.mono (leads_rejectCycle (TargetSlot targets) engine
    (start.wiring wiring).block plans counted) ?_ ?_
  · rintro _ after ⟨rfl, edges, found, noCycle⟩
    let allowed (target source : SlotKey) : Prop :=
      (target, source) ∈ edges.flatten
    have fits : ∀ plan ∈ plans,
        start.PlanFits (start.wiring wiring).block (TargetSlot targets)
          allowed plan := by
      rw [← hPlans]
      refine planFits_of_planEdges counts.toSteady ?_
      rw [hPlans]
      exact found
    have acyclic : (start.engine engine).config.rejectCycles = true →
        Acyclic allowed := by
      intro rejects
      rw [← counts.toSteady.config] at rejects
      exact DirectiveGraph.acyclic_edges (noCycle rejects)
    have begun : Midway workspace engine (TargetSlot targets) wiring allowed
        start start :=
      Midway.refl ready.noBindings
    have plansDiffer : plans.Pairwise fun left right =>
        start.KeysDiffer left.target.slot right.target.slot := by
      rw [← hPlans]
      exact List.pairwise_map.mpr differ
    have noBindings : (after.wiring wiring).bindings = {} := by
      rw [counts.toSteady.wiring]
      exact ready.noBindings
    refine Leads.imp (leads_installAll ready ripples walk acyclic
      (start.wiring wiring).block
      plans fits plansDiffer noBindings (begun.rippled counts)
      (walk.quietly start after walk.holds quiet)) ?_
    rintro _ installed ⟨midway, stillHolds⟩
    have sound := midway.course.sound ready.offered ready.sound
    have sameSetting : (installed.engine engine).config.initialRecompute =
        settings.initialRecompute :=
      congrArg Settings.initialRecompute sound.desk.config
    split
    · rename_i recomputes
      rw [leads_discard]
      have undisposed := midway.course.kept.disposed.trans ready.undisposed
      have echoes : Ends (recomputeAll react wiring) installed
          (Echoed installed) := by
        simp only [Ends, recomputeAll, leads_bind, leads_look]
        exact recomputeEach_echoed ripples _ sound.responsive undisposed
      refine Leads.mono
        (echoes.and (walk.recomputed (sameSetting.symm.trans recomputes) allowed
        installed midway stillHolds)) ?_ ?_
      · rintro _ final ⟨echoed, done⟩
        exact ⟨⟨allowed, midway.rippled (echoed.absorb (by simp))⟩, done⟩
      · rintro fault final ⟨echoed, isPermitted⟩
        exact ⟨(midway.rippled (echoed.absorb (by simp))).course, isPermitted⟩
    · rename_i skips
      rw [Bool.not_eq_true] at skips
      exact ⟨⟨allowed, midway⟩,
        walk.skipped (sameSetting.symm.trans skips) installed stillHolds⟩
  · rintro fault after ⟨rippled, refused, isDetached | isCircular⟩
    · obtain ⟨name, rfl⟩ := isDetached
      exact ⟨Relation.ReflTransGen.single
        (Assembly.ripple (counts.trans rippled)),
        walk.detached name after
          (walk.quietly start after walk.holds (quiet.trans (refused _)))⟩
    · obtain ⟨id, cycle, rfl⟩ := isCircular
      exact ⟨Relation.ReflTransGen.single
        (Assembly.ripple (counts.trans rippled)), walk.circular id cycle after
          (walk.quietly start after walk.holds (quiet.trans (refused _)))⟩

end Assemble

end Editor

end TypeFlow
