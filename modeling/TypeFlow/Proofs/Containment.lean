import TypeFlow.Proofs.Prompting
import TypeFlow.Proofs.Rollback

/-!
# How far a failed wiring is felt

A wiring that fails puts back the lists of its own targets and nothing else.
What a cascade did to other blocks stays done.  It is confined to the slots in
reach of the targets: those whose bindings are called, directly or through
others, when a target is written.  A variable changes only if a field in reach
refers to it.
-/

namespace TypeFlow.Editor

open HostOperation (performAll)

variable {σ : Type} {workspace : WorkspaceId} {editor before after : Editor σ}
  {region : Slot → Prop} {key : SlotKey} {wiring : WiringId} {slot : Slot}

/-- The slots that may be written once one of the given slots is: those
themselves, and the targets of all bindings that are called on from there. -/
inductive InReach (workspace : WorkspaceId) (editor : Editor σ)
    (slots : Slot → Prop) :
    Slot → Prop
  | start {slot : Slot} : slots slot → InReach workspace editor slots slot
  | follow {slot : Slot} {key target : SlotKey} {wiring : WiringId}
      {binding : Binding} :
      InReach workspace editor slots slot → editor.echoKey? slot = some key →
      .recompute wiring target ∈
        (editor.workspace workspace).registry.listenersAt key →
      editor.OpenBinding wiring target binding →
      InReach workspace editor slots binding.target

/-- What is called when a slot of the region accepts other types writes a slot
of the region. -/
def Encloses (workspace : WorkspaceId) (editor : Editor σ)
    (region : Slot → Prop) : Prop :=
  ∀ slot key wiring target binding, region slot →
    editor.echoKey? slot = some key →
    .recompute wiring target ∈ (editor.workspace workspace).registry.listenersAt
      key →
      editor.OpenBinding wiring target binding → region binding.target

/-- Who is called under the key writes slots of the region. -/
def CallsInto (workspace : WorkspaceId) (editor : Editor σ)
    (region : Slot → Prop) (key : SlotKey) : Prop :=
  ∀ wiring target binding,
    .recompute wiring target ∈ (editor.workspace workspace).registry.listenersAt
      key →
      editor.OpenBinding wiring target binding → region binding.target

theorem encloses_iff :
    Encloses workspace editor region ↔ ∀ slot key, region slot →
      editor.echoKey? slot = some key → CallsInto workspace editor region key :=
  ⟨fun encloses slot key inside echoes wiring target binding =>
      encloses slot key wiring target binding inside echoes,
    fun calls slot key wiring target binding inside echoes =>
      calls slot key inside echoes wiring target binding⟩

theorem Steady.callsInto (steady : Steady before after)
    (calls : CallsInto workspace before region key) :
    CallsInto workspace after region key := by
  intro wiring target binding listed isOpen
  rw [steady.registry] at listed
  exact calls wiring target binding listed (steady.openBinding.mp isOpen)

theorem Steady.encloses (steady : Steady before after)
    (encloses : Encloses workspace before region) :
    Encloses workspace after region := by
  rw [encloses_iff] at encloses ⊢
  intro slot key inside echoes
  rw [steady.echoKey?] at echoes
  exact steady.callsInto (encloses slot key inside echoes)

/-- Outside the region all checks are the same, and so are the variables that
no field of the region names. -/
structure Spared (region : Slot → Prop) (before after : Editor σ) : Prop where
  checks : ∀ slot, ¬ region slot → after.slotCheck slot = before.slotCheck slot
  types : ∀ place, (∀ slot, region slot → ¬ before.Names slot place) →
    after.pool.getD place default = before.pool.getD place default
  names : ∀ slot place, after.Names slot place ↔ before.Names slot place

namespace Spared

variable {region : Slot → Prop} {before middle after : Editor σ}

theorem refl (editor : Editor σ) : Spared region editor editor :=
  ⟨fun _ _ => rfl, fun _ _ => rfl, fun _ _ => Iff.rfl⟩

theorem trans (first : Spared region before middle)
    (second : Spared region middle after) :
    Spared region before after where
  checks := fun slot outside => (second.checks slot outside).trans
    (first.checks slot outside)
  types := by
    intro place unnamed
    refine (second.types place ?_).trans (first.types place unnamed)
    intro slot inside named
    exact unnamed slot inside ((first.names slot place).mp named)
  names := fun slot place => (second.names slot place).trans
    (first.names slot place)

/-- A change of neither checks nor values nor variables. -/
theorem of_same (checks : ∀ slot, ¬ region slot →
    after.slotCheck slot = before.slotCheck slot)
    (pool : after.pool = before.pool)
    (values : ∀ field, (after.field field).value = (before.field field).value) :
    Spared region before after where
  checks := checks
  types := fun _ _ => by rw [pool]
  names := by
    intro slot place
    unfold Names
    simp only [pool, values]

end Spared

theorem Quiet.spared (quiet : Quiet wiring before after) :
    Spared region before after :=
  Spared.of_same (fun slot _ => quiet.sameReadings.slotCheck slot) quiet.pool
    fun field => by rw [quiet.field]

theorem Steady.names (steady : Steady before after) (slot : Slot)
    (place : VariableId) :
    after.Names slot place ↔ before.Names slot place := by
  unfold Names
  simp only [steady.fieldValue, steady.variableId]

theorem Written.spared {check : Check} {told : Option SlotKey}
    (written : Written editor slot check told after) (inside : region slot) :
    Spared region editor after where
  checks := by
    intro other outside
    refine written.elsewhere other ?_
    rintro rfl
    exact outside inside
  types := fun place unnamed => written.unnamed place (unnamed slot inside)
  names := written.toSteady.names

/-- Calls that write into the region spare everything else, however they
end. -/
def StaysIn (workspace : WorkspaceId) (region : Slot → Prop)
    (react : Reaction σ) : Prop :=
  ∀ listener editor, Grounded workspace editor →
    Encloses workspace editor region →
    editor.Callable listener →
    (∀ wiring target binding, listener = .recompute wiring target →
      editor.OpenBinding wiring target binding → region binding.target) →
    Ends (react listener) editor (Spared region editor)

section Cascade

variable {react : Reaction σ}

section Calls

variable (stays : StaysIn workspace region react) (ripples : RipplesOnly react)
  (grounded : Grounded workspace editor)
  (encloses : Encloses workspace editor region)

include stays ripples grounded encloses

theorem notify_spared (calls : CallsInto workspace editor region key) :
    Ends (notify react workspace key) editor (Spared region editor) := by
  simp only [Ends, notify, leads_bind, leads_look, leads_pure]
  refine Leads.imp (leads_forM
    (fun _ current => Steady editor current ∧ Spared region editor current) _ ?_
    ⟨Steady.refl editor, Spared.refl editor⟩) (fun _ _ both => both.2)
  rintro listener _ current listed ⟨steady, spared⟩
  have callable := steady.callable (grounded.responsive.callable listed)
  have groundedHere := grounded.steady steady
  refine Leads.mono
    ((stays listener current groundedHere (steady.encloses encloses) callable
    ?_).and (ripples listener current groundedHere.responsive callable)) ?_ ?_
  · rintro wiring target binding rfl isOpen
    exact calls wiring target binding listed (steady.openBinding.mp isOpen)
  · rintro _ after ⟨sparedHere, echoed⟩
    exact ⟨steady.trans echoed.toSteady, spared.trans sparedHere⟩
  · rintro _ after ⟨sparedHere, _⟩
    exact spared.trans sparedHere

theorem setTypes_spared (known : editor.Known slot) (inside : region slot)
    (check : Check) :
    Ends (setTypes react slot check) editor (Spared region editor) := by
  refine leads_setTypes grounded known ?_ ?_
  · intro after written _
    exact written.spared inside
  · intro key after written
    have steady := written.toSteady
    have calls := encloses_iff.mp encloses slot key inside
      (written.heard key rfl)
    refine Leads.mono (notify_spared stays ripples (grounded.steady steady)
      (steady.encloses encloses) (steady.callsInto calls)) ?_ ?_
    · intro _ final later _
      exact (written.spared inside).trans later
    · intro _ final later
      exact (written.spared inside).trans later

/-- Guards and counters are no part of what is spared. -/
theorem recompute_spared {target : SlotKey}
    (undisposed : (editor.wiring wiring).disposed = false)
    (inside : ∀ binding, editor.OpenBinding wiring target binding →
      region binding.target) :
    Ends (recompute react wiring target) editor (Spared region editor) := by
  have aside : ∀ current engines, Spared region editor current →
      Spared region editor { current with engines } :=
    fun current engines spared =>
      spared.trans (Spared.of_same (fun slot _ => by cases slot <;> rfl)
        rfl fun _ => rfl)
  refine leads_recompute_aside aside (fun _ => aside)
    (fun _ => Spared.refl editor)
    (fun _ => Spared.refl editor) fun binding check engines found _ => ?_
  have isOpen : editor.OpenBinding wiring target binding := ⟨undisposed, found⟩
  have known := grounded.responsive.targetKnown wiring target binding isOpen
  exact Ends.mono (setTypes_spared stays ripples (grounded.engines engines)
    encloses known
    (inside binding isOpen) check) fun _ spared =>
    ⟨spared.checks, spared.types, spared.names⟩

end Calls

/-- Cascades stay in a region that encloses them, however deep. -/
theorem staysIn_reaction {outside : Callbacks σ} (keepsOut : KeepsOut outside)
    (fuel : Nat) : StaysIn workspace region (reaction outside fuel) := by
  induction fuel with
  | zero =>
      intro listener editor _ _ _ _
      exact Spared.refl editor
  | succ fuel induction =>
      intro listener editor grounded encloses callable inside
      cases listener with
      | callback callback =>
          refine Ends.mono (keepsOut callback editor) ?_
          rintro _ ⟨outer, rfl⟩
          exact Spared.of_same (fun slot _ => by cases slot <;> rfl)
            rfl fun _ => rfl
      | recompute wiring target =>
          simp only [Ends, reaction, leads_discard]
          exact recompute_spared induction (ripplesOnly_reaction keepsOut fuel)
            grounded encloses
            callable fun binding => inside wiring target binding rfl

theorem recomputeEach_spared (stays : StaysIn workspace region react)
    (ripples : RipplesOnly react) (targets : List SlotKey) :
    ∀ {editor : Editor σ}, Grounded workspace editor →
      Encloses workspace editor region →
      (editor.wiring wiring).disposed = false →
      (∀ key binding, editor.OpenBinding wiring key binding →
        region binding.target) →
        Ends (recomputeEach react wiring targets) editor
          (Spared region editor) := by
  intro editor grounded encloses undisposed inside
  refine Leads.imp (leads_recomputeEach
    (fun _ current => Steady editor current ∧
    Spared region editor current) ?_ targets
    ⟨Steady.refl editor, Spared.refl editor⟩)
    (fun _ _ both => both.2)
  rintro target _ current ⟨steady, sofar⟩
  have groundedHere := grounded.steady steady
  have undisposedHere : (current.wiring wiring).disposed = false := by
    rwa [steady.wiring]
  refine Leads.mono ((recompute_spared stays ripples groundedHere
    (steady.encloses encloses) undisposedHere fun binding isOpen =>
      inside target binding (steady.openBinding.mp isOpen)).and
        (recompute_echoed ripples groundedHere.responsive target
          undisposedHere)) ?_ ?_
  · rintro _ after ⟨spared, echoed⟩
    exact ⟨steady.trans echoed.toSteady, sofar.trans spared⟩
  · rintro _ after ⟨spared, _⟩
    exact sofar.trans spared

end Cascade

section Assemble

variable {settings : Settings} {engine : EngineId} {slots : Slot → Prop}
  {start current : Editor σ}

variable (course : AssemblyCourse workspace engine slots wiring start current)

include course

/-- Wiring a block changes no other wiring, and the new one writes the given
slots only. -/
theorem AssemblyCourse.bindings
    (noBindings : (start.wiring wiring).bindings = {}) :
    (∀ other, other ≠ wiring → current.wiring other = start.wiring other) ∧
      ∀ key binding, (current.wiring wiring).bindings.get? key = some binding →
        slots binding.target := by
  induction course with
  | refl =>
      refine ⟨fun _ _ => rfl, ?_⟩
      intro key binding found
      rw [noBindings] at found
      cases found
  | @tail before after _ step induction =>
      obtain ⟨others, written⟩ := induction
      cases step with
      | ripple rippled =>
          have same := rippled.toSteady.wiring
          exact ⟨fun other differs => (same other).trans (others other differs),
            fun key binding found => written key binding
              (by rwa [same] at found)⟩
      | @bind newKey newBinding isSlot =>
          have quiet := quiet_addBinding before wiring newKey newBinding
          refine ⟨fun other differs => (quiet.others other differs).trans
            (others other differs), ?_⟩
          intro key binding found
          rw [addBinding, wiring_updateWiring, if_pos rfl,
            OrderedMap.get?_insert] at found
          split at found
          · cases found
            exact isSlot
          · exact written key binding found
      | @listen key source =>
          have quiet := quiet_addListener before workspace engine
            wiring key source
          refine ⟨fun other differs => (quiet.others other differs).trans
            (others other differs), ?_⟩
          intro otherKey binding found
          rw [wiring_addListener, if_pos rfl] at found
          exact written otherKey binding found

theorem AssemblyCourse.echoKey?
    (unheld : (start.wiring wiring).subscriptions = []) (slot : Slot) :
    current.echoKey? slot = start.echoKey? slot := by
  have kept := course.kept
  cases slot with
  | connection connection =>
      have keys : ∀ far, (current.connection far).key =
          (start.connection far).key :=
        fun far => Except.ok.inj (kept.slotKey (.connection far))
      simp only [Editor.echoKey?, (course.underway unheld).targets, keys]
  | field field => exact congrArg Except.toOption (kept.slotKey (.field field))

/-- A new wiring writes its targets only, so that calls go where they went if
the targets are covered. -/
theorem AssemblyCourse.callsInto
    (ready : Ready settings workspace engine slots wiring start)
    (unheld : (start.wiring wiring).subscriptions = [])
    (covers : ∀ slot, slots slot → region slot)
    (calls : CallsInto workspace start region key) :
    CallsInto workspace current region key := by
  obtain ⟨others, written⟩ := course.bindings ready.noBindings
  have underway := course.underway unheld
  intro other target binding listed isOpen
  by_cases mine : other = wiring
  · subst mine
    exact covers _ (written target binding isOpen.2)
  · have listedBefore : .recompute other target ∈
        (start.workspace workspace).registry.listenersAt key := by
      refine (List.mem_filter (p := fun listener => !listener.isOf wiring)).mp
        ?_ |>.1
      rw [← underway.listeners workspace key]
      exact List.mem_filter.mpr ⟨listed, by simpa [Listener.isOf] using mine⟩
    unfold OpenBinding at isOpen
    rw [others other mine] at isOpen
    exact calls other target binding listedBefore isOpen

/-- What encloses the targets of a new wiring at its start encloses it all
along. -/
theorem AssemblyCourse.encloses
    (ready : Ready settings workspace engine slots wiring start)
    (unheld : (start.wiring wiring).subscriptions = [])
    (covers : ∀ slot, slots slot → region slot)
    (encloses : Encloses workspace start region) :
    Encloses workspace current region := by
  rw [encloses_iff] at encloses ⊢
  intro slot key inside echoes
  rw [course.echoKey? unheld] at echoes
  exact course.callsInto ready unheld covers (encloses slot key inside echoes)

end Assemble

section Wire

variable {settings : Settings} {engine : EngineId} {block : BlockId}
  {mode : WiringMode} {react : Reaction σ}

theorem encloses_inReach (slots : Slot → Prop) :
    Encloses workspace before (before.InReach workspace slots) :=
  fun _ _ _ _ _ inside => InReach.follow inside

theorem callsInto_beginWiring (calls : CallsInto workspace before region key) :
    CallsInto workspace (before.beginWiring engine block mode) region key := by
  intro wiring target binding listed isOpen
  have same := wiring_beginWiring_of_bound isOpen.2
  unfold OpenBinding at isOpen
  rw [same] at isOpen
  exact calls wiring target binding listed isOpen

theorem encloses_beginWiring (encloses : Encloses workspace before region) :
    Encloses workspace (before.beginWiring engine block mode) region := by
  rw [encloses_iff] at encloses ⊢
  intro slot key inside echoes
  have sameEcho : (before.beginWiring engine block mode).echoKey? slot =
      before.echoKey? slot := by
    cases slot <;> rfl
  exact callsInto_beginWiring
    (encloses slot key inside (sameEcho.symm.trans echoes))

/-- While a block is wired, everything outside a region that encloses its
targets is spared. -/
theorem Sound.enclosedWalk (sound : Sound settings workspace engine none before)
    (ripples : RipplesOnly react) (stays : StaysIn workspace region react)
    (known : before.blocks.contains block)
    (idle : before.liveWiringFor? engine block = none)
    (encloses : Encloses workspace before region)
    (covers : ∀ slot, TargetSlot (before.targetsFor engine block) slot →
      region slot) :
    Walk settings workspace engine react
      (TargetSlot (before.targetsFor engine block))
      before.nextWiring (before.beginWiring engine block mode)
        (Spared region before)
      (Spared region before) (fun _ => Spared region before) := by
  have ready := ready_beginWiring sound known idle mode
  have enclosed : ∀ {allowed : SlotKey → SlotKey → Prop} {current : Editor σ},
      Midway workspace engine (TargetSlot (before.targetsFor engine block))
        before.nextWiring
        allowed (before.beginWiring engine block mode) current →
      Encloses workspace current region := by
    intro allowed current midway
    exact midway.course.encloses ready
      (by rw [wiring_beginWiring, if_pos rfl]) covers
      (encloses_beginWiring encloses)
  constructor
  · exact Spared.of_same (fun slot _ => by cases slot <;> rfl) rfl fun _ => rfl
  · intro middle after spared quiet
    exact spared.trans quiet.spared
  · intro allowed middle slot check midway isSlot spared
    have grounded := (midway.course.sound ready.offered ready.sound).grounded
    exact Ends.mono (setTypes_spared stays ripples grounded (enclosed midway)
      (ready.known midway.course isSlot) (covers slot isSlot) check)
      fun _ later => spared.trans later
  · intro _ allowed middle midway spared
    have grounded := (midway.course.sound ready.offered ready.sound).grounded
    have undisposed := midway.course.kept.disposed.trans ready.undisposed
    have written := (midway.course.bindings ready.noBindings).2
    simp only [recomputeAll, leads_bind, leads_look]
    refine Ends.mono (recomputeEach_spared stays ripples
      _ grounded (enclosed midway) undisposed
      fun key binding isOpen => covers _ (written key binding isOpen.2)) ?_
    intro after later
    exact spared.trans later
  · exact fun _ _ => id
  · exact fun _ _ => id
  · intro middle after spared quiet
    exact spared.trans (quiet before.nextWiring).spared
  · exact fun _ _ => id
  · exact fun _ _ _ => id
  · intro _ middle after spared pool values checks
    refine spared.trans (Spared.of_same ?_ pool values)
    intro slot outside
    exact checks slot fun isTarget => outside (covers slot isTarget)

/-- While a block is wired, everything out of reach of its targets is spared. -/
theorem Sound.sparingWalk (sound : Sound settings workspace engine none before)
    (ripples : RipplesOnly react)
    (stays : ∀ region, StaysIn workspace region react)
    (known : before.blocks.contains block)
    (idle : before.liveWiringFor? engine block = none) :
    Walk settings workspace engine react
      (TargetSlot (before.targetsFor engine block))
      before.nextWiring (before.beginWiring engine block .live)
      (Spared (before.InReach workspace
        (TargetSlot (before.targetsFor engine block))) before)
      (fun _ => True)
      (fun _ => Spared (before.InReach workspace
        (TargetSlot (before.targetsFor engine block))) before) :=
  (sound.enclosedWalk ripples (stays _) known idle (encloses_inReach _)
    fun _ => InReach.start).unfinished

end Wire

/-- Every check that differs belongs to the target of an open binding in
reach, and every variable that differs is named by a field in reach. -/
structure Contained (reach : Slot → Prop) (before after : Editor σ) : Prop where
  checks : ∀ slot, after.slotCheck slot ≠ before.slotCheck slot →
    before.OpenTarget slot ∧ reach slot
  types : ∀ place, after.pool.getD place default ≠ before.pool.getD
    place default →
    ∃ slot, reach slot ∧ before.Names slot place

/-- If a block cannot be wired, checks and variables out of reach of its
targets are as they were, whatever the fault and wherever it arose. -/
theorem wire_failure_contained {outside : Callbacks σ}
    (keepsOut : KeepsOut outside) {settings : Settings}
    {workspace : WorkspaceId} {before after : Editor σ}
    (reached : Reached outside (fun _ _ _ _ => True) settings workspace before)
    {block : BlockId} (known : before.blocks.contains block) {limit : Nat}
    {fault : Fault}
    (fails : wire (reaction outside limit) (before.workspace workspace).engine
      block .live before = (.error fault, after)) :
    Contained (before.InReach workspace (TargetSlot
      (before.targetsFor (before.workspace workspace).engine block)))
      before after := by
  have sound := reached.sound keepsOut
  have ripples := ripplesOnly_reaction keepsOut limit
  rw [sound.desk.engineOf] at fails ⊢
  have wiring : Leads (wire (reaction outside limit) ⟨0⟩ block .live)
      before _ _ :=
    leads_wire Liberties.all sound known ripples (fun _ => True.intro)
      (sound.sparingWalk ripples
        (fun _ => staysIn_reaction keepsOut limit) known)
  obtain ⟨_, spared, broke⟩ := wiring.raises fails
  obtain ⟨idle, broken, course, rfl⟩ := broke rfl
  constructor
  · intro slot differs
    refine ⟨?_, ?_⟩
    · by_contra notTarget
      exact differs (slotCheck_undo_close sound known idle course notTarget)
    · by_contra beyond
      exact differs (spared.checks slot beyond)
  · intro place differs
    by_contra unnamed
    refine differs (spared.types place ?_)
    intro slot inside named
    exact unnamed ⟨slot, inside, named⟩

/-- Two linked blocks, of which the second one is wired.  The first one has an
output, a variable field and then a field that takes its types from a dropdown
without choices to choose. -/
def strayPair : List HostOperation :=
  [.createVariable "item" (.one "Q") (some "v"), .newBlock "source"
    (some "A") [],
    .setOutput ⟨0⟩ (some ["From:ITEM"]), .appendInput ⟨0⟩ "ITEM" none,
    .newField "D" (.dropdown [[.text "short"]]) (.text "v"),
    .appendField ⟨0⟩ 0 ⟨0⟩, .newField "V" (.reference (some ["From:ITEM", "X"]))
      (.text "v"), .appendField ⟨0⟩ 0 ⟨1⟩,
    .newField "W" (.reference (some ["From:D"])) .nothing,
    .appendField ⟨0⟩ 0 ⟨2⟩, .newBlock "follower" (some "B") [],
    .appendInput ⟨1⟩ "IN" none,
    .newField "F" (.reference (some ["From:IN-From"])) .nothing,
    .appendField ⟨1⟩ 0 ⟨3⟩, .connect ⟨0⟩ ⟨2⟩, .wire ⟨1⟩ .live]

/-- The field of the second block is in reach and stays changed. -/
theorem wire_failure_contained_strayPair :
    ∃ before after : Editor Unit, ∃ fault,
      Reached idle (fun _ _ _ _ => True) {} ⟨0⟩ before ∧
      wire (reaction idle 20) (before.workspace ⟨0⟩).engine ⟨0⟩ .live before =
        (.error fault, after) ∧
      Contained (before.InReach ⟨0⟩
        (TargetSlot (before.targetsFor (before.workspace ⟨0⟩).engine ⟨0⟩)))
        before after ∧
      after.slotCheck (.field ⟨3⟩) ≠ before.slotCheck (.field ⟨3⟩) := by
  have reached : Reached idle (fun _ _ _ _ => True) {} ⟨0⟩
      (performAll idle 20 ⟨0⟩ strayPair freshWorkspace) :=
    reached_freshWorkspace.performAll 20 strayPair (by decide +kernel)
  have differs : (wire (reaction idle 20)
      ((performAll idle 20 ⟨0⟩ strayPair freshWorkspace).workspace ⟨0⟩).engine
      ⟨0⟩ .live (performAll idle 20 ⟨0⟩ strayPair freshWorkspace)).2.slotCheck
        (.field ⟨3⟩) ≠
      (performAll idle 20 ⟨0⟩ strayPair freshWorkspace).slotCheck
        (.field ⟨3⟩) := by
    decide +kernel
  generalize isBefore : performAll idle 20 ⟨0⟩ strayPair freshWorkspace = before
    at reached differs
  have known : before.blocks.contains ⟨0⟩ := by
    rw [← isBefore]
    decide +kernel
  have raises : (wire (reaction idle 20) (before.workspace ⟨0⟩).engine
    ⟨0⟩ .live before).1 =
      .error .choiceTooShort := by
    rw [← isBefore]
    decide +kernel
  exact ⟨before, _, _, reached, eq_of_outcome raises,
    wire_failure_contained keepsOut_idle reached known (eq_of_outcome raises),
    differs⟩

/-- After the failure the field of the second block accepts other types than
before, and so does the variable that a field of the first one names. -/
theorem wire_failure_leaves_traces :
    ∃ before after : Editor Unit, ∃ fault field place,
      Reached idle (fun _ _ _ _ => True) {} ⟨0⟩ before ∧
      wire (reaction idle 20) (before.workspace ⟨0⟩).engine ⟨0⟩ .live before =
        (.error fault, after) ∧
      (before.field field).block = some ⟨1⟩ ∧
      Check.same (after.field field).check (before.field field).check = false ∧
      before.pool.contains place ∧
      TypeList.same (after.pool.getD place default).types
        (before.pool.getD place default).types = false := by
  refine ⟨performAll idle 20 ⟨0⟩ strayPair freshWorkspace, _,
    .choiceTooShort, ⟨3⟩, ⟨0⟩, ?_, eq_of_outcome ?_, ?_, ?_, ?_, ?_⟩
  · exact reached_freshWorkspace.performAll 20 _ (by decide +kernel)
  all_goals decide +kernel

end TypeFlow.Editor
