import TypeFlow.Proofs.SlotWrite

/-!
# Cascades settle stale bindings

A recomputation makes its own binding up to date.  Whatever it makes stale on
the way is recomputed by the listeners it calls.  So a call that returns leaves
no binding stale that was not stale before, and none of those it was asked to
recompute.
-/

namespace TypeFlow.Editor

variable {σ α : Type} {slot : Slot} {wiring : WiringId}

/-- Every binding hears of its sources, and no two bindings write the same
slot. -/
structure Attuned (workspace : WorkspaceId) (editor : Editor σ) : Prop
    extends Grounded workspace editor where
  sole : editor.SoleReferences
  hasCheck : ∀ wiring key binding, editor.OpenBinding wiring key binding →
    editor.HasCheck binding.target
  attends : ∀ wiring key binding, editor.OpenBinding wiring key binding →
    editor.Attends workspace wiring key binding
  apart : ∀ wiring key binding wiring' key' binding',
    editor.OpenBinding wiring key binding →
    editor.OpenBinding wiring' key' binding' →
      binding.target = binding'.target →
      wiring = wiring' ∧ key = key'

section Attuned

variable {settings : Settings} {workspace : WorkspaceId} {engine : EngineId}
  {pending : Option WiringId} {before after editor : Editor σ}

theorem Sound.attuned (sound : Sound settings workspace engine pending editor)
    (home : AtHome workspace engine pending editor)
    (sole : editor.SoleReferences)
    (attends : ∀ wiring, pending = some wiring → ∀ key binding,
      editor.OpenBinding wiring key binding →
        editor.Attends workspace wiring key binding) :
    Attuned workspace editor where
  toGrounded := sound.grounded
  sole := sole
  hasCheck := fun wiring key binding isOpen =>
    (sound.wired.target wiring key binding isOpen).hasCheck
  attends := by
    intro wiring key binding isOpen
    by_cases isPending : pending = some wiring
    · exact attends wiring isPending key binding isOpen
    · exact home.attends wiring key binding isOpen isPending
  apart := by
    intro wiring key binding wiring' key' binding' isOpen isOpen' sameTarget
    have fits := sound.wired.target wiring key binding isOpen
    have fits' := sound.wired.target wiring' key' binding' isOpen'
    cases hTarget : binding.target with
    | connection connection =>
        rw [hTarget] at fits
        rw [← sameTarget, hTarget] at fits'
        exact ⟨sound.sameWiring isOpen isOpen' (fits.2.1.symm.trans fits'.2.1),
          fits.2.2.symm.trans fits'.2.2⟩
    | field field =>
        obtain ⟨attached, hasKey⟩ :=
          home.target wiring key binding isOpen field hTarget
        obtain ⟨attached', hasKey'⟩ :=
          home.target wiring' key' binding' isOpen' field
            (sameTarget.symm.trans hTarget)
        rw [attached] at attached'
        rw [hasKey] at hasKey'
        cases hasKey'
        exact ⟨sound.sameWiring isOpen isOpen' (Option.some.inj attached'), rfl⟩

theorem Attuned.steady (attuned : Attuned workspace before)
    (steady : Steady before after) :
    Attuned workspace after where
  toGrounded := attuned.toGrounded.steady steady
  sole := (steady.soleReferences_iff attuned.layout attuned.filing).mpr
    attuned.sole
  hasCheck := by
    intro wiring key binding isOpen
    have hasCheck := attuned.hasCheck wiring key binding
      (steady.openBinding.mp isOpen)
    cases hTarget : binding.target with
    | connection connection => trivial
    | field field =>
        rw [hTarget] at hasCheck
        exact (steady.fieldKind field).trans hasCheck
  attends := fun wiring key binding isOpen =>
    steady.attends (attuned.attends wiring key binding
      (steady.openBinding.mp isOpen))
  apart := fun wiring key binding wiring' key' binding' isOpen isOpen' =>
    attuned.apart wiring key binding wiring' key' binding'
      (steady.openBinding.mp isOpen) (steady.openBinding.mp isOpen')

theorem Attuned.engines (attuned : Attuned workspace editor)
    (engines : OrderedMap EngineId Engine) : Attuned workspace { editor with
      engines } where
  toGrounded := attuned.toGrounded.engines engines
  sole := attuned.sole
  hasCheck := attuned.hasCheck
  attends := attuned.attends
  apart := attuned.apart

/-- A binding that is stale after a write, although its listener was not told,
was stale before, or is the one that was given a wrong check. -/
theorem Written.stale (attuned : Attuned workspace editor) {check : Check}
    {told : Option SlotKey} (written : Written editor slot check told after)
    {key : SlotKey} (stale : after.Stale wiring key)
    (untold : ∀ heard, told = some heard →
      .recompute wiring key ∉ (editor.workspace workspace).registry.listenersAt
        heard) :
    ∃ binding, editor.OpenBinding wiring key binding ∧
      (binding.target ≠ slot ∧ ¬ editor.UpToDate binding ∨
        binding.target = slot ∧
          ∀ computed, editor.computed binding = .ok computed →
            Check.same check computed ≠ true) := by
  obtain ⟨binding, isOpen, outdated⟩ := stale
  rw [written.toSteady.openBinding] at isOpen
  have alike : ∀ link ∈ binding.links, ProvidesAlike editor after
      link.source := by
    intro link member
    rcases written.sources link.source
      (soleReferences_iff_unshared.mp attuned.sole _) with
      alike | ⟨heard, isTold, hasKey⟩
    · exact alike
    · have listed := attuned.attends wiring key binding isOpen link
        member heard hasKey
      exact absurd listed (untold heard isTold)
  refine ⟨binding, isOpen, ?_⟩
  by_cases here : binding.target = slot
  · refine Or.inr ⟨here, ?_⟩
    intro computed computes same
    obtain ⟨computed', computes', same'⟩ := computed_again alike computes
    refine outdated ⟨computed', computes', ?_⟩
    rw [here, written.here (here ▸ attuned.hasCheck wiring key binding isOpen)]
    exact Check.same_trans (Check.same_distinct check)
      (Check.same_trans same same')
  · refine Or.inl ⟨here, ?_⟩
    intro upToDate
    exact outdated (upToDate.keep alike (written.elsewhere _ here))

end Attuned

/-- No binding got stale, and the listed ones are up to date. -/
def Eased (calls : List Listener) (before after : Editor σ) : Prop :=
  ∀ wiring key, after.Stale wiring key →
    before.Stale wiring key ∧ .recompute wiring key ∉ calls

/-- A call that returns eases what it was asked to recompute. -/
def Settles (workspace : WorkspaceId) (react : Reaction σ) : Prop :=
  ∀ listener editor, Attuned workspace editor → editor.Callable listener →
    Leads (react listener) editor (fun _ after => Eased [listener] editor after)
      (fun _ _ => True)

section Cascade

variable {workspace : WorkspaceId} {react : Reaction σ} {editor : Editor σ}

section Calls

variable (settles : Settles workspace react) (ripples : RipplesOnly react)
  (attuned : Attuned workspace editor)

include settles ripples attuned

theorem notify_eased (key : SlotKey) :
    Leads (notify react workspace key) editor
      (fun _ after => Eased ((editor.workspace workspace).registry.listenersAt
        key) editor after)
      (fun _ _ => True) := by
  simp only [notify, leads_bind, leads_look, leads_pure]
  generalize hListeners : (editor.workspace workspace).registry.listenersAt
    key = listeners
  have callable : ∀ listener ∈ listeners, editor.Callable listener := by
    intro listener listed
    rw [← hListeners] at listed
    exact attuned.responsive.callable listed
  -- Bindings that are still stale have their listener among those to be called.
  let calling (rest : List Listener) (current : Editor σ) : Prop :=
    Steady editor current ∧ ∀ wiring key, current.Stale wiring key →
      editor.Stale wiring key ∧
        (.recompute wiring key ∈ listeners → .recompute wiring key ∈ rest)
  refine Leads.imp (leads_forM calling listeners ?_ ⟨Steady.refl editor, ?_⟩) ?_
  · rintro listener rest current member ⟨steady, sofar⟩
    have attunedHere := attuned.steady steady
    have callableHere := steady.callable (callable listener member)
    refine Leads.mono ((settles listener current attunedHere callableHere).and
      (ripples listener current attunedHere.responsive callableHere)) ?_
      (fun _ _ _ => True.intro)
    rintro _ after ⟨eased, echoed⟩
    refine ⟨steady.trans echoed.toSteady, ?_⟩
    intro wiring key stale
    obtain ⟨earlier, others⟩ := eased wiring key stale
    obtain ⟨first, remaining⟩ := sofar wiring key earlier
    refine ⟨first, fun listed => ?_⟩
    rcases List.mem_cons.mp (remaining listed) with isThis | inRest
    · exact absurd (by simp [isThis]) others
    · exact inRest
  · intro wiring key stale
    exact ⟨stale, id⟩
  · rintro _ after ⟨_, settled⟩ wiring key stale
    obtain ⟨first, remaining⟩ := settled wiring key stale
    exact ⟨first, fun listed => List.not_mem_nil (remaining listed)⟩

theorem setTypes_eased (known : editor.Known slot) (check : Check) :
    Leads (setTypes react slot check) editor
      (fun _ after => ∀ wiring key, after.Stale wiring key →
        ∃ binding, editor.OpenBinding wiring key binding ∧
          (binding.target ≠ slot ∧ ¬ editor.UpToDate binding ∨
            binding.target = slot ∧
              ∀ computed, editor.computed binding = .ok computed →
                Check.same check computed ≠ true))
      (fun _ _ => True) := by
  refine leads_setTypes attuned.toGrounded known ?_ ?_
  · intro after written _ wiring key stale
    exact written.stale attuned stale (by simp)
  · intro heard middle written
    refine Leads.imp (notify_eased settles ripples
      (attuned.steady written.toSteady) heard) ?_
    intro _ after eased _ wiring key stale
    obtain ⟨earlier, untold⟩ := eased wiring key stale
    refine written.stale attuned earlier ?_
    intro other isOther
    cases isOther
    rwa [written.toSteady.registry] at untold

theorem recompute_eased (target : SlotKey)
    (isOpen : (editor.wiring wiring).disposed = false) :
    Leads (recompute react wiring target) editor
      (fun _ after => Eased [.recompute wiring target] editor after)
      (fun _ _ => True) := by
  refine leads_recompute_aside (fun _ _ eased => eased) (fun _ _ _ => id) ?_
    (fun _ => True.intro) ?_
  · intro missing other key stale
    refine ⟨stale, ?_⟩
    obtain ⟨binding, isBinding, _⟩ := stale
    intro listed
    have same : Listener.recompute other key = .recompute wiring target := by
      simpa using listed
    cases same
    rw [isBinding.2] at missing
    cases missing
  · intro binding check engines found computes
    have opens : editor.OpenBinding wiring target binding := ⟨isOpen, found⟩
    have known := attuned.responsive.targetKnown wiring target binding opens
    refine Leads.imp (setTypes_eased settles ripples (attuned.engines engines)
      known check) ?_
    intro changed after eased other otherKey stale
    obtain ⟨otherBinding, otherOpens, elsewhere | here⟩ :=
      eased other otherKey stale
    · refine ⟨⟨otherBinding, otherOpens, elsewhere.2⟩, ?_⟩
      intro listed
      have same : Listener.recompute other otherKey =
          .recompute wiring target := by
        simpa using listed
      cases same
      have sameBinding := opens.2.symm.trans otherOpens.2
      cases sameBinding
      exact elsewhere.1 rfl
    · obtain ⟨sameTarget, differs⟩ := here
      obtain ⟨rfl, rfl⟩ := attuned.apart other otherKey otherBinding wiring
        target binding otherOpens opens sameTarget
      have sameBinding := opens.2.symm.trans otherOpens.2
      cases sameBinding
      exact absurd (Check.same_refl check) (differs check computes)

end Calls

/-- Calling listeners settles stale bindings, however deep. -/
theorem settles_reaction {outside : Callbacks σ} (keepsOut : KeepsOut outside)
    (fuel : Nat) : Settles workspace (reaction outside fuel) := by
  induction fuel with
  | zero =>
      intro listener editor _ _
      trivial
  | succ fuel induction =>
      intro listener editor attuned callable
      cases listener with
      | callback callback =>
          refine Leads.mono (keepsOut callback editor) ?_
            (fun _ _ _ => True.intro)
          rintro _ _ ⟨outer, rfl⟩ wiring key stale
          exact ⟨stale, by simp⟩
      | recompute wiring target =>
          simp only [reaction, leads_discard]
          exact recompute_eased induction (ripplesOnly_reaction keepsOut fuel)
            attuned target callable

theorem recomputeEach_eased (settles : Settles workspace react)
    (ripples : RipplesOnly react) (targets : List SlotKey) :
    ∀ {editor : Editor σ}, Attuned workspace editor →
      (editor.wiring wiring).disposed = false →
      Leads (recomputeEach react wiring targets) editor
        (fun _ after => Eased (targets.map (.recompute wiring)) editor after)
        (fun _ _ => True) := by
  induction targets with
  | nil =>
      intro editor _ _ other key stale
      exact ⟨stale, by simp⟩
  | cons target rest induction =>
      intro editor attuned isOpen
      simp only [recomputeEach, leads_bind, leads_pure]
      refine Leads.mono
        ((recompute_eased settles ripples attuned target isOpen).and
        (recompute_echoed ripples attuned.responsive target isOpen)) ?_
        (fun _ _ _ => True.intro)
      rintro _ middle ⟨first, echoed⟩
      have middleOpen : (middle.wiring wiring).disposed = false := by
        rwa [echoed.toSteady.wiring]
      refine Leads.imp (induction (attuned.steady echoed.toSteady) middleOpen)
        ?_
      intro _ after later other key stale
      obtain ⟨afterFirst, notLater⟩ := later other key stale
      obtain ⟨earlier, notFirst⟩ := first other key afterFirst
      refine ⟨earlier, ?_⟩
      rw [List.map_cons, List.mem_cons, not_or]
      exact ⟨by simpa using notFirst, notLater⟩

/-- The first recomputation brings all bindings of a wiring up to date. -/
theorem recomputeAll_eased (settles : Settles workspace react)
    (ripples : RipplesOnly react) (attuned : Attuned workspace editor)
    (isOpen : (editor.wiring wiring).disposed = false) :
    Leads (recomputeAll react wiring) editor
      (fun _ after => ∀ other key, after.Stale other key →
        other ≠ wiring ∧ editor.Stale other key)
      (fun _ _ => True) := by
  simp only [recomputeAll, leads_bind, leads_look]
  refine Leads.imp (recomputeEach_eased settles ripples _ attuned isOpen) ?_
  intro _ after eased other key stale
  obtain ⟨earlier, notListed⟩ := eased other key stale
  refine ⟨?_, earlier⟩
  rintro rfl
  obtain ⟨binding, opens, _⟩ := earlier
  refine notListed (List.mem_map.mpr ⟨key, ?_, rfl⟩)
  exact (OrderedMap.mem_keys_iff _ _).mpr (OrderedMap.contains_of_get? opens.2)

end Cascade

end TypeFlow.Editor
