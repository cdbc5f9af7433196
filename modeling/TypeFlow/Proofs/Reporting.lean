import TypeFlow.Proofs.Coherence
import TypeFlow.Proofs.Journal

/-!
# Changes of sources are reported

When a slot provides other types at the end of an operation than at its
beginning, every listener of the slot was called in between, and at a time when
the slot provided already what it provides at the end.  For a variable field
this takes that no other field refers to the same variable: only the listeners
of the field that retypes the variable are called.
-/

namespace TypeFlow.Editor

variable {σ : Type} {slot : Slot} {workspace : WorkspaceId}

theorem ProvidesAs.trans {first second third : Editor σ} {slot' slot'' : Slot}
    (left : ProvidesAs first second slot slot')
    (right : ProvidesAs second third slot' slot'') :
    ProvidesAs first third slot slot'' := by
  intro types provided
  obtain ⟨types', provided', agree⟩ := left types provided
  obtain ⟨types'', provided'', agree'⟩ := right types' provided'
  exact ⟨types'', provided'', agree.trans agree'⟩

/-- A call of the listener that found the slot to provide what it provides in
`final`, as a set. -/
def Informs (final : Editor σ) (slot : Slot) (listener : Listener)
    (call : Call σ) : Prop :=
  call.listener = listener ∧ ProvidesAlike call.seen final slot

/-- Whoever listens to a slot that provides other types was informed. -/
structure Reported (workspace : WorkspaceId)
    (before after : Editor (Journaled σ)) : Prop where
  grown : Grown before after
  told : ∀ slot key, before.Unshared slot → before.slotKey slot = .ok key →
    ¬ ProvidesAlike before after slot →
      ∀ listener ∈ (before.workspace workspace).registry.listenersAt key,
        CalledSince before after (after.forget.Informs slot listener)

/-- A call is entered, and whatever it changes is reported. -/
def Reports (workspace : WorkspaceId) (react : Reaction (Journaled σ)) : Prop :=
  ∀ listener editor, Grounded workspace editor → editor.Callable listener →
    Leads (react listener) editor
      (fun _ after => Reported workspace editor after ∧
        CalledSince editor after (· = ⟨listener, editor.forget⟩))
      (fun _ _ => True)

section Reported

variable {before middle after : Editor (Journaled σ)}

theorem Reported.of_provides
    (provides : ∀ slot, after.provides slot = before.provides slot)
    (grown : Grown before after) : Reported workspace before after where
  grown := grown
  told := fun slot _ _ _ differs =>
    absurd (ProvidesAs.of_eq (provides slot)) differs

/-- A listener that was informed of what a slot provided in between is informed
of what it provides in the end. -/
theorem Reported.informs (reported : Reported workspace middle after)
    {key : SlotKey} {listener : Listener} (unshared : middle.Unshared slot)
    (hasKey : middle.slotKey slot = .ok key)
    (listed : listener ∈ (middle.workspace workspace).registry.listenersAt key)
    (sofar : Grown before middle)
    (informed : CalledSince before after
      (middle.forget.Informs slot listener)) :
    CalledSince before after (after.forget.Informs slot listener) := by
  by_cases alike : ProvidesAlike middle after slot
  · obtain ⟨calls, hAfter, call, member, sameListener, sawAlike⟩ := informed
    exact ⟨calls, hAfter, call, member, sameListener, sawAlike.trans alike⟩
  · exact CalledSince.earlier sofar
      (reported.told slot key unshared hasKey alike listener listed)

theorem Reported.stillInformed (reported : Reported workspace middle after)
    {key : SlotKey} {listener : Listener} (unshared : middle.Unshared slot)
    (hasKey : middle.slotKey slot = .ok key)
    (listed : listener ∈ (middle.workspace workspace).registry.listenersAt key)
    (informed : CalledSince before middle
      (middle.forget.Informs slot listener)) :
    CalledSince before after (after.forget.Informs slot listener) :=
  reported.informs unshared hasKey listed informed.grown
    (informed.later reported.grown)

theorem Reported.trans (grounded : Grounded workspace before)
    (steady : Steady before middle) (first : Reported workspace before middle)
    (second : Reported workspace middle after) :
    Reported workspace before after where
  grown := first.grown.trans second.grown
  told := by
    intro slot key unshared hasKey differs listener listed
    have unsharedMiddle :=
      (steady.unshared_iff grounded.layout grounded.filing slot).mpr unshared
    have hasKeyMiddle := (steady.slotKey slot).trans hasKey
    have listedMiddle :
        listener ∈ (middle.workspace workspace).registry.listenersAt key := by
      rwa [steady.registry]
    by_cases alike : ProvidesAlike before middle slot
    · apply CalledSince.earlier first.grown
      apply second.told slot key unsharedMiddle hasKeyMiddle
        _ listener listedMiddle
      exact fun later => differs (alike.trans later)
    · exact second.stillInformed unsharedMiddle hasKeyMiddle listedMiddle
        (first.told slot key unshared hasKey alike listener listed)

end Reported

section Cascade

variable {react : Reaction (Journaled σ)} {editor : Editor (Journaled σ)}
  (reports : Reports workspace react) (ripples : RipplesOnly react)
  (grounded : Grounded workspace editor)

include reports ripples grounded

/-- The listeners of a key are all informed of what the slots of that key
provide in the end. -/
theorem notify_reported (key : SlotKey) :
    Leads (notify react workspace key) editor
      (fun _ after => Reported workspace editor after ∧
        ∀ slot, editor.Unshared slot → editor.slotKey slot = .ok key →
          ∀ listener ∈ (editor.workspace workspace).registry.listenersAt key,
            CalledSince editor after (after.forget.Informs slot listener))
      (fun _ _ => True) := by
  simp only [notify, leads_bind, leads_look, leads_pure]
  generalize hListeners : (editor.workspace workspace).registry.listenersAt
    key = listeners
  -- Each listener is informed already or among those to be called.
  let calling (rest : List Listener) (current : Editor (Journaled σ)) : Prop :=
    Steady editor current ∧ Reported workspace editor current ∧
      ∀ slot, editor.Unshared slot → editor.slotKey slot = .ok key →
        ∀ listener ∈ listeners,
        listener ∈ rest ∨ CalledSince editor current
          (current.forget.Informs slot listener)
  apply Leads.mono (leads_forM calling listeners ?_ ?_)
  · rintro _ after ⟨_, reported, informed⟩
    refine ⟨reported, ?_⟩
    intro slot unshared hasKey listener listed
    rcases informed slot unshared hasKey listener listed with remaining
      | isInformed
    · cases remaining
    · exact isInformed
  · exact fun _ _ => id
  · rintro listener rest current member ⟨steady, sofar, informed⟩
    have groundedHere := grounded.steady steady
    have callable : current.Callable listener := by
      apply steady.callable
      rw [← hListeners] at member
      exact grounded.responsive.callable member
    apply Leads.mono ((reports listener current groundedHere callable).and
      (ripples listener current groundedHere.responsive callable))
    · rintro _ after ⟨⟨reported, called⟩, echoed⟩
      refine ⟨steady.trans echoed.toSteady,
        sofar.trans grounded steady reported, ?_⟩
      intro slot unshared hasKey other listed
      have unsharedHere :=
        (steady.unshared_iff grounded.layout grounded.filing slot).mpr unshared
      have hasKeyHere := (steady.slotKey slot).trans hasKey
      have listedHere : other ∈
          (current.workspace workspace).registry.listenersAt key := by
        rwa [steady.registry, hListeners]
      rcases informed slot unshared hasKey other listed with remaining | early
      · rcases List.mem_cons.mp remaining with same | later
        · subst same
          -- The call itself saw what the slot provided.
          have sawThis : CalledSince current after
              (current.forget.Informs slot other) := by
            obtain ⟨calls, hAfter, call, isCall, same⟩ := called
            subst same
            exact ⟨calls, hAfter, _, isCall, rfl, ProvidesAs.of_eq rfl⟩
          exact Or.inr (CalledSince.earlier sofar.grown
            (reported.informs unsharedHere hasKeyHere
            listedHere (Grown.of_eq rfl) sawThis))
        · exact Or.inl later
      · exact Or.inr (reported.stillInformed unsharedHere hasKeyHere
          listedHere early)
    · exact fun _ _ _ => True.intro
  · refine ⟨Steady.refl editor, Reported.of_provides
      (fun _ => rfl) (Grown.of_eq rfl), ?_⟩
    exact fun _ _ _ _ => Or.inl

theorem setTypes_reported (known : editor.Known slot) (check : Check) :
    Leads (setTypes react slot check) editor
      (fun _ after => Reported workspace editor after) (fun _ _ => True) := by
  apply leads_setTypes grounded known
  · intro after written _
    refine ⟨Grown.of_eq (congrArg Journaled.calls written.outer), ?_⟩
    intro source key unshared _ differs
    rcases written.sources source unshared with alike | ⟨_, isTold, _⟩
    · exact absurd alike differs
    · cases isTold
  · intro heard middle written
    have sameCalls := Grown.of_eq (congrArg Journaled.calls written.outer)
    apply Leads.mono
      (notify_reported reports ripples (grounded.steady written.toSteady) heard)
    · rintro _ after ⟨reported, informed⟩ _
      refine ⟨sameCalls.trans reported.grown, ?_⟩
      intro source key unshared hasKey differs listener listed
      have unsharedMiddle :=
        (written.toSteady.unshared_iff grounded.layout grounded.filing
          source).mpr unshared
      have hasKeyMiddle := (written.toSteady.slotKey source).trans hasKey
      have listedMiddle :
          listener ∈ (middle.workspace workspace).registry.listenersAt key := by
        rwa [written.toSteady.registry]
      apply CalledSince.earlier sameCalls
      rcases written.sources source unshared with alike
        | ⟨other, isTold, hasOther⟩
      · apply reported.told source key unsharedMiddle hasKeyMiddle
          _ listener listedMiddle
        exact fun later => differs (alike.trans later)
      · cases isTold
        rw [hasKey] at hasOther
        cases hasOther
        exact informed source unsharedMiddle hasKeyMiddle listener listedMiddle
    · exact fun _ _ => id

theorem recompute_reported (wiring : WiringId) (target : SlotKey)
    (known : ∀ binding, (editor.wiring wiring).bindings.get? target =
      some binding →
      editor.Known binding.target) :
    Leads (recompute react wiring target) editor
      (fun _ after => Reported workspace editor after) (fun _ _ => True) := by
  refine leads_recompute_aside (fun _ _ reported => { reported with })
    (fun _ _ _ => id)
    (fun _ => Reported.of_provides (fun _ => rfl) (Grown.of_eq rfl))
    (fun _ => True.intro) fun binding check engines found _ => ?_
  exact Leads.mono (setTypes_reported reports ripples (grounded.engines engines)
    (known binding found) check) (fun _ _ reported => { reported with
      }) fun _ _ => id

end Cascade

section Journaling

variable {outside : Callbacks σ}

theorem KeepsOut.unjournaled (keepsOut : KeepsOut outside) :
    KeepsOut fun callback => unjournaled (outside callback) := by
  intro callback editor
  rw [Ends, leads_unjournaled]
  apply Ends.mono (keepsOut callback editor.forget)
  rintro _ ⟨outer, rfl⟩
  exact ⟨⟨outer, editor.calls⟩, rfl⟩

theorem ripplesOnly_journaling {noted : Callbacks (Journaled σ)}
    (keepsOut : KeepsOut noted) (fuel : Nat) : RipplesOnly
      (journaling noted fuel) := by
  induction fuel with
  | zero => exact fun _ editor _ _ => Rippled.refl editor
  | succ fuel induction =>
      intro listener editor responsive callable
      have noted : Echoed editor (editor.withCall listener) :=
        Rippled.of_checks (steady_outer editor _)
          (by intro slot; cases slot <;> rfl)
      cases listener with
      | callback callback =>
          simp only [Ends, journaling, note, leads_bind, leads_modify]
          apply Ends.mono (keepsOut callback _)
          rintro _ ⟨outer, rfl⟩
          exact noted.trans (Rippled.of_checks (steady_outer _ outer)
            (by intro slot; cases slot <;> rfl))
      | recompute wiring target =>
          simp only [Ends, journaling, note, leads_bind, leads_modify,
            leads_discard]
          apply Ends.mono
            (recompute_echoed induction (noted.toSteady.responsive responsive)
            target (noted.toSteady.callable callable))
          exact fun _ => noted.trans

/-- Calling listeners reports all that changes, however deep. -/
theorem reports_journaling (keepsOut : KeepsOut outside) (fuel : Nat) :
    Reports workspace
      (journaling (fun callback => unjournaled (outside callback)) fuel) := by
  induction fuel with
  | zero =>
      intro listener editor _ _
      trivial
  | succ fuel induction =>
      intro listener editor grounded callable
      have steady : Steady editor (editor.withCall listener) :=
        steady_outer editor _
      have called : CalledSince editor (editor.withCall listener)
          (· = ⟨listener, editor.forget⟩) := calledSince_withCall rfl
      have entered : Reported workspace editor (editor.withCall listener) :=
        Reported.of_provides (fun _ => rfl) called.grown
      have goesOn : ∀ after, Reported workspace
          (editor.withCall listener) after →
          Reported workspace editor after ∧
            CalledSince editor after (· = ⟨listener, editor.forget⟩) :=
        fun after reported =>
          ⟨entered.trans grounded steady reported, called.later reported.grown⟩
      cases listener with
      | callback callback =>
          simp only [journaling, note, leads_bind, leads_modify,
            leads_unjournaled]
          apply Leads.mono (keepsOut callback _)
          · rintro _ _ ⟨outer, rfl⟩
            exact goesOn _ (Reported.of_provides
              (fun _ => rfl) (Grown.of_eq rfl))
          · exact fun _ _ _ => True.intro
      | recompute wiring target =>
          simp only [journaling, note, leads_bind, leads_modify, leads_discard]
          have groundedEntered := grounded.steady steady
          apply Leads.mono (recompute_reported induction
            (ripplesOnly_journaling keepsOut.unjournaled fuel) groundedEntered
              wiring target ?_)
          · exact fun _ => goesOn
          · exact fun _ _ => id
          · intro binding found
            exact groundedEntered.responsive.targetKnown wiring target binding
              ⟨steady.callable callable, found⟩

end Journaling

/-- Every listener of a slot that provides other types in the end was informed,
unless the slot shares its variable then. -/
def Announced (workspace : WorkspaceId) (before after : Editor (Journaled σ)) :
    Prop :=
  ∀ slot key, after.Unshared slot → before.slotKey slot = .ok key →
    ¬ ProvidesAlike before after slot →
      ∀ listener ∈ (before.workspace workspace).registry.listenersAt key,
        CalledSince before after (after.forget.Informs slot listener)

section Announced

variable {react : Reaction (Journaled σ)} (reports : Reports workspace react)
  (ripples : RipplesOnly react) {editor : Editor (Journaled σ)}

theorem Reported.announced {before after : Editor (Journaled σ)}
    (reported : Reported workspace before after)
    (grounded : Grounded workspace before) (steady : Steady before after) :
    Announced workspace before after := by
  intro slot key unshared
  exact reported.told slot key
    ((steady.unshared_iff grounded.layout grounded.filing slot).mp unshared)

include reports ripples

theorem setTypes_announced (grounded : Grounded workspace editor)
    (known : editor.Known slot) (check : Check) :
    Leads (setTypes react slot check) editor
      (fun _ after => Announced workspace editor after) (fun _ _ => True) := by
  apply Leads.mono ((setTypes_reported reports ripples grounded known check).and
    (setTypes_rippled ripples grounded.responsive check known))
  · rintro _ after ⟨reported, rippled⟩
    exact reported.announced grounded rippled.toSteady
  · exact fun _ _ _ => True.intro

theorem recompute_announced (grounded : Grounded workspace editor)
    (wiring : WiringId) (target : SlotKey)
    (known : ∀ binding, (editor.wiring wiring).bindings.get? target =
      some binding →
      editor.Known binding.target) :
    Leads (recompute react wiring target) editor
      (fun _ after => Announced workspace editor after) (fun _ _ => True) := by
  have steady : Ends (recompute react wiring target) editor
      (Steady editor) := by
    simp only [Ends, recompute, leads_bind, leads_look]
    split
    · exact Steady.refl editor
    · rename_i binding found
      exact Ends.mono (recomputeBinding_rippled ripples grounded.responsive _
        (known binding found)) fun _ rippled => rippled.toSteady
  apply Leads.mono ((recompute_reported reports ripples grounded wiring target
    known).and steady)
  · rintro _ after ⟨reported, steady⟩
    exact reported.announced grounded steady
  · exact fun _ _ _ => True.intro

/-- Setting a value concerns the field itself, whose listeners are called, and
no other slot. -/
theorem setValue_announced {field : FieldId} {value : FieldValue}
    (grounded : Grounded workspace (editor.updateField field fun entry =>
      { entry with value })) :
    Leads (setValue react field value) editor
      (fun _ after => Announced workspace editor after) (fun _ _ => True) := by
  simp only [setValue, leads_bind, leads_modify]
  have sameKey := slotKey_setValue editor field value
  refine Leads.mono ((?_ : Leads _ _ (fun _ after =>
    Reported workspace (editor.updateField field fun entry => { entry with
      value }) after ∧
      ∀ key, editor.slotKey (.field field) = .ok key →
        after.Unshared (.field field) →
        ∀ listener ∈ (editor.workspace workspace).registry.listenersAt key,
          CalledSince editor after
            (after.forget.Informs (.field field) listener))
    (fun _ _ => True)).and
      (notifyField_echoed ripples grounded.responsive field)) ?_
    fun _ _ _ => True.intro
  · apply leads_notifyField grounded.layout
    · intro detached
      refine ⟨Reported.of_provides (fun _ => rfl) (Grown.of_eq rfl), ?_⟩
      intro key hasKey
      rw [← sameKey, slotKey, fieldKey_of_detached detached] at hasKey
      cases hasKey
    · intro key hasKey
      apply Leads.mono ((notify_reported reports ripples grounded key).and
        (notify_echoed ripples grounded.responsive workspace key))
      · rintro _ after ⟨⟨reported, informed⟩, echoed⟩
        refine ⟨reported, ?_⟩
        intro other hasOther unshared listener listed
        have sameKeys :=
          hasKey.symm.trans ((sameKey (.field field)).trans hasOther)
        cases sameKeys
        exact informed (.field field)
          ((echoed.toSteady.unshared_iff grounded.layout grounded.filing _).mp
            unshared) hasKey
          listener listed
      · exact fun _ _ _ => True.intro
  · rintro _ after ⟨⟨reported, informed⟩, echoed⟩ slot key unshared hasKey
      differs listener listed
    by_cases isField : slot = .field field
    · subst isField
      exact informed key hasKey unshared listener listed
    · have alike : ProvidesAlike editor
          (editor.updateField field fun entry => { entry with value }) slot :=
        ProvidesAs.of_eq (provides_setValue isField)
      apply reported.told slot key
        ((echoed.toSteady.unshared_iff grounded.layout grounded.filing slot).mp
          unshared)
        ((sameKey slot).trans hasKey) _ listener listed
      exact fun later => differs (alike.trans later)

end Announced

theorem Grounded.journal {editor : Editor σ}
    (grounded : Grounded workspace editor) (calls : List (Call σ)) :
    Grounded workspace (editor.journal calls) where
  layout := { grounded.layout with }
  linking := { grounded.linking with }
  filing := { grounded.filing with }
  responsive := { grounded.responsive with }

end TypeFlow.Editor

namespace TypeFlow

open Editor

variable {σ : Type}

/-- The operations that can change what a field provides. -/
inductive SourceOperation where
  | setValue (field : FieldId) (value : FieldValue)
  | setTypes (slot : Slot) (check : Check)
  | recompute (wiring : WiringId) (target : SlotKey)

namespace SourceOperation

def perform (react : Reaction σ) : SourceOperation → EditM σ Unit
  | .setValue field value => Editor.setValue react field value
  | .setTypes slot check => discard (Editor.setTypes react slot check)
  | .recompute wiring target => discard (Editor.recompute react wiring target)

/-- The slots that an operation writes exist. -/
def Refers (editor : Editor σ) : SourceOperation → Prop
  | .setValue field _ => editor.fields.contains field
  | .setTypes slot _ => editor.Known slot
  | .recompute wiring target =>
      ∀ binding, (editor.wiring wiring).bindings.get? target = some binding →
        editor.Known binding.target

theorem mirrors_perform {react : Reaction (Journaled σ)} {react' : Reaction σ}
    (same : MirrorsCalls react react') (operation : SourceOperation)
    {editor : Editor (Journaled σ)} :
    Mirrors (operation.perform react) (operation.perform react') editor := by
  cases operation with
  | setValue field value => exact mirrors_setValue same field value
  | setTypes slot check =>
      exact mirrors_discard (mirrors_setTypes same slot check)
  | recompute wiring target =>
      exact mirrors_discard (mirrors_recompute same wiring target)

theorem announced_perform {settings : Settings} {workspace : WorkspaceId}
    {engine : EngineId} {react : Reaction (Journaled σ)}
    (reports : Reports workspace react) (ripples : RipplesOnly react)
    {editor : Editor σ} (sound : Sound settings workspace engine none editor)
    {operation : SourceOperation} (refers : operation.Refers editor)
    (calls : List (Call σ)) :
    Leads (operation.perform react) (editor.journal calls)
      (fun _ after => Announced workspace (editor.journal calls) after)
      (fun _ _ => True) := by
  have grounded := sound.grounded.journal calls
  cases operation with
  | setValue field value =>
      have sets : Change Liberties.all workspace engine none editor none
          (editor.updateField field fun entry => { entry with value }) :=
        Change.valueSet value refers
      exact setValue_announced reports ripples
        ((sets.sound sound).grounded.journal calls)
  | setTypes slot check =>
      have known : (editor.journal calls).Known slot := by
        cases slot <;> exact refers
      rw [perform, leads_discard]
      exact setTypes_announced reports ripples grounded known check
  | recompute wiring target =>
      rw [perform, leads_discard]
      apply recompute_announced reports ripples grounded wiring target
      intro binding found
      have known := refers binding found
      cases hTarget : binding.target with
      | connection connection =>
          rw [hTarget] at known
          exact known
      | field field =>
          rw [hTarget] at known
          exact known

/-- When setting a value, setting a check or recomputing a binding returns and
a slot provides other types than before, every listener of the slot was called
when the slot provided its new types already, unless another variable field
refers to the variable of the slot. -/
theorem source_changes_reported {outside : Callbacks σ}
    (keepsOut : KeepsOut outside)
    {admits : Editor σ → HostOperation → Except Fault Unit → Editor σ → Prop}
    {settings : Settings} {workspace : WorkspaceId} {editor after : Editor σ}
    (reached : Reached outside admits settings workspace editor)
    {operation : SourceOperation} (refers : operation.Refers editor)
    {fuel : Nat} (run : operation.perform (reaction outside fuel) editor =
      (.ok (), after)) :
    ∃ calls, operation.perform
        (journaling (fun callback => unjournaled (outside callback)) fuel)
        (editor.journal []) =
        (.ok (), after.journal calls) ∧
      ∀ slot key, editor.slotKey slot = .ok key → after.Unshared slot →
        ¬ ProvidesAlike editor after slot →
        ∀ listener ∈ (editor.workspace workspace).registry.listenersAt key,
          ∃ call ∈ calls, call.listener = listener ∧
            ProvidesAlike call.seen after slot := by
  obtain ⟨calls, journaled⟩ := (mirrors_perform (mirrorsCalls_journaling
    (fun _ _ => mirrors_unjournaled _) fuel) operation).run run
  have announced := (announced_perform (reports_journaling keepsOut fuel)
    (ripplesOnly_journaling keepsOut.unjournaled fuel)
    (reached.sound keepsOut) refers []).returns journaled
  refine ⟨calls, journaled, ?_⟩
  intro slot key hasKey unshared differs listener listed
  have unsharedAfter : (after.journal calls).Unshared slot := by
    cases slot <;> exact unshared
  have hasKeyBefore : (editor.journal []).slotKey slot = .ok key := by
    cases slot <;> exact hasKey
  have differsBefore : ¬ ProvidesAlike (editor.journal [])
      (after.journal calls) slot := by
    cases slot <;> exact differs
  obtain ⟨since, hCalls, called⟩ :=
    announced slot key unsharedAfter hasKeyBefore differsBefore listener listed
  have sameCalls : calls = since := hCalls
  rwa [sameCalls]

theorem not_providesAlike {before after : Editor σ} {slot : Slot}
    {types types' : TypeList} (provided : before.provides slot = .ok types)
    (provides : after.provides slot = .ok types') (type : Tag)
    (lost : type ∈ types ∧ type ∉ types') :
    ¬ ProvidesAlike before after slot := by
  intro alike
  obtain ⟨others, isProvided, agree⟩ := alike types provided
  rw [provides] at isProvided
  cases isProvided
  exact lost.2 ((agree type).mp lost.1)

/-- A block whose variable field takes its types from a dropdown, with a
listener to the variable field. -/
def boundVariable : Editor Unit :=
  HostOperation.performAll idle 20 ⟨0⟩
    [.createVariable "item" (.one "Q") (some "v"), .newBlock "source"
      (some "A") [], .appendDummyInput ⟨0⟩ "",
      .newField "D" (.dropdown [[.text "x", .text "x", .list [.text "X"]],
        [.text "y", .text "y", .list [.text "Y"]]]) (.text "x"),
      .appendField ⟨0⟩ 0 ⟨0⟩,
      .newField "V" (.reference (some ["From:D"])) (.text "v"),
      .appendField ⟨0⟩ 0 ⟨1⟩, .wire ⟨0⟩ .live, .listen (.field ⟨1⟩) ⟨0⟩]
      freshWorkspace

/-- Choosing from the dropdown makes the binding retype the variable, and the
listener to the variable field is called after that. -/
theorem source_changes_reported_boundVariable :
    ∃ (editor after : Editor Unit) (calls : List (Call Unit)),
      Reached idle (fun _ _ _ _ => True) {} ⟨0⟩ editor ∧
      (setValue ⟨0⟩ (.text "y")).perform
        (journaling (fun callback => unjournaled (idle callback)) 20)
        (editor.journal []) =
        (.ok (), after.journal calls) ∧
      ¬ ProvidesAlike editor after (.field ⟨1⟩) ∧
      ∃ call ∈ calls, call.listener = .callback ⟨0⟩ ∧
        ProvidesAlike call.seen after (.field ⟨1⟩) := by
  have reached : Reached idle (fun _ _ _ _ => True) {} ⟨0⟩ boundVariable :=
    reached_freshWorkspace.performAll 20 _ (by decide +kernel)
  have refers : (setValue ⟨0⟩ (.text "y")).Refers boundVariable := by
    change boundVariable.fields.contains ⟨0⟩
    decide +kernel
  have returns : ((setValue ⟨0⟩ (.text "y")).perform (reaction idle 20)
    boundVariable).1 =
      .ok () := by
    decide +kernel
  obtain ⟨calls, journaled, reported⟩ :=
    source_changes_reported keepsOut_idle reached refers (eq_of_outcome returns)
  have provided : boundVariable.provides (.field ⟨1⟩) = .ok ["X"] := by
    decide +kernel
  have provides : ((setValue ⟨0⟩ (.text "y")).perform (reaction idle 20)
      boundVariable).2.provides (.field ⟨1⟩) = .ok ["Y"] := by
    decide +kernel
  have differs := not_providesAlike provided provides "X" (by decide)
  have hasKey : boundVariable.slotKey (.field ⟨1⟩) =
      .ok ⟨"A", .field, "V"⟩ := by
    decide +kernel
  have listed : .callback ⟨0⟩ ∈
      (boundVariable.workspace ⟨0⟩).registry.listenersAt
        ⟨"A", .field, "V"⟩ := by
    decide +kernel
  have sole : ((setValue ⟨0⟩ (.text "y")).perform (reaction idle 20)
      boundVariable).2.SoleReferences := by
    decide +kernel
  exact ⟨_, _, calls, reached, journaled, differs,
    reported (.field ⟨1⟩) _ hasKey (soleReferences_iff_unshared.mp sole _)
      differs _ listed⟩

/-- Two blocks with a variable field each, which refer to the same variable, and
a listener to the second field. -/
def sharedVariable : Editor Unit :=
  HostOperation.performAll idle 20 ⟨0⟩
    [.createVariable "item" (.one "Q") (some "v"),
      .newBlock "source" (some "A") [], .appendDummyInput ⟨0⟩ "",
      .newField "F" (.reference none) (.text "v"), .appendField ⟨0⟩ 0 ⟨0⟩,
      .newBlock "source" (some "B") [], .appendDummyInput ⟨1⟩ "",
      .newField "G" (.reference none) (.text "v"), .appendField ⟨1⟩ 0 ⟨1⟩,
      .listen (.field ⟨1⟩) ⟨0⟩] freshWorkspace

/-- Setting the types of the first field changes what the second one provides,
and the listener to the second one is not called. -/
theorem shared_variable_unreported :
    ∃ (editor after : Editor Unit) (calls : List (Call Unit)) (key : SlotKey)
      (listener : Listener),
      Reached idle (fun _ _ _ _ => True) {} ⟨0⟩ editor ∧
      (setTypes (.field ⟨0⟩) (some ["X"])).perform
        (journaling (fun callback => unjournaled (idle callback)) 20)
        (editor.journal []) =
        (.ok (), after.journal calls) ∧
      editor.slotKey (.field ⟨1⟩) = .ok key ∧
      listener ∈ (editor.workspace ⟨0⟩).registry.listenersAt key ∧
      ¬ ProvidesAlike editor after (.field ⟨1⟩) ∧
      listener ∉ calls.map Call.listener := by
  have returns : ((setTypes (.field ⟨0⟩) (some ["X"])).perform
      (reaction idle 20) sharedVariable).1 = .ok () := by
    decide +kernel
  have silent : (((setTypes (.field ⟨0⟩) (some ["X"])).perform
      (journaling (fun callback => unjournaled (idle callback)) 20)
      (sharedVariable.journal [])).2.calls.map Call.listener) = [] := by
    decide +kernel
  obtain ⟨calls, journaled⟩ := (mirrors_perform (mirrorsCalls_journaling
    (fun _ _ => mirrors_unjournaled _) 20)
      (setTypes (.field ⟨0⟩) (some ["X"]))).run (eq_of_outcome returns)
  rw [journaled] at silent
  refine ⟨sharedVariable, _, calls, ⟨"B", .field, "G"⟩, .callback ⟨0⟩,
    reached_freshWorkspace.performAll 20 _ ?_, journaled, ?_, ?_, ?_, ?_⟩
  · decide +kernel
  · decide +kernel
  · decide +kernel
  · have provided : sharedVariable.provides (.field ⟨1⟩) = .ok ["Q"] := by
      decide +kernel
    have provides : ((setTypes (.field ⟨0⟩) (some ["X"])).perform
      (reaction idle 20)
        sharedVariable).2.provides (.field ⟨1⟩) = .ok ["X"] := by
      decide +kernel
    exact not_providesAlike provided provides "Q" (by decide)
  · exact fun listed => List.not_mem_nil (silent ▸ listed)

end SourceOperation

end TypeFlow
