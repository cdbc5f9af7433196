import TypeFlow.Proofs.Callback
import TypeFlow.Proofs.LinkHistory
import TypeFlow.Proofs.SameTypes

/-!
# Changes of far ends are heard of

Whoever listens to a connection is to be called when its far end is another one
or has another check.  A cascade writes checks and leaves links alone, and each
check it writes calls the listeners at the far end.  This takes that links are
mutual and that the two ends are in the same workspace.
-/

namespace TypeFlow.Editor

variable {σ α : Type} {before : Editor σ} {connection : ConnectionId}
  {loyal : Listener → Prop}

/-- The listeners of a connection, in the workspace of its block. -/
def listenersOf (editor : Editor σ) (connection : ConnectionId) :
    List Listener :=
  (editor.workspace (editor.connectionWorkspace
    connection)).registry.listenersAt (editor.connection connection).key

/-- The connection has another far end, or its far end accepts other types. -/
def FarEndDiffers (before after : Editor σ) (connection : ConnectionId) :
    Prop :=
  (after.connection connection).target ≠ (before.connection connection).target ∨
    ∃ far, (before.connection connection).target = some far ∧
      ¬ Check.same (before.connection far).check
        (after.connection far).check = true

theorem FarEndDiffers.split {after : Editor σ}
    (differs : FarEndDiffers before after connection) (middle : Editor σ) :
    FarEndDiffers before middle connection ∨
      FarEndDiffers middle after connection := by
  by_cases early : (middle.connection connection).target =
    (before.connection connection).target
  · rcases differs with otherEnd | ⟨far, linked, otherCheck⟩
    · exact Or.inr (Or.inl fun late => otherEnd (late.trans early))
    · by_cases same :
          Check.same (before.connection far).check
            (middle.connection far).check = true
      · refine Or.inr (Or.inr ⟨far, early.trans linked, ?_⟩)
        exact fun later => otherCheck (Check.same_trans same later)
      · exact Or.inl (Or.inr ⟨far, linked, same⟩)
  · exact Or.inl (Or.inl early)

/-- Connections stay where they are, and loyal listeners stay registered. -/
structure Placed (loyal : Listener → Prop) (before after : Editor σ) :
    Prop where
  known : ∀ id, before.connections.contains id → after.connections.contains id
  key : ∀ id, before.connections.contains id →
    (after.connection id).key = (before.connection id).key
  home : ∀ id, before.connections.contains id →
    after.connectionWorkspace id = before.connectionWorkspace id
  registered : ∀ workspace key listener, loyal listener →
    listener ∈ (before.workspace workspace).registry.listenersAt key →
      listener ∈ (after.workspace workspace).registry.listenersAt key

/-- Existing connections are left alone altogether. -/
structure Undisturbed (loyal : Listener → Prop) (before after : Editor σ) : Prop
    extends Placed loyal before after where
  check : ∀ id, before.connections.contains id →
    (after.connection id).check = (before.connection id).check
  links : SameLinks before after

section Placed

variable {middle after : Editor σ}

theorem Placed.trans (first : Placed loyal before middle)
    (second : Placed loyal middle after) :
    Placed loyal before after where
  known := fun id isKnown => second.known id (first.known id isKnown)
  key := fun id isKnown => (second.key id (first.known id isKnown)).trans
    (first.key id isKnown)
  home := fun id isKnown =>
    (second.home id (first.known id isKnown)).trans (first.home id isKnown)
  registered := fun workspace key listener isLoyal listed =>
    second.registered workspace key listener isLoyal
      (first.registered workspace key listener isLoyal listed)

theorem Placed.listenersOf (placed : Placed loyal before after)
    (isKnown : before.connections.contains connection) {listener : Listener}
    (isLoyal : loyal listener)
    (listed : listener ∈ before.listenersOf connection) :
    listener ∈ after.listenersOf connection := by
  unfold Editor.listenersOf at *
  rw [placed.home connection isKnown, placed.key connection isKnown]
  exact placed.registered _ _ listener isLoyal listed

/-- Connections, blocks and listeners are the same. -/
theorem Undisturbed.of_tables
    (connections : after.connections = before.connections)
    (blocks : after.blocks = before.blocks)
    (registry : ∀ id, (after.workspace id).registry =
      (before.workspace id).registry) :
    Undisturbed loyal before after := by
  have sameConnection : ∀ id, after.connection id = before.connection id := by
    intro id
    unfold Editor.connection
    rw [connections]
  constructor
  · constructor
    · intro id isKnown
      rwa [connections]
    · intro id _
      rw [sameConnection]
    · intro id _
      unfold connectionWorkspace Editor.block
      rw [sameConnection, blocks]
    · intro workspace key listener _ listed
      rwa [registry]
  · intro id _
    rw [sameConnection]
  · intro id
    rw [sameConnection]

theorem placed_setCheck (editor : Editor σ) (connection : ConnectionId)
    (check : Check) :
    Placed loyal editor (editor.setCheck connection check) := by
  have kept : ∀ id, ((editor.setCheck connection check).connection id).bare =
      (editor.connection id).bare :=
    fun _ => OrderedMap.read_getD_insert Connection.bare rfl
  constructor
  · intro id isKnown
    exact (OrderedMap.contains_insert _ _ _ _).mpr (Or.inr isKnown)
  · intro id _
    exact (congrArg Connection.key (kept id) :)
  · intro id _
    exact (congrArg (fun entry : Connection =>
      (editor.block entry.block).workspace) (kept id) :)
  · exact fun _ _ _ _ => id

theorem sameLinks_setCheck (editor : Editor σ) (connection : ConnectionId)
    (check : Check) :
    SameLinks editor (editor.setCheck connection check) :=
  fun _ => OrderedMap.read_getD_insert Connection.target rfl

/-- Writing a check concerns the connection it is the far end of. -/
theorem FarEndDiffers.of_setCheck {editor : Editor σ} {id : ConnectionId}
    {check : Check}
    (differs : FarEndDiffers editor (editor.setCheck connection check) id) :
    (editor.connection id).target = some connection ∧
      ¬ Check.same (editor.connection connection).check check = true := by
  rcases differs with otherEnd | ⟨far, linked, otherCheck⟩
  · exact absurd (sameLinks_setCheck editor connection check id) otherEnd
  · rw [setCheck, connection_updateConnection] at otherCheck
    split at otherCheck
    · rename_i same
      subst same
      exact ⟨linked, otherCheck⟩
    · exact absurd (Check.same_refl _) otherCheck

theorem placed_setTargets (editor : Editor σ) (this other : ConnectionId)
    (thisTarget otherTarget : Option ConnectionId) :
    Placed loyal editor
      ((editor.setTarget this thisTarget).setTarget other otherTarget) := by
  have kept : ∀ id, (((editor.setTarget this thisTarget).setTarget other
        otherTarget).connection id).key = (editor.connection id).key ∧
      (((editor.setTarget this thisTarget).setTarget other
        otherTarget).connection id).block =
        (editor.connection id).block := by
    intro id
    rw [connection_setTargets]
    split
    · exact ⟨rfl, rfl⟩
    · split <;> exact ⟨rfl, rfl⟩
  constructor
  · intro id isKnown
    apply (OrderedMap.contains_insert _ _ _ _).mpr
    exact Or.inr ((OrderedMap.contains_insert _ _ _ _).mpr (Or.inr isKnown))
  · intro id _
    exact (kept id).1
  · intro id _
    exact congrArg (fun block => (editor.block block).workspace) (kept id).2
  · exact fun _ _ _ _ => id

/-- Setting far ends concerns the two connections and no others. -/
theorem FarEndDiffers.of_setTargets {editor : Editor σ}
    {this other id : ConnectionId}
    {thisTarget otherTarget : Option ConnectionId}
    (differs : FarEndDiffers editor
      ((editor.setTarget this thisTarget).setTarget other otherTarget) id) :
    id = this ∨ id = other := by
  rcases differs with otherEnd | ⟨far, _, otherCheck⟩
  · rw [target_setTargets] at otherEnd
    split at otherEnd
    · rename_i same
      exact Or.inr same.symm
    · split at otherEnd
      · rename_i same
        exact Or.inl same.symm
      · exact absurd rfl otherEnd
  · rw [check_setTargets] at otherCheck
    exact absurd (Check.same_refl _) otherCheck

end Placed

/-- The loyal listeners of every connection whose far end differs were called,
if the connection is one of those that are in house. -/
structure Heeded (loyal : Listener → Prop) (inHouse : ConnectionId → Prop)
    (before after : Editor (Journaled σ)) :
    Prop extends Placed loyal before after where
  grown : Grown before after
  told : ∀ id, before.connections.contains id → inHouse id →
    FarEndDiffers before after id →
    ∀ listener ∈ before.listenersOf id, loyal listener →
      CalledSince before after (·.listener = listener)

/-- In addition, nothing was linked or unlinked. -/
structure Passed (loyal : Listener → Prop) (inHouse : ConnectionId → Prop)
    (before after : Editor (Journaled σ)) :
    Prop extends Heeded loyal inHouse before after where
  links : SameLinks before after

/-- Links are mutual, and those of connections in house stay in a workspace. -/
structure Tied (inHouse : ConnectionId → Prop) (editor : Editor σ) : Prop where
  back : editor.MutualLinks
  near : ∀ this other, inHouse this →
    (editor.connection this).target = some other →
    editor.connectionWorkspace other = editor.connectionWorkspace this

/-- A call is entered, and whatever it changes is heard of. -/
def Attentive (loyal : Listener → Prop) (inHouse : ConnectionId → Prop)
    (react : Reaction (Journaled σ)) : Prop :=
  ∀ listener editor, Tied inHouse editor →
    Leads (react listener) editor
      (fun _ after => Passed loyal inHouse editor after ∧
        CalledSince editor after (·.listener = listener))
      (fun _ _ => True)

section Heeded

variable {inHouse : ConnectionId → Prop}

theorem Tied.keep {after : Editor σ} (tied : Tied inHouse before)
    (placed : Placed loyal before after) (links : SameLinks before after) :
    Tied inHouse after where
  back := tied.back.same links
  near := by
    intro this other isInHouse linked
    rw [links] at linked
    rw [placed.home this (contains_of_target linked),
      placed.home other (contains_of_target (tied.back this other linked))]
    exact tied.near this other isInHouse linked

variable {before middle after : Editor (Journaled σ)}

theorem Heeded.trans (first : Heeded loyal inHouse before middle)
    (second : Heeded loyal inHouse middle after) :
    Heeded loyal inHouse before after where
  toPlaced := first.toPlaced.trans second.toPlaced
  grown := first.grown.trans second.grown
  told := by
    intro id isKnown isInHouse differs listener listed isLoyal
    rcases differs.split middle with early | late
    · exact (first.told id isKnown isInHouse early listener listed
        isLoyal).later second.grown
    · have stillListed := first.toPlaced.listenersOf isKnown isLoyal listed
      exact CalledSince.earlier first.grown
        (second.told id (first.known id isKnown) isInHouse late listener
          stillListed isLoyal)

theorem Passed.trans (first : Passed loyal inHouse before middle)
    (second : Passed loyal inHouse middle after) :
    Passed loyal inHouse before after where
  toHeeded := first.toHeeded.trans second.toHeeded
  links := first.links.trans second.links

/-- What is left alone need not be told. -/
theorem Undisturbed.passed (quiet : Undisturbed loyal before after)
    (tied : Tied inHouse before) (grown : Grown before after) :
    Passed loyal inHouse before after where
  toPlaced := quiet.toPlaced
  grown := grown
  links := quiet.links
  told := by
    intro id _ _ differs
    rcases differs with otherEnd | ⟨far, linked, otherCheck⟩
    · exact absurd (quiet.links id) otherEnd
    · rw [quiet.check far (contains_of_target (tied.back id far linked))]
        at otherCheck
      exact absurd (Check.same_refl _) otherCheck

theorem Passed.refl {editor : Editor (Journaled σ)}
    (tied : Tied inHouse editor) :
    Passed loyal inHouse editor editor :=
  (Undisturbed.of_tables rfl rfl fun _ => rfl).passed tied (Grown.of_eq rfl)

/-- A change is made first, and then those whom it concerns are called. -/
theorem Passed.owing (placed : Placed loyal before middle)
    (sameCalls : middle.calls = before.calls)
    (later : Passed loyal inHouse middle after)
    (owed : ∀ id, before.connections.contains id → inHouse id →
      FarEndDiffers before middle id →
      ∀ listener ∈ before.listenersOf id, loyal listener →
        CalledSince middle after (·.listener = listener)) :
    Heeded loyal inHouse before after where
  toPlaced := placed.trans later.toPlaced
  grown := (Grown.of_eq sameCalls).trans later.grown
  told := by
    intro id isKnown isInHouse differs listener listed isLoyal
    apply CalledSince.earlier (Grown.of_eq sameCalls)
    rcases differs.split middle with early | late
    · exact owed id isKnown isInHouse early listener listed isLoyal
    · exact later.told id (placed.known id isKnown) isInHouse late listener
        (placed.listenersOf isKnown isLoyal listed) isLoyal

end Heeded

section Calls

variable {inHouse : ConnectionId → Prop} {react : Reaction (Journaled σ)}
  {editor : Editor (Journaled σ)}

/-- What two actions do one after the other is heard of if each lets its own
changes be heard of. -/
theorem leads_passed_bind {β : Type} {first : EditM (Journaled σ) α}
    {next : α → EditM (Journaled σ) β} (tied : Tied inHouse editor)
    (starts : Leads first editor
      (fun _ middle => Passed loyal inHouse editor middle) (fun _ _ => True))
    (goesOn : ∀ value middle, Tied inHouse middle →
      Leads (next value) middle
        (fun _ after => Passed loyal inHouse middle after) (fun _ _ => True)) :
    Leads (first >>= next) editor
      (fun _ after => Passed loyal inHouse editor after) (fun _ _ => True) := by
  rw [leads_bind]
  apply Leads.imp starts
  intro value middle sofar
  apply Leads.imp (goesOn value middle (tied.keep sofar.toPlaced sofar.links))
  exact fun _ _ => sofar.trans

theorem retypeVariable_passed (tied : Tied inHouse editor) (field : FieldId)
    (check : Check) :
    Leads (retypeVariable field check) editor
      (fun _ after => Passed loyal inHouse editor after) (fun _ _ => True) := by
  simp only [retypeVariable, leads_bind, leads_get]
  split
  · simp only [leads_bind, leads_set, leads_pure]
    exact Undisturbed.passed (Undisturbed.of_tables rfl rfl fun _ =>
      OrderedMap.read_getD_insert Workspace.registry rfl) tied (Grown.of_eq rfl)
  · exact Passed.refl tied

section Attentive

variable (attentive : Attentive loyal inHouse react)
  (tied : Tied inHouse editor)

include attentive tied

theorem notify_passed (workspace : WorkspaceId) (key : SlotKey) :
    Leads (notify react workspace key) editor
      (fun _ after => Passed loyal inHouse editor after ∧
        ∀ listener ∈ (editor.workspace workspace).registry.listenersAt key,
          CalledSince editor after (·.listener = listener))
      (fun _ _ => True) := by
  simp only [notify, leads_bind, leads_look, leads_pure]
  generalize (editor.workspace workspace).registry.listenersAt key = listeners
  -- Each listener was called already or is among those to be called.
  let calling (rest : List Listener) (current : Editor (Journaled σ)) : Prop :=
    Passed loyal inHouse editor current ∧ ∀ listener ∈ listeners,
      listener ∈ rest ∨ CalledSince editor current (·.listener = listener)
  apply Leads.mono (leads_forM calling listeners ?_ ?_)
  · rintro _ after ⟨passed, called⟩
    refine ⟨passed, fun listener listed => ?_⟩
    rcases called listener listed with remaining | isCalled
    · cases remaining
    · exact isCalled
  · exact fun _ _ => id
  · rintro listener rest current _ ⟨sofar, called⟩
    apply Leads.mono (attentive listener current
      (tied.keep sofar.toPlaced sofar.links))
    · rintro _ after ⟨passed, isCalled⟩
      refine ⟨sofar.trans passed, fun other listed => ?_⟩
      rcases called other listed with remaining | early
      · rcases List.mem_cons.mp remaining with same | later
        · subst same
          exact Or.inr (CalledSince.earlier sofar.grown isCalled)
        · exact Or.inl later
      · exact Or.inr (early.later passed.grown)
    · exact fun _ _ _ => True.intro
  · exact ⟨Passed.refl tied, fun _ => Or.inl⟩

/-- A connection's far end is the one that the listeners of a written check
belong to. -/
theorem setConnectionTypes_passed (connection : ConnectionId) (check : Check) :
    Leads (setConnectionTypes react connection check) editor
      (fun _ after => Passed loyal inHouse editor after) (fun _ _ => True) := by
  have placed : Placed loyal editor
      (editor.setCheck connection check.distinct) :=
    placed_setCheck editor connection check.distinct
  have links := sameLinks_setCheck editor connection check.distinct
  have tiedWritten := tied.keep placed links
  -- A change that concerns no one needs no call.
  have unheard :
      (∀ id, ¬ FarEndDiffers editor
        (editor.setCheck connection check.distinct) id) →
      Passed loyal inHouse editor
        (editor.setCheck connection check.distinct) := by
    intro same
    exact ⟨⟨placed, Grown.of_eq rfl, fun id _ _ differs =>
      absurd differs (same id)⟩, links⟩
  simp only [setConnectionTypes, leads_bind, leads_look, leads_modify]
  split
  · rename_i same
    exact unheard fun id differs => differs.of_setCheck.2 same
  · split
    · rename_i isFree
      apply unheard
      intro id differs
      rw [tied.back id connection differs.of_setCheck.1] at isFree
      cases isFree
    · rename_i far linked
      simp only [leads_bind, leads_look, leads_discard, leads_pure]
      apply Leads.imp (notify_passed attentive tiedWritten _ _)
      rintro _ after ⟨passed, called⟩
      refine ⟨Passed.owing placed rfl passed ?_, links.trans passed.links⟩
      intro id isKnown isInHouse differs listener listed isLoyal
      have backLinked := tied.back id connection differs.of_setCheck.1
      rw [linked] at backLinked
      cases backLinked
      apply called
      rw [placed.home connection (contains_of_target linked),
        placed.key far isKnown, tied.near far connection isInHouse
          differs.of_setCheck.1]
      exact placed.registered _ _ listener isLoyal listed

theorem notifyField_passed (field : FieldId) :
    Leads (notifyField react field) editor
      (fun _ after => Passed loyal inHouse editor after) (fun _ _ => True) := by
  simp only [notifyField, leads_bind, leads_look]
  split
  · exact Passed.refl tied
  · simp only [leads_bind, leads_look, leads_lookup, leads_discard]
    refine ⟨fun key _ => ?_, fun _ _ => True.intro⟩
    exact Leads.mono (notify_passed attentive tied _ key)
      (fun _ _ both => both.1) fun _ _ => id

theorem setValue_passed (field : FieldId) (value : FieldValue) :
    Leads (setValue react field value) editor
      (fun _ after => Passed loyal inHouse editor after) (fun _ _ => True) := by
  apply leads_passed_bind tied
  · have quiet : Undisturbed loyal editor
        (editor.updateField field fun entry => { entry with value }) :=
      Undisturbed.of_tables rfl rfl fun _ => rfl
    exact quiet.passed tied (Grown.of_eq rfl)
  · exact fun _ _ tiedSet => notifyField_passed attentive tiedSet field

theorem setFieldTypes_passed (field : FieldId) (check : Check) :
    Leads (setFieldTypes react field check) editor
      (fun _ after => Passed loyal inHouse editor after) (fun _ _ => True) := by
  rw [setFieldTypes, leads_bind, leads_look]
  split
  · apply leads_passed_bind tied
    · have quiet : Undisturbed loyal editor
        (editor.updateField field fun entry =>
          { entry with kind := .reference check.distinct }) :=
        Undisturbed.of_tables rfl rfl fun _ => rfl
      exact quiet.passed tied (Grown.of_eq rfl)
    · intro _ written tiedWritten
      apply leads_passed_bind tiedWritten
        (retypeVariable_passed tiedWritten field check)
      intro retyped current tiedCurrent
      split
      · apply leads_passed_bind tiedCurrent
          (notifyField_passed attentive tiedCurrent field)
        exact fun _ _ => Passed.refl
      · exact Passed.refl tiedCurrent
  · exact Passed.refl tied

theorem setTypes_passed (slot : Slot) (check : Check) :
    Leads (setTypes react slot check) editor
      (fun _ after => Passed loyal inHouse editor after) (fun _ _ => True) := by
  cases slot with
  | connection connection =>
      exact setConnectionTypes_passed attentive tied connection check
  | field field => exact setFieldTypes_passed attentive tied field check

theorem recompute_passed (wiring : WiringId) (target : SlotKey) :
    Leads (recompute react wiring target) editor
      (fun _ after => Passed loyal inHouse editor after) (fun _ _ => True) := by
  -- Guard and counters have no part in who is called.
  refine leads_recompute_aside (fun _ _ passed => { passed with })
    (fun _ _ _ => id)
    (fun _ => Passed.refl tied) (fun _ => True.intro)
      fun binding check engines _ _ => ?_
  have tiedInside : Tied inHouse { editor with engines } :=
    ⟨tied.back, tied.near⟩
  exact Leads.mono (setTypes_passed attentive tiedInside _ check)
    (fun _ _ passed => { passed with }) fun _ _ => id

end Attentive

/-- If callbacks let changes be heard of, so do all calls, however deep. -/
theorem attentive_journaling {outside : Callbacks (Journaled σ)}
    (callbacks : ∀ callback editor, Tied inHouse editor →
      Leads (outside callback) editor
        (fun _ after => Passed loyal inHouse editor after) (fun _ _ => True))
    (fuel : Nat) : Attentive loyal inHouse (journaling outside fuel) := by
  induction fuel with
  | zero =>
      intro listener editor _
      trivial
  | succ fuel induction =>
      intro listener editor tied
      have quiet : Undisturbed loyal editor (editor.withCall listener) :=
        Undisturbed.of_tables rfl rfl fun _ => rfl
      have called : CalledSince editor (editor.withCall listener)
          (·.listener = listener) :=
        calledSince_withCall rfl
      have noted := quiet.passed tied called.grown
      have tiedNoted : Tied inHouse (editor.withCall listener) :=
        tied.keep quiet.toPlaced quiet.links
      have goesOn : ∀ after, Passed loyal inHouse
          (editor.withCall listener) after →
          Passed loyal inHouse editor after ∧
            CalledSince editor after (·.listener = listener) :=
        fun after passed => ⟨noted.trans passed, called.later passed.grown⟩
      cases listener with
      | callback callback =>
          simp only [journaling, note, leads_bind, leads_modify]
          apply Leads.imp (callbacks callback _ tiedNoted)
          exact fun _ => goesOn
      | recompute wiring target =>
          simp only [journaling, note, leads_bind, leads_modify, leads_discard]
          apply Leads.imp (recompute_passed induction tiedNoted wiring target)
          exact fun _ => goesOn

end Calls

end TypeFlow.Editor

namespace TypeFlow.Script

open Editor

variable {σ : Type}

/-- What the script does of its own leaves existing connections alone and does
not unsubscribe loyal listeners. -/
def Discreet (loyal : Listener → Prop) : Script σ → Prop
  | .done => True
  | .act action next =>
      (∀ editor, Leads action editor
        (fun _ after => Undisturbed loyal editor after)
        (fun _ _ => True)) ∧ next.Discreet loyal
  | .setTypes _ _ next | .setValue _ _ next | .recompute _ _ next =>
      next.Discreet loyal
  | .choose next => ∀ editor, (next editor).Discreet loyal

variable {loyal : Listener → Prop} {inHouse : ConnectionId → Prop}

theorem Discreet.run_passed {react : Reaction (Journaled σ)}
    (attentive : Attentive loyal inHouse react) {script : Script σ}
    (discreet : script.Discreet loyal) {editor : Editor (Journaled σ)}
    (tied : Tied inHouse editor) :
    Leads (script.journaled.run react) editor
      (fun _ after => Passed loyal inHouse editor after) (fun _ _ => True) := by
  induction script generalizing editor with
  | done => exact Passed.refl tied
  | act action next induction =>
      obtain ⟨quiet, later⟩ := discreet
      apply leads_passed_bind tied
      · rw [leads_unjournaled]
        apply Leads.imp (quiet editor.forget)
        intro _ after undisturbed
        have lifted : Undisturbed loyal editor (after.journal editor.calls) :=
          { undisturbed with }
        exact lifted.passed tied (Grown.of_eq rfl)
      · exact fun _ _ => induction later
  | setTypes slot check next induction =>
      apply leads_passed_bind tied
      · rw [leads_discard]
        exact setTypes_passed attentive tied slot check
      · exact fun _ _ => induction discreet
  | setValue field value next induction =>
      apply leads_passed_bind tied
      · exact setValue_passed attentive tied field value
      · exact fun _ _ => induction discreet
  | recompute wiring target next induction =>
      apply leads_passed_bind tied
      · rw [leads_discard]
        exact recompute_passed attentive tied wiring target
      · exact fun _ _ => induction discreet
  | choose next induction =>
      simp only [journaled, run, leads_bind, leads_get]
      exact induction editor.forget (discreet editor.forget) tied

theorem attentive_noting {scripts : CallbackId → Script σ}
    (discreet : ∀ callback, (scripts callback).Discreet loyal)
    (limit fuel : Nat) :
    Attentive loyal inHouse (noting scripts limit fuel) := by
  apply attentive_journaling
  induction fuel with
  | zero =>
      intro callback editor _
      trivial
  | succ fuel induction =>
      intro callback editor tied
      exact (discreet callback).run_passed
        (attentive_journaling induction limit) tied

end TypeFlow.Script
