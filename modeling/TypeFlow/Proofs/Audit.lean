import TypeFlow.Proofs.DerivedCheck
import TypeFlow.Proofs.EngineWriter
import TypeFlow.Proofs.Rollback

/-!
# Audited writes

An audited engine looks at each check it has just written, before anyone hears
of it, and raises an alarm unless the check is clean and made of the right types
in the right order.  `Concurs` says that from some state the audited run is the
same as the plain one and that no check is spoiled.  It holds of every cascade,
however deep.
-/

namespace TypeFlow

/-- The check is clean and what the recipe gives in this state. -/
def Recipe.Gives {σ : Type} (recipe : Recipe) (editor : Editor σ)
    (check : Check) : Prop :=
  check.Clean ∧ ∃ derived, recipe.links.mapM editor.linkTypes = .ok derived ∧
    check.Composed recipe.regular derived

namespace Editor

variable {σ α β : Type} {editor : Editor σ} {foreign : Slot → Prop}
  {next next' : α → EditM σ β}

section Announce

/-- What follows the writing of a check: a field retypes its variable, and the
listeners are called. -/
def announce (react : Reaction σ) : Slot →
    (previous check : Check) → EditM σ Bool
  | .connection connection, previous, check => do
      if Check.same previous check.distinct then return false
      match ← look fun editor => (editor.connection connection).target with
      | none => return true
      | some far =>
          let workspace ← look (·.connectionWorkspace connection)
          let key ← look fun editor => (editor.connection far).key
          discard (notify react workspace key)
          return true
  | .field field, previous, check => do
      match ← look fun editor => (editor.field field).kind with
      | .reference _ =>
          let changed := !Check.same previous check.distinct
          let retyped ← retypeVariable field check
          if changed || retyped then notifyField react field
          return changed
      | _ => return false

theorem run_modify (change : Editor σ → Editor σ) (next : PUnit → EditM σ β)
    (editor : Editor σ) :
    ((modify change : EditM σ PUnit) >>= next) editor = next ⟨⟩
      (change editor) := rfl

theorem run_get (next : Editor σ → EditM σ β) (editor : Editor σ) :
    ((get : EditM σ (Editor σ)) >>= next) editor = next editor editor := rfl

theorem run_lookup (view : Editor σ → Except Fault α) (editor : Editor σ) :
    lookup view editor = (view editor, editor) := by
  unfold lookup
  rw [run_get]
  cases view editor <;> rfl

/-- First the check is written, and then the rest follows. -/
theorem setTypes_eq_announce (react : Reaction σ) (slot : Slot) (check : Check)
    (editor : Editor σ) :
    setTypes react slot check editor =
      announce react slot (editor.slotCheck slot) check
        (editor.resetTypes slot check.distinct) := by
  cases slot with
  | connection connection =>
      have sameTarget : ((editor.setCheck connection check.distinct).connection
          connection).target = (editor.connection connection).target := by
        simp [setCheck]
      simp only [setTypes, setConnectionTypes, announce, resetTypes, run_look,
        run_modify]
      by_cases same : Check.same (editor.connection connection).check
        check.distinct = true
      · rw [if_pos same, slotCheck, if_pos same]
      · rewrite [if_neg same, slotCheck, if_neg same, run_look, sameTarget]
        rfl
  | field field =>
      simp only [setTypes, setFieldTypes, announce, resetTypes, slotCheck,
        run_look]
      cases isKind : (editor.field field).kind with
      | reference previous =>
          have reset : editor.resetFieldTypes field check.distinct =
              editor.updateField field fun entry =>
                { entry with kind := .reference check.distinct } := by
            simp [resetFieldTypes, isKind]
          have written :
              ((editor.resetFieldTypes field check.distinct).field field).kind =
              .reference check.distinct := by
            simp [reset]
          simp only [run_modify, written, Field.check, isKind]
          rw [reset]
      | text => simp [resetFieldTypes, isKind]
      | dropdown choices => simp [resetFieldTypes, isKind]

end Announce

open scoped Classical in
/-- Raises the alarm unless the condition holds. -/
noncomputable def demand (alarm : EditM σ Unit) (condition : Prop) :
    EditM σ Unit :=
  if condition then return else alarm

/-- Writes a check and demands of what the slot has then that it is what the
recipe gave before. -/
noncomputable def auditedWrite (alarm : EditM σ Unit) (react : Reaction σ) :
    Writer σ :=
  fun recipe check => do
    let before ← get
    modify (·.resetTypes recipe.slot check.distinct)
    demand alarm (recipe.Gives before (← look (·.slotCheck recipe.slot)))
    announce react recipe.slot (before.slotCheck recipe.slot) check

theorem auditedWrite_of_gives (alarm : EditM σ Unit) (react : Reaction σ)
    {recipe : Recipe} {check : Check} (hasCheck : editor.HasCheck recipe.slot)
    (gives : recipe.Gives editor check.distinct) :
    auditedWrite alarm react recipe check editor =
      announce react recipe.slot (editor.slotCheck recipe.slot) check
        (editor.resetTypes recipe.slot check.distinct) := by
  have written : (editor.resetTypes recipe.slot check.distinct).slotCheck
      recipe.slot =
      check.distinct := slotCheck_resetTypes_self _ hasCheck
  change (demand alarm (recipe.Gives editor
    ((editor.resetTypes recipe.slot check.distinct).slotCheck recipe.slot)) >>=
      fun _ => _) (editor.resetTypes recipe.slot check.distinct) = _
  rw [written, demand, if_pos gives]
  rfl

theorem gives_of_computed {binding : Binding} {check : Check}
    (computes : editor.computed binding = .ok check) :
    binding.recipe.Gives editor check.distinct := by
  unfold computed at computes
  cases derives : binding.links.mapM editor.linkTypes with
  | error fault =>
      rw [derives] at computes
      cases computes
  | ok derived =>
      rw [derives] at computes
      cases computes
      rw [Check.derived, Check.distinct_ofTypes]
      exact ⟨Check.clean_ofTypes _, derived, derives,
        Check.composed_derived _ derived⟩

theorem gives_regular (editor : Editor σ) (target : Target) :
    target.recipe.Gives editor
      (Check.ofList target.declared.regular).distinct := by
  have alone : (Check.ofList target.declared.regular).distinct =
      Check.derived target.declared.regular [] := by
    rw [Check.distinct_ofList, Check.derived, List.flatten_nil, List.append_nil]
  rw [alone]
  exact ⟨Check.clean_ofTypes _, [], rfl, Check.composed_derived _ []⟩

/-- New fields get new numbers, and every target of a binding has a check. -/
structure Fitted (editor : Editor σ) : Prop where
  fields : editor.fields.Numbered FieldId.number
  bound : ∀ wiring key binding, (editor.wiring wiring).bindings.get? key =
    some binding →
    editor.HasCheck binding.target

/-- The slots that had a check still have one.  A check that differs is clean or
that of a slot which is in `foreign` hands. -/
structure Unspoiled (foreign : Slot → Prop) (before after : Editor σ) :
    Prop where
  fitted : Fitted after
  hasCheck : ∀ slot, before.HasCheck slot → after.HasCheck slot
  checks : ∀ slot, after.slotCheck slot = before.slotCheck slot ∨
    (after.slotCheck slot).Clean ∨ foreign slot

namespace Unspoiled

variable {foreign : Slot → Prop} {before middle after : Editor σ}

theorem refl (fitted : Fitted before) : Unspoiled foreign before before :=
  ⟨fitted, fun _ => id, fun _ => Or.inl rfl⟩

theorem trans (first : Unspoiled foreign before middle)
    (second : Unspoiled foreign middle after) :
    Unspoiled foreign before after where
  fitted := second.fitted
  hasCheck := fun slot has => second.hasCheck slot (first.hasCheck slot has)
  checks := by
    intro slot
    rcases second.checks slot with same | clean
    · rw [same]
      exact first.checks slot
    · exact Or.inr clean

theorem mono {foreign' : Slot → Prop}
    (unspoiled : Unspoiled foreign before after)
    (wider : ∀ slot, foreign slot → foreign' slot) :
    Unspoiled foreign' before after :=
  ⟨unspoiled.fitted, unspoiled.hasCheck, fun slot =>
    (unspoiled.checks slot).imp_right (Or.imp_right (wider slot))⟩

/-- Fields stay, connections keep their checks, and there is no new binding. -/
theorem of_tables (fitted : Fitted before)
    (fields : after.fields = before.fields)
    (connections : ∀ id, (after.connection id).check =
      (before.connection id).check) (bindings : ∀ wiring key binding,
      (after.wiring wiring).bindings.get? key = some binding →
      (before.wiring wiring).bindings.get? key = some binding) :
    Unspoiled foreign before after := by
  have sameField : ∀ id, after.field id = before.field id := by
    intro id
    unfold Editor.field
    rw [fields]
  have hasCheck : ∀ slot, before.HasCheck slot → after.HasCheck slot := by
    intro slot has
    cases slot with
    | connection connection => trivial
    | field field =>
        simp only [HasCheck] at has ⊢
        rwa [sameField]
  refine ⟨⟨?_, ?_⟩, hasCheck, ?_⟩
  · rw [fields]
    exact fitted.fields
  · intro wiring key binding found
    exact hasCheck _ (fitted.bound wiring key binding
      (bindings wiring key binding found))
  · intro slot
    cases slot with
    | connection connection => exact Or.inl (connections connection)
    | field field => exact Or.inl (congrArg Field.check (sameField field))

/-- A change that touches no slot and no wiring. -/
theorem aside (fitted : Fitted before) (fields : after.fields = before.fields)
    (connections : after.connections = before.connections)
    (wirings : after.wirings = before.wirings) :
    Unspoiled foreign before after := by
  apply of_tables fitted fields
  · intro id
    unfold Editor.connection
    rw [connections]
  · intro wiring key binding found
    unfold Editor.wiring at found ⊢
    rwa [wirings] at found

end Unspoiled

theorem contains_of_hasCheck {field : FieldId}
    (hasCheck : editor.HasCheck (.field field)) :
    editor.fields.contains field := by
  by_contra unknown
  simp only [HasCheck, Editor.field] at hasCheck
  rw [OrderedMap.getD_of_not_contains unknown] at hasCheck
  cases hasCheck

theorem unspoiled_resetTypes (fitted : Fitted editor) {slot : Slot}
    {check : Check} (allowed : check.Clean ∨ foreign slot) :
    Unspoiled foreign editor (editor.resetTypes slot check) := by
  refine ⟨⟨?_, ?_⟩, fun other => hasCheck_resetTypes check, ?_⟩
  · cases slot with
    | connection connection => exact fitted.fields
    | field field =>
        simp only [resetTypes, resetFieldTypes]
        split
        · rename_i types isReference
          apply fitted.fields.insert_known
          exact contains_of_hasCheck
            (FieldKind.bare_eq_reference.mpr ⟨types, isReference⟩)
        · exact fitted.fields
  · intro wiring key binding found
    apply hasCheck_resetTypes
    refine fitted.bound wiring key binding ?_
    cases slot with
    | connection connection => exact found
    | field field =>
        simp only [resetTypes, resetFieldTypes] at found
        split at found <;> exact found
  · intro other
    by_cases here : other = slot
    · subst here
      by_cases hasCheck : editor.HasCheck other
      · rw [slotCheck_resetTypes_self check hasCheck]
        exact Or.inr allowed
      · refine Or.inl ?_
        cases other with
        | connection connection => exact absurd trivial hasCheck
        | field field =>
            simp only [resetTypes, resetFieldTypes]
            split
            · rename_i types isReference
              exact absurd (FieldKind.bare_eq_reference.mpr
                ⟨types, isReference⟩) hasCheck
            · rfl
    · exact Or.inl (slotCheck_resetTypes_of_ne editor check here)

/-- From this state both actions do the same, and that spoils nothing. -/
structure Concurs (foreign : Slot → Prop) (left right : EditM σ α)
    (editor : Editor σ) :
    Prop where
  same : left editor = right editor
  unspoiled : Ends right editor (Unspoiled foreign editor)

section Rules

theorem Concurs.of_ends {action : EditM σ α}
    (ends : Ends action editor (Unspoiled foreign editor)) :
    Concurs foreign action action editor :=
  ⟨rfl, ends⟩

theorem concurs_pure (fitted : Fitted editor) (value : α) :
    Concurs foreign (pure value) (pure value) editor :=
  ⟨rfl, Unspoiled.refl fitted⟩

theorem concurs_throw (fitted : Fitted editor) (fault : Fault) :
    Concurs foreign (throw fault : EditM σ α) (throw fault) editor :=
  ⟨rfl, Unspoiled.refl fitted⟩

theorem concurs_bind {first first' : EditM σ α}
    (begins : Concurs foreign first first' editor)
    (continues : ∀ value middle, Unspoiled foreign editor middle →
      Concurs foreign (next value) (next' value) middle) :
    Concurs foreign (first >>= next) (first' >>= next') editor := by
  have ends := begins.unspoiled
  constructor
  · change ExceptT.bindCont next (first editor).1 (first editor).2 =
      ExceptT.bindCont next' (first' editor).1 (first' editor).2
    rw [begins.same]
    rcases run : first' editor with ⟨fault | value, middle⟩
    · rfl
    · exact (continues value middle (ends.holds run)).same
  · unfold Ends
    rw [leads_bind]
    apply Leads.imp ends
    intro value middle sofar
    exact Ends.mono (continues value middle sofar).unspoiled
      fun _ => sofar.trans

theorem concurs_discard {left right : EditM σ α}
    (concurs : Concurs foreign left right editor) :
    Concurs foreign (discard left) (discard right) editor := by
  change Concurs foreign ((fun _ => ()) <$> left)
    ((fun _ => ()) <$> right) editor
  rw [map_eq_pure_bind, map_eq_pure_bind]
  exact concurs_bind concurs fun value middle sofar =>
    concurs_pure sofar.fitted ()

theorem concurs_look {view : Editor σ → α}
    (continues : Concurs foreign (next (view editor)) (next' (view editor))
      editor) :
    Concurs foreign (look view >>= next) (look view >>= next') editor :=
  ⟨continues.same, continues.unspoiled⟩

theorem concurs_lookup {view : Editor σ → Except Fault α}
    (fitted : Fitted editor) (continues : ∀ value, view editor = .ok value →
      Concurs foreign (next value) (next' value) editor) :
    Concurs foreign (lookup view >>= next) (lookup view >>= next') editor := by
  constructor
  · change ExceptT.bindCont next (lookup view editor).1 (lookup view editor).2 =
      ExceptT.bindCont next' (lookup view editor).1 (lookup view editor).2
    rw [run_lookup]
    cases isView : view editor with
    | ok value => exact (continues value isView).same
    | error fault => rfl
  · simp only [Ends, leads_bind, leads_lookup]
    exact ⟨fun value isView => (continues value isView).unspoiled,
      fun _ _ => Unspoiled.refl fitted⟩

theorem concurs_modify {change : Editor σ → Editor σ}
    {next next' : PUnit → EditM σ β}
    (step : Unspoiled foreign editor (change editor))
    (continues : Unspoiled foreign editor (change editor) →
      Concurs foreign (next ⟨⟩) (next' ⟨⟩) (change editor)) :
    Concurs foreign (modify change >>= next) (modify change >>= next') editor :=
  ⟨(continues step).same, Ends.mono (continues step).unspoiled
    fun _ => step.trans⟩

theorem concurs_ite {condition : Prop} [Decidable condition]
    {left left' right right' : EditM σ α}
    (holds : condition → Concurs foreign left left' editor)
    (fails : ¬ condition → Concurs foreign right right' editor) :
    Concurs foreign (if condition then left else right)
      (if condition then left' else right') editor := by
  by_cases isSo : condition
  · rw [if_pos isSo, if_pos isSo]
    exact holds isSo
  · rw [if_neg isSo, if_neg isSo]
    exact fails isSo

theorem concurs_forM {visit visit' : α → EditM σ PUnit} (fitted : Fitted editor)
    (items : List α) (step : ∀ item ∈ items, ∀ current,
      Unspoiled foreign editor current →
      Concurs foreign (visit item) (visit' item) current) :
    Concurs foreign (items.forM visit) (items.forM visit') editor := by
  induction items generalizing editor with
  | nil => exact concurs_pure fitted _
  | cons item rest induction =>
      change Concurs foreign (visit item >>= fun _ => rest.forM visit)
        (visit' item >>= fun _ => rest.forM visit') editor
      apply concurs_bind (step item (by simp) editor (Unspoiled.refl fitted))
      intro _ middle sofar
      apply induction sofar.fitted
      intro other member current later
      exact step other (by simp [member]) current (sofar.trans later)

theorem concurs_guarded (fitted : Fitted editor) (engine : EngineId)
    (key : SlotKey) {action action' : Nat → EditM σ α}
    (acts : ∀ depth current, Unspoiled foreign editor current →
      Concurs foreign (action depth) (action' depth) current) :
    Concurs foreign (guarded engine key action) (guarded engine key action')
      editor := by
  unfold guarded
  apply concurs_lookup fitted
  intro guard _
  refine concurs_modify (Unspoiled.aside fitted rfl rfl rfl) ?_
  intro enters
  have inside := acts guard.depth _ enters
  have attempts : Concurs foreign (attempt (action guard.depth))
      (attempt (action' guard.depth)) (editor.setGuard engine guard) := by
    constructor
    · unfold attempt
      rw [inside.same]
    · simp only [Ends, leads_attempt]
      exact inside.unspoiled
  apply concurs_bind attempts
  intro outcome middle sofar
  apply Concurs.of_ends
  have leaves : Unspoiled foreign middle
      (middle.setGuard engine ((middle.engine engine).guard.leave key)) :=
    Unspoiled.aside sofar.fitted rfl rfl rfl
  simp only [Ends, leads_bind, leads_modify, leads_lookup]
  exact ⟨fun _ _ => leaves, fun _ _ => leaves⟩

end Rules

/-- Calling a listener in either way is the same. -/
def ConcursCalls (foreign : Slot → Prop) (react react' : Reaction σ) : Prop :=
  ∀ listener editor, Fitted editor →
    Concurs foreign (react listener) (react' listener) editor

/-- Writing what a recipe gives in either way is the same. -/
def ConcursWrites (foreign : Slot → Prop) (write write' : Writer σ) : Prop :=
  ∀ recipe check editor, Fitted editor → editor.HasCheck recipe.slot →
    recipe.Gives editor check.distinct →
      Concurs foreign (write recipe check) (write' recipe check) editor

theorem unspoiled_retypeVariable (fitted : Fitted editor) (field : FieldId)
    (check : Check) :
    Ends (retypeVariable field check) editor (Unspoiled foreign editor) := by
  simp only [Ends, retypeVariable, leads_bind, leads_get]
  split
  · simp only [leads_bind, leads_set, leads_pure]
    exact Unspoiled.aside fitted rfl rfl rfl
  · exact Unspoiled.refl fitted

section Calls

variable {react react' : Reaction σ} (calls : ConcursCalls foreign react react')

include calls

theorem concurs_notify (fitted : Fitted editor) (workspace : WorkspaceId)
    (key : SlotKey) :
    Concurs foreign (notify react workspace key) (notify react' workspace key)
      editor := by
  unfold notify
  apply concurs_look
  apply concurs_bind
  · apply concurs_forM fitted
    intro listener _ current sofar
    exact calls listener current sofar.fitted
  · intro _ middle sofar
    exact concurs_pure sofar.fitted _

theorem concurs_notifyField (fitted : Fitted editor) (field : FieldId) :
    Concurs foreign (notifyField react field)
      (notifyField react' field) editor := by
  unfold notifyField
  apply concurs_look
  cases (editor.field field).block with
  | none => exact concurs_pure fitted _
  | some block =>
      apply concurs_look
      apply concurs_lookup fitted
      intro key _
      exact concurs_discard (concurs_notify calls fitted _ key)

theorem concurs_announce (fitted : Fitted editor) (slot : Slot)
    (previous check : Check) :
    Concurs foreign (announce react slot previous check)
      (announce react' slot previous check) editor := by
  cases slot with
  | connection connection =>
      apply concurs_ite
      · intro _
        exact concurs_pure fitted _
      · intro _
        apply concurs_look
        cases (editor.connection connection).target with
        | none => exact concurs_pure fitted _
        | some far =>
            apply concurs_look
            apply concurs_look
            apply concurs_bind
              (concurs_discard (concurs_notify calls fitted _ _))
            intro _ middle sofar
            exact concurs_pure sofar.fitted _
  | field field =>
      apply concurs_look
      cases (editor.field field).kind with
      | reference types =>
          apply concurs_bind
            (Concurs.of_ends (unspoiled_retypeVariable fitted field check))
          intro retyped middle sofar
          apply concurs_ite
          · intro _
            apply concurs_bind (concurs_notifyField calls sofar.fitted field)
            intro _ after later
            exact concurs_pure later.fitted _
          · intro _
            exact concurs_pure sofar.fitted _
      | text => exact concurs_pure fitted _
      | dropdown choices => exact concurs_pure fitted _

/-- Writing any check of a slot, in foreign hands or clean. -/
theorem concurs_setTypes (fitted : Fitted editor) (slot : Slot) (check : Check)
    (allowed : check.distinct.Clean ∨ foreign slot) :
    Concurs foreign (setTypes react slot check) (setTypes react' slot check)
      editor := by
  have writes := unspoiled_resetTypes fitted allowed
  have rest := concurs_announce calls writes.fitted slot
    (editor.slotCheck slot) check
  constructor
  · rw [setTypes_eq_announce, setTypes_eq_announce]
    exact rest.same
  · rw [ends_iff, setTypes_eq_announce]
    exact writes.trans ((ends_iff _ _ _).mp rest.unspoiled)

theorem concursWrites_plainWrite :
    ConcursWrites foreign (plainWrite react) (plainWrite react') :=
  fun recipe check _ fitted _ gives =>
    concurs_setTypes calls fitted recipe.slot check (Or.inl gives.1)

/-- The audit lets everything pass that a recipe gives. -/
theorem concursWrites_auditedWrite (alarm : EditM σ Unit) :
    ConcursWrites foreign (auditedWrite alarm react) (plainWrite react') := by
  intro recipe check editor fitted hasCheck gives
  have concurs := concursWrites_plainWrite calls recipe check editor fitted
    hasCheck gives
  refine ⟨?_, concurs.unspoiled⟩
  rw [auditedWrite_of_gives alarm react hasCheck gives, ← setTypes_eq_announce]
  exact concurs.same

end Calls

section Engine

variable {write write' : Writer σ} (writes : ConcursWrites foreign write write')

include writes

theorem concurs_recomputeBindingBy (fitted : Fitted editor) (engine : EngineId)
    {binding : Binding} (hasCheck : editor.HasCheck binding.target) :
    Concurs foreign (recomputeBindingBy write engine binding)
      (recomputeBindingBy write' engine binding) editor := by
  apply concurs_lookup fitted
  intro key _
  apply concurs_guarded fitted
  intro depth current sofar
  refine concurs_modify (Unspoiled.aside sofar.fitted rfl rfl rfl) ?_
  intro counts
  apply concurs_lookup counts.fitted
  intro check computes
  apply concurs_bind (writes binding.recipe check _ counts.fitted
    (counts.hasCheck _ (sofar.hasCheck _ hasCheck))
    (gives_of_computed computes))
  intro changed middle later
  apply Concurs.of_ends
  cases changed with
  | true =>
      simp only [Ends, if_true, leads_bind, leads_modify, leads_pure]
      exact Unspoiled.aside later.fitted rfl rfl rfl
  | false => exact Unspoiled.refl later.fitted

theorem concurs_recomputeBy (fitted : Fitted editor) (wiring : WiringId)
    (target : SlotKey) :
    Concurs foreign (recomputeBy write wiring target)
      (recomputeBy write' wiring target) editor := by
  apply concurs_look
  cases found : (editor.wiring wiring).bindings.get? target with
  | none => exact concurs_pure fitted _
  | some binding =>
      exact concurs_recomputeBindingBy writes fitted
        _ (fitted.bound wiring target binding found)

theorem concurs_recomputeAllBy (fitted : Fitted editor) (wiring : WiringId) :
    Concurs foreign (recomputeAllBy write wiring) (recomputeAllBy write' wiring)
      editor := by
  apply concurs_look
  generalize (editor.wiring wiring).bindings.keys = targets
  induction targets generalizing editor with
  | nil => exact concurs_pure fitted _
  | cons target rest induction =>
      apply concurs_bind (concurs_recomputeBy writes fitted wiring target)
      intro changed middle sofar
      apply concurs_bind (induction sofar.fitted)
      intro others after later
      exact concurs_pure later.fitted _

end Engine

end Editor

end TypeFlow
