import TypeFlow.Proofs.Host.Assemble

/-!
# What can go wrong in a cascade

A cascade stops at a slot that is being recomputed, at the depth limit, at a
field that is attached to no block and at a dropdown choice without a value.
-/

namespace TypeFlow

variable {fault : Fault}

/-- A cascade raises these faults of its own accord. -/
def Fault.IsOfCascade : Fault → Prop
  | .cyclicPropagation .. | .cascadeTooDeep .. | .fieldDetached ..
  | .choiceTooShort => True
  | _ => False

theorem Fault.IsOfCascade.of_detached
    (detached : ∃ name, fault = .fieldDetached name) :
    fault.IsOfCascade := by
  obtain ⟨name, rfl⟩ := detached
  exact True.intro

theorem Guard.enter_error {guard : Guard} {key : SlotKey}
    (fails : guard.enter key = .error fault) :
    fault.IsOfCascade := by
  unfold Guard.enter at fails
  split at fails
  · cases fails
    trivial
  · split at fails
    · cases fails
      trivial
    · cases fails

/-- Making a variable fails only where its name or its id is taken. -/
theorem VariableDesk.create_error {desk : VariableDesk} {name : String}
    {request : TypeRequest} {id handle : Option String}
    (fails : (desk.run (.create name request id handle)).1 = .error fault) :
    (∃ known requested, fault = .variableNameTaken name known requested) ∨
      ∃ requested, fault = .variableIdTaken requested := by
  simp only [VariableDesk.run] at fails
  split at fails
  · rename_i raised refuses
    cases fails
    simp only [Variables.create] at refuses
    split at refuses
    · split at refuses <;> cases refuses
      exact Or.inl ⟨_, _, rfl⟩
    · split at refuses <;> cases refuses
      exact Or.inr ⟨_, rfl⟩
  · cases fails
  · cases fails

theorem Choice.value_error {choice : Choice}
    (fails : choice.value = .error fault) :
    fault = .choiceTooShort := by
  unfold Choice.value at fails
  split at fails <;> cases fails
  rfl

theorem Choice.search_error {wanted : FieldValue} :
    ∀ {choices : List Choice}, Choice.search wanted choices = .error fault →
      fault = .choiceTooShort
  | [], fails => by cases fails
  | choice :: rest, fails => by
      rw [Choice.search] at fails
      cases hasValue : choice.value with
      | error _ =>
          rw [hasValue] at fails
          cases fails
          exact Choice.value_error hasValue
      | ok value =>
          rw [hasValue] at fails
          change (if value = wanted then _ else _) = _ at fails
          split at fails
          · cases fails
          · exact Choice.search_error fails

theorem Choice.find_error {choices : List Choice} {selector : FieldValue}
    (fails : Choice.find choices selector = .error fault) :
    fault = .choiceTooShort := by
  have searched : ∀ wanted : FieldValue,
      (if wanted.isBlank then pure none else Choice.search wanted choices :
        Except Fault _) =
        .error fault → fault = .choiceTooShort := by
    intro wanted stops
    split at stops
    · cases stops
    · exact Choice.search_error stops
  unfold Choice.find at fails
  cases selector with
  | nothing => exact searched .nothing fails
  | text content => exact searched (.text content) fails
  | list items =>
      cases hasValue : Choice.value items with
      | error _ =>
          simp only [hasValue] at fails
          cases fails
          exact Choice.value_error hasValue
      | ok value =>
          simp only [hasValue] at fails
          exact searched value fails

namespace Editor

variable {σ : Type}

theorem fieldProvides_error {editor : Editor σ} {field : FieldId}
    {fault : Fault} (fails : editor.fieldProvides field = .error fault) :
    fault = .choiceTooShort := by
  unfold fieldProvides at fails
  dsimp only at fails
  split at fails
  · cases fails
  · rename_i choices _
    cases found : Choice.find choices (editor.field field).value with
    | ok choice =>
        rw [found] at fails
        cases fails
    | error _ =>
        rw [found] at fails
        cases fails
        exact Choice.find_error found
  · split at fails <;> cases fails

/-- All that can go wrong with a computation is a dropdown choice. -/
theorem computed_error {editor : Editor σ} {binding : Binding} {fault : Fault}
    (fails : editor.computed binding = .error fault) :
    fault = .choiceTooShort := by
  unfold computed at fails
  cases derives : binding.links.mapM editor.linkTypes with
  | ok derived =>
      rw [derives] at fails
      cases fails
  | error _ =>
      rw [derives] at fails
      cases fails
      obtain ⟨link, _, linkFails⟩ := mapM_error_mem derives
      unfold linkTypes at linkFails
      cases provided : editor.provides link.source with
      | ok types =>
          rw [provided] at linkFails
          cases linkFails
      | error _ =>
          rw [provided] at linkFails
          cases linkFails
          unfold provides at provided
          split at provided
          · split at provided <;> cases provided
          · exact fieldProvides_error provided

end Editor

end TypeFlow
