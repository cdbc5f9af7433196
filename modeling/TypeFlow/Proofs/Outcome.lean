import TypeFlow.Editor.Recompute

/-!
# Outcomes of editing actions

An action on an editor either returns a value or raises a fault, and leaves a
state behind in both cases.  `Leads` states what holds of the two outcomes.
It is computed along the structure of an action, so that a statement about a
long action turns into statements about its parts.
-/

namespace TypeFlow.Editor

variable {σ α β : Type} {action : EditM σ α} {after : Editor σ} {value : α}

/-- Run from `editor`, the action returns with `returned` or raises with
`raised`. -/
def Leads (action : EditM σ α) (editor : Editor σ)
    (returned : α → Editor σ → Prop) (raised : Fault → Editor σ → Prop) :
    Prop :=
  match action editor with
  | (.ok value, after) => returned value after
  | (.error fault, after) => raised fault after

/-- Run from `editor`, the action leaves behind a state with `property`,
whether it returns or raises. -/
def Ends (action : EditM σ α) (editor : Editor σ) (property : Editor σ → Prop) :
    Prop :=
  Leads action editor (fun _ after => property after)
    (fun _ after => property after)

section Rules

variable {editor : Editor σ} {returned : α → Editor σ → Prop}
  {finished : β → Editor σ → Prop} {raised : Fault → Editor σ → Prop}

theorem ends_iff (action : EditM σ α) (editor : Editor σ)
    (property : Editor σ → Prop) :
    Ends action editor property ↔ property (action editor).2 := by
  unfold Ends Leads
  rcases action editor with ⟨outcome | outcome, after⟩ <;> rfl

theorem Ends.holds {property : Editor σ → Prop}
    (ends : Ends action editor property) {outcome : Except Fault α}
    (run : action editor = (outcome, after)) : property after := by
  rw [ends_iff, run] at ends
  exact ends

/-- An outcome together with the state left behind. -/
theorem eq_of_outcome {outcome : Except Fault α}
    (ends : (action editor).1 = outcome) :
    action editor = (outcome, (action editor).2) :=
  Prod.ext ends rfl

theorem Leads.returns (leads : Leads action editor returned raised)
    (run : action editor = (.ok value, after)) : returned value after := by
  unfold Leads at leads
  rwa [run] at leads

theorem Leads.raises {fault : Fault}
    (leads : Leads action editor returned raised)
    (run : action editor = (.error fault, after)) : raised fault after := by
  unfold Leads at leads
  rwa [run] at leads

/-- An action that leads to one outcome alone. -/
theorem run_of_leads {result : Except Fault α × Editor σ}
    (leads : Leads action editor
      (fun value after => (.ok value, after) = result)
      (fun fault after => (.error fault, after) = result)) : action editor =
      result := by
  unfold Leads at leads
  rcases run : action editor with ⟨_ | _, _⟩ <;> rwa [run] at leads

/-- An action that leads to one fault alone. -/
theorem outcome_of_leads {fault : Fault}
    (leads : Leads action editor (fun _ _ => False)
      (fun other _ => other = fault)) :
    (action editor).1 = .error fault := by
  unfold Leads at leads
  rcases run : action editor with ⟨other | _, _⟩
  · rw [run] at leads
    exact congrArg Except.error leads
  · rw [run] at leads
    exact leads.elim

/-- What an action leads to where its run is known. -/
theorem leads_of_run (run : action editor = (.ok value, after)) :
    Leads action editor returned raised ↔ returned value after := by
  unfold Leads
  rw [run]

theorem Leads.mono {returned' : α → Editor σ → Prop}
    {raised' : Fault → Editor σ → Prop}
    (leads : Leads action editor returned raised)
    (onReturn : ∀ value after, returned value after → returned' value after)
    (onRaise : ∀ fault after, raised fault after → raised' fault after) :
    Leads action editor returned' raised' := by
  unfold Leads at leads ⊢
  rcases outcome : action editor with ⟨fault | value, after⟩
  · rw [outcome] at leads
    exact onRaise fault after leads
  · rw [outcome] at leads
    exact onReturn value after leads

theorem Leads.imp {returned' : α → Editor σ → Prop}
    (leads : Leads action editor returned raised)
    (onReturn : ∀ value after, returned value after → returned' value after) :
    Leads action editor returned' raised :=
  Leads.mono leads onReturn fun _ _ => id

theorem Ends.mono {property property' : Editor σ → Prop}
    (ends : Ends action editor property)
    (weaken : ∀ after, property after → property' after) :
    Ends action editor property' :=
  Leads.mono ends (fun _ => weaken) (fun _ => weaken)

theorem Leads.and {returned' : α → Editor σ → Prop}
    {raised' : Fault → Editor σ → Prop}
    (left : Leads action editor returned raised)
    (right : Leads action editor returned' raised') :
    Leads action editor
      (fun value after => returned value after ∧ returned' value after)
      (fun fault after => raised fault after ∧ raised' fault after) := by
  unfold Leads at left right ⊢
  rcases outcome : action editor with ⟨fault | value, after⟩
  · rw [outcome] at left right
    exact ⟨left, right⟩
  · rw [outcome] at left right
    exact ⟨left, right⟩

theorem leads_trivial (action : EditM σ α) (editor : Editor σ) :
    Leads action editor (fun _ _ => True) (fun _ _ => True) := by
  unfold Leads
  rcases action editor with ⟨outcome | outcome, after⟩ <;> trivial

@[simp] theorem leads_pure (value : α) :
    Leads (pure value) editor returned raised ↔ returned value editor := Iff.rfl

@[simp] theorem leads_throw (fault : Fault) :
    Leads (throw fault : EditM σ α) editor returned raised ↔
      raised fault editor := Iff.rfl

@[simp] theorem leads_bind (first : EditM σ α) (next : α → EditM σ β) :
    Leads (first >>= next) editor finished raised ↔
      Leads first editor
        (fun value after => Leads (next value) after finished raised)
        raised := by
  unfold Leads
  change (match (ExceptT.bindCont next (first editor).1) (first editor).2 with
    | (.ok value, after) => finished value after
    | (.error fault, after) => raised fault after) ↔ _
  rcases first editor with ⟨outcome | outcome, after⟩ <;> rfl

@[simp] theorem leads_map (first : EditM σ α) (change : α → β) :
    Leads (change <$> first) editor finished raised ↔
      Leads first editor (fun value after => finished (change value) after)
        raised := by
  rw [map_eq_pure_bind, leads_bind]
  rfl

@[simp] theorem leads_discard (first : EditM σ α)
    {done : Unit → Editor σ → Prop} :
    Leads (discard first) editor done raised ↔
      Leads first editor (fun _ after => done () after) raised :=
  leads_map first fun _ => ()

@[simp] theorem leads_get {seen : Editor σ → Editor σ → Prop} :
    Leads (get : EditM σ (Editor σ)) editor seen raised ↔ seen editor editor :=
  Iff.rfl

@[simp] theorem leads_set (next : Editor σ) {done : PUnit → Editor σ → Prop} :
    Leads (set next : EditM σ PUnit) editor done raised ↔ done ⟨⟩ next :=
  Iff.rfl

@[simp] theorem leads_modify (change : Editor σ → Editor σ)
    {done : PUnit → Editor σ → Prop} :
    Leads (modify change : EditM σ PUnit) editor done raised ↔
      done ⟨⟩ (change editor) := Iff.rfl

@[simp] theorem leads_look (view : Editor σ → α) :
    Leads (look view) editor returned raised ↔ returned (view editor) editor :=
  Iff.rfl

/-- A reading that may fail leads on with its value or raises its fault; the
state stays as it is. -/
theorem leads_lookup (view : Editor σ → Except Fault α) :
    Leads (lookup view) editor returned raised ↔
      (∀ value, view editor = .ok value → returned value editor) ∧
        ∀ fault, view editor = .error fault → raised fault editor := by
  simp only [lookup, leads_bind, leads_get]
  cases view editor with
  | ok value => simp
  | error fault => simp

@[simp] theorem leads_attempt (action : EditM σ α)
    {seen : Except Fault α → Editor σ → Prop} :
    Leads (attempt action) editor seen raised ↔
      Leads action editor (fun value after => seen (.ok value) after)
        (fun fault after => seen (.error fault) after) := by
  unfold Leads attempt
  change seen (action editor).1 (action editor).2 ↔ _
  rcases action editor with ⟨outcome | outcome, after⟩ <;> rfl

theorem run_look (view : Editor σ → α) (next : α → EditM σ β)
    (editor : Editor σ) :
    (look view >>= next) editor = next (view editor) editor := rfl

theorem run_tryCatch (action : EditM σ α) (handle : Fault → EditM σ α)
    (editor : Editor σ) :
    (tryCatch action handle : EditM σ α) editor =
      match action editor with
      | (.ok value, after) => (.ok value, after)
      | (.error fault, after) => handle fault after := by
  simp only [tryCatch, tryCatchThe, MonadExceptOf.tryCatch, ExceptT.tryCatch,
    ExceptT.mk, bind, StateT.bind]
  rcases action editor with ⟨outcome | outcome, after⟩ <;> rfl

@[simp] theorem leads_tryCatch (action : EditM σ α)
    (handle : Fault → EditM σ α) :
    Leads (tryCatch action handle) editor returned raised ↔
      Leads action editor returned
        (fun fault after => Leads (handle fault) after returned raised) := by
  unfold Leads
  rw [run_tryCatch]
  rcases action editor with ⟨outcome | outcome, after⟩ <;> rfl

/-- What each call keeps, a walk over a list keeps.  The invariant may speak of
the elements that are still to be visited. -/
theorem leads_forM {visit : α → EditM σ PUnit}
    {raised : Fault → Editor σ → Prop} (invariant : List α → Editor σ → Prop)
    (items : List α) (step : ∀ item rest before, item ∈ items →
      invariant (item :: rest) before →
      Leads (visit item) before (fun _ after => invariant rest after) raised)
    (start : invariant items editor) :
    Leads (items.forM visit) editor (fun _ after => invariant [] after)
      raised := by
  induction items generalizing editor with
  | nil => exact start
  | cons item rest induction =>
      change Leads (visit item >>= fun _ => rest.forM visit) editor _ _
      rw [leads_bind]
      refine Leads.mono (step item rest editor (by simp) start) ?_
        (fun _ _ => id)
      intro _ after holds
      exact induction
        (fun other others before member => step other others before
          (by simp [member])) holds

end Rules

end TypeFlow.Editor
