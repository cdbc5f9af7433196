import TypeFlow.Proofs.Stale

/-!
# Writing the check of a slot

Writing a check changes that check and nothing else that bindings write.  What
other slots provide stays the same as a set, unless the listeners of exactly
those slots are called.  For variable fields this takes that no two of them
refer to the same variable.
-/

namespace TypeFlow.Editor

variable {σ : Type} {editor : Editor σ} {workspace : WorkspaceId}
  {field : FieldId} {slot : Slot}

/-- Each variable is referred to by one variable field at most. -/
def SoleReferences (editor : Editor σ) : Prop :=
  ∀ left right place, (editor.field left).kind.bare = .reference none →
    (editor.field right).kind.bare = .reference none →
      editor.variableOf left = some place →
    editor.variableOf right = some place → left = right

/-- No other variable field refers to the variable of this one.  Connections
and other fields provide no types of variables. -/
def Unshared (editor : Editor σ) : Slot → Prop
  | .connection _ => True
  | .field field => (editor.field field).kind.bare = .reference none →
      ∀ other place, (editor.field other).kind.bare = .reference none →
        editor.variableOf field = some place →
          editor.variableOf other = some place →
          other = field

theorem soleReferences_iff_unshared : editor.SoleReferences ↔
    ∀ slot, editor.Unshared slot := by
  constructor
  · intro sole slot
    cases slot with
    | connection connection => trivial
    | field field =>
        intro isField other place isOther refers otherRefers
        exact sole other field place isOther isField otherRefers refers
  · intro unshared left right place isLeft isRight leftRefers rightRefers
    exact unshared (.field right) isRight left place isLeft
      rightRefers leftRefers

/-- What the writing of checks relies on. -/
structure Grounded (workspace : WorkspaceId) (editor : Editor σ) : Prop where
  layout : Layout workspace editor
  linking : Linking editor
  filing : Filing editor
  responsive : editor.Responsive

section Grounded

variable {before after : Editor σ}

theorem Sound.grounded {settings : Settings} {engine : EngineId}
    {pending : Option WiringId}
    (sound : Sound settings workspace engine pending editor) :
    Grounded workspace editor :=
  ⟨sound.layout, sound.linking, sound.filing, sound.responsive⟩

theorem Grounded.steady (grounded : Grounded workspace before)
    (steady : Steady before after) :
    Grounded workspace after where
  layout := grounded.layout.same steady.sameLayout
  linking := grounded.linking.same steady.connection
  filing := grounded.filing.steady steady
  responsive := steady.responsive grounded.responsive

/-- Nothing here depends on engines. -/
theorem Grounded.engines (grounded : Grounded workspace editor)
    (engines : OrderedMap EngineId Engine) : Grounded workspace { editor with
      engines } where
  layout := { grounded.layout with }
  linking := { grounded.linking with }
  filing := { grounded.filing with }
  responsive := { grounded.responsive with }

end Grounded

/-- The key whose listeners are called when the slot accepts other types: that
of the far end of a connection, and that of a field itself. -/
def echoKey? (editor : Editor σ) : Slot → Option SlotKey
  | .connection connection =>
      (editor.connection connection).target.map fun far =>
        (editor.connection far).key
  | .field field => (editor.fieldKey field).toOption

/-- The slot is a field whose value is the id of the variable. -/
def Names (editor : Editor σ) (slot : Slot) (place : VariableId) : Prop :=
  ∃ field, slot = .field field ∧
    (editor.field field).value = .text (editor.pool.getD place default).id

/-- The state after the check of a slot was written, before listeners are
called.  They are to be called at `told`, if at all. -/
structure Written (editor : Editor σ) (slot : Slot) (check : Check)
    (told : Option SlotKey) (after : Editor σ) :
    Prop extends Steady editor after where
  here : editor.HasCheck slot → after.slotCheck slot = check.distinct
  elsewhere : ∀ other, other ≠ slot →
    after.slotCheck other = editor.slotCheck other
  heard : ∀ key, told = some key → editor.echoKey? slot = some key
  unnamed : ∀ place, ¬ editor.Names slot place →
    after.pool.getD place default = editor.pool.getD place default
  sources : ∀ source, editor.Unshared source →
    ProvidesAlike editor after source ∨
    ∃ key, told = some key ∧ editor.slotKey source = .ok key
  outer : after.outer = editor.outer

section Variables

variable {before after : Editor σ}

/-- The variable that an attached field refers to is found by its id. -/
theorem Layout.variableOf_eq_some (layout : Layout workspace editor)
    {place : VariableId} :
    editor.variableOf field = some place ↔
      (editor.field field).block ≠ none ∧
        ∃ text, (editor.field field).value = .text text ∧
        (editor.variablesOf workspace).findById? text = some place := by
  unfold variableOf
  dsimp only
  cases attached : (editor.field field).block with
  | none => simp
  | some block =>
      have inWorkspace :=
        layout.workspaceOf block (layout.fieldHome field block attached)
      cases (editor.field field).value <;> simp [inWorkspace]

/-- Which fields share a variable depends on which ids are in use. -/
theorem Unshared.of_named (unshared : before.Unshared slot)
    (layoutBefore : Layout workspace before)
    (layoutAfter : Layout workspace after)
    (blocks : ∀ field, (after.field field).block = (before.field field).block)
    (values : ∀ field, (after.field field).value = (before.field field).value)
    (kinds : ∀ field, (after.field field).kind.bare =
      (before.field field).kind.bare)
      (named : ∀ text, (before.variablesOf workspace).findById? text = none →
      (after.variablesOf workspace).findById? text = none) :
      after.Unshared slot := by
  cases slot with
  | connection connection => trivial
  | field field =>
      intro isField other place isOther refers otherRefers
      obtain ⟨attached, text, hasValue, found⟩ :=
        layoutAfter.variableOf_eq_some.mp refers
      obtain ⟨otherAttached, otherText, otherValue, otherFound⟩ :=
        layoutAfter.variableOf_eq_some.mp otherRefers
      have sameText : text = otherText :=
        (Variables.mem_filed_of_findById? found).2.symm.trans
          (Variables.mem_filed_of_findById? otherFound).2
      subst sameText
      cases earlier : (before.variablesOf workspace).findById? text with
      | none =>
          rw [named text earlier] at found
          cases found
      | some earlierPlace =>
          rw [kinds] at isField isOther
          rw [blocks] at attached otherAttached
          rw [values] at hasValue otherValue
          exact unshared isField other earlierPlace isOther
            (layoutBefore.variableOf_eq_some.mpr ⟨attached, text,
              hasValue, earlier⟩)
            (layoutBefore.variableOf_eq_some.mpr ⟨otherAttached, text,
              otherValue, earlier⟩)

theorem Steady.unshared_iff (steady : Steady before after)
    (layout : Layout workspace before) (filing : before.Filing) (slot : Slot) :
    after.Unshared slot ↔ before.Unshared slot := by
  have layoutAfter : Layout workspace after := layout.same steady.sameLayout
  have named := fun text => steady.named workspace text
    (filing.distinct workspace)
  constructor
  · intro unshared
    exact unshared.of_named layoutAfter layout
      (fun field => (steady.fieldBlock field).symm)
      (fun field => (steady.fieldValue field).symm)
      (fun field => (steady.fieldKind field).symm) fun text => (named text).mp
  · intro unshared
    exact unshared.of_named layout layoutAfter steady.fieldBlock
      steady.fieldValue steady.fieldKind fun text => (named text).mpr

theorem Steady.soleReferences_iff (steady : Steady before after)
    (layout : Layout workspace before) (filing : before.Filing) :
    after.SoleReferences ↔ before.SoleReferences := by
  rw [soleReferences_iff_unshared, soleReferences_iff_unshared]
  exact forall_congr' (steady.unshared_iff layout filing)

theorem SameReadings.soleReferences (same : SameReadings before after)
    (sole : before.SoleReferences) : after.SoleReferences := by
  intro left right place isLeft isRight leftRefers rightRefers
  rw [same.field] at isLeft isRight
  rw [same.variableOf] at leftRefers rightRefers
  exact sole left right place isLeft isRight leftRefers rightRefers

/-- Putting the variables back as they are changes no reading. -/
theorem sameReadings_setVariables (editor : Editor σ)
    (workspace : WorkspaceId) :
    SameReadings editor
      (editor.setVariables workspace (editor.variablesOf workspace)) where
  blocks := rfl
  connections := rfl
  fields := rfl
  pool := rfl
  index := fun _ => OrderedMap.read_getD_insert Workspace.variableIndex rfl

/-- Retyping the variable of one field leaves the types of all others. -/
theorem provides_retype (layout : Layout workspace editor)
    (filing : editor.Filing) {other : FieldId} {place : VariableId}
    (unshared : editor.Unshared (.field other))
    (isReference : (editor.field field).kind.bare = .reference none)
    (refers : editor.variableOf field = some place) (differs : other ≠ field)
    (request : TypeRequest) :
    (editor.setVariables workspace
      ((editor.variablesOf workspace).retype place request).2).provides
      (.field other) =
        editor.provides (.field other) := by
  obtain ⟨_, text, _, found⟩ := layout.variableOf_eq_some.mp refers
  have hasId := (Variables.mem_filed_of_findById? found).2
  generalize retyped : editor.setVariables workspace
    ((editor.variablesOf workspace).retype place request).2 = after
  have sameField : ∀ id, after.field id = editor.field id :=
    fun id => by rw [← retyped]; rfl
  have sameLayout : SameLayout editor after := by
    rw [← retyped]
    exact SameLayout.of_tables rfl rfl rfl
  have layoutAfter := layout.same sameLayout
  have store : after.variablesOf workspace =
      ((editor.variablesOf workspace).retype place request).2 := by
    rw [← retyped, variablesOf_setVariables]
  simp only [provides, fieldProvides, sameField]
  split
  · rfl
  · rfl
  · rename_i types isOther
    have otherKind : (editor.field other).kind.bare = .reference none := by
      rw [isOther]
      rfl
    -- The other field uses another id, and lookups by other ids find the same.
    have lookups : ∀ id, (editor.field other).block ≠ none →
        (editor.field other).value = .text id →
        (after.variablesOf workspace).findById? id =
          (editor.variablesOf workspace).findById? id := by
      intro id attached hasText
      rw [store]
      refine Variables.findById?_retype_of_ne _ place request
        (filing.distinct workspace) ?_
      intro sameId
      have sameText : text = id := hasId.symm.trans sameId
      subst sameText
      exact differs (unshared otherKind field place isReference
        (layout.variableOf_eq_some.mpr ⟨attached, text, hasText, found⟩)
          refers).symm
    have sameVariable : after.variableOf other = editor.variableOf other := by
      refine Option.ext fun candidate => ?_
      rw [layoutAfter.variableOf_eq_some, layout.variableOf_eq_some, sameField]
      constructor
      · rintro ⟨attached, id, hasText, isFound⟩
        exact ⟨attached, id, hasText,
          (lookups id attached hasText).symm.trans isFound⟩
      · rintro ⟨attached, id, hasText, isFound⟩
        exact ⟨attached, id, hasText,
          (lookups id attached hasText).trans isFound⟩
    rw [sameVariable]
    cases variableOf : editor.variableOf other with
    | none => rfl
    | some candidate =>
        have differentPlace : place ≠ candidate := by
          rintro rfl
          exact differs (unshared otherKind field place isReference
            variableOf refers).symm
        have sameVariable :=
          Variables.get_retype_of_ne (editor.variablesOf workspace) request
          differentPlace
        rw [← store] at sameVariable
        simp only [variableTypes]
        exact congrArg (fun entry =>
          Except.ok (entry.types.filter fun type => type ≠ "")) sameVariable

end Variables

section Write

variable {react : Reaction σ} {check : Check}
  {returned : Bool → Editor σ → Prop} {raised : Fault → Editor σ → Prop}

/-- A connection provides what it did before, unless it is linked to the one
whose check is written. -/
theorem provides_setCheck (editor : Editor σ) (connection : ConnectionId)
    (check : Check) (source : Slot) :
    (editor.setCheck connection check).provides source =
      editor.provides source ∨
      ∃ near, source = .connection near ∧
        (editor.connection near).target = some connection ∧
        editor.provides source = .ok
          (editor.connection connection).check.types ∧
        (editor.setCheck connection check).provides source =
          .ok check.types := by
  cases source with
  | field field => exact Or.inl rfl
  | connection near =>
      have sameTarget :
          ((editor.setCheck connection check).connection near).target =
          (editor.connection near).target :=
        OrderedMap.read_getD_insert Connection.target rfl
      cases linked : (editor.connection near).target with
      | none =>
          left
          simp only [provides, sameTarget, linked]
      | some far =>
          by_cases here : connection = far
          · subst here
            right
            refine ⟨near, rfl, linked, ?_, ?_⟩
            · simp only [provides, linked]
            · simp only [provides, sameTarget, linked]
              rw [setCheck, connection_updateConnection, if_pos rfl]
          · left
            simp only [provides, sameTarget, linked]
            rw [setCheck, connection_updateConnection, if_neg here]

theorem leads_setConnectionTypes (layout : Layout workspace editor)
    (linking : editor.Linking) {connection : ConnectionId}
    (known : editor.connections.contains connection)
    (unheard : ∀ after, Written editor (.connection connection)
      check none after →
      ∀ changed, returned changed after)
    (heard : ∀ key after, Written editor (.connection connection) check
      (some key) after →
      Leads (notify react workspace key) after
        (fun _ final => ∀ changed, returned changed final) raised) :
    Leads (setConnectionTypes react connection check) editor returned
      raised := by
  have steady := steady_setCheck editor check.distinct known
  have here : (editor.setCheck connection check.distinct).slotCheck
      (.connection connection) =
      check.distinct := by
    simp [slotCheck, setCheck]
  have elsewhere : ∀ other, other ≠ .connection connection →
      (editor.setCheck connection check.distinct).slotCheck other =
        editor.slotCheck other :=
    fun other differs => slotCheck_setCheck_of_ne editor _ differs
  simp only [setConnectionTypes, leads_bind, leads_look, leads_modify]
  split
  · rename_i same
    refine unheard _ ⟨steady, fun _ => here, elsewhere, by
      simp, fun _ _ => rfl, ?_, rfl⟩ false
    intro source _
    refine Or.inl ?_
    rcases provides_setCheck editor connection check.distinct source with
      unchanged | ⟨near, _, _, provided, provides⟩
    · exact ProvidesAs.of_eq unchanged
    · intro types isProvided
      rw [provided] at isProvided
      cases isProvided
      exact ⟨_, provides, Check.types_agree_of_same same⟩
  · split
    · rename_i free
      refine unheard _ ⟨steady, fun _ => here, elsewhere, by
        simp, fun _ _ => rfl, ?_, rfl⟩ true
      intro source _
      rcases provides_setCheck editor connection check.distinct source with
        unchanged | ⟨near, _, linked, _, _⟩
      · exact Or.inl (ProvidesAs.of_eq unchanged)
      · rw [linking.back near connection linked] at free
        cases free
    · rename_i far linked
      have inWorkspace : editor.connectionWorkspace connection = workspace :=
        layout.workspaceOf _ (layout.home connection known)
      simp only [leads_bind, leads_look, leads_discard, leads_pure,
        steady.connectionWorkspace, steady.connectionKey, inWorkspace]
      refine Leads.imp (heard (editor.connection far).key _
        ⟨steady, fun _ => here, elsewhere, ?_, fun _ _ => rfl, ?_, rfl⟩) ?_
      · intro key isKey
        cases isKey
        simp [echoKey?, linked]
      · intro source _
        rcases provides_setCheck editor connection check.distinct source with
          unchanged | ⟨near, isNear, nearLinked, _, _⟩
        · exact Or.inl (ProvidesAs.of_eq unchanged)
        · have back := linking.back near connection nearLinked
          rw [linked] at back
          cases back
          exact Or.inr ⟨_, rfl, by rw [isNear]; rfl⟩
      · intro _ final holds
        exact holds true

/-- The state with the check of a variable field replaced. -/
def setKind (editor : Editor σ) (field : FieldId) (check : Check) : Editor σ :=
  editor.updateField field fun entry => { entry with kind := .reference check }

theorem variableOf_setKind (editor : Editor σ) (field other : FieldId)
    (check : Check) :
    (editor.setKind field check).variableOf other = editor.variableOf
      other := by
  unfold variableOf setKind
  rw [field_updateField]
  split
  · rename_i same
    rw [same]
    rfl
  · rfl

/-- The types of a variable are not those that its field allows. -/
theorem provides_setKind {previous : Check}
    (isReference : (editor.field field).kind = .reference previous)
    (check : Check) (source : Slot) : (editor.setKind field check).provides
      source = editor.provides source := by
  cases source with
  | connection connection => rfl
  | field other =>
      simp only [provides, fieldProvides, variableOf_setKind]
      by_cases here : field = other
      · subst here
        simp only [setKind, field_updateField, if_pos, isReference]
        rfl
      · simp only [setKind, field_updateField, if_neg here]
        rfl

/-- Retyping reports whether the variable changed, and changes no variable but
that of the field and nothing that another field provides. -/
theorem leads_retypeVariable (layout : Layout workspace editor)
    (filing : editor.Filing)
    (isReference : (editor.field field).kind.bare = .reference none)
    (check : Check) :
    Leads (retypeVariable field check) editor
      (fun retyped after =>
        (∀ slot, after.slotCheck slot = editor.slotCheck slot) ∧
        (retyped = true → (editor.field field).block ≠ none) ∧
        (∀ place, ¬ editor.Names (.field field) place →
          after.pool.getD place default = editor.pool.getD place default) ∧
        after.outer = editor.outer ∧
        (∀ source, editor.Unshared source →
          (retyped = true → source ≠ .field field) →
          after.provides source = editor.provides source))
      (fun _ _ => False) := by
  simp only [retypeVariable, leads_bind, leads_get]
  split
  · rename_i type types place block _ refers attached
    simp only [leads_bind, leads_set, leads_pure,
      layout.workspaceOf block (layout.fieldHome field block attached)]
    refine ⟨?_, ?_, ?_, rfl, ?_⟩
    · intro slot
      cases slot <;> rfl
    · rw [attached]
      simp
    · intro other unnamed
      obtain ⟨_, text, hasText, found⟩ := layout.variableOf_eq_some.mp refers
      have hasId := (Variables.mem_filed_of_findById? found).2
      refine Variables.get_retype_of_ne (editor.variablesOf workspace) _ ?_
      rintro rfl
      exact unnamed ⟨field, rfl,
        hasText.trans (congrArg FieldValue.text hasId.symm)⟩
    · intro source unshared other
      cases source with
      | connection connection => rfl
      | field source =>
          cases retyped : ((editor.variablesOf workspace).retype place
              (.many (type :: types))).1 with
          | true =>
              exact provides_retype layout filing unshared isReference refers
                (by simpa using other retyped) _
          | false =>
              rw [Variables.retype_eq_self retyped]
              exact (sameReadings_setVariables editor workspace).provides
                (.field source)
  · simp

/-- The listeners of a field are called if it is attached to a block. -/
theorem leads_notifyField {returned : Unit → Editor σ → Prop}
    (layout : Layout workspace editor)
    (detached : (editor.field field).block = none → returned () editor)
    (attached : ∀ key, editor.fieldKey field = .ok key →
      Leads (notify react workspace key) editor
        (fun _ after => returned () after) raised) :
    Leads (notifyField react field) editor returned raised := by
  simp only [notifyField, leads_bind, leads_look]
  split
  · rename_i isDetached
    exact detached isDetached
  · rename_i block isAttached
    have hasKey := fieldKey_of_attached isAttached
    simp only [leads_bind, leads_look, leads_lookup, leads_discard,
      layout.workspaceOf block (layout.fieldHome field block isAttached)]
    refine ⟨attached, ?_⟩
    intro fault fails
    rw [hasKey] at fails
    cases fails

theorem leads_setFieldTypes (layout : Layout workspace editor)
    (filing : editor.Filing) (responsive : editor.Responsive)
    (known : editor.fields.contains field)
    (unheard : ∀ after, Written editor (.field field) check none after →
      ∀ changed, returned changed after)
    (heard : ∀ key after, Written editor (.field field) check (some key) after →
      Leads (notify react workspace key) after
        (fun _ final => ∀ changed, returned changed final) raised) :
        Leads (setFieldTypes react field check) editor returned raised := by
  simp only [setFieldTypes, leads_bind, leads_look]
  split
  · rename_i previous isReference
    have sets : Steady editor (editor.setKind field check.distinct) :=
      steady_setKind editor check.distinct known isReference
    have layoutSet : Layout workspace (editor.setKind field check.distinct) :=
      layout.same sets.sameLayout
    have isStillReference :
        ((editor.setKind field check.distinct).field field).kind.bare =
          .reference none := by
      rw [sets.fieldKind, isReference]
      rfl
    simp only [leads_bind, leads_modify]
    change Leads _ (editor.setKind field check.distinct) _ _
    refine Leads.mono ((leads_retypeVariable layoutSet (filing.steady sets)
      isStillReference
      check).and (retypeVariable_echoed (sets.responsive responsive)
        field check)) ?_ (fun _ _ both => both.1.elim)
    rintro retyped after
      ⟨⟨checks, attached, others, sameOuter, provided⟩, echoed⟩
    have steady := sets.trans echoed.toSteady
    -- Unless the variable was retyped, nothing is provided that was not before.
    have written : ∀ told,
        (∀ key, told = some key → editor.echoKey? (.field field) = some key) →
        (retyped = true → ∃ key, told = some key ∧
          editor.fieldKey field = .ok key) →
        Written editor (.field field) check told after := by
      intro told heard tells
      refine ⟨steady, ?_, ?_, heard, ?_, ?_, sameOuter⟩
      · intro _
        rw [checks]
        simp [slotCheck, setKind, Field.check]
      · intro other differs
        rw [checks]
        exact slotCheck_setKind_of_ne editor _ differs
      · intro place unnamed
        refine others place ?_
        rintro ⟨named, isNamed, hasValue⟩
        rw [sets.fieldValue] at hasValue
        exact unnamed ⟨named, isNamed, hasValue⟩
      · intro source unshared
        have unsharedSet :=
          (sets.unshared_iff layout filing source).mpr unshared
        by_cases here : retyped = true ∧ source = .field field
        · obtain ⟨isRetyped, isField⟩ := here
          subst isField
          exact Or.inr (tells isRetyped)
        · refine Or.inl (ProvidesAs.of_eq ?_)
          rw [provided source unsharedSet fun isRetyped isField =>
            here ⟨isRetyped, isField⟩]
          exact provides_setKind isReference _ source
    split
    · simp only [leads_bind, leads_pure]
      refine leads_notifyField (layout.same steady.sameLayout) ?_ ?_
      · intro detached
        refine unheard after (written none (by simp) ?_) _
        intro isRetyped
        refine absurd ?_ (attached isRetyped)
        rw [sets.fieldBlock, ← steady.fieldBlock]
        exact detached
      · intro key isKey
        rw [steady.fieldKey] at isKey
        refine Leads.imp (heard key after (written (some key) ?_ ?_)) ?_
        · intro other isOther
          cases isOther
          simp [echoKey?, isKey, Except.toOption]
        · intro _
          exact ⟨key, rfl, isKey⟩
        · intro _ final holds
          exact holds _
    · rename_i quiet
      refine unheard after (written none (by simp) ?_) _
      intro isRetyped
      exact absurd (by simp [isRetyped]) quiet
  · rename_i other
    refine unheard editor ⟨Steady.refl editor, ?_, fun _ _ =>
      rfl, by simp, fun _ _ => rfl,
      fun _ _ => Or.inl (ProvidesAs.of_eq rfl), rfl⟩ false
    intro isReference
    obtain ⟨types, hasTypes⟩ := FieldKind.bare_eq_reference.mp isReference
    exact absurd hasTypes (other types)

/-- Writing a check is the writing itself and then a notification, if any. -/
theorem leads_setTypes (grounded : Grounded workspace editor)
    (known : editor.Known slot)
    (unheard : ∀ after, Written editor slot check none after →
      ∀ changed, returned changed after)
      (heard : ∀ key after, Written editor slot check (some key) after →
      Leads (notify react workspace key) after
        (fun _ final => ∀ changed, returned changed final) raised) :
        Leads (setTypes react slot check) editor returned raised := by
  cases slot with
  | connection connection =>
      exact leads_setConnectionTypes grounded.layout grounded.linking
        known unheard heard
  | field field =>
      exact leads_setFieldTypes grounded.layout grounded.filing
        grounded.responsive known unheard heard

end Write

end TypeFlow.Editor
