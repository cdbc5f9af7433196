import TypeFlow.Proofs.DeclaredSplit
import TypeFlow.Proofs.Host.Reached
import TypeFlow.Proofs.Host.Stepwise
import TypeFlow.Proofs.Upkeep

/-!
# Circular directives

Wiring a live block is refused exactly if the directives of its variable fields
lead from a field back to itself.  Nothing else that a directive may name and
no directive of a connection counts: an edge leads to a field, and only edges
that start from a field can follow.
-/

namespace TypeFlow

/-- The directives of a block refer to each other in a circle. -/
def Fault.IsCircular : Fault → Prop
  | .cyclicDirectives .. => True
  | _ => False

theorem Fault.IsOfCascade.not_isCircular {fault : Fault}
    (ofCascade : fault.IsOfCascade) :
    ¬ fault.IsCircular := by
  cases fault <;> first | exact id | exact ofCascade.elim

theorem Target.ofCheck?_eq_some_iff {lead label : String} {slot : Slot}
    {check : Check} {target : Target} :
    Target.ofCheck? lead slot label check = some target ↔
      (∃ directive, directive ∈
        (Declared.ofTypes lead check.types).directives) ∧
        ⟨slot, check.types, Declared.ofTypes lead check.types, label⟩ =
          target := by
  have listed : ∀ directives : List Directive,
      (!directives.isEmpty) = true ↔ ∃ directive, directive ∈ directives := by
    intro directives
    cases directives <;> simp
  unfold ofCheck? Declared.hasDirectives
  rw [← listed]
  simp only [Option.ite_none_right_eq_some, Option.some.injEq]

theorem Field.kind_of_check {field : Field} {types : TypeList}
    (hasCheck : field.check = some types) : field.kind = .reference
      (some types) := by
  unfold check at hasCheck
  split at hasCheck
  · rename_i isReference
    rw [isReference, hasCheck]
  · cases hasCheck

theorem Declared.mem_directives_iff {lead : String} {directive : Directive}
    {types : TypeList} :
    directive ∈ (Declared.ofTypes lead types).directives ↔
      ∃ body, lead ++ body ∈ types ∧
        Directive.parse? body = some directive := by
  have read : ∀ tag, Declared.directive? lead tag = some directive ↔
      ∃ body, tag = lead ++ body ∧ Directive.parse? body = some directive := by
    intro tag
    unfold directive?
    rw [Option.bind_eq_some_iff]
    simp only [Tag.after?_eq_some_iff]
  rw [directives_ofTypes, List.mem_filterMap]
  simp only [read]
  constructor
  · rintro ⟨_, listed, body, rfl, isRead⟩
    exact ⟨body, listed, isRead⟩
  · rintro ⟨body, listed, isRead⟩
    exact ⟨_, listed, body, rfl, isRead⟩

theorem mem_mapM_ok {α β ε : Type} {action : α → Except ε β} {items : List α}
    {results : List β} (run : items.mapM action = .ok results) :
    ∀ result ∈ results, ∃ item ∈ items, action item = .ok result :=
  exists_of_forall₂ (mapM_eq_ok_iff.mp run).flip

namespace Editor

variable {σ : Type} {field : FieldId} {edges : List (List (SlotKey × SlotKey))}

/-- A variable field of the block has a directive that names a field of the
block. -/
def RefersTo (editor : Editor σ) (lead : String) (block : BlockId)
    (field other : FieldId) :
    Prop :=
  field ∈ (editor.block block).fields ∧ other ∈ (editor.block block).fields ∧
    ∃ types body directive, (editor.field field).kind = .reference
      (some types) ∧
      lead ++ body ∈ types ∧ Directive.parse? body = some directive ∧
      directive.source = (editor.field other).name

section Edges

variable {editor : Editor σ} {lead : String} {block : BlockId}

/-- A field of a block has a key, which tells its name. -/
theorem Arranged.fieldKey_of_mem (arranged : Arranged editor)
    (member : field ∈ (editor.block block).fields) :
    ∃ key, editor.fieldKey field = .ok key := by
  have attached := (arranged.rowField block field member).2
  obtain ⟨home, isHome⟩ := Option.ne_none_iff_exists'.mp attached
  refine ⟨⟨(editor.block home).id, .field, (editor.field field).name⟩, ?_⟩
  simp only [fieldKey, isHome]

/-- The fields of a block are told apart by their keys. -/
theorem Naming.eq_of_fieldKey (naming : editor.Naming) {left right : FieldId}
    {key : SlotKey} (inLeft : left ∈ (editor.block block).fields)
    (inRight : right ∈ (editor.block block).fields)
    (leftKey : editor.fieldKey left = .ok key)
    (rightKey : editor.fieldKey right = .ok key) :
    left = right := by
  have leftName := (slotKey_field leftKey).2
  have rightName := (slotKey_field rightKey).2
  exact List.inj_on_of_nodup_map (naming block).fields inLeft inRight
    (leftName.symm.trans rightName)

/-- A name finds the field that has it. -/
theorem Naming.findField? (naming : editor.Naming)
    (member : field ∈ (editor.block block).fields) :
    editor.findField? block (editor.field field).name = some field := by
  cases found : editor.findField? block (editor.field field).name with
  | none =>
      unfold Editor.findField? at found
      exact absurd (decide_eq_true rfl)
        (List.find?_eq_none.mp found field member)
  | some other =>
      obtain ⟨inBlock, sameName⟩ := mem_fields_of_findField? found
      rw [List.inj_on_of_nodup_map (naming block).fields inBlock
        member sameName]

/-- The plans for a block. -/
def plansFor (editor : Editor σ) (lead : String) (block : BlockId) :
    List Plan :=
  (editor.targets lead block).map (editor.plan block)

theorem Arranged.slotKey_of_target (arranged : Arranged editor)
    {target : Target} (member : target ∈ editor.targets lead block) :
    ∃ key, editor.slotKey target.slot = .ok key := by
  obtain ⟨offered, _⟩ := targets_offered member
  cases isSlot : target.slot with
  | connection connection => exact ⟨_, rfl⟩
  | field field =>
      rw [isSlot] at offered
      exact arranged.fieldKey_of_mem offered.1

/-- The links of a plan that lead to fields. -/
theorem mem_plan_links_field_iff {target : Target} :
    (∃ link ∈ (editor.plan block target).links, link.source = .field field) ↔
      ∃ directive ∈ target.declared.directives,
        editor.findField? block directive.source = some field := by
  constructor
  · rintro ⟨link, inLinks, isField⟩
    obtain ⟨directive, declared, found⟩ := List.mem_filterMap.mp inLinks
    obtain ⟨source, hasSource, rfl⟩ := Option.map_eq_some_iff.mp found
    rcases findSource?_cases hasSource with ⟨other, isOther, hasField⟩
      | ⟨_, _, _, _, _, isOther⟩
    · cases isField.symm.trans isOther
      exact ⟨directive, declared, hasField⟩
    · cases isField.symm.trans isOther
  · rintro ⟨directive, declared, hasField⟩
    have hasSource : editor.findSource? block directive.source =
        some (.field field) := by
      simp only [findSource?, hasField]
    refine ⟨⟨directive, .field field⟩, ?_, rfl⟩
    refine List.mem_filterMap.mpr ⟨directive, declared, ?_⟩
    rw [hasSource]
    rfl

/-- An edge is made of the keys of its two slots. -/
theorem edge_eq_ok_iff {slot : Slot} {key source : SlotKey} :
    (do return (← editor.slotKey slot, ← editor.fieldKey field) :
      Except Fault _) =
        .ok (key, source) ↔
      editor.slotKey slot = .ok key ∧ editor.fieldKey field = .ok source := by
  cases editor.slotKey slot with
  | error _ => exact ⟨nofun, fun both => nomatch both.1⟩
  | ok first =>
      cases editor.fieldKey field with
      | error _ => exact ⟨nofun, fun both => nomatch both.2⟩
      | ok second =>
          change Except.ok (first, second) = Except.ok (key, source) ↔ _
          simp

theorem mem_planEdges_iff {plan : Plan} {edges : List (SlotKey × SlotKey)}
    (found : editor.planEdges plan = .ok edges) (key source : SlotKey) :
    (key, source) ∈ edges ↔ editor.slotKey plan.target.slot = .ok key ∧
      ∃ field, (∃ link ∈ plan.links, link.source = .field field) ∧
        editor.fieldKey field = .ok source := by
  constructor
  · intro member
    unfold planEdges at found
    obtain ⟨field, inFields, makes⟩ := mem_mapM_ok found (key, source) member
    obtain ⟨link, inLinks, isField⟩ := List.mem_filterMap.mp inFields
    obtain ⟨hasKey, hasSource⟩ := edge_eq_ok_iff.mp makes
    refine ⟨hasKey, field, ⟨link, inLinks, ?_⟩, hasSource⟩
    split at isField
    · cases isField
      assumption
    · cases isField
  · rintro ⟨hasKey, field, ⟨link, inLinks, isField⟩, hasSource⟩
    exact mem_planEdges found hasKey inLinks isField hasSource

/-- The keys of all dependencies on fields can be told. -/
theorem Arranged.exists_edges (arranged : Arranged editor) (lead : String)
    (block : BlockId) :
    ∃ edges, (editor.plansFor lead block).mapM editor.planEdges =
      .ok edges := by
  cases found : (editor.plansFor lead block).mapM editor.planEdges with
  | ok edges => exact ⟨edges, rfl⟩
  | error fault =>
      obtain ⟨plan, inPlans, fails⟩ := mapM_error_mem found
      obtain ⟨target, isTarget, rfl⟩ := List.mem_map.mp inPlans
      unfold planEdges at fails
      obtain ⟨field, inFields, failsHere⟩ := mapM_error_mem fails
      obtain ⟨link, inLinks, isField⟩ := List.mem_filterMap.mp inFields
      have links : ∃ link ∈ (editor.plan block target).links,
          link.source = .field field := by
        refine ⟨link, inLinks, ?_⟩
        split at isField
        · cases isField
          assumption
        · cases isField
      obtain ⟨directive, _, hasField⟩ := mem_plan_links_field_iff.mp links
      obtain ⟨key, hasKey⟩ := arranged.slotKey_of_target isTarget
      obtain ⟨source, hasSource⟩ :=
        arranged.fieldKey_of_mem (mem_fields_of_findField? hasField).1
      have makes := edge_eq_ok_iff.mpr ⟨hasKey, hasSource⟩
      cases makes.symm.trans failsHere

theorem mem_edges_iff
    (found : (editor.plansFor lead block).mapM editor.planEdges = .ok edges)
    (key source : SlotKey) :
    (key, source) ∈ edges.flatten ↔ ∃ target ∈ editor.targets lead block,
      editor.slotKey target.slot = .ok key ∧
        ∃ directive ∈ target.declared.directives, ∃ field,
          editor.findField? block directive.source = some field ∧
            editor.fieldKey field = .ok source := by
  rw [List.mem_flatten]
  constructor
  · rintro ⟨ofPlan, inEdges, member⟩
    obtain ⟨plan, inPlans, planned⟩ := mem_mapM_ok found ofPlan inEdges
    obtain ⟨target, isTarget, rfl⟩ := List.mem_map.mp inPlans
    obtain ⟨hasKey, field, links, hasSource⟩ :=
      (mem_planEdges_iff planned key source).mp member
    obtain ⟨directive, declared, hasField⟩ := mem_plan_links_field_iff.mp links
    exact ⟨target, isTarget, hasKey, directive, declared, field,
      hasField, hasSource⟩
  · rintro ⟨target, isTarget, hasKey, directive, declared, field,
      hasField, hasSource⟩
    obtain ⟨ofPlan, inEdges, planned⟩ :=
      mapM_ok_mem found (editor.plan block target)
        (List.mem_map_of_mem isTarget)
    have links := mem_plan_links_field_iff.mpr ⟨directive, declared, hasField⟩
    exact ⟨ofPlan, inEdges, (mem_planEdges_iff planned key source).mpr
      ⟨hasKey, field, links, hasSource⟩⟩

/-- The target that a variable field is. -/
theorem mem_targets_field_iff {target : Target} :
    (target ∈ editor.targets lead block ∧ target.slot = .field field) ↔
      field ∈ (editor.block block).fields ∧
        Target.ofCheck? lead (.field field)
          ("variable '" ++ (editor.field field).name ++ "'")
          (editor.field field).check = some target := by
  constructor
  · rintro ⟨member, isField⟩
    unfold targets at member
    dsimp only at member
    rcases List.mem_append.mp member with inConnections | inFields
    · rcases List.mem_append.mp inConnections with isOutput | inRows
      · obtain ⟨_, _, found⟩ :=
          Option.bind_eq_some_iff.mp (Option.mem_toList.mp isOutput)
        cases (Target.ofCheck?_eq_some found).1.symm.trans isField
      · obtain ⟨_, _, fromRow⟩ := List.mem_filterMap.mp inRows
        obtain ⟨_, _, found⟩ := Option.bind_eq_some_iff.mp fromRow
        cases (Target.ofCheck?_eq_some found).1.symm.trans isField
    · obtain ⟨other, inBlock, found⟩ := List.mem_filterMap.mp inFields
      cases (Target.ofCheck?_eq_some found).1.symm.trans isField
      exact ⟨inBlock, found⟩
  · rintro ⟨inBlock, found⟩
    refine ⟨?_, (Target.ofCheck?_eq_some found).1⟩
    exact List.mem_append_right
      _ (List.mem_filterMap.mpr ⟨field, inBlock, found⟩)

/-- The directives of a variable field that name a field. -/
theorem refersTo_iff (naming : editor.Naming) {other : FieldId} :
    editor.RefersTo lead block field other ↔
      ∃ target ∈ editor.targets lead block, target.slot = .field field ∧
        ∃ directive ∈ target.declared.directives,
          editor.findField? block directive.source = some other := by
  constructor
  · rintro ⟨inBlock, otherInBlock, types, body, directive, isReference, listed,
      parsed, isName⟩
    have hasCheck : (editor.field field).check = some types := by
      simp only [Field.check, isReference]
    have declared : directive ∈ (Declared.ofTypes lead types).directives :=
      Declared.mem_directives_iff.mpr ⟨body, listed, parsed⟩
    have isTarget := mem_targets_field_iff.mpr
      ⟨inBlock, Target.ofCheck?_eq_some_iff.mpr
      ⟨⟨directive, by rwa [hasCheck]⟩, rfl⟩⟩
    refine ⟨_, isTarget.1, rfl, directive, by rwa [hasCheck], ?_⟩
    rw [isName]
    exact naming.findField? otherInBlock
  · rintro ⟨target, isTarget, isField, directive, declared, hasField⟩
    obtain ⟨inBlock, found⟩ := mem_targets_field_iff.mp ⟨isTarget, isField⟩
    obtain ⟨otherInBlock, isName⟩ := mem_fields_of_findField? hasField
    have hasCheck := (Target.ofCheck?_eq_some found).2
    obtain ⟨_, rfl⟩ := Target.ofCheck?_eq_some_iff.mp found
    obtain ⟨body, listed, parsed⟩ := Declared.mem_directives_iff.mp declared
    exact ⟨inBlock, otherInBlock, _, body, directive,
      Field.kind_of_check hasCheck, listed, parsed, isName.symm⟩

/-- Two keys of fields of the block of which one refers to the other. -/
def KeyRefersTo (editor : Editor σ) (lead : String) (block : BlockId)
    (key next : SlotKey) :
    Prop :=
  ∃ field other, editor.RefersTo lead block field other ∧
    editor.fieldKey field = .ok key ∧ editor.fieldKey other = .ok next

/-- Edges that start from a field are references. -/
theorem Shaped.edge_iff (shaped : Shaped editor)
    (found : (editor.plansFor lead block).mapM editor.planEdges = .ok edges)
    (key source : SlotKey) :
    (key, source) ∈ edges.flatten ∧ key.kind = .field ↔
      editor.KeyRefersTo lead block key source := by
  rw [mem_edges_iff found]
  constructor
  · rintro ⟨⟨target, isTarget, hasKey, directive, declared, other, hasField,
      hasSource⟩, isField⟩
    cases isSlot : target.slot with
    | field field =>
        rw [isSlot] at hasKey
        exact ⟨field, other, (refersTo_iff shaped.naming).mpr
          ⟨target, isTarget, isSlot, directive, declared, hasField⟩,
          hasKey, hasSource⟩
    | connection connection =>
        obtain ⟨offered, _⟩ := targets_offered isTarget
        rw [isSlot] at hasKey offered
        cases hasKey
        rcases offered with isOutput | ⟨row, inRows, isInput⟩
        · cases isField.symm.trans
            (shaped.arranged.output block connection isOutput).2.2
        · cases isField.symm.trans (shaped.arranged.row block row connection
            inRows isInput).2.2
  · rintro ⟨field, other, refers, hasKey, hasSource⟩
    obtain ⟨target, isTarget, isField, directive, declared, hasField⟩ :=
      (refersTo_iff shaped.naming).mp refers
    refine ⟨⟨target, isTarget, ?_, directive, declared, other,
      hasField, hasSource⟩, (slotKey_field hasKey).1⟩
    rw [isField]
    exact hasKey

/-- A circle of keys goes through fields of the block. -/
theorem Naming.circle (naming : editor.Naming) {key next : SlotKey}
    (leads : Relation.TransGen (editor.KeyRefersTo lead block) key next) :
    ∃ field ∈ (editor.block block).fields,
      ∃ other ∈ (editor.block block).fields, editor.fieldKey field = .ok key ∧
        editor.fieldKey other = .ok next ∧
        Relation.TransGen (editor.RefersTo lead block) field other := by
  induction leads with
  | single step =>
      obtain ⟨field, other, refers, hasKey, hasNext⟩ := step
      exact ⟨field, refers.1, other, refers.2.1, hasKey, hasNext,
        .single refers⟩
  | tail _ step induction =>
      obtain ⟨field, inBlock, middle, middleInBlock, hasKey, hasMiddle,
          sofar⟩ := induction
      obtain ⟨same, other, refers, alsoMiddle, hasNext⟩ := step
      cases naming.eq_of_fieldKey middleInBlock refers.1 hasMiddle alsoMiddle
      exact ⟨field, inBlock, other, refers.2.1, hasKey, hasNext,
        sofar.tail refers⟩

/-- What is found among the edges is a circle of references. -/
theorem Shaped.isCycle_references (shaped : Shaped editor)
    (found : (editor.plansFor lead block).mapM editor.planEdges = .ok edges)
    {cycle : List SlotKey}
    (isFound : (DirectiveGraph.ofEdges edges.flatten).findCycle = some cycle) :
    IsCycle (editor.KeyRefersTo lead block) cycle := by
  have isCycle := DirectiveGraph.isCycle_edges isFound
  have fields : ∀ key ∈ cycle, key.kind = .field := by
    refine isCycle.forall_mem ?_
    intro key source member
    obtain ⟨_, _, _, _, _, field, _, hasSource⟩ :=
      (mem_edges_iff found key source).mp member
    exact (slotKey_field hasSource).1
  refine ⟨isCycle.length, isCycle.closed, isCycle.distinct, ?_⟩
  apply isCycle.chain.imp_of_mem_imp
  intro key source inCycle _ member
  exact (shaped.edge_iff found key source).mp ⟨member, fields key inCycle⟩

/-- A circle is found among the edges if and only if the references of the
block have one. -/
theorem Shaped.findCycle_isSome_iff (shaped : Shaped editor)
    (found : (editor.plansFor lead block).mapM editor.planEdges = .ok edges) :
    (∃ cycle, (DirectiveGraph.ofEdges edges.flatten).findCycle = some cycle) ↔
      ∃ field, Relation.TransGen (editor.RefersTo lead block) field field := by
  constructor
  · rintro ⟨cycle, isFound⟩
    obtain ⟨key, circle⟩ := (shaped.isCycle_references found isFound).transGen
    obtain ⟨field, inBlock, other, otherInBlock, hasKey, alsoKey, references⟩ :=
      shaped.naming.circle circle
    cases shaped.naming.eq_of_fieldKey inBlock otherInBlock hasKey alsoKey
    exact ⟨field, references⟩
  · rintro ⟨field, references⟩
    have edgesLead : ∀ other,
        Relation.TransGen (editor.RefersTo lead block) field other →
        ∀ key next, editor.fieldKey field = .ok key →
          editor.fieldKey other = .ok next →
          Relation.TransGen (fun target source =>
            (target, source) ∈ edges.flatten) key next := by
      intro other leads
      induction leads with
      | single refers =>
          intro key next hasKey hasNext
          exact .single ((shaped.edge_iff found key next).mpr
            ⟨field, _, refers, hasKey, hasNext⟩).1
      | tail _ refers induction =>
          intro key next hasKey hasNext
          obtain ⟨middle, hasMiddle⟩ := shaped.arranged.fieldKey_of_mem refers.1
          exact (induction key middle hasKey hasMiddle).tail
            ((shaped.edge_iff found middle
            next).mpr ⟨_, _, refers, hasMiddle, hasNext⟩).1
    have inBlock : field ∈ (editor.block block).fields := by
      cases references with
      | single refers => exact refers.1
      | tail _ refers => exact refers.2.1
    obtain ⟨key, hasKey⟩ := shaped.arranged.fieldKey_of_mem inBlock
    apply Option.ne_none_iff_exists'.mp
    intro isFree
    exact DirectiveGraph.acyclic_edges isFree key
      (edgesLead field references key key hasKey hasKey)

end Edges

section Wiring

variable {react : Reaction σ} {editor : Editor σ} {engine : EngineId}
  {block : BlockId}

/-- A fault reports the circle that was found, or something else if none was. -/
def Judges (found : Option (List SlotKey)) (id : String) (fault : Fault) :
    Prop :=
  match found with
  | none => ¬ fault.IsCircular
  | some cycle => fault = .cyclicDirectives id cycle

/-- The action returns only if the edges have no circle, and otherwise reports
the one that is found. -/
abbrev Judged {α : Type} (edges : List (List (SlotKey × SlotKey)))
    (id : String) (action : EditM σ α) (editor : Editor σ) : Prop :=
  Leads action editor
    (fun _ _ => (DirectiveGraph.ofEdges edges.flatten).findCycle = none)
    fun fault _ => Judges (DirectiveGraph.ofEdges edges.flatten).findCycle
      id fault

theorem rejectCycle_judges {plans : List Plan}
    (rejects : (editor.engine engine).config.rejectCycles = true)
    (found : plans.mapM editor.planEdges = .ok edges) :
    Judged edges (editor.block block).id (rejectCycle engine block plans)
      editor := by
  simp only [rejectCycle, leads_bind, leads_lookup]
  constructor
  · intro others alsoFound
    cases found.symm.trans alsoFound
    split
    · rename_i isFree
      exact isFree
    · rename_i cycle isFound
      simp only [leads_bind, leads_look, rejects, if_true, leads_modify,
        leads_throw, isFound]
      rfl
  · intro fault fails
    cases found.symm.trans fails

section Reacting

variable (reacts : ∀ listener, Raises (fun fault => ¬ fault.IsCircular)
  (react listener))
  (rejects : (editor.engine engine).config.rejectCycles = true)

include reacts rejects

/-- Listeners are called only once the search for circles has found none. -/
theorem wireLive_judges {lead : String} (wiring : WiringId)
    (found : (editor.plansFor lead block).mapM editor.planEdges = .ok edges) :
    Judged edges (editor.block block).id
      (wireLive react engine block wiring (editor.targets lead block))
        editor := by
  have ofCascade : ∀ fault : Fault, fault.IsOfCascade → ¬ fault.IsCircular :=
    fun _ => Fault.IsOfCascade.not_isCircular
  have judged : ∀ change, Judged edges (editor.block block).id
      (rejectCycle engine block (editor.plansFor lead block))
      (editor.updateStats engine change) := by
    intro change
    apply rejectCycle_judges
    · rw [updateStats, engine_updateEngine, if_pos rfl]
      exact rejects
    · exact found
  simp only [wireLive, leads_bind, leads_look, leads_modify]
  apply Leads.imp (judged _)
  intro _ current isFree
  simp only [Judges, isFree]
  apply Leads.imp (Raises.leads (maintains_forM _ fun plan _ =>
    maintains_install upholds_true
    (fun _ => ofCascade) (fun _ => reacts) engine block wiring plan) current)
  intro _ installed _
  split
  · rw [leads_discard]
    apply Leads.imp (Raises.leads (maintains_recomputeAll upholds_true
      (fun _ => ofCascade) (fun _ _ => id) (fun _ => reacts) wiring) installed)
    exact fun _ _ _ => True.intro
  · exact True.intro

theorem wireLiveOrUndo_judges {lead : String} (wiring : WiringId)
    (found : (editor.plansFor lead block).mapM editor.planEdges = .ok edges) :
    Judged edges (editor.block block).id
      (wireLiveOrUndo react engine block wiring (editor.targets lead block))
        editor := by
  simp only [wireLiveOrUndo, leads_tryCatch]
  apply Leads.mono (wireLive_judges reacts rejects wiring found)
  · exact fun _ _ => id
  · intro fault broken reports
    simp only [leads_bind, leads_discard]
    apply leads_disposeWiring
    · intro _
      exact reports
    · intro _ _
      exact reports

theorem wire_judges (unwired : editor.liveWiringFor? engine block = none)
    (found : (editor.plansFor (editor.engine engine).config.lead block).mapM
      editor.planEdges =
      .ok edges) :
    Judged edges (editor.block block).id (wire react engine block .live)
      editor := by
  have judged : ∀ wirings wiring, Judged edges (editor.block block).id
      (wireLiveOrUndo react engine block wiring
        (editor.targets (editor.engine engine).config.lead block))
      { editor with wirings } :=
    fun wirings wiring => wireLiveOrUndo_judges reacts
      (by exact rejects) wiring found
  simp only [wire, leads_bind, leads_look, unwired, newWiring, leads_modify,
    leads_pure]
  split
  · rename_i isEmpty
    rw [plansFor, List.isEmpty_iff.mp isEmpty] at found
    cases found
    rfl
  · simp only [leads_bind, leads_modify]
    apply Leads.imp (judged _ _)
    exact fun _ _ => id

end Reacting

end Wiring

/-- Whether a block may be wired is decided by the references among its
variable fields alone, and the circle that is reported is one of them.
Callbacks may do what they like, except to report a circle themselves. -/
theorem circular_directives_refused {outside : Callbacks σ}
    (proceeds : ∀ callback editor, Shaped editor →
      Proceeds True (outside callback) editor)
    (raises : ∀ callback, Raises (fun fault => ¬ fault.IsCircular)
      (outside callback))
    {editor : Editor σ} (built : Built outside editor) {engine : EngineId}
    {block : BlockId} (unwired : editor.liveWiringFor? engine block = none)
    (rejects : (editor.engine engine).config.rejectCycles = true)
    (limit : Nat) :
    ((∃ id cycle after,
        wire (reaction outside limit) engine block .live editor =
          (.error (.cyclicDirectives id cycle), after)) ↔
      ∃ field, Relation.TransGen
        (editor.RefersTo (editor.engine engine).config.lead block)
        field field) ∧
    ∀ id cycle after, wire (reaction outside limit) engine block .live editor =
        (.error (.cyclicDirectives id cycle), after) →
      id = (editor.block block).id ∧
        IsCycle (editor.KeyRefersTo (editor.engine engine).config.lead block)
          cycle ∧
        ∀ key ∈ cycle, ∃ field ∈ (editor.block block).fields,
          editor.fieldKey field = .ok key := by
  have shaped := built.shaped proceeds
  obtain ⟨edges, found⟩ :=
    shaped.arranged.exists_edges (editor.engine engine).config.lead block
  have reacts := raises_reaction (fun _ => Fault.IsOfCascade.not_isCircular)
    id raises limit
  have reports := wire_judges reacts rejects unwired found
  rw [← shaped.findCycle_isSome_iff found]
  refine ⟨⟨?_, ?_⟩, ?_⟩
  · rintro ⟨id, cycle, after, run⟩
    have report := reports.raises run
    apply Option.ne_none_iff_exists'.mp
    intro isFree
    rw [isFree] at report
    exact report True.intro
  · rintro ⟨cycle, isFound⟩
    rw [Judged, isFound] at reports
    rcases run : wire (reaction outside limit) engine block .live editor with
      ⟨fault | _, after⟩
    · cases reports.raises run
      exact ⟨_, cycle, after, rfl⟩
    · cases reports.returns run
  · intro id cycle after run
    have report := reports.raises run
    cases isFound : (DirectiveGraph.ofEdges edges.flatten).findCycle with
    | none =>
        rw [isFound] at report
        exact absurd True.intro report
    | some circle =>
        rw [isFound] at report
        cases report
        have isCycle := shaped.isCycle_references found isFound
        refine ⟨rfl, isCycle, isCycle.forall_mem ?_⟩
        rintro key next ⟨field, other, refers, _, hasNext⟩
        exact ⟨other, refers.2.1, hasNext⟩

theorem proceeds_idle {links : Prop} (callback : CallbackId) (editor : Editor σ)
    (_ : Shaped editor) : Proceeds links (idle callback) editor :=
  Steps.refl editor

/-- A block with a field that leads into a circle of two others, and with an
input that names itself. -/
def tangledBlock : List HostOperation :=
  [.newBlock "tangled" (some "A") [], .setOutput ⟨0⟩ (some ["From:F"]),
    .appendInput ⟨0⟩ "IN" (some ["From:IN"]),
    .newField "F" (.reference (some ["From:G"])) .nothing,
    .appendField ⟨0⟩ 0 ⟨0⟩,
    .newField "G" (.reference (some ["From:IN", "From:NONE", "From:H"]))
      .nothing, .appendField ⟨0⟩ 0 ⟨1⟩,
    .newField "H" (.reference (some ["From:G"])) .nothing,
    .appendField ⟨0⟩ 0 ⟨2⟩]

/-- The circle is reported from where it closes. -/
theorem circular_directives_refused_tangledBlock :
    ∃ editor : Editor Unit, ∃ after,
      Built idle editor ∧ editor.liveWiringFor? ⟨0⟩ ⟨0⟩ = none ∧
      (editor.engine ⟨0⟩).config.rejectCycles = true ∧
      wire (reaction idle 20) ⟨0⟩ ⟨0⟩ .live editor =
        (.error (.cyclicDirectives "A"
          [⟨"A", .field, "G"⟩, ⟨"A", .field, "H"⟩, ⟨"A", .field, "G"⟩]),
          after) ∧
      (∃ field, Relation.TransGen
        (editor.RefersTo (editor.engine ⟨0⟩).config.lead ⟨0⟩) field field) ∧
      IsCycle (editor.KeyRefersTo (editor.engine ⟨0⟩).config.lead ⟨0⟩)
        [⟨"A", .field, "G"⟩, ⟨"A", .field, "H"⟩, ⟨"A", .field, "G"⟩] := by
  have reached : Reached idle (fun _ _ _ _ => True) {} ⟨0⟩
      (HostOperation.performAll idle 20 ⟨0⟩ tangledBlock freshWorkspace) :=
    reached_freshWorkspace.performAll 20 tangledBlock (by decide +kernel)
  generalize isEditor : HostOperation.performAll idle 20 ⟨0⟩ tangledBlock
    freshWorkspace = editor at reached
  have unwired : editor.liveWiringFor? ⟨0⟩ ⟨0⟩ = none := by
    rw [← isEditor]
    decide +kernel
  have rejects : (editor.engine ⟨0⟩).config.rejectCycles = true := by
    rw [← isEditor]
    decide +kernel
  have fails : (wire (reaction idle 20) ⟨0⟩ ⟨0⟩ .live editor).1 =
      .error (.cyclicDirectives "A"
      [⟨"A", .field, "G"⟩, ⟨"A", .field, "H"⟩, ⟨"A", .field, "G"⟩]) := by
    rw [← isEditor]
    decide +kernel
  have run := eq_of_outcome fails
  obtain ⟨exact, reported⟩ :=
    circular_directives_refused proceeds_idle raises_idle reached.built
      unwired rejects 20
  exact ⟨editor, _, reached.built, unwired, rejects, run,
    exact.mp ⟨_, _, _, run⟩, (reported _ _ _ run).2.1⟩

/-- A wired block left the workspace and its id went to a block with a field
that names itself. -/
def inheritedId : List HostOperation :=
  [.newBlock "first" (some "A") [], .wire ⟨0⟩ .live, .removeBlock ⟨0⟩,
    .newBlock "second" (some "A") [], .appendDummyInput ⟨1⟩ "",
    .newField "F" (.reference (some ["From:F"])) .nothing,
    .appendField ⟨1⟩ 0 ⟨0⟩]

/-- A block that was never wired is taken for the wired block that had its id.
-/
theorem circle_overlooked_for_inherited_id :
    ∃ editor : Editor Unit,
      Reached idle (fun _ _ outcome _ => outcome = .ok ()) {} ⟨0⟩ editor ∧
      (∀ wiring ∈ editor.wirings.keys, (editor.wiring wiring).block ≠ ⟨1⟩) ∧
      (editor.engine ⟨0⟩).config.rejectCycles = true ∧
      (∃ field, Relation.TransGen
        (editor.RefersTo (editor.engine ⟨0⟩).config.lead ⟨1⟩) field field) ∧
      (wire (reaction idle 20) ⟨0⟩ ⟨1⟩ .live editor).1 = .ok ⟨0⟩ ∧
      (editor.wiring ⟨0⟩).block = ⟨0⟩ := by
  refine ⟨HostOperation.performAll idle 20 ⟨0⟩ inheritedId freshWorkspace,
    ?_, ?_, ?_,
    ⟨⟨0⟩, .single ⟨?_, ?_, ["From:F"], "F", ⟨"F", none, none⟩, ?_, ?_, ?_, ?_⟩⟩,
    ?_, ?_⟩
  · exact reached_freshWorkspace.performAll 20 inheritedId (by decide +kernel)
  all_goals decide +kernel

end Editor

end TypeFlow
