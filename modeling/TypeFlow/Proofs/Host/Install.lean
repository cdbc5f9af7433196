import TypeFlow.Proofs.Host.Sound

/-!
# Installing bindings

A plan with sources is installed without calling any listener: the wiring gets
a binding, and the binding listens to each of its sources.
-/

namespace TypeFlow

section Walk

variable {α β ε : Type} {action : α → Except ε β} {items : List α}
  {results : List β}

/-- A walk that does not fail has one result for each item. -/
theorem mapM_eq_ok_iff :
    items.mapM action = .ok results ↔
      List.Forall₂ (fun item result => action item = .ok result) items
        results := by
  constructor
  · intro run
    induction items generalizing results with
    | nil =>
        cases run
        exact .nil
    | cons item rest induction =>
        rw [List.mapM_cons] at run
        cases first : action item with
        | error fault =>
            rw [first] at run
            cases run
        | ok result =>
            rw [first] at run
            cases later : rest.mapM action with
            | error fault =>
                rw [later] at run
                cases run
            | ok laterResults =>
                rw [later] at run
                cases run
                exact .cons first (induction later)
  · intro made
    induction made with
    | nil => rfl
    | cons first _ later =>
        rw [List.mapM_cons, first, later]
        rfl

theorem exists_of_forall₂ {related : α → β → Prop}
    (all : List.Forall₂ related items results) :
    ∀ item ∈ items, ∃ result ∈ results, related item result := by
  intro item member
  induction all with
  | nil => cases member
  | cons first _ later =>
      rcases List.mem_cons.mp member with rfl | inRest
      · exact ⟨_, List.mem_cons_self, first⟩
      · obtain ⟨found, inResults, isRelated⟩ := later inRest
        exact ⟨found, List.mem_cons_of_mem _ inResults, isRelated⟩

theorem mapM_ok_mem (run : items.mapM action = .ok results) :
    ∀ item ∈ items, ∃ result ∈ results, action item = .ok result :=
  exists_of_forall₂ (mapM_eq_ok_iff.mp run)

end Walk

namespace Editor

variable {σ : Type} {editor before after : Editor σ} {slot : Slot}
  {links : List Link} {sources : OrderedMap SlotKey Slot} {engine : EngineId}
  {wiring : WiringId} {slots : Slot → Prop} {key : SlotKey} {plan : Plan}
  {binding : Binding}

/-- Nothing that a binding reads or writes has changed, no other wiring has,
and all listeners are still there. -/
structure Quiet (wiring : WiringId) (before after : Editor σ) : Prop where
  blocks : after.blocks = before.blocks
  connections : after.connections = before.connections
  fields : after.fields = before.fields
  pool : after.pool = before.pool
  index : ∀ id, (after.workspace id).variableIndex =
    (before.workspace id).variableIndex
  others : ∀ other, other ≠ wiring → after.wiring other = before.wiring other
  heard : ∀ id key listener,
    listener ∈ (before.workspace id).registry.listenersAt key →
    listener ∈ (after.workspace id).registry.listenersAt key

namespace Quiet

variable {wiring : WiringId} {before middle after : Editor σ}

theorem refl (wiring : WiringId) (editor : Editor σ) :
    Quiet wiring editor editor :=
  ⟨rfl, rfl, rfl, rfl, fun _ => rfl, fun _ _ => rfl, fun _ _ _ => id⟩

theorem trans (first : Quiet wiring before middle)
    (second : Quiet wiring middle after) :
    Quiet wiring before after where
  blocks := second.blocks.trans first.blocks
  connections := second.connections.trans first.connections
  fields := second.fields.trans first.fields
  pool := second.pool.trans first.pool
  index := fun id => (second.index id).trans (first.index id)
  others := fun other differs => (second.others other differs).trans
    (first.others other differs)
  heard := fun id key listener listed =>
    second.heard id key listener (first.heard id key listener listed)

variable (quiet : Quiet wiring before after)

include quiet

theorem block (id : BlockId) :
    after.block id = before.block id := by
  unfold Editor.block
  rw [quiet.blocks]

theorem connection (id : ConnectionId) :
    after.connection id = before.connection id := by
  unfold Editor.connection
  rw [quiet.connections]

theorem field (id : FieldId) :
    after.field id = before.field id := by
  unfold Editor.field
  rw [quiet.fields]

theorem fieldKey (id : FieldId) :
    after.fieldKey id = before.fieldKey id := by
  unfold Editor.fieldKey
  simp only [quiet.field, quiet.block]

theorem slotKey (slot : Slot) :
    after.slotKey slot = before.slotKey slot := by
  cases slot with
  | connection connection => simp only [Editor.slotKey, quiet.connection]
  | field field => exact quiet.fieldKey field

end Quiet

theorem quiet_updateStats (wiring : WiringId) (editor : Editor σ)
    (engine : EngineId) (change : Stats → Stats) : Quiet wiring editor
      (editor.updateStats engine change) :=
  { Quiet.refl wiring editor with }

theorem quiet_addBinding (editor : Editor σ) (wiring : WiringId) (key : SlotKey)
    (binding : Binding) : Quiet wiring editor
      (editor.addBinding wiring key binding) :=
  { Quiet.refl wiring editor with
    others := by
      intro other differs
      rw [addBinding, wiring_updateWiring, if_neg (Ne.symm differs)] }

theorem listenersAt_addListener (editor : Editor σ)
    (workspace other : WorkspaceId) (engine : EngineId) (wiring : WiringId)
    (key source otherKey : SlotKey) :
    ((editor.addListener workspace engine wiring key source).workspace
        other).registry.listenersAt otherKey =
      (editor.workspace other).registry.listenersAt otherKey ++
        if workspace = other ∧
          source = otherKey then [.recompute wiring key] else [] := by
  rw [workspace_addListener]
  by_cases here : workspace = other
  · subst here
    rw [if_pos rfl]
    dsimp only
    rw [Registry.listenersAt_subscribe]
    by_cases sameKey : source = otherKey
    · subst sameKey
      simp
    · simp [sameKey]
  · simp [here]

theorem quiet_addListener (editor : Editor σ) (workspace : WorkspaceId)
    (engine : EngineId) (wiring : WiringId) (key source : SlotKey) :
    Quiet wiring editor
      (editor.addListener workspace engine wiring key source) :=
  { Quiet.refl wiring editor with
    index := fun _ => OrderedMap.read_getD_insert Workspace.variableIndex rfl
    others := by
      intro other differs
      rw [wiring_addListener, if_neg (Ne.symm differs)]
    heard := by
      intro id otherKey listener listed
      rw [listenersAt_addListener]
      exact List.mem_append_left _ listed }

theorem slotKey_error {fault : Fault}
    (fails : editor.slotKey slot = .error fault) :
    ∃ name, fault = .fieldDetached name := by
  cases slot with
  | connection connection => cases fails
  | field field =>
      unfold slotKey fieldKey at fails
      dsimp only at fails
      split at fails
      · cases fails
      · cases fails
        exact ⟨_, rfl⟩

theorem slotBlock_error {fault : Fault}
    (fails : editor.slotBlock slot = .error fault) :
    ∃ name, fault = .fieldDetached name := by
  cases slot with
  | connection connection => cases fails
  | field field =>
      simp only [slotBlock] at fails
      split at fails
      · cases fails
      · cases fails
        exact ⟨_, rfl⟩

theorem mem_entries_insert {κ α : Type} [DecidableEq κ]
    {map : OrderedMap κ α} {key : κ} {value : α} {entry : κ × α}
    (member : entry ∈ (map.insert key value).entries) :
    entry = (key, value) ∨ entry ∈ map.entries := by
  obtain ⟨entries⟩ := map
  unfold OrderedMap.insert at member
  dsimp only at member ⊢
  induction entries with
  | nil => simpa [OrderedMap.write] using member
  | cons head rest induction =>
      unfold OrderedMap.write at member
      split at member
      · rcases List.mem_cons.mp member with here | later
        · exact Or.inl here
        · exact Or.inr (List.mem_cons_of_mem _ later)
      · rcases List.mem_cons.mp member with here | later
        · exact Or.inr (by simp [here])
        · rcases induction later with new | old
          · exact Or.inl new
          · exact Or.inr (List.mem_cons_of_mem _ old)

/-- The sources by key are those of the links, each under its own key. -/
theorem sourcesByKey_ok (found : editor.sourcesByKey links = .ok sources) :
    (∀ entry ∈ sources.entries,
      editor.slotKey entry.2 = .ok entry.1 ∧ ∃ link ∈ links,
      link.source = entry.2) ∧
      ∀ link ∈ links, ∃ key, editor.slotKey link.source = .ok key ∧
        key ∈ sources.keys := by
  unfold sourcesByKey at found
  suffices general : ∀ start : OrderedMap SlotKey Slot,
      links.foldlM (fun sources link => do
        return sources.insert (← editor.slotKey link.source) link.source)
          start =
          (.ok sources : Except Fault (OrderedMap SlotKey Slot)) →
      (∀ entry ∈ sources.entries, entry ∈ start.entries ∨
        (editor.slotKey entry.2 = .ok entry.1 ∧ ∃ link ∈ links,
          link.source = entry.2)) ∧
      (∀ key ∈ start.keys, key ∈ sources.keys) ∧
      ∀ link ∈ links, ∃ key, editor.slotKey link.source = .ok key ∧
        key ∈ sources.keys by
    obtain ⟨entries, _, all⟩ := general {} found
    refine ⟨?_, all⟩
    intro entry member
    rcases entries entry member with impossible | origin
    · cases impossible
    · exact origin
  clear found
  induction links with
  | nil =>
      intro start run
      cases run
      exact ⟨fun _ => Or.inl, fun _ => id, by simp⟩
  | cons link rest induction =>
      intro start run
      rw [List.foldlM_cons] at run
      cases hasKey : editor.slotKey link.source with
      | error fault =>
          rw [hasKey] at run
          cases run
      | ok key =>
          rw [hasKey] at run
          change List.foldlM _ (start.insert key link.source) rest =
            Except.ok sources at run
          obtain ⟨entries, grown, all⟩ :=
            induction (start.insert key link.source) run
          refine ⟨?_, ?_, ?_⟩
          · intro entry member
            rcases entries entry member with earlier
              | ⟨keyed, later, inRest, isSource⟩
            · rcases mem_entries_insert earlier with rfl | before
              · exact Or.inr ⟨hasKey, link, by simp, rfl⟩
              · exact Or.inl before
            · exact Or.inr ⟨keyed, later, by simp [inRest], isSource⟩
          · intro other member
            refine grown other ?_
            rw [OrderedMap.mem_keys_iff] at member ⊢
            exact (OrderedMap.contains_insert _ _ _ _).mpr (Or.inr member)
          · intro other member
            rcases List.mem_cons.mp member with rfl | inRest
            · refine ⟨key, hasKey, grown key ?_⟩
              rw [OrderedMap.mem_keys_iff]
              exact (OrderedMap.contains_insert _ _ _ _).mpr (Or.inl rfl)
            · exact all other inRest

theorem nodup_sourcesByKey (found : editor.sourcesByKey links = .ok sources) :
    sources.keys.Nodup := by
  unfold sourcesByKey at found
  suffices general : ∀ start : OrderedMap SlotKey Slot, start.keys.Nodup →
      links.foldlM (fun sources link => do
        return sources.insert (← editor.slotKey link.source) link.source)
          start =
          (.ok sources : Except Fault (OrderedMap SlotKey Slot)) →
            sources.keys.Nodup from
    general {} List.nodup_nil found
  clear found
  induction links with
  | nil =>
      intro start distinct run
      cases run
      exact distinct
  | cons link rest induction =>
      intro start distinct run
      rw [List.foldlM_cons] at run
      cases hasKey : editor.slotKey link.source with
      | error fault =>
          rw [hasKey] at run
          cases run
      | ok key =>
          rw [hasKey] at run
          exact induction _ (OrderedMap.nodup_keys_insert key
            link.source distinct) run

/-- No key belongs to both slots. -/
def KeysDiffer (editor : Editor σ) (left right : Slot) : Prop :=
  ∀ key, editor.slotKey left = .ok key → editor.slotKey right ≠ .ok key

/-- The sources by key differ in their keys. -/
theorem keysDiffer_sourcesByKey
    (found : editor.sourcesByKey links = .ok sources) :
    sources.values.Pairwise editor.KeysDiffer := by
  have keyed := (sourcesByKey_ok found).1
  have distinct := nodup_sourcesByKey found
  rw [OrderedMap.keys, List.Nodup, List.pairwise_map] at distinct
  rw [OrderedMap.values, List.pairwise_map]
  refine distinct.imp_of_mem ?_
  intro left right inLeft inRight differ key hasKey sameKey
  have leftKey : key = left.1 :=
    Except.ok.inj (hasKey.symm.trans (keyed left inLeft).1)
  have rightKey : key = right.1 :=
    Except.ok.inj (sameKey.symm.trans (keyed right inRight).1)
  exact differ (leftKey.symm.trans rightKey)

theorem sourcesByKey_error {fault : Fault}
    (fails : editor.sourcesByKey links = .error fault) :
    ∃ name, fault = .fieldDetached name := by
  unfold sourcesByKey at fails
  generalize ({} : OrderedMap SlotKey Slot) = start at fails
  induction links generalizing start with
  | nil => cases fails
  | cons link rest induction =>
      rw [List.foldlM_cons] at fails
      cases hasKey : editor.slotKey link.source with
      | error first =>
          rw [hasKey] at fails
          cases fails
          exact slotKey_error hasKey
      | ok key =>
          rw [hasKey] at fails
          exact induction _ fails

section Listen

variable {settings : Settings} {workspace : WorkspaceId}
  {pending : Option WiringId}

/-- The block of a slot belongs to the workspace. -/
theorem Layout.slotWorkspace (layout : Layout workspace editor)
    {block : BlockId} (known : editor.Known slot)
    (hasBlock : editor.slotBlock slot = .ok block) :
    (editor.block block).workspace = workspace := by
  cases slot with
  | connection connection =>
      cases hasBlock
      exact layout.workspaceOf _ (layout.home connection known)
  | field field =>
      simp only [slotBlock] at hasBlock
      split at hasBlock
      · rename_i home attached
        cases hasBlock
        exact layout.workspaceOf _ (layout.fieldHome field block attached)
      · cases hasBlock

theorem leads_listenTo (layout : Layout workspace editor) {source : Slot}
    (known : editor.Known source) {returned : Unit → Editor σ → Prop}
    {raised : Fault → Editor σ → Prop}
    (onReturn : ∀ sourceKey, editor.slotKey source = .ok sourceKey →
      returned () (editor.addListener workspace engine wiring key sourceKey))
    (onRaise : ∀ name, raised (.fieldDetached name) editor) :
    Leads (listenTo engine wiring key source) editor returned raised := by
  simp only [listenTo, subscribe, leads_bind, leads_look, leads_lookup,
    leads_modify, leads_pure]
  refine ⟨?_, ?_⟩
  · intro block hasBlock
    have sameWorkspace := layout.slotWorkspace known hasBlock
    refine ⟨?_, ?_⟩
    · intro sourceKey hasKey
      rw [sameWorkspace]
      exact onReturn sourceKey hasKey
    · intro fault fails
      obtain ⟨name, rfl⟩ := slotKey_error fails
      exact onRaise name
  · intro fault fails
    obtain ⟨name, rfl⟩ := slotBlock_error fails
    exact onRaise name

/-- Steps of wiring a block one after another. -/
def AssemblyCourse (workspace : WorkspaceId) (engine : EngineId)
    (slots : Slot → Prop) (wiring : WiringId) : Editor σ → Editor σ → Prop :=
  Relation.ReflTransGen (Assembly workspace engine slots wiring)

/-- What the steps of wiring a block leave alone. -/
structure Kept (engine : EngineId) (wiring : WiringId)
    (before after : Editor σ) : Prop where
  block : (after.wiring wiring).block = (before.wiring wiring).block
  disposed : (after.wiring wiring).disposed = (before.wiring wiring).disposed
  findSource : ∀ block name, after.findSource? block name =
    before.findSource? block name
  offers : ∀ block slot, after.Offers block slot ↔ before.Offers block slot
  slotKey : ∀ slot, after.slotKey slot = before.slotKey slot
  config : (after.engine engine).config = (before.engine engine).config

theorem Kept.refl (engine : EngineId) (wiring : WiringId) (editor : Editor σ) :
    Kept engine wiring editor editor :=
  ⟨rfl, rfl, fun _ _ => rfl, fun _ _ => Iff.rfl, fun _ => rfl, rfl⟩

theorem Kept.trans {middle : Editor σ}
    (first : Kept engine wiring before middle)
    (second : Kept engine wiring middle after) :
    Kept engine wiring before after where
  block := second.block.trans first.block
  disposed := second.disposed.trans first.disposed
  findSource := fun block name => (second.findSource block name).trans
    (first.findSource block name)
  offers := fun block slot => (second.offers block slot).trans
    (first.offers block slot)
  slotKey := fun slot => (second.slotKey slot).trans (first.slotKey slot)
  config := second.config.trans first.config

theorem Steady.findSource? (steady : Steady before after) (block : BlockId)
    (name : String) :
    after.findSource? block name = before.findSource? block name := by
  unfold Editor.findSource? findField? Block.row?
  simp only [steady.blockFields, steady.blockRows, steady.fieldName]

theorem Steady.offers (steady : Steady before after) (block : BlockId)
    (slot : Slot) :
    after.Offers block slot ↔ before.Offers block slot := by
  cases slot with
  | connection connection =>
      simp only [Offers, steady.blockOutput, steady.blockRows]
  | field field => simp only [Offers, steady.blockFields, steady.fieldKind]

theorem Steady.kept (steady : Steady before after) :
    Kept engine wiring before after where
  block := by rw [steady.wiring]
  disposed := by rw [steady.wiring]
  findSource := steady.findSource?
  offers := steady.offers
  slotKey := steady.slotKey
  config := steady.config engine

theorem Assembly.kept
    (step : Assembly workspace engine slots wiring before after) :
    Kept engine wiring before after := by
  cases step with
  | ripple rippled => exact rippled.toSteady.kept
  | bind =>
      refine { Kept.refl engine wiring before with
        block := ?_, disposed := ?_, findSource := fun _ _ => rfl, slotKey :=
          fun slot => ?_,
        offers := fun block slot => ?_ }
      · rw [addBinding, wiring_updateWiring, if_pos rfl]
      · rw [addBinding, wiring_updateWiring, if_pos rfl]
      · cases slot <;> rfl
      · cases slot <;> rfl
  | @listen key source binding link isOpen member hasKey =>
      have sameConfig :
          ((before.addListener workspace engine wiring key source).engine
          engine).config = (before.engine engine).config := by
        rw [addListener, updateStats, engine_updateEngine, if_pos rfl]
        rfl
      refine { Kept.refl engine wiring before with
        block := ?_, disposed := ?_, findSource := fun _ _ => rfl, slotKey :=
          fun slot => ?_,
        offers := fun block slot => ?_, config := sameConfig }
      · rw [wiring_addListener, if_pos rfl]
      · rw [wiring_addListener, if_pos rfl]
      · cases slot <;> rfl
      · cases slot <;> rfl

theorem AssemblyCourse.kept
    (course : AssemblyCourse workspace engine slots wiring before after) :
    Kept engine wiring before after := by
  induction course with
  | refl => exact Kept.refl engine wiring before
  | tail _ step induction => exact induction.trans step.kept

theorem AssemblyCourse.course {liberties : Liberties}
    (offered : ∀ slot, slots slot →
      before.Offers (before.wiring wiring).block slot)
    (course : AssemblyCourse workspace engine slots wiring before after) :
    Course liberties workspace engine (some wiring, before)
      (some wiring, after) := by
  induction course with
  | refl => exact Relation.ReflTransGen.refl
  | tail sofar step induction =>
      refine induction.tail (Change.assembled ?_ step)
      have kept := AssemblyCourse.kept sofar
      intro slot isSlot
      rw [kept.block, kept.offers]
      exact offered slot isSlot

theorem AssemblyCourse.sound
    (offered : ∀ slot, slots slot →
      before.Offers (before.wiring wiring).block slot)
    (course : AssemblyCourse workspace engine slots wiring before after)
    (sound : Sound settings workspace engine (some wiring) before) :
    Sound settings workspace engine (some wiring) after := by
  have changes : Course Liberties.all workspace engine (some wiring, before)
      (some wiring, after) := course.course offered
  exact changes.sound sound

end Listen

/-- The sources of a plan were found on the block, and its dependencies on
fields are among those allowed. -/
structure PlanFits (editor : Editor σ) (block : BlockId) (slots : Slot → Prop)
    (allowed : SlotKey → SlotKey → Prop) (plan : Plan) : Prop where
  target : slots plan.target.slot
  links : ∀ link ∈ plan.links,
    editor.findSource? block link.directive.source = some link.source
  edges : ∀ key, editor.slotKey plan.target.slot = .ok key →
    ∀ link ∈ plan.links, ∀ field, link.source = .field field →
      ∀ source, editor.fieldKey field = .ok source → allowed key source

theorem Kept.planFits (kept : Kept engine wiring before after) {block : BlockId}
    {allowed : SlotKey → SlotKey → Prop}
    (fits : before.PlanFits block slots allowed plan) :
    after.PlanFits block slots allowed plan where
  target := fits.target
  links := by
    intro link member
    rw [kept.findSource]
    exact fits.links link member
  edges := by
    intro key hasKey link member field isField source hasSource
    rw [kept.slotKey] at hasKey
    have earlier : before.fieldKey field = .ok source :=
      (kept.slotKey (.field field)).symm.trans hasSource
    exact fits.edges key hasKey link member field isField source earlier

section Install

variable {settings : Settings} {workspace : WorkspaceId}
  {allowed : SlotKey → SlotKey → Prop}

theorem Quiet.attends (quiet : Quiet wiring before after) {other : WiringId}
    (attends : before.Attends workspace other key binding) :
    after.Attends workspace other key binding := by
  intro link member source hasKey
  rw [quiet.slotKey] at hasKey
  exact quiet.heard _ _ _ (attends link member source hasKey)

theorem Steady.attends (steady : Steady before after) {other : WiringId}
    (attends : before.Attends workspace other key binding) :
    after.Attends workspace other key binding := by
  intro link member source hasKey
  rw [steady.slotKey] at hasKey
  rw [steady.registry]
  exact attends link member source hasKey

theorem fieldEdge_insert {target source : SlotKey}
    (bindings : (after.wiring wiring).bindings =
      (before.wiring wiring).bindings.insert key binding)
    (keys : ∀ field, after.fieldKey field = before.fieldKey field)
    (edge : after.FieldEdge wiring target source) :
    (target = key ∧ ∃ link ∈ binding.links, ∃ field,
      link.source = .field field ∧
      before.fieldKey field = .ok source) ∨
      before.FieldEdge wiring target source := by
  obtain ⟨found, isBinding, link, member, field, isField, hasSource⟩ := edge
  rw [keys] at hasSource
  rw [bindings, OrderedMap.get?_insert] at isBinding
  split at isBinding
  · rename_i sameKey
    cases isBinding
    exact Or.inl ⟨sameKey.symm, link, member, field, isField, hasSource⟩
  · exact Or.inr ⟨found, isBinding, link, member, field, isField, hasSource⟩

/-- The binding listens to all listed sources in turn, if they have different
keys and it listens to none of them yet. -/
theorem leads_listenToAll
    (sound : Sound settings workspace engine (some wiring) editor)
    (offered : ∀ slot, slots slot →
      editor.Offers (editor.wiring wiring).block slot)
      (isOpen : editor.OpenBinding wiring key binding) (sources : List Slot)
    (linked : ∀ source ∈ sources, ∃ link ∈ binding.links, link.source = source)
    (apart : sources.Pairwise editor.KeysDiffer) (unheard : ∀ sourceKey,
      .recompute wiring key ∉ (editor.workspace workspace).registry.listenersAt
        sourceKey) :
    Leads (sources.forM (listenTo engine wiring key)) editor
      (fun _ after => AssemblyCourse workspace engine slots wiring
        editor after ∧
        Quiet wiring editor after ∧
        (after.wiring wiring).bindings = (editor.wiring wiring).bindings ∧
        ∀ source ∈ sources, ∀ sourceKey, editor.slotKey source = .ok sourceKey →
          .recompute wiring key ∈
            (after.workspace workspace).registry.listenersAt sourceKey)
      (fun fault after => AssemblyCourse workspace engine slots wiring
        editor after ∧
        Quiet wiring editor after ∧ ∃ name, fault = .fieldDetached name) := by
  -- The sources to come are still unheard and have different keys.
  let waiting (rest : List Slot) (after : Editor σ) : Prop :=
    rest.Pairwise editor.KeysDiffer ∧
      ∀ source ∈ rest, ∀ sourceKey, editor.slotKey source = .ok sourceKey →
        .recompute wiring key ∉ (after.workspace workspace).registry.listenersAt
          sourceKey
  let invariant (rest : List Slot) (after : Editor σ) : Prop :=
    AssemblyCourse workspace engine slots wiring editor after ∧
      Quiet wiring editor after ∧
      (after.wiring wiring).bindings = (editor.wiring wiring).bindings ∧
      waiting rest after ∧
      ∀ source ∈ sources, source ∈ rest ∨
        ∀ sourceKey, editor.slotKey source = .ok sourceKey →
        .recompute wiring key ∈ (after.workspace workspace).registry.listenersAt
          sourceKey
  have walk : Leads (sources.forM (listenTo engine wiring key)) editor
      (fun _ after => invariant [] after)
      (fun fault after => AssemblyCourse workspace engine slots wiring
        editor after ∧
        Quiet wiring editor after ∧ ∃ name, fault = .fieldDetached name) := by
    refine leads_forM invariant sources ?_ ?_
    · intro source rest before member current
      obtain ⟨course, quiet, bindings, ⟨restApart, restUnheard⟩, listening⟩ :=
        current
      obtain ⟨differs, laterApart⟩ := List.pairwise_cons.mp restApart
      obtain ⟨link, inLinks, isSource⟩ := linked source member
      have here := course.sound offered sound
      have kept := course.kept
      have stillOpen : before.OpenBinding wiring key binding := by
        unfold OpenBinding
        rw [kept.disposed, bindings]
        exact isOpen
      have fits := here.wired.source wiring key binding stillOpen link inLinks
      rw [isSource] at fits
      refine leads_listenTo here.layout fits.known ?_ ?_
      · intro sourceKey hasKey
        have hadKey : editor.slotKey source = .ok sourceKey :=
          (kept.slotKey source).symm.trans hasKey
        have fresh := restUnheard source (by simp) sourceKey hadKey
        refine ⟨course.tail (Assembly.listen stillOpen inLinks
          (isSource ▸ hasKey) fresh),
          quiet.trans (quiet_addListener _ _ _ _ _ _), ?_, ⟨laterApart, ?_⟩, ?_⟩
        · rw [wiring_addListener, if_pos rfl]
          exact bindings
        · intro other inRest otherKey hasOtherKey
          have differentKey : ¬ sourceKey = otherKey := by
            rintro rfl
            exact differs other inRest sourceKey hadKey hasOtherKey
          rw [listenersAt_addListener, if_neg (fun same => differentKey same.2),
            List.append_nil]
          exact restUnheard other (by simp [inRest]) otherKey hasOtherKey
        · intro other inSources
          by_cases same : other = source
          · subst same
            refine Or.inr ?_
            intro otherKey hasOtherKey
            rw [kept.slotKey, hasOtherKey] at hasKey
            cases hasKey
            rw [listenersAt_addListener]
            simp
          · rcases listening other inSources with waiting | listens
            · refine Or.inl ?_
              rcases List.mem_cons.mp waiting with isHere | later
              · exact absurd isHere same
              · exact later
            · refine Or.inr ?_
              intro otherKey hasOtherKey
              rw [listenersAt_addListener]
              exact List.mem_append_left _ (listens otherKey hasOtherKey)
      · intro name
        exact ⟨course, quiet, name, rfl⟩
    · exact ⟨Relation.ReflTransGen.refl, Quiet.refl wiring editor, rfl,
        ⟨apart, fun _ _ sourceKey _ => unheard sourceKey⟩, fun source member =>
          Or.inl member⟩
  refine Leads.imp walk ?_
  rintro _ after ⟨course, quiet, bindings, _, listening⟩
  refine ⟨course, quiet, bindings, ?_⟩
  intro source member
  rcases listening source member with impossible | listens
  · cases impossible
  · exact listens

section Binding

variable (fits : editor.PlanFits (editor.wiring wiring).block slots allowed
  plan)
  (acyclic : (editor.engine engine).config.rejectCycles = true →
    Acyclic allowed)
  (edges : ∀ target source, editor.FieldEdge wiring target source →
    allowed target source)

include fits acyclic edges

/-- Binding a plan closes no circle: its dependencies are among those allowed.
-/
theorem PlanFits.binds (hasKey : editor.slotKey plan.target.slot = .ok key)
    (fresh : (editor.wiring wiring).bindings.get? key = none)
    (sameTarget : binding.target = plan.target.slot)
    (sameLinks : binding.links = plan.links) :
    Assembly workspace engine slots wiring editor
      (editor.addBinding wiring key binding) := by
  refine Assembly.bind ?_ ?_ fresh ?_ ?_
  · rw [sameTarget]
    exact fits.target
  · rw [sameTarget]
    exact hasKey
  · rw [sameLinks]
    exact fits.links
  · intro rejects
    refine (acyclic rejects).mono ?_
    intro target source edge
    have bindings :
        ((editor.addBinding wiring key binding).wiring wiring).bindings =
        (editor.wiring wiring).bindings.insert key binding := by
      rw [addBinding, wiring_updateWiring, if_pos rfl]
    rcases fieldEdge_insert bindings (fun _ => rfl) edge with
      ⟨rfl, link, member, field, isField, hasSource⟩ | earlier
    · rw [sameLinks] at member
      exact fits.edges target hasKey link member field isField source hasSource
    · exact edges target source earlier

/-- A plan with sources is installed quietly, and its binding attends to all
of them. -/
theorem leads_install_binding {react : Reaction σ}
    (sound : Sound settings workspace engine (some wiring) editor)
    (offered : ∀ slot, slots slot →
      editor.Offers (editor.wiring wiring).block slot)
    (undisposed : (editor.wiring wiring).disposed = false)
    (fresh : ∀ key, editor.slotKey plan.target.slot = .ok key →
      (editor.wiring wiring).bindings.get? key = none) (hasLinks :
    plan.links ≠ [])
    (block : BlockId) :
    Leads (install react engine block wiring plan) editor
      (fun _ after => AssemblyCourse workspace engine slots wiring
        editor after ∧
        Quiet wiring editor after ∧
        ∃ key binding, editor.slotKey plan.target.slot = .ok key ∧
          binding.target = plan.target.slot ∧ binding.links = plan.links ∧
          (after.wiring wiring).bindings =
            (editor.wiring wiring).bindings.insert key binding ∧
          after.Attends workspace wiring key binding)
      (fun fault after => AssemblyCourse workspace engine slots wiring
        editor after ∧
        Quiet wiring editor after ∧ ∃ name, fault = .fieldDetached name) := by
  have nonempty : ¬ plan.links.isEmpty = true := by simpa using hasLinks
  simp only [install, if_neg nonempty, leads_bind, leads_look, leads_lookup,
    leads_modify]
  refine ⟨?_, ?_⟩
  · intro key hasKey
    generalize hBinding :
      Binding.mk plan.target.slot plan.target.declared.regular plan.links
      ((editor.block block).text ++ " " ++ plan.target.label) = binding
    have sameTarget : binding.target = plan.target.slot := by rw [← hBinding]
    have sameLinks : binding.links = plan.links := by rw [← hBinding]
    -- The binding is added and counted before its sources are subscribed to.
    let bound := editor.addBinding wiring key binding
    let counted := bound.updateStats engine fun stats =>
      { stats with bindings := stats.bindings + 1 }
    have bindings : (counted.wiring wiring).bindings =
        (editor.wiring wiring).bindings.insert key binding := by
      change ((editor.addBinding wiring key binding).wiring wiring).bindings = _
      rw [addBinding, wiring_updateWiring, if_pos rfl]
    have quiet : Quiet wiring editor counted :=
      (quiet_addBinding editor wiring key binding).trans
        (quiet_updateStats wiring bound engine _)
    have binds : Assembly workspace engine slots wiring editor bound :=
      fits.binds acyclic edges hasKey (fresh key hasKey) sameTarget sameLinks
    have counts : Rippled slots bound counted :=
      Rippled.of_checks (steady_updateStats bound engine _ fun _ => ⟨rfl, rfl⟩)
        (by intro slot; cases slot <;> rfl)
    have course : AssemblyCourse workspace engine slots wiring editor counted :=
      (Relation.ReflTransGen.single binds).tail (Assembly.ripple counts)
    have here := course.sound offered sound
    have kept := course.kept
    have stillOpen : counted.OpenBinding wiring key binding := by
      refine ⟨kept.disposed.trans undisposed, ?_⟩
      rw [bindings]
      simp
    have stillOffered : ∀ slot, slots slot →
        counted.Offers (counted.wiring wiring).block slot := by
      intro slot isSlot
      rw [kept.block, kept.offers]
      exact offered slot isSlot
    have unheard : ∀ sourceKey,
        .recompute wiring key ∉
          (counted.workspace workspace).registry.listenersAt sourceKey :=
      sound.heard.unheard (fresh key hasKey)
    refine ⟨?_, ?_⟩
    · intro sources found
      change counted.sourcesByKey plan.links = .ok sources at found
      obtain ⟨entries, all⟩ := sourcesByKey_ok found
      have linked : ∀ source ∈ sources.values, ∃ link ∈ binding.links,
          link.source = source := by
        intro source member
        obtain ⟨entry, inEntries, isSource⟩ := List.mem_map.mp member
        obtain ⟨_, link, inLinks, sameSource⟩ := entries entry inEntries
        exact ⟨link, by rwa [sameLinks], sameSource.trans isSource⟩
      refine Leads.mono (leads_listenToAll here stillOffered stillOpen
        sources.values linked (keysDiffer_sourcesByKey found) unheard) ?_ ?_
      · rintro _ after ⟨later, laterQuiet, sameBindings, listening⟩
        refine ⟨course.trans later, quiet.trans laterQuiet, key, binding,
          hasKey, sameTarget, sameLinks, sameBindings.trans bindings, ?_⟩
        intro link member source hasSource
        rw [laterQuiet.slotKey] at hasSource
        rw [sameLinks] at member
        obtain ⟨sourceKey, hasSourceKey, inKeys⟩ := all link member
        obtain ⟨entry, inEntries, sameKey⟩ := List.mem_map.mp inKeys
        obtain ⟨entryKey, _⟩ := entries entry inEntries
        have sameSource : sourceKey = source := by
          rw [hasSource] at hasSourceKey
          cases hasSourceKey
          rfl
        rw [sameKey, sameSource] at entryKey
        exact listening entry.2 (List.mem_map_of_mem inEntries) source entryKey
      · rintro fault after ⟨later, laterQuiet, isDetached⟩
        exact ⟨course.trans later, quiet.trans laterQuiet, isDetached⟩
    · intro fault fails
      exact ⟨course, quiet, sourcesByKey_error fails⟩
  · intro fault fails
    exact ⟨Relation.ReflTransGen.refl, Quiet.refl wiring editor,
      slotKey_error fails⟩

end Binding

end Install

end Editor

end TypeFlow
