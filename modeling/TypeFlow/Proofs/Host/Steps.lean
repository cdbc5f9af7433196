import TypeFlow.Proofs.LinkHistory

/-!
# Steps of editing

Engines, workspaces, callbacks and hosts change an editor in steps of a few
kinds: checks, values and counters are retouched, blocks and slots are made and
only ever added to, and connections are linked and unlinked.  Nothing is said
about which workspace a step belongs to.  In every state that is reached by
steps, blocks and slots belong together and bindings have targets that exist.
-/

namespace TypeFlow.Editor

variable {σ : Type}

/-- The same blocks, connections and fields are there, under the same names and
on the same blocks, and there is no new binding. -/
structure Retouched (before after : Editor σ) : Prop where
  blockKeys : after.blocks.keys = before.blocks.keys
  block : ∀ id, (after.block id).bare = (before.block id).bare
  connectionKeys : after.connections.keys = before.connections.keys
  connection : ∀ id, (after.connection id).bare = (before.connection id).bare
  fieldKeys : after.fields.keys = before.fields.keys
  fieldName : ∀ id, (after.field id).name = (before.field id).name
  fieldBlock : ∀ id, (after.field id).block = (before.field id).block
  fieldKind : ∀ id, (after.field id).kind.bare = (before.field id).kind.bare
  bindings : ∀ wiring key binding, (after.wiring wiring).bindings.get? key =
    some binding →
    (before.wiring wiring).bindings.get? key = some binding

namespace Retouched

variable {before after : Editor σ}

theorem of_steady (steady : Steady before after) : Retouched before after where
  blockKeys := steady.blockKeys
  block := steady.block
  connectionKeys := steady.connectionKeys
  connection := steady.connection
  fieldKeys := steady.fieldKeys
  fieldName := steady.fieldName
  fieldBlock := steady.fieldBlock
  fieldKind := steady.fieldKind
  bindings := fun wiring key binding found => by rwa [steady.wiring] at found

/-- States with the same blocks, connections and fields. -/
theorem of_tables (blocks : after.blocks = before.blocks)
    (connections : after.connections = before.connections)
    (fields : after.fields = before.fields)
    (bindings : ∀ wiring key binding, (after.wiring wiring).bindings.get? key =
      some binding →
      (before.wiring wiring).bindings.get? key = some binding) :
      Retouched before after where
  blockKeys := by rw [blocks]
  block := fun id => by unfold Editor.block; rw [blocks]
  connectionKeys := by rw [connections]
  connection := fun id => by unfold Editor.connection; rw [connections]
  fieldKeys := by rw [fields]
  fieldName := fun id => by unfold Editor.field; rw [fields]
  fieldBlock := fun id => by unfold Editor.field; rw [fields]
  fieldKind := fun id => by unfold Editor.field; rw [fields]
  bindings := bindings

theorem setValue {editor : Editor σ} {field : FieldId} (value : FieldValue)
    (known : editor.fields.contains field) :
    Retouched editor (editor.updateField field fun entry => { entry with
      value }) := by
  refine { of_tables rfl rfl rfl (fun _ _ _ => id) with
    fieldKeys := OrderedMap.keys_insert_of_contains _ known
    fieldName := ?_
    fieldBlock := ?_
    fieldKind := ?_ }
  all_goals
    intro id
    rw [field_updateField]
    split
    · rename_i same
      rw [same]
    · rfl

variable (retouched : Retouched before after)

include retouched

theorem sameLayout : SameLayout before after where
  knownBlock := OrderedMap.contains_congr retouched.blockKeys
  block := retouched.block
  knownConnection := OrderedMap.contains_congr retouched.connectionKeys
  connectionKey := fun id =>
    (congrArg Connection.key (retouched.connection id) :)
  connectionBlock :=
    fun id => (congrArg Connection.block (retouched.connection id) :)
  knownField := OrderedMap.contains_congr retouched.fieldKeys
  fieldBlock := retouched.fieldBlock

theorem outgrows : Outgrows before after where
  knownBlock := fun id => (retouched.sameLayout.knownBlock id).mpr
  blockId := fun id _ => (congrArg Block.id (retouched.block id) :)
  knownConnection := fun id => (retouched.sameLayout.knownConnection id).mpr
  connectionKey := fun id _ => retouched.sameLayout.connectionKey id
  connectionBlock := fun id _ => retouched.sameLayout.connectionBlock id
  knownField := fun id => (retouched.sameLayout.knownField id).mpr
  fieldName := fun id _ => retouched.fieldName id
  fieldKind := fun id _ => retouched.fieldKind id

theorem sameLinks : SameLinks before after :=
  fun id => (congrArg Connection.target (retouched.connection id) :)

end Retouched

/-- One step of editing.  Connections are linked and unlinked only if `links`
allows it. -/
inductive Step (links : Prop) : Editor σ → Editor σ → Prop
  | retouched {before after : Editor σ} : Retouched before after →
    Step links before after
  | bound {editor : Editor σ} {wiring : WiringId} {key : SlotKey}
      {binding : Binding} :
      editor.Known binding.target →
        Step links editor (editor.addBinding wiring key binding)
  | blockMade {editor : Editor σ} (workspace : WorkspaceId) (type id : String)
      (extensions : List String) :
      Step links editor
        { editor with
          blocks := editor.blocks.insert ⟨editor.blocks.size⟩
            { workspace, type, id, extensions } }
  | outputMade {editor : Editor σ} {block : BlockId} (check : Check) :
      editor.blocks.contains block →
      Step links editor
        ((editor.withConnection block .output "output" check).updateBlock
          block fun entry =>
            { entry with output := some editor.nextConnection })
  | inputMade {editor : Editor σ} {block : BlockId} {name : String}
      (check : Check) :
      editor.blocks.contains block → (editor.block block).row? name = none →
      Step links editor
        ((editor.withConnection block .input name check).appendRow block
          { name, connection := some editor.nextConnection })
  | dummyMade {editor : Editor σ} {block : BlockId} (name : String) :
      editor.blocks.contains block →
        Step links editor (editor.appendRow block { name })
  | fieldMade {editor : Editor σ} {field : Field} :
      field.block = none →
      Step links editor
        { editor with
          fields := editor.fields.insert ⟨editor.fields.size⟩ field }
  | fieldAttached {editor : Editor σ} {block : BlockId} {place : Nat}
      {field : FieldId} :
      editor.blocks.contains block → place < (editor.block block).rows.length →
      editor.fields.contains field →
      editor.findField? block (editor.field field).name = none →
      Step links editor
        ((editor.updateField field fun entry => { entry with
          block := some block }).updateBlock block fun entry =>
            { entry with
              rows := entry.rows.modify place fun row =>
                { row with fields := row.fields ++ [field] } })
  | unlinked {editor : Editor σ} {this other : ConnectionId} :
      links → editor.connections.contains this →
        editor.connections.contains other →
      Step links editor (editor.unlink this other)
  | linked {editor : Editor σ} {this other : ConnectionId} :
      links → editor.connections.contains this →
        editor.connections.contains other →
      Step links editor (editor.link this other)

/-- Blocks, slots, links and bindings belong together. -/
structure Shaped (editor : Editor σ) : Prop where
  tables : SlotTables editor
  arranged : Arranged editor
  naming : Naming editor
  bound : ∀ wiring key binding, (editor.wiring wiring).bindings.get? key =
    some binding →
    editor.Known binding.target
  far : ∀ this other, (editor.connection this).target = some other →
    editor.connections.contains other

theorem Outgrows.known {before after : Editor σ}
    (outgrows : Outgrows before after) {slot : Slot}
    (known : before.Known slot) : after.Known slot := by
  cases slot with
  | connection connection => exact outgrows.knownConnection connection known
  | field field => exact outgrows.knownField field known

section Keep

variable {links : Prop} {before middle after editor : Editor σ}

theorem Step.outgrows (step : Step links before after)
    (tables : before.SlotTables) :
    Outgrows before after := by
  cases step with
  | retouched retouched => exact retouched.outgrows
  | bound known => exact Outgrows.of_tables rfl rfl rfl
  | blockMade workspace type id extensions => exact outgrows_blockMade tables _
  | outputMade check known =>
      exact (outgrows_withConnection tables _ _ _ _).trans
        (outgrows_updateBlock fun _ => rfl)
  | inputMade check known free =>
      exact (outgrows_withConnection tables _ _ _ _).trans
        (outgrows_updateBlock fun _ => rfl)
  | dummyMade name known => exact outgrows_updateBlock fun _ => rfl
  | fieldMade detached => exact outgrows_fieldMade tables _
  | fieldAttached knownBlock inRange knownField free =>
      exact Outgrows.trans (outgrows_updateField (by intro _; rfl)
        (by intro _; rfl)) (outgrows_updateBlock (by intro _; rfl))
  | unlinked =>
      exact (outgrows_setTarget _ _ _).trans (outgrows_setTarget _ _ _)
  | linked => exact (outgrows_setTarget _ _ _).trans (outgrows_setTarget _ _ _)

/-- A step that makes no connection and no binding. -/
theorem Shaped.reshape (shaped : Shaped before)
    (outgrows : Outgrows before after) (tables : SlotTables after)
    (arranged : Arranged after) (naming : Naming after)
    (connections : after.connections = before.connections)
    (wirings : after.wirings = before.wirings) : Shaped after where
  tables := tables
  arranged := arranged
  naming := naming
  bound := by
    intro wiring key binding found
    unfold Editor.wiring at found
    rw [wirings] at found
    exact outgrows.known (shaped.bound wiring key binding found)
  far := by
    intro this other linked
    unfold Editor.connection at linked
    rw [connections] at linked
    exact outgrows.knownConnection other (shaped.far this other linked)

/-- A connection that is made is not linked. -/
theorem Shaped.connected (shaped : Shaped editor) {block : BlockId}
    {kind : SlotKind} {name : String} {check : Check} {change : Block → Block}
    (outgrows : Outgrows editor
      ((editor.withConnection block kind name check).updateBlock block change))
    (known : editor.blocks.contains block)
    (arranged : Arranged
      ((editor.withConnection block kind name check).updateBlock block change))
    (naming : Naming ((editor.withConnection block kind name check).updateBlock
      block change)) :
    Shaped ((editor.withConnection block kind name check).updateBlock
      block change) where
  tables :=
    { shaped.tables with
      blocks := shaped.tables.blocks.insert_known _ known
      connections := shaped.tables.connections.insert_next _ rfl }
  arranged := arranged
  naming := naming
  bound := fun wiring key binding found =>
    outgrows.known (shaped.bound wiring key binding found)
  far := by
    intro this other linked
    change ((editor.withConnection block kind name check).connection
      this).target = some other at linked
    rw [connection_withConnection] at linked
    split at linked
    · cases linked
    · exact outgrows.knownConnection other (shaped.far this other linked)

/-- The far ends of two connections change to connections that are there. -/
theorem Shaped.retargeted (shaped : Shaped editor) {this other : ConnectionId}
    {thisTarget otherTarget : Option ConnectionId}
    (outgrows : Outgrows editor
      ((editor.setTarget this thisTarget).setTarget other otherTarget))
    (knownThis : editor.connections.contains this)
    (knownOther : editor.connections.contains other)
    (ends : ∀ far, thisTarget = some far ∨ otherTarget = some far →
      editor.connections.contains far) :
    Shaped ((editor.setTarget this thisTarget).setTarget other
      otherTarget) := by
  have knownLater := (outgrows_setTarget editor this thisTarget).knownConnection
    other knownOther
  constructor
  · exact { shaped.tables with
      connections :=
        (shaped.tables.connections.insert_known _ knownThis).insert_known
          _ knownLater }
  · exact shaped.arranged.same (sameLayout_setTargets knownThis knownOther
      thisTarget otherTarget)
  · exact shaped.naming.keep shaped.arranged outgrows fun _ => rfl
  · intro wiring key binding found
    exact outgrows.known (shaped.bound wiring key binding found)
  · intro left right linked
    rw [target_setTargets] at linked
    apply outgrows.knownConnection
    split at linked
    · exact ends right (Or.inr linked)
    · split at linked
      · exact ends right (Or.inl linked)
      · exact shaped.far left right linked

theorem Step.shaped (step : Step links before after) (shaped : Shaped before) :
    Shaped after := by
  have outgrows := step.outgrows shaped.tables
  have tables := shaped.tables
  cases step with
  | retouched retouched =>
      constructor
      · exact ⟨tables.blocks.congr retouched.blockKeys,
          tables.connections.congr retouched.connectionKeys,
          tables.fields.congr retouched.fieldKeys⟩
      · exact shaped.arranged.same retouched.sameLayout
      · exact shaped.naming.keep shaped.arranged outgrows retouched.block
      · intro wiring key binding found
        exact outgrows.known (shaped.bound wiring key binding
          (retouched.bindings wiring key binding found))
      · intro this other linked
        rw [retouched.sameLinks] at linked
        exact outgrows.knownConnection other (shaped.far this other linked)
  | @bound wiring key binding known =>
      refine ⟨⟨tables.blocks, tables.connections, tables.fields⟩,
        shaped.arranged.same (SameLayout.of_tables rfl rfl rfl),
        shaped.naming.keep shaped.arranged outgrows fun _ => rfl,
        ?_, shaped.far⟩
      intro other otherKey otherBinding found
      change before.Known otherBinding.target
      rw [addBinding, wiring_updateWiring] at found
      split at found
      · rename_i same
        subst same
        rw [OrderedMap.get?_insert] at found
        split at found
        · cases found
          exact known
        · exact shaped.bound wiring otherKey otherBinding found
      · exact shaped.bound other otherKey otherBinding found
  | blockMade workspace type id extensions =>
      exact shaped.reshape outgrows { tables with
        blocks := tables.blocks.insert_next _ rfl }
        (shaped.arranged.blockMade tables workspace type id extensions)
        (shaped.naming.blockMade shaped.arranged outgrows) rfl rfl
  | @outputMade block check known =>
      exact shaped.connected outgrows known
        (shaped.arranged.outputMade tables known check)
        (shaped.naming.outputMade shaped.arranged outgrows)
  | @inputMade block name check known free =>
      exact shaped.connected outgrows known
        (shaped.arranged.inputMade tables known name check)
        (shaped.naming.inputMade shaped.arranged outgrows free)
  | dummyMade name known =>
      refine shaped.reshape outgrows { tables with
        blocks := tables.blocks.insert_known _ known }
        (shaped.arranged.appendRow known ?_ rfl)
        (shaped.naming.dummyMade shaped.arranged outgrows) rfl rfl
      intro connection impossible
      cases impossible
  | fieldMade detached =>
      exact shaped.reshape outgrows { tables with
        fields := tables.fields.insert_next _ rfl }
        (shaped.arranged.fieldMade tables detached)
        (shaped.naming.keep shaped.arranged outgrows fun _ => rfl) rfl rfl
  | fieldAttached knownBlock inRange knownField free =>
      exact shaped.reshape outgrows
        { tables with
          blocks := tables.blocks.insert_known _ knownBlock
          fields := tables.fields.insert_known _ knownField }
        (shaped.arranged.fieldAttached _ knownBlock knownField)
        (shaped.naming.fieldAttached shaped.arranged outgrows inRange free) rfl
          rfl
  | unlinked _ knownThis knownOther =>
      apply shaped.retargeted outgrows knownThis knownOther
      intro far isEnd
      rcases isEnd with impossible | impossible <;> cases impossible
  | linked _ knownThis knownOther =>
      apply shaped.retargeted outgrows knownThis knownOther
      intro far isEnd
      rcases isEnd with isOther | isThis
      · cases isOther
        exact knownOther
      · cases isThis
        exact knownThis

/-- Without leave to link, far ends stay as they are. -/
theorem Step.sameLinks (step : Step False before after)
    (tables : before.SlotTables) :
    SameLinks before after := by
  have made : ∀ block kind name check id,
      ((before.withConnection block kind name check).connection id).target =
        (before.connection id).target := by
    intro block kind name check id
    rw [connection_withConnection]
    split
    · rename_i isNext
      subst isNext
      unfold Editor.connection
      rw [OrderedMap.getD_of_not_contains tables.connection_next]
      rfl
    · rfl
  cases step with
  | retouched retouched => exact retouched.sameLinks
  | bound known => exact SameLinks.refl before
  | blockMade workspace type id extensions => exact SameLinks.refl before
  | outputMade check known => exact made _ _ _ check
  | inputMade check known free => exact made _ _ _ check
  | dummyMade name known => exact SameLinks.refl before
  | fieldMade detached => exact SameLinks.refl before
  | fieldAttached knownBlock inRange knownField free =>
      exact SameLinks.refl before
  | unlinked impossible => exact impossible.elim
  | linked impossible => exact impossible.elim

theorem Step.mono {more : Prop} (step : Step links before after)
    (allows : links → more) :
    Step more before after := by
  cases step with
  | retouched retouched => exact Step.retouched retouched
  | bound known => exact Step.bound known
  | blockMade workspace type id extensions =>
      exact Step.blockMade workspace type id extensions
  | outputMade check known => exact Step.outputMade check known
  | inputMade check known free => exact Step.inputMade check known free
  | dummyMade name known => exact Step.dummyMade name known
  | fieldMade detached => exact Step.fieldMade detached
  | fieldAttached knownBlock inRange knownField free =>
      exact Step.fieldAttached knownBlock inRange knownField free
  | unlinked allowed knownThis knownOther =>
      exact Step.unlinked (allows allowed) knownThis knownOther
  | linked allowed knownThis knownOther =>
      exact Step.linked (allows allowed) knownThis knownOther

end Keep

/-- Steps one after another. -/
def Steps (links : Prop) : Editor σ → Editor σ → Prop :=
  Relation.ReflTransGen (Step links)

namespace Steps

variable {links : Prop} {before middle after editor : Editor σ}

theorem refl (editor : Editor σ) : Steps links editor editor :=
  Relation.ReflTransGen.refl

theorem single (step : Step links before after) : Steps links before after :=
  Relation.ReflTransGen.single step

theorem trans (first : Steps links before middle)
    (second : Steps links middle after) :
    Steps links before after :=
  Relation.ReflTransGen.trans first second

theorem retouched (retouched : Retouched before after) :
    Steps links before after :=
  single (Step.retouched retouched)

theorem steady (steady : Steady before after) : Steps links before after :=
  retouched (Retouched.of_steady steady)

/-- Blocks, connections, fields and bindings stay as they are. -/
theorem aside (blocks : after.blocks = before.blocks)
    (connections : after.connections = before.connections)
    (fields : after.fields = before.fields)
    (bindings : ∀ wiring, (after.wiring wiring).bindings =
      (before.wiring wiring).bindings) :
    Steps links before after := by
  apply retouched
  apply Retouched.of_tables blocks connections fields
  intro wiring key binding found
  rwa [bindings] at found

theorem mono {more : Prop} (steps : Steps links before after)
    (allows : links → more) :
    Steps more before after := by
  induction steps with
  | refl => exact refl before
  | tail _ step induction => exact induction.trans (single (step.mono allows))

theorem shaped (steps : Steps links before after) (shaped : Shaped before) :
    Shaped after := by
  induction steps with
  | refl => exact shaped
  | tail _ step induction => exact step.shaped induction

theorem outgrows (steps : Steps links before after) (shaped : Shaped before) :
    Outgrows before after := by
  induction steps with
  | refl => exact Outgrows.refl before
  | tail sofar step induction =>
      exact induction.trans (step.outgrows (Steps.shaped sofar shaped).tables)

theorem sameLinks (steps : Steps False before after) (shaped : Shaped before) :
    SameLinks before after := by
  induction steps with
  | refl => exact SameLinks.refl before
  | tail sofar step induction =>
      exact induction.trans (step.sameLinks (Steps.shaped sofar shaped).tables)

end Steps

end TypeFlow.Editor
