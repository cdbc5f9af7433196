import TypeFlow.Proofs.Host.Operation
import TypeFlow.Proofs.Outcome
import TypeFlow.Proofs.VariableLookup

/-!
# What writing checks leaves alone

A cascade of recomputations writes checks, retypes variables and counts what
it does.  Everything else stays as it is: the blocks and their slots, links,
values, listeners, wirings and the stack of the guard.  `Steady` is this
relation between two states.  It also leaves open which blocks are registered
and which of them were set up or taken apart.  The parts that may change are
blanked out by `bare`.
-/

namespace TypeFlow

/-- A connection without its check. -/
def Connection.bare (connection : Connection) : Connection :=
  { connection with check := none }

/-- The kind of a field without the check of a variable field. -/
def FieldKind.bare : FieldKind → FieldKind
  | .reference _ => .reference none
  | kind => kind

theorem FieldKind.bare_eq_reference {kind : FieldKind} :
    kind.bare = .reference none ↔ ∃ types, kind = .reference types := by
  cases kind <;> simp [bare]

def Field.bare (field : Field) : Field :=
  { field with kind := field.kind.bare }

/-- A block whether it was set up and taken apart or not. -/
def Block.bare (block : Block) : Block :=
  { block with initialized := false, disposed := false }

/-- A workspace without its variables and its registered blocks. -/
def Workspace.bare (workspace : Workspace) : Workspace :=
  { workspace with variableIndex := {}, blocks := {} }

/-- An engine without its counters, except those of subscriptions. -/
def Engine.bare (engine : Engine) : Engine :=
  { engine with
    guard := { engine.guard with deepest := 0 }
    stats :=
      { subscriptions := engine.stats.subscriptions
        released := engine.stats.released } }

namespace Editor

variable {σ : Type}

/-- The states differ at most in checks, types of variables, flags and
registrations of blocks, counters, caches and whatever belongs to the
outside. -/
structure Steady (before after : Editor σ) : Prop where
  blockKeys : after.blocks.keys = before.blocks.keys
  block : ∀ id, (after.block id).bare = (before.block id).bare
  wirings : after.wirings = before.wirings
  connectionKeys : after.connections.keys = before.connections.keys
  connection : ∀ id, (after.connection id).bare = (before.connection id).bare
  fieldKeys : after.fields.keys = before.fields.keys
  field : ∀ id, (after.field id).bare = (before.field id).bare
  workspace : ∀ id, (after.workspace id).bare = (before.workspace id).bare
  engine : ∀ id, (after.engine id).bare = (before.engine id).bare
  poolKeys : after.pool.keys = before.pool.keys
  variableId : ∀ place,
    (after.pool.getD place default).id = (before.pool.getD place default).id
  filed : ∀ id place,
    place ∈ Variables.places (after.workspace id).variableIndex →
    place ∈ Variables.places (before.workspace id).variableIndex
  indexKeys : ∀ id, (before.workspace id).variableIndex.keys.Nodup →
    (after.workspace id).variableIndex.keys.Nodup
  named : ∀ id text, (before.workspace id).variableIndex.keys.Nodup →
    ((after.variablesOf id).findById? text = none ↔
      (before.variablesOf id).findById? text = none)

namespace Steady

theorem refl (editor : Editor σ) : Steady editor editor where
  blockKeys := rfl
  block := fun _ => rfl
  wirings := rfl
  connectionKeys := rfl
  connection := fun _ => rfl
  fieldKeys := rfl
  field := fun _ => rfl
  workspace := fun _ => rfl
  engine := fun _ => rfl
  poolKeys := rfl
  variableId := fun _ => rfl
  filed := fun _ _ => id
  indexKeys := fun _ => id
  named := fun _ _ _ => Iff.rfl

variable {before middle after : Editor σ}

theorem trans (first : Steady before middle) (second : Steady middle after) :
    Steady before after where
  blockKeys := second.blockKeys.trans first.blockKeys
  block := fun id => (second.block id).trans (first.block id)
  wirings := second.wirings.trans first.wirings
  connectionKeys := second.connectionKeys.trans first.connectionKeys
  connection := fun id => (second.connection id).trans (first.connection id)
  fieldKeys := second.fieldKeys.trans first.fieldKeys
  field := fun id => (second.field id).trans (first.field id)
  workspace := fun id => (second.workspace id).trans (first.workspace id)
  engine := fun id => (second.engine id).trans (first.engine id)
  poolKeys := second.poolKeys.trans first.poolKeys
  variableId := fun place => (second.variableId place).trans
    (first.variableId place)
  filed := fun id place member => first.filed id place
    (second.filed id place member)
  indexKeys := fun id distinct => second.indexKeys id
    (first.indexKeys id distinct)
  named := fun id text distinct =>
    (second.named id text (first.indexKeys id distinct)).trans
      (first.named id text distinct)

variable (steady : Steady before after)

include steady

theorem knownBlock (id : BlockId) : after.blocks.contains id ↔
    before.blocks.contains id :=
  OrderedMap.contains_congr steady.blockKeys id

theorem blockId (id : BlockId) : (after.block id).id = (before.block id).id :=
  (congrArg Block.id (steady.block id) :)

theorem blockWorkspace (id : BlockId) :
    (after.block id).workspace = (before.block id).workspace :=
  (congrArg Block.workspace (steady.block id) :)

theorem blockOutput (id : BlockId) :
    (after.block id).output = (before.block id).output :=
  (congrArg Block.output (steady.block id) :)

theorem blockRows (id : BlockId) :
    (after.block id).rows = (before.block id).rows :=
  (congrArg Block.rows (steady.block id) :)

theorem blockFields (id : BlockId) :
    (after.block id).fields = (before.block id).fields := by
  unfold Block.fields
  rw [steady.blockRows]

theorem wiring (id : WiringId) : after.wiring id = before.wiring id := by
  unfold Editor.wiring
  rw [steady.wirings]

theorem connectionKey (id : ConnectionId) :
    (after.connection id).key = (before.connection id).key :=
  (congrArg Connection.key (steady.connection id) :)

theorem connectionBlock (id : ConnectionId) :
    (after.connection id).block = (before.connection id).block :=
  (congrArg Connection.block (steady.connection id) :)

theorem connectionTarget (id : ConnectionId) :
    (after.connection id).target = (before.connection id).target :=
  (congrArg Connection.target (steady.connection id) :)

theorem fieldName (id : FieldId) :
    (after.field id).name = (before.field id).name :=
  (congrArg Field.name (steady.field id) :)

theorem fieldValue (id : FieldId) :
    (after.field id).value = (before.field id).value :=
  (congrArg Field.value (steady.field id) :)

theorem fieldBlock (id : FieldId) :
    (after.field id).block = (before.field id).block :=
  (congrArg Field.block (steady.field id) :)

theorem fieldKind (id : FieldId) :
    (after.field id).kind.bare = (before.field id).kind.bare :=
  (congrArg Field.kind (steady.field id) :)

theorem registry (id : WorkspaceId) :
    (after.workspace id).registry = (before.workspace id).registry :=
  (congrArg Workspace.registry (steady.workspace id) :)

theorem workspaceEngine (id : WorkspaceId) :
    (after.workspace id).engine = (before.workspace id).engine :=
  (congrArg Workspace.engine (steady.workspace id) :)

theorem extensions (id : WorkspaceId) :
    (after.workspace id).extensions = (before.workspace id).extensions :=
  (congrArg Workspace.extensions (steady.workspace id) :)

theorem config (id : EngineId) :
    (after.engine id).config = (before.engine id).config :=
  (congrArg (fun engine : Engine => engine.config) (steady.engine id) :)

theorem recorded (id : EngineId) :
    (after.engine id).wirings = (before.engine id).wirings :=
  (congrArg (fun engine : Engine => engine.wirings) (steady.engine id) :)

theorem stack (id : EngineId) :
    (after.engine id).guard.stack = (before.engine id).guard.stack :=
  (congrArg (fun engine : Engine => engine.guard.stack) (steady.engine id) :)

theorem active (id : EngineId) :
    (after.engine id).guard.active = (before.engine id).guard.active :=
  (congrArg (fun engine : Engine => engine.guard.active) (steady.engine id) :)

theorem liveSubscriptions (id : EngineId) :
    (after.engine id).stats.liveSubscriptions =
      (before.engine id).stats.liveSubscriptions :=
  (congrArg (fun engine : Engine => engine.stats.liveSubscriptions)
    (steady.engine id) :)

theorem known (slot : Slot) : after.Known slot ↔ before.Known slot := by
  cases slot with
  | connection connection =>
      exact OrderedMap.contains_congr steady.connectionKeys connection
  | field field => exact OrderedMap.contains_congr steady.fieldKeys field

theorem fieldKey (id : FieldId) : after.fieldKey id = before.fieldKey id := by
  unfold Editor.fieldKey
  simp only [steady.fieldBlock, steady.fieldName, steady.blockId]

theorem slotKey (slot : Slot) : after.slotKey slot = before.slotKey slot := by
  cases slot with
  | connection connection => simp only [Editor.slotKey, steady.connectionKey]
  | field field => exact steady.fieldKey field

theorem connectionWorkspace (id : ConnectionId) :
    after.connectionWorkspace id = before.connectionWorkspace id := by
  simp only [Editor.connectionWorkspace, steady.connectionBlock,
    steady.blockWorkspace]

end Steady

section Writes

variable (editor : Editor σ)

theorem steady_outer (outer : σ) : Steady editor { editor with outer } :=
  { Steady.refl editor with }

theorem steady_updateStats (id : EngineId) (change : Stats → Stats)
    (keeps : ∀ stats, (change stats).subscriptions = stats.subscriptions ∧
      (change stats).released = stats.released) :
    Steady editor (editor.updateStats id change) :=
  { Steady.refl editor with
    engine := by
      intro other
      rw [updateStats, engine_updateEngine]
      by_cases here : id = other
      · subst here
        simp [Engine.bare, keeps]
      · simp [here] }

theorem steady_setCheck {connection : ConnectionId} (check : Check)
    (known : editor.connections.contains connection) :
    Steady editor (editor.setCheck connection check) :=
  { Steady.refl editor with
    connectionKeys := OrderedMap.keys_insert_of_contains _ known
    connection := by
      intro other
      rw [setCheck, connection_updateConnection]
      by_cases here : connection = other
      · subst here
        simp [Connection.bare]
      · simp [here] }

theorem steady_setKind {field : FieldId} {previous : Check} (check : Check)
    (known : editor.fields.contains field)
    (isReference : (editor.field field).kind = .reference previous) :
    Steady editor (editor.updateField field fun entry =>
      { entry with kind := .reference check }) :=
  { Steady.refl editor with
    fieldKeys := OrderedMap.keys_insert_of_contains _ known
    field := by
      intro other
      rw [field_updateField]
      by_cases here : field = other
      · subst here
        simp [Field.bare, FieldKind.bare, isReference]
      · simp [here] }

theorem steady_resetTypes {slot : Slot} (check : Check)
    (known : editor.Known slot) :
    Steady editor (editor.resetTypes slot check) := by
  cases slot with
  | connection connection => exact steady_setCheck editor check known
  | field field =>
      simp only [resetTypes, resetFieldTypes]
      split
      · rename_i previous isReference
        exact steady_setKind editor check known isReference
      · exact Steady.refl editor

@[simp] theorem workspace_setVariables (id other : WorkspaceId)
    (store : Variables) :
    (editor.setVariables id store).workspace other =
      if id = other then { editor.workspace id with
        variableIndex := store.index }
      else editor.workspace other := by
  simp [setVariables, workspace, updateWorkspace]

theorem variablesOf_setVariables (id : WorkspaceId) (store : Variables) :
    (editor.setVariables id store).variablesOf id = store := by
  unfold variablesOf
  rw [workspace_setVariables, if_pos rfl]
  rfl

/-- Retyping a filed variable moves nothing but that variable. -/
theorem steady_retype (id : WorkspaceId) {place : VariableId}
    (request : TypeRequest)
    (filed : place ∈ Variables.places (editor.workspace id).variableIndex)
    (known : editor.pool.contains place) :
    Steady editor
      (editor.setVariables id
        ((editor.variablesOf id).retype place request).2) := by
  have refiled := Variables.refiled_retype (editor.variablesOf id) place request
  have index : ∀ other, ((editor.setVariables id
      ((editor.variablesOf id).retype place request).2).workspace
      other).variableIndex =
        if id = other then ((editor.variablesOf id).retype place
          request).2.index
        else (editor.workspace other).variableIndex := by
    intro other
    by_cases here : id = other <;> simp [here]
  refine { Steady.refl editor with
    workspace := ?_, poolKeys := ?_, variableId := ?_, filed :=
      ?_, indexKeys := ?_,
    named := ?_ }
  · intro other
    by_cases here : id = other
    · subst here
      simp [Workspace.bare]
    · simp [here]
  · change ((editor.variablesOf id).retype place request).2.pool.keys = _
    rcases Variables.pool_retype (editor.variablesOf id) place request with same
      | ⟨types, written⟩
    · rw [same]
      rfl
    · rw [written]
      exact OrderedMap.keys_insert_of_contains _ known
  · intro other
    exact Variables.id_retype (editor.variablesOf id) place request other
  · intro other found member
    rw [index] at member
    by_cases here : id = other
    · subst here
      rw [if_pos rfl] at member
      rcases refiled.member found member with isPlace | earlier
      · subst isPlace
        exact filed
      · exact earlier
    · rwa [if_neg here] at member
  · intro other distinct
    rw [index]
    by_cases here : id = other
    · subst here
      rw [if_pos rfl]
      exact refiled.distinct distinct
    · rwa [if_neg here]
  · intro other text distinct
    by_cases here : id = other
    · subst here
      rw [variablesOf_setVariables]
      exact Variables.findById?_retype_eq_none_iff request distinct filed text
    · have sameIndex := index other
      rw [if_neg here] at sameIndex
      rw [Variables.findById?_eq_none_iff, Variables.findById?_eq_none_iff]
      refine forall_congr' fun found => ?_
      change (found ∈ Variables.places ((editor.setVariables id
        ((editor.variablesOf id).retype place request).2).workspace
        other).variableIndex → _) ↔ _
      rw [sameIndex]
      refine imp_congr_right fun _ => not_congr ?_
      have sameId := Variables.id_retype (editor.variablesOf id)
        place request found
      exact ⟨sameId.symm.trans, sameId.trans⟩

end Writes

end Editor

end TypeFlow
