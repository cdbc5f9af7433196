import TypeFlow.Editor.Block
import TypeFlow.Editor.Setup
import TypeFlow.Variable.Command

/-!
# Operations of a host on a workspace

A host opens a workspace with one engine and then makes blocks, fields and
variables, links connections, sets values and checks, wires blocks and takes
them apart.  `Reached` are the states that such a host can bring about.
-/

namespace TypeFlow

/-- What a host may ask for. -/
inductive HostOperation where
  | newBlock (type : String) (id : Option String) (extensions : List String)
  | removeBlock (block : BlockId)
  | setOutput (block : BlockId) (check : Check)
  | appendInput (block : BlockId) (name : String) (check : Check)
  | appendDummyInput (block : BlockId) (name : String)
  | newField (name : String) (kind : FieldKind) (value : FieldValue)
  | appendField (block : BlockId) (place : Nat) (field : FieldId)
  | createVariable (name : String) (request : TypeRequest) (id : Option String)
  | initBlock (block : BlockId)
  | wire (block : BlockId) (mode : WiringMode)
  | releaseWiring (block : BlockId)
  | disposeWiring (wiring : WiringId)
  | disposeBlock (block : BlockId)
  | connect (this other : ConnectionId)
  | disconnect (connection : ConnectionId)
  | setValue (field : FieldId) (value : FieldValue)
  | setTypes (slot : Slot) (check : Check)
  | listen (slot : Slot) (callback : CallbackId)
  | unlisten (subscription : SubscriptionId)

namespace Editor

variable {σ : Type}

/-- The slot is one of those made so far. -/
def Known (editor : Editor σ) : Slot → Prop
  | .connection connection => editor.connections.contains connection
  | .field field => editor.fields.contains field

/-- Opens a workspace with an engine of its own. -/
def openWorkspace (settings : Settings) (isTemplate : Bool) :
    EditM σ WorkspaceId := do
  let engine ← newEngine { settings }
  newWorkspace (some engine) isTemplate

/-- Asks for a variable of a workspace. -/
def createVariable (workspace : WorkspaceId) (name : String)
    (request : TypeRequest) (id : Option String) : EditM σ Unit := do
  let editor ← get
  let desk : VariableDesk :=
    { store := editor.variablesOf workspace
      drawn := editor.drawn }
  let result := desk.run (.create name request id none)
  set { editor.setVariables workspace result.2.store with
      drawn := result.2.drawn }
  discard (lookup fun _ => result.1)

end Editor

namespace HostOperation

open Editor (look)

variable {σ : Type}

/-- Carries out an operation on a workspace, given how listeners are called.
`limit` bounds how many rows are met while a block is taken apart. -/
def perform (react : Reaction σ) (limit : Nat) (workspace : WorkspaceId) :
    HostOperation → EditM σ Unit
  | .newBlock type id extensions =>
      discard (Editor.newBlock workspace type id extensions)
  | .removeBlock block => modify (·.removeBlock workspace block)
  | .setOutput block check => discard (Editor.setOutput block check)
  | .appendInput block name check =>
      discard (Editor.appendInput block name check)
  | .appendDummyInput block name => discard (Editor.appendDummyInput block name)
  | .newField name kind value => discard (Editor.newField { name, kind, value })
  | .appendField block place field => Editor.appendField block place field
  | .createVariable name request id =>
      Editor.createVariable workspace name request id
  | .initBlock block => Editor.initBlock react block
  | .wire block mode => do
      let engine ← look fun editor => (editor.workspace workspace).engine
      discard (Editor.wire react engine block mode)
  | .releaseWiring block => do
      let engine ← look fun editor => (editor.workspace workspace).engine
      discard (Editor.releaseWiring engine block)
  | .disposeWiring wiring => discard (Editor.disposeWiring wiring)
  | .disposeBlock block => Editor.disposeBlock react limit block
  | .connect this other => Editor.connect react this other
  | .disconnect connection => Editor.disconnect react connection
  | .setValue field value => Editor.setValue react field value
  | .setTypes slot check => discard (Editor.setTypes react slot check)
  | .listen slot callback =>
      discard (Editor.subscribe slot (.callback callback))
  | .unlisten subscription => modify (·.releaseSubscription subscription)

/-- The things an operation names are there, and a host ends only
subscriptions of its own. -/
def Refers (workspace : WorkspaceId) (editor : Editor σ) : HostOperation → Prop
  | .newBlock .. | .newField .. | .createVariable .. => True
  | .removeBlock block | .setOutput block _ | .appendInput block _ _
  | .appendDummyInput block _ | .initBlock block | .wire block _
  | .releaseWiring block
  | .disposeBlock block => editor.blocks.contains block
  | .appendField block place field =>
      editor.blocks.contains block ∧ place < (editor.block block).rows.length ∧
        editor.fields.contains field
  | .disposeWiring wiring => editor.wirings.contains wiring
  | .connect this other =>
      editor.connections.contains this ∧ editor.connections.contains other
  | .disconnect connection => editor.connections.contains connection
  | .setValue field _ => editor.fields.contains field
  | .setTypes slot _ | .listen slot _ => editor.Known slot
  | .unlisten subscription =>
      subscription.workspace = workspace ∧
        ∃ entry callback, editor.subscription? subscription = some entry ∧
          entry.listener = .callback callback

instance decidableRefers (workspace : WorkspaceId) (editor : Editor σ) :
    (operation : HostOperation) → Decidable (operation.Refers workspace editor)
  | .newBlock .. | .newField .. | .createVariable .. => isTrue trivial
  | .removeBlock block | .setOutput block _ | .appendInput block _ _
  | .appendDummyInput block _ | .initBlock block | .wire block _
  | .releaseWiring block
  | .disposeBlock block =>
      inferInstanceAs (Decidable (editor.blocks.contains block = true))
  | .appendField block place field =>
      inferInstanceAs (Decidable (editor.blocks.contains block = true ∧
        place < (editor.block block).rows.length ∧
        editor.fields.contains field = true))
  | .disposeWiring wiring =>
      inferInstanceAs (Decidable (editor.wirings.contains wiring = true))
  | .connect this other =>
      inferInstanceAs (Decidable (editor.connections.contains this = true ∧
        editor.connections.contains other = true))
  | .disconnect connection =>
      inferInstanceAs
        (Decidable (editor.connections.contains connection = true))
  | .setValue field _ =>
      inferInstanceAs (Decidable (editor.fields.contains field = true))
  | .setTypes (.connection connection) _ | .listen (.connection connection) _ =>
      inferInstanceAs
        (Decidable (editor.connections.contains connection = true))
  | .setTypes (.field field) _ | .listen (.field field) _ =>
      inferInstanceAs (Decidable (editor.fields.contains field = true))
  | .unlisten subscription =>
      match found : editor.subscription? subscription with
      | none => isFalse (by rintro ⟨_, entry, _, has, _⟩; simp [found] at has)
      | some entry =>
          match isListener : entry.listener with
          | .callback callback =>
              if here : subscription.workspace = workspace then
                isTrue ⟨here, entry, callback, found, isListener⟩
              else isFalse fun refers => here refers.1
          | .recompute .. =>
              isFalse (by
                rintro ⟨_, other, _, has, isCallback⟩
                rw [found] at has
                cases has
                rw [isListener] at isCallback
                cases isCallback)

end HostOperation

/-- What a host may do beyond the plain use of a workspace. -/
structure Liberties where
  /-- A field that is attached to a block may be appended to another one. -/
  moves : Prop
  /-- Callbacks may listen to slots. -/
  listens : Prop
  /-- A block that has an output may be given another one. -/
  replaces : Prop
  /-- There may be variable fields. -/
  refers : Prop

/-- Everything is allowed. -/
abbrev Liberties.all : Liberties := ⟨True, True, True, True⟩

/-- Fields stay on their blocks and only engines listen. -/
abbrev Liberties.plain : Liberties := ⟨False, False, True, True⟩

/-- In addition, outputs stay and there are no variable fields. -/
abbrev Liberties.strict : Liberties := ⟨False, False, False, False⟩

/-- An operation takes no liberty that is not given. -/
def HostOperation.Within {σ : Type} (liberties : Liberties)
    (editor : Editor σ) :
    HostOperation → Prop
  | .appendField _ _ field =>
      liberties.moves ∨ (editor.field field).block = none
  | .listen .. | .unlisten .. => liberties.listens
  | .setOutput block _ =>
      liberties.replaces ∨ (editor.block block).output = none
  | .newField _ kind _ => liberties.refers ∨ ∀ types, kind ≠ .reference types
  | _ => True

theorem HostOperation.within_all {σ : Type} {editor : Editor σ}
    (operation : HostOperation) :
    operation.Within Liberties.all editor := by
  cases operation <;> simp [HostOperation.Within]

instance HostOperation.decidableWithin {σ : Type}
    (moves listens replaces refers : Prop) [Decidable moves] [Decidable listens]
    [Decidable replaces] [Decidable refers] (editor : Editor σ) :
    (operation : HostOperation) →
      Decidable (operation.Within ⟨moves, listens, replaces, refers⟩ editor)
  | .appendField _ _ field =>
      inferInstanceAs (Decidable (moves ∨ (editor.field field).block = none))
  | .listen .. | .unlisten .. => inferInstanceAs (Decidable listens)
  | .setOutput block _ =>
      inferInstanceAs (Decidable (replaces ∨
        (editor.block block).output = none))
  | .newField _ (.reference types) _ =>
      decidable_of_iff refers ⟨Or.inl, fun within => within.elim id fun free =>
        absurd rfl (free types)⟩
  | .newField _ .text _ | .newField _ (.dropdown _) _ =>
      isTrue (Or.inr fun _ => nofun)
  | .newBlock .. | .removeBlock .. | .appendInput .. | .appendDummyInput ..
  | .createVariable .. | .initBlock .. | .wire .. | .releaseWiring ..
  | .disposeWiring ..
  | .disposeBlock .. | .connect .. | .disconnect .. | .setValue ..
  | .setTypes .. =>
      isTrue trivial

namespace Editor

variable {σ : Type}

/-- The states of a workspace after operations that were admitted, each with
its outcome.  Callbacks are run by `outside`. -/
inductive Reached (outside : Callbacks σ)
    (admits : Editor σ → HostOperation → Except Fault Unit → Editor σ → Prop)
    (settings : Settings) (workspace : WorkspaceId) : Editor σ → Prop
  | opened {outer : σ} {isTemplate : Bool} {editor : Editor σ} :
      openWorkspace settings isTemplate { outer } = (.ok workspace, editor) →
        Reached outside admits settings workspace editor
  | performed {before after : Editor σ}
      {operation : HostOperation} {limit : Nat} {outcome : Except Fault Unit} :
      Reached outside admits settings workspace before →
      operation.Refers workspace before →
      operation.perform (reaction outside limit) limit workspace before =
        (outcome, after) →
      admits before operation outcome after →
        Reached outside admits settings workspace after

/-- The outside does nothing. -/
def idle : Callbacks σ :=
  fun _ => return

/-- A workspace with default settings that was just opened. -/
def freshWorkspace : Editor Unit :=
  (openWorkspace {} false { outer := () }).2

end Editor

namespace HostOperation

variable {σ : Type}

/-- Carries out operations in turn, whatever their outcomes. -/
def performAll (outside : Callbacks σ) (limit : Nat) (workspace : WorkspaceId) :
    List HostOperation → Editor σ → Editor σ
  | [], editor => editor
  | operation :: rest, editor =>
      performAll outside limit workspace rest
        (operation.perform (Editor.reaction outside limit) limit
          workspace editor).2

/-- Each operation is admitted in its turn. -/
def AllAdmitted (outside : Callbacks σ)
    (admits : Editor σ → HostOperation → Except Fault Unit → Editor σ → Prop)
    (limit : Nat) (workspace : WorkspaceId) : List HostOperation → Editor σ →
      Prop
  | [], _ => True
  | operation :: rest, editor =>
      let result := operation.perform (Editor.reaction outside limit) limit
        workspace editor
      operation.Refers workspace editor ∧
        admits editor operation result.1 result.2 ∧
        AllAdmitted outside admits limit workspace rest result.2

instance decidableAllAdmitted (outside : Callbacks σ)
    (admits : Editor σ → HostOperation → Except Fault Unit → Editor σ → Prop)
    [∀ before operation outcome after,
      Decidable (admits before operation outcome after)]
    (limit : Nat) (workspace : WorkspaceId) :
    (operations : List HostOperation) → (editor : Editor σ) →
      Decidable (AllAdmitted outside admits limit workspace operations editor)
  | [], _ => isTrue trivial
  | operation :: rest, editor =>
      have later := decidableAllAdmitted outside admits limit workspace rest
        (operation.perform (Editor.reaction outside limit) limit
          workspace editor).2
      @instDecidableAnd _ _ inferInstance
        (@instDecidableAnd _ _ inferInstance later)

/-- What each admitted operation keeps, operations in turn keep. -/
theorem keeps_performAll {outside : Callbacks σ}
    {admits : Editor σ → HostOperation → Except Fault Unit → Editor σ → Prop}
    {limit : Nat} {workspace : WorkspaceId} (good : Editor σ → Prop)
    (step : ∀ {before operation outcome after},
      operation.Refers workspace before →
      operation.perform (Editor.reaction outside limit) limit workspace before =
        (outcome, after) → admits before operation outcome after →
          good before → good after)
    (operations : List HostOperation) :
    ∀ {editor : Editor σ}, good editor →
      AllAdmitted outside admits limit workspace operations editor →
        good (performAll outside limit workspace operations editor) := by
  induction operations with
  | nil =>
      intro editor holds _
      exact holds
  | cons operation rest induction =>
      intro editor holds admitted
      obtain ⟨refers, admitted, later⟩ := admitted
      exact induction (step refers rfl admitted holds) later

end HostOperation

theorem Editor.Reached.performAll {σ : Type} {outside : Callbacks σ}
    {admits : Editor σ → HostOperation → Except Fault Unit → Editor σ → Prop}
    {settings : Settings} {workspace : WorkspaceId} (limit : Nat)
    (operations : List HostOperation) :
    ∀ {editor : Editor σ}, Editor.Reached outside admits settings
      workspace editor →
      HostOperation.AllAdmitted outside admits limit workspace
        operations editor →
        Editor.Reached outside admits settings workspace
          (HostOperation.performAll outside limit workspace operations
            editor) :=
  HostOperation.keeps_performAll (Reached outside admits settings workspace)
    (fun refers run admitted reached => Reached.performed reached refers run
      admitted) operations

end TypeFlow
