import TypeFlow.Proofs.Host.Conduct

/-!
# Reachable states

A workspace is sound when it is opened, and operations keep it sound.  So
every state that a host can reach is sound.
-/

namespace TypeFlow

theorem Settings.toSettings_of_validate {settings : Settings} {config : Config}
    (valid : settings.validate = .ok config) :
    config.toSettings = settings := by
  unfold Settings.validate at valid
  split at valid
  · cases valid
  · split at valid
    · cases valid
    · cases valid
      rfl

namespace Editor

variable {σ : Type}

section Reached

variable {settings : Settings} {workspace : WorkspaceId} {engine : EngineId}
  {editor : Editor σ} {liberties : Liberties}

/-- Nothing has been made yet. -/
structure Blank (engine : EngineId) (editor : Editor σ) : Prop where
  blocks : editor.blocks = {}
  connections : editor.connections = {}
  fields : editor.fields = {}
  wirings : editor.wirings = {}
  pool : editor.pool = {}
  index : ∀ id, (editor.workspace id).variableIndex = {}
  registry : ∀ id, (editor.workspace id).registry = {}
  unregistered : ∀ id, (editor.workspace id).blocks = {}
  records : (editor.engine engine).wirings = {}

namespace Blank

variable (blank : Blank engine editor)

include blank

theorem tables : Tables editor where
  blocks := by rw [blank.blocks]; exact OrderedMap.numbered_empty _
  connections := by rw [blank.connections]; exact OrderedMap.numbered_empty _
  fields := by rw [blank.fields]; exact OrderedMap.numbered_empty _
  wirings := by rw [blank.wirings]; exact OrderedMap.numbered_empty _
  pool := by rw [blank.pool]; exact OrderedMap.numbered_empty _

theorem block (id : BlockId) : editor.block id = default := by
  unfold Editor.block
  rw [blank.blocks]
  rfl

theorem target (id : ConnectionId) : (editor.connection id).target = none := by
  unfold Editor.connection
  rw [blank.connections]
  rfl

theorem fieldBlock (id : FieldId) : (editor.field id).block = none := by
  unfold Editor.field
  rw [blank.fields]
  rfl

theorem wiring (id : WiringId) : editor.wiring id = default := by
  unfold Editor.wiring
  rw [blank.wirings]
  rfl

theorem not_openBinding {wiring : WiringId} {key : SlotKey}
    {binding : Binding} :
    ¬ editor.OpenBinding wiring key binding := by
  intro isOpen
  have found := isOpen.2
  rw [blank.wiring] at found
  cases found

theorem layout (workspace : WorkspaceId) : Layout workspace editor := by
  have noBlock : ∀ id, ¬ editor.blocks.contains id := by
    intro id known
    rw [blank.blocks] at known
    cases known
  have noConnection : ∀ id, ¬ editor.connections.contains id := by
    intro id known
    rw [blank.connections] at known
    cases known
  refine ⟨⟨fun id known => absurd known (noConnection id),
    fun id known => absurd known (noConnection id), fun id known =>
      absurd known (noConnection id),
    ?_, ?_, ?_, ?_⟩, fun id known => absurd known (noBlock id)⟩
  · intro id connection has
    exact absurd (contains_of_output has) (noBlock id)
  · intro id row connection member _
    exact absurd (contains_of_row member) (noBlock id)
  · intro id field member
    exact absurd (contains_of_field member) (noBlock id)
  · intro field id attached
    rw [blank.fieldBlock] at attached
    cases attached

theorem wired : Wired engine none editor := by
  have noWiring : ∀ id, ¬ editor.wirings.contains id := by
    intro id known
    rw [blank.wirings] at known
    cases known
  refine ⟨fun id known => absurd known (noWiring id), fun id known =>
    absurd known (noWiring id),
    fun _ _ _ isOpen => absurd isOpen blank.not_openBinding,
    fun _ _ _ isOpen => absurd isOpen blank.not_openBinding, ?_,
    fun _ _ _ isOpen => absurd isOpen blank.not_openBinding, fun _ => nofun⟩
  intro id wiring found
  rw [blank.records] at found
  cases found

theorem heard (workspace : WorkspaceId) : Heard workspace editor := by
  refine ⟨?_, ?_, ?_, ?_, ?_⟩
  · rw [blank.registry]
    exact Registry.exact_empty
  · intro other _ key
    rw [blank.registry]
    rfl
  · intro key wiring target listed
    rw [blank.registry] at listed
    cases listed
  · intro number subscription wiring target found
    rw [blank.registry] at found
    cases found
  · intro wiring id member
    rw [blank.wiring] at member
    cases member

theorem sound (desk : Desk settings workspace engine editor) :
    Sound settings workspace engine none editor where
  tables := blank.tables
  filing := by
    constructor
    · intro id place member
      rw [blank.index] at member
      cases member
    · intro id
      rw [blank.index]
      exact List.nodup_nil
  layout := blank.layout workspace
  naming := fun id => NamedBlock.empty editor (by rw [blank.block]; rfl)
    (by rw [blank.block]; rfl)
  linking := by
    constructor
    · intro this other linked
      rw [blank.target] at linked
      cases linked
    · intro this other linked
      rw [blank.target] at linked
      cases linked
  wired := blank.wired
  heard := blank.heard workspace
  desk := desk

end Blank

/-- A workspace that was just opened. -/
theorem blank_openWorkspace {isTemplate : Bool} {outer : σ} :
    Leads (openWorkspace settings isTemplate) { outer }
      (fun workspace after => Blank ⟨0⟩ after ∧
        Desk settings workspace ⟨0⟩ after)
      (fun _ _ => True) := by
  simp only [openWorkspace, newEngine, newChecker, newCache, newWorkspace,
    leads_bind, leads_look, leads_lookup, leads_modify, leads_pure]
  refine ⟨?_, fun _ _ => True.intro⟩
  intro config valid
  let opened : Workspace :=
    { engine := ⟨0⟩, isTemplate, extensions := ⟨[(wireExtension, .wire)]⟩ }
  have workspaceOf : ∀ id, OrderedMap.getD (OrderedMap.insert
      ({} : OrderedMap WorkspaceId Workspace) ⟨0⟩ opened) id default =
        if (⟨0⟩ : WorkspaceId) = id then opened else default :=
    fun id => OrderedMap.getD_insert _ _ _ _ _
  refine ⟨⟨rfl, rfl, rfl, rfl, rfl, ?_, ?_, ?_, rfl⟩,
    rfl, rfl, Settings.toSettings_of_validate valid, rfl, rfl⟩
  · intro id
    refine (congrArg Workspace.variableIndex (workspaceOf id)).trans ?_
    split <;> rfl
  · intro id
    refine (congrArg Workspace.registry (workspaceOf id)).trans ?_
    split <;> rfl
  · intro id
    refine (congrArg Workspace.blocks (workspaceOf id)).trans ?_
    split <;> rfl

theorem reached_freshWorkspace {outside : Callbacks Unit}
    {admits : Editor Unit → HostOperation → Except Fault Unit → Editor Unit →
      Prop} :
    Reached outside admits {} ⟨0⟩ freshWorkspace := by
  have opens : (openWorkspace {} false ({ outer := () } : Editor Unit)).1 =
      .ok ⟨0⟩ := by
    decide +kernel
  exact Reached.opened (Prod.ext opens rfl)

theorem keepsOut_idle : KeepsOut (idle : Callbacks σ) :=
  fun _ editor => ⟨editor.outer, rfl⟩

section Run

variable {outside : Callbacks σ} (keepsOut : KeepsOut outside)
  {admits : Editor σ → HostOperation → Except Fault Unit → Editor σ → Prop}

include keepsOut

/-- Whatever a host does to a sound workspace is a course of elementary changes.
-/
theorem Sound.course_of_run {before after : Editor σ}
    (sound : Sound settings workspace engine none before)
    {operation : HostOperation} {limit : Nat} {outcome : Except Fault Unit}
    (refers : operation.Refers workspace before)
    (within : operation.Within liberties before)
    (run : operation.perform (reaction outside limit) limit workspace before =
      (outcome, after)) :
    Course liberties workspace engine (none, before) (none, after) :=
  Ends.holds (course_perform sound (ripplesOnly_reaction keepsOut limit) limit
    refers within) run

/-- Every state that a host can reach is sound. -/
theorem Reached.sound
    (reached : Reached outside admits settings workspace editor) :
    Sound settings workspace ⟨0⟩ none editor := by
  induction reached with
  | opened run =>
      obtain ⟨blank, desk⟩ := blank_openWorkspace.returns run
      exact blank.sound desk
  | @performed _ _ operation _ _ _ refers run _ sound =>
      exact (sound.course_of_run keepsOut refers operation.within_all run).sound
        sound

/-- What new workspaces have and courses of changes keep, every state has that a
host reaches within its liberties. -/
theorem Reached.keeps (good : Editor σ → Prop)
    (within : ∀ before operation outcome after, admits before operation
      outcome after →
      operation.Within liberties before)
    (opens : ∀ {isTemplate outer opened},
      openWorkspace settings isTemplate { outer } = (.ok workspace, opened) →
        good opened)
    (lasts : ∀ {before after}, Course liberties workspace ⟨0⟩
      (none, before) (none, after) →
      Sound settings workspace ⟨0⟩ none before → good before → good after)
    (reached : Reached outside admits settings workspace editor) :
    good editor := by
  induction reached with
  | opened run => exact opens run
  | performed reached refers run admitted holds =>
      have sound := reached.sound keepsOut
      exact lasts (sound.course_of_run keepsOut refers (within _ _ _ _ admitted)
        run) sound holds

end Run

end Reached

end Editor

end TypeFlow
