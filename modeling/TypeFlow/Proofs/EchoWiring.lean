import TypeFlow.Proofs.ChainLimit

/-!
# Wiring an echo

A block is declared to be an echo when its output asks for the types of its
input.  Wiring it binds the output to the input.  As long as the input gets no
types, the output is left without types as well.
-/

namespace TypeFlow

/-- What an engine finds on a block that is declared to be an echo. -/
def Echo.target (echo : Echo) : Target :=
  ⟨.connection echo.output, ["From:IN"], ⟨[⟨"IN", none, none⟩], [], []⟩,
    "connection 'output'"⟩

/-- The output is to follow the input. -/
def Echo.plan (echo : Echo) : Plan :=
  ⟨echo.target, [⟨⟨"IN", none, none⟩, .connection echo.input⟩]⟩

namespace Editor

variable {σ : Type} {engine : EngineId} {editor : Editor σ} {echo : Echo}
  {react : Reaction σ} {raised : Fault → Editor σ → Prop}

/-- The block asks to be an echo, is linked to nothing and is not wired yet. -/
structure Declares (engine : EngineId) (editor : Editor σ)
    (echo : Echo) : Prop where
  output : (editor.block echo.block).output = some echo.output
  rows : (editor.block echo.block).rows =
    [{ name := "IN", connection := some echo.input }]
  unrestricted : (editor.connection echo.input).check = none
  declared : (editor.connection echo.output).check = some ["From:IN"]
  inputFree : (editor.connection echo.input).target = none
  outputFree : (editor.connection echo.output).target = none
  unwired : editor.liveWiringFor? engine echo.block = none
  next : echo.wiring = editor.nextWiring

section Scanned

theorem Declares.targets (declares : editor.Declares engine echo)
    (lead : (editor.engine engine).config.lead = "From:") :
    editor.targetsFor engine echo.block = [echo.target] := by
  have parsed : Declared.ofTypes "From:" ["From:IN"] =
      ⟨[⟨"IN", none, none⟩], [], []⟩ := by
    decide +kernel
  have atOutput : Target.ofCheck? "From:" (.connection echo.output)
      "connection 'output'" (some ["From:IN"]) = some echo.target := by
    simp only [Target.ofCheck?, Check.types, Option.getD_some, parsed]
    rfl
  have atInput : ∀ label, Target.ofCheck? "From:" (.connection echo.input) label
      none = none :=
    fun _ => rfl
  simp only [targetsFor, lead, Editor.targets, Block.fields, declares.output,
    declares.rows, Option.bind_some, declares.declared, declares.unrestricted,
    List.filterMap_cons, atInput]
  exact congrArg (fun target => target.toList ++ [] ++ []) atOutput

theorem Declares.plan (declares : editor.Declares engine echo) :
    editor.plan echo.block echo.target = echo.plan := by
  have source : editor.findSource? echo.block "IN" =
      some (.connection echo.input) := by
    simp [findSource?, findField?, Block.fields, declares.rows, Block.row?]
  simp only [Editor.plan, Echo.plan, Echo.target, List.filterMap_cons, source,
    Option.map_some, List.filterMap_nil]

end Scanned

/-- A connection was left without types.  Guards and counters may have changed
besides. -/
structure Blanked (output : ConnectionId) (before after : Editor σ) : Prop where
  blocks : after.blocks = before.blocks
  wirings : after.wirings = before.wirings
  workspaces : after.workspaces = before.workspaces
  connections : after.connections = (before.setCheck output none).connections

section Blanked

variable {output : ConnectionId} {before after : Editor σ}
  (blanked : Blanked output before after)

include blanked

theorem Blanked.connection (id : ConnectionId) :
    after.connection id =
      if output = id then { before.connection output with check := none }
      else before.connection id := by
  rw [Editor.connection, blanked.connections]
  exact connection_updateConnection before output id _

theorem Blanked.connection_eq
    (blank : (before.connection output).check = none) (id : ConnectionId) :
    after.connection id = before.connection id := by
  rw [blanked.connection]
  split
  · rename_i same
    rw [← same, ← blank]
  · rfl

theorem Blanked.block (id : BlockId) :
    after.block id = before.block id := by
  rw [Editor.block, blanked.blocks, Editor.block]

theorem Blanked.wiring (id : WiringId) :
    after.wiring id = before.wiring id := by
  rw [Editor.wiring, blanked.wirings, Editor.wiring]

theorem Blanked.size (known : before.connections.contains output) :
    after.connections.size = before.connections.size := by
  rw [blanked.connections]
  exact OrderedMap.size_insert_of_contains _ known

end Blanked

section Unfed

/-- Nobody is called when a connection that has no types, or is free, is left
without types. -/
theorem leads_setConnectionTypes_none {connection : ConnectionId}
    (quiet : (editor.connection connection).check = none ∨
      (editor.connection connection).target = none) {returned : Bool →
        Editor σ → Prop}
    (written : ∀ changed, returned changed (editor.setCheck connection none)) :
    Leads (setConnectionTypes react connection none) editor returned
      raised := by
  simp only [setConnectionTypes, leads_bind, leads_look, leads_modify]
  split
  · exact written false
  · rename_i differs
    rcases quiet with blank | free
    · rw [blank] at differs
      exact absurd rfl differs
    · rw [free]
      exact written true

/-- An echo whose input gets no types is left without types. -/
theorem leads_recompute_unfed
    (serves : (editor.wiring echo.wiring).engine = engine)
    (bound : ∃ label, (editor.wiring echo.wiring).bindings.get?
      (editor.connection echo.output).key = some (echo.binding label))
    (inactive : (editor.engine engine).guard.active = [])
    (room : ((editor.engine engine).guard.depth : Int) <
      (editor.engine engine).guard.maxDepth)
    (unfed : editor.provides (.connection echo.input) = .ok [])
    (quiet : (editor.connection echo.output).check = none ∨
      (editor.connection echo.output).target = none) :
    Leads (recompute react echo.wiring (editor.connection echo.output).key)
      editor
      (fun _ after => Blanked echo.output editor after) (fun _ _ => False) := by
  apply leads_recompute_echo serves bound unfed
  · intro current _ blanked
    exact ⟨blanked.blocks, blanked.wirings, blanked.workspaces,
      blanked.connections⟩
  · exact fun _ _ _ => id
  · intro entered _
    have stillQuiet : (((editor.setGuard engine entered).updateStats engine
        (·.countRecompute entered.depth)).connection echo.output).check = none ∨
          (((editor.setGuard engine entered).updateStats engine
            (·.countRecompute entered.depth)).connection
            echo.output).target = none :=
      quiet
    apply leads_setConnectionTypes_none stillQuiet
    intro _
    exact ⟨rfl, rfl, rfl, rfl⟩
  · intro fault fails
    rw [Guard.enter_of_room (by rw [inactive]; exact List.not_mem_nil) room]
      at fails
    cases fails

end Unfed

/-- The state after the binding of an echo was installed. -/
def installed (editor : Editor σ) (workspace : WorkspaceId)
    (engine : EngineId) (echo : Echo) (label : String) : Editor σ :=
  ((editor.addBinding echo.wiring (editor.connection echo.output).key
    (echo.binding label)).updateStats engine
      fun stats => { stats with bindings := stats.bindings + 1 }).addListener
      workspace engine
        echo.wiring (editor.connection echo.output).key
          (editor.connection echo.input).key

section Installed

variable (editor : Editor σ) (workspace : WorkspaceId)
  (engine : EngineId) (echo : Echo) (label : String)

theorem install_echo (react : Reaction σ) :
    ∃ label, install react engine echo.block echo.wiring echo.plan editor =
      (.ok (), editor.installed (editor.connectionWorkspace echo.input) engine
        echo label) :=
  ⟨(editor.block echo.block).text ++ " " ++ echo.target.label, rfl⟩

theorem engine_updateStats (id : EngineId) (change : Stats → Stats) :
    ∃ stats, (editor.updateStats engine change).engine id =
      { editor.engine id with stats } := by
  rw [updateStats, engine_updateEngine]
  split
  · rename_i same
    rw [same]
    exact ⟨_, rfl⟩
  · exact ⟨_, rfl⟩

theorem engine_addListener (wiring : WiringId) (key source : SlotKey)
    (id : EngineId) :
    ∃ stats, (editor.addListener workspace engine wiring key source).engine id =
      { editor.engine id with stats } :=
  engine_updateStats _ engine id _

theorem engine_installed (id : EngineId) :
    ∃ stats, (editor.installed workspace engine echo label).engine id =
      { editor.engine id with stats } := by
  obtain ⟨counted, isCounted⟩ :=
    engine_updateStats (editor.addBinding echo.wiring
    (editor.connection echo.output).key (echo.binding label)) engine id
    fun stats => { stats with bindings := stats.bindings + 1 }
  obtain ⟨stats, isEngine⟩ := engine_addListener _ workspace engine echo.wiring
    (editor.connection echo.output).key (editor.connection echo.input).key id
  refine ⟨stats, isEngine.trans ?_⟩
  rw [isCounted]
  rfl

theorem bare_wiring_installed (id : WiringId) :
    ((editor.installed workspace engine echo label).wiring id).bare =
      if echo.wiring = id then
        { (editor.wiring echo.wiring).bare with
          bindings := (editor.wiring echo.wiring).bindings.insert
            (editor.connection echo.output).key (echo.binding label) }
      else (editor.wiring id).bare := by
  rw [installed, bare_wiring_addListener, wiring_updateStats, addBinding,
    wiring_updateWiring]
  split
  · rfl
  · rfl

theorem registered_installed (id : WorkspaceId) :
    ((editor.installed workspace engine echo label).workspace id).blocks =
      (editor.workspace id).blocks :=
  OrderedMap.read_getD_insert Workspace.blocks rfl

theorem keys_installed (known : editor.wirings.contains echo.wiring) :
    (editor.installed workspace engine echo label).wirings.keys =
      editor.wirings.keys := by
  have bound :
      (editor.addBinding echo.wiring (editor.connection echo.output).key
      (echo.binding label)).wirings.keys = editor.wirings.keys :=
    OrderedMap.keys_insert_of_contains _ known
  refine (OrderedMap.keys_insert_of_contains _ ?_).trans bound
  exact (OrderedMap.contains_congr bound echo.wiring).mpr known

end Installed

/-- The echo has got a wiring with its binding, and nothing else is new. -/
structure Binds (engine : EngineId) (echo : Echo) (before after : Editor σ) :
    Prop where
  blocks : after.blocks = before.blocks
  connections : after.connections = before.connections
  registered : ∀ id, (after.workspace id).blocks = (before.workspace id).blocks
  keys : after.wirings.keys =
    (before.beginWiring engine echo.block .live).wirings.keys
  earlier : ∀ id, echo.wiring ≠ id →
    (after.wiring id).bare = (before.wiring id).bare
  entry : ∃ label, (after.wiring echo.wiring).bare =
    { block := echo.block
      mode := .live
      engine
      bindings := ⟨[((before.connection echo.output).key, echo.binding label)]⟩
        }
  engineOf : ∃ stats, after.engine engine = { before.engine engine with stats }

section Wired

variable {bound : Editor σ}

/-- An echo reads no field, so it is on no circle. -/
theorem leads_rejectCycle_echo (block : BlockId)
    {returned : Unit → Editor σ → Prop} (passed : returned () editor) :
    Leads (rejectCycle engine block [echo.plan]) editor returned raised := by
  have edges : [echo.plan].mapM editor.planEdges = .ok [[]] := rfl
  simp only [rejectCycle, leads_bind, leads_lookup, edges]
  refine ⟨?_, by simp⟩
  intro found isFound
  cases isFound
  exact passed

/-- Installing the binding of an echo in a new wiring. -/
theorem binds_installed (next : echo.wiring = editor.nextWiring)
    (change : Stats → Stats) (workspace : WorkspaceId) (label : String) :
    Binds engine echo editor
      (((editor.beginWiring engine echo.block .live).updateStats engine
        change).installed workspace engine echo label) := by
  constructor
  case blocks => rfl
  case connections => rfl
  case registered =>
    intro id
    rw [registered_installed]
    rfl
  case keys =>
    apply keys_installed
    exact (OrderedMap.contains_insert _ _ _ _).mpr (Or.inl next.symm)
  case earlier =>
    intro id differs
    rw [bare_wiring_installed, if_neg differs, wiring_updateStats,
      wiring_beginWiring, if_neg (next ▸ differs)]
  case entry =>
    refine ⟨label, ?_⟩
    rw [bare_wiring_installed, if_pos rfl, wiring_updateStats,
      wiring_beginWiring, if_pos next.symm]
    rfl
  case engineOf =>
    obtain ⟨stats, isEngine⟩ :=
      engine_installed ((editor.beginWiring engine echo.block
      .live).updateStats engine change) workspace engine echo label engine
    obtain ⟨counted, isCounted⟩ :=
      engine_updateStats (editor.beginWiring engine echo.block .live)
      engine engine change
    refine ⟨stats, isEngine.trans ?_⟩
    rw [isCounted]
    rfl

theorem leads_install_echo (next : echo.wiring = editor.nextWiring)
    {change : Stats → Stats} {returned : Unit → Editor σ → Prop}
    (done : ∀ bound, Binds engine echo editor bound → returned () bound) :
    Leads (install react engine echo.block echo.wiring echo.plan)
      ((editor.beginWiring engine echo.block .live).updateStats engine change)
        returned raised := by
  obtain ⟨label, installs⟩ :=
    install_echo ((editor.beginWiring engine echo.block
    .live).updateStats engine change) engine echo react
  rw [leads_of_run installs]
  exact done _ (binds_installed next change _ label)

section Wire

variable (declares : editor.Declares engine echo)
  (room : ((editor.engine engine).guard.depth : Int) <
    (editor.engine engine).guard.maxDepth)
  (inactive : (editor.engine engine).guard.active = [])

include declares room inactive

/-- The first recomputation finds no types. -/
theorem Binds.leads_recomputeAll (binds : Binds engine echo editor bound) :
    Leads (recomputeAll react echo.wiring) bound
      (fun _ after => Blanked echo.output bound after) (fun _ _ => False) := by
  obtain ⟨label, isEntry⟩ := binds.entry
  obtain ⟨stats, isEngine⟩ := binds.engineOf
  have connection : ∀ id, bound.connection id = editor.connection id := by
    intro id
    rw [Editor.connection, binds.connections, Editor.connection]
  have bindings : (bound.wiring echo.wiring).bindings =
      ⟨[((bound.connection echo.output).key, echo.binding label)]⟩ := by
    rw [connection]
    exact (congrArg Wiring.bindings isEntry :)
  have serves : (bound.wiring echo.wiring).engine = engine :=
    (congrArg Wiring.engine isEntry :)
  have unfed : bound.provides (.connection echo.input) = .ok [] := by
    simp only [provides, connection, declares.inputFree]
  have recomputed :
      Leads (recompute react echo.wiring (bound.connection echo.output).key)
        bound
      (fun _ after => Blanked echo.output bound after) (fun _ _ => False) := by
    apply leads_recompute_unfed serves _ _ _ unfed
    · rw [connection]
      exact Or.inr declares.outputFree
    · refine ⟨label, ?_⟩
      rw [bindings]
      simp [OrderedMap.get?, OrderedMap.lookup]
    · rw [isEngine]
      exact inactive
    · rw [isEngine]
      exact room
  simp only [recomputeAll, leads_bind, leads_look, bindings]
  change Leads (recomputeEach react echo.wiring
    [(bound.connection echo.output).key]) bound _ _
  simp only [recomputeEach, leads_bind, leads_pure]
  exact recomputed

/-- The binding is installed in the new wiring and recomputed. -/
theorem Declares.leads_wireLive
    (recomputes : (editor.engine engine).config.initialRecompute = true) :
    Leads (wireLive react engine echo.block echo.wiring [echo.target])
      (editor.beginWiring engine echo.block .live)
      (fun _ after => ∃ bound, Binds engine echo editor bound ∧
        Blanked echo.output bound after)
      (fun _ _ => False) := by
  have plan : (editor.beginWiring engine echo.block .live).plan
      echo.block echo.target =
      echo.plan :=
    declares.plan
  simp only [wireLive, leads_bind, leads_look, leads_modify, List.map_cons,
    List.map_nil, plan]
  apply leads_rejectCycle_echo
  change Leads (install react engine echo.block echo.wiring echo.plan >>=
    fun _ => pure ()) _ _ _
  simp only [leads_bind, leads_pure]
  apply leads_install_echo declares.next
  intro bound binds
  obtain ⟨stats, isEngine⟩ := binds.engineOf
  have initially : (bound.engine engine).config.initialRecompute = true := by
    rw [isEngine]
    exact recomputes
  rw [if_pos initially, leads_discard]
  apply Leads.imp (binds.leads_recomputeAll declares room inactive)
  intro _ after blanked
  exact ⟨bound, binds, blanked⟩

/-- A block that is declared to be an echo becomes one when it is wired. -/
theorem Declares.leads_wire
    (lead : (editor.engine engine).config.lead = "From:")
    (recomputes : (editor.engine engine).config.initialRecompute = true) :
    Leads (wire react engine echo.block .live) editor
      (fun _ after => ∃ bound, Binds engine echo editor bound ∧
        Blanked echo.output bound after)
      (fun _ _ => False) := by
  have targets : editor.targets (editor.engine engine).config.lead echo.block =
      [echo.target] :=
    declares.targets lead
  have begins : newWiring engine echo.block .live editor =
      (.ok echo.wiring, editor.beginWiring engine echo.block .live) := by
    rw [declares.next]
    rfl
  simp only [wire, leads_bind, leads_look, declares.unwired, targets,
    leads_of_run begins, List.isEmpty_cons, Bool.false_eq_true, if_false,
    wireLiveOrUndo, leads_tryCatch, leads_modify, leads_pure]
  apply Leads.mono (declares.leads_wireLive room inactive recomputes)
  · rintro _ after ⟨bound, binds, blanked⟩
    exact ⟨bound, binds, blanked.blocks, blanked.wirings, blanked.workspaces,
      blanked.connections⟩
  · exact fun _ _ => False.elim

end Wire

end Wired

end Editor

end TypeFlow
