import TypeFlow.Proofs.Host.Steps

/-!
# Operations as steps of editing

Whether it returns or raises, every operation of a host consists of steps of
editing, provided that the callbacks it runs keep to such steps.  The operation
may be on any of the workspaces of the editor.
-/

namespace TypeFlow.Editor

variable {σ α β : Type} {links : Prop} {editor : Editor σ}
  {react : Reaction σ} {slot : Slot} {targets : List Target}

/-- However the action ends, it did nothing but steps. -/
abbrev Proceeds (links : Prop) (action : EditM σ α) (editor : Editor σ) :
    Prop :=
  Ends action editor (Steps links editor)

/-- Listeners do nothing but steps. -/
def Stepwise (links : Prop) (react : Reaction σ) : Prop :=
  ∀ listener editor, Shaped editor → Proceeds links (react listener) editor

section Rules

theorem Proceeds.after {middle : Editor σ} {action : EditM σ α}
    (proceeds : Proceeds links action middle)
    (sofar : Steps links editor middle) :
    Ends action middle (Steps links editor) :=
  Ends.mono proceeds fun _ => sofar.trans

theorem proceeds_forM {visit : α → EditM σ PUnit} (items : List α)
    (step : ∀ item ∈ items, ∀ current, Steps links editor current →
      Proceeds links (visit item) current) :
    Proceeds links (items.forM visit) editor := by
  apply leads_forM fun _ current => Steps links editor current
  · intro item _ current member sofar
    exact (step item member current sofar).after sofar
  · exact Steps.refl editor

end Rules

section Cascade

theorem proceeds_retypeVariable (field : FieldId) (check : Check) :
    Proceeds links (retypeVariable field check) editor := by
  simp only [Ends, retypeVariable, leads_bind, leads_get]
  split
  · simp only [leads_bind, leads_set, leads_pure]
    exact Steps.aside rfl rfl rfl fun _ => rfl
  · exact Steps.refl editor

theorem steps_updateStats (editor : Editor σ) (engine : EngineId)
    (change : Stats → Stats) :
    Steps links editor (editor.updateStats engine change) :=
  Steps.aside rfl rfl rfl fun _ => rfl

theorem steps_setGuard (editor : Editor σ) (engine : EngineId) (guard : Guard) :
    Steps links editor (editor.setGuard engine guard) :=
  Steps.aside rfl rfl rfl fun _ => rfl

theorem proceeds_guarded (shaped : Shaped editor) (engine : EngineId)
    (key : SlotKey) {action : Nat → EditM σ α}
    (acts : ∀ depth current, Shaped current → Steps links editor current →
      Proceeds links (action depth) current) :
    Proceeds links (guarded engine key action) editor := by
  simp only [Ends, leads_guarded]
  constructor
  · intro entered _
    have enters : Steps links editor (editor.setGuard engine entered) :=
      steps_setGuard editor engine entered
    apply Ends.mono ((acts _ _ (enters.shaped shaped) enters).after enters)
    intro after sofar
    exact sofar.trans (steps_setGuard after engine _)
  · intro _ _
    exact Steps.refl editor

section Calls

variable (stepwise : Stepwise links react) (shaped : Shaped editor)

include stepwise shaped

theorem proceeds_notify (workspace : WorkspaceId) (key : SlotKey) :
    Proceeds links (notify react workspace key) editor := by
  simp only [Ends, notify, leads_bind, leads_look, leads_pure]
  apply proceeds_forM
  intro listener _ current sofar
  exact stepwise listener current (sofar.shaped shaped)

theorem proceeds_setConnectionTypes
    {connection : ConnectionId} (known : editor.connections.contains connection)
    (check : Check) : Proceeds links (setConnectionTypes react connection check)
      editor := by
  have written : Steps links editor
      (editor.setCheck connection check.distinct) :=
    Steps.steady (steady_setCheck editor check.distinct known)
  simp only [Ends, setConnectionTypes, leads_bind, leads_look, leads_modify]
  split
  · exact written
  · split
    · exact written
    · simp only [leads_bind, leads_look, leads_discard, leads_pure]
      exact (proceeds_notify stepwise (written.shaped shaped) _ _).after written

theorem proceeds_notifyField
    (field : FieldId) : Proceeds links (notifyField react field) editor := by
  simp only [Ends, notifyField, leads_bind, leads_look]
  split
  · exact Steps.refl editor
  · simp only [leads_bind, leads_look, leads_lookup, leads_discard]
    constructor
    · intro key _
      exact proceeds_notify stepwise shaped _ key
    · intro _ _
      exact Steps.refl editor

theorem proceeds_setFieldTypes
    {field : FieldId} (known : editor.fields.contains field) (check : Check) :
    Proceeds links (setFieldTypes react field check) editor := by
  simp only [Ends, setFieldTypes, leads_bind, leads_look]
  split
  · rename_i previous isReference
    have written : Steps links editor _ :=
      Steps.steady (steady_setKind editor check.distinct known isReference)
    simp only [leads_bind, leads_modify]
    apply Leads.mono (proceeds_retypeVariable field check)
    · intro retyped middle retypes
      have sofar := written.trans retypes
      split
      · simp only [leads_bind, leads_pure]
        exact (proceeds_notifyField stepwise (sofar.shaped shaped) field).after
          sofar
      · exact sofar
    · intro _ middle retypes
      exact written.trans retypes
  · exact Steps.refl editor

theorem proceeds_setTypes (known : editor.Known slot) (check : Check) :
    Proceeds links (setTypes react slot check) editor := by
  cases slot with
  | connection connection =>
      exact proceeds_setConnectionTypes stepwise shaped known check
  | field field => exact proceeds_setFieldTypes stepwise shaped known check

theorem proceeds_recompute (wiring : WiringId) (target : SlotKey) :
    Proceeds links (recompute react wiring target) editor := by
  simp only [Ends, recompute, leads_bind, leads_look]
  split
  · exact Steps.refl editor
  · rename_i binding found
    simp only [recomputeBinding, leads_bind, leads_lookup]
    constructor
    · intro key _
      apply proceeds_guarded shaped
      intro depth current shapedHere sofar
      have known := (sofar.outgrows shaped).known
        (shaped.bound wiring target binding found)
      simp only [Ends, leads_bind, leads_modify, leads_lookup]
      have counts : Steps links current _ :=
        steps_updateStats current (editor.wiring wiring).engine
          (·.countRecompute depth)
      constructor
      · intro check _
        apply Leads.imp ((proceeds_setTypes stepwise (counts.shaped shapedHere)
          ((counts.outgrows shapedHere).known known) check).after counts)
        intro changed middle writes
        split
        · simp only [leads_bind, leads_modify, leads_pure]
          exact writes.trans (steps_updateStats middle _ _)
        · exact writes
      · intro _ _
        exact counts
    · intro _ _
      exact Steps.refl editor

theorem proceeds_setValue
    {field : FieldId} (known : editor.fields.contains field)
    (value : FieldValue) :
    Proceeds links (setValue react field value) editor := by
  simp only [Ends, setValue, leads_bind, leads_modify]
  have sets : Steps links editor _ :=
    Steps.retouched (Retouched.setValue value known)
  exact (proceeds_notifyField stepwise (sets.shaped shaped) field).after sets

end Calls

/-- Listeners keep to steps if callbacks do, however deep they are nested. -/
theorem stepwise_reaction {outside : Callbacks σ}
    (proceeds : ∀ callback editor, Shaped editor →
      Proceeds links (outside callback) editor)
    (fuel : Nat) : Stepwise links (reaction outside fuel) := by
  induction fuel with
  | zero =>
      intro listener editor _
      exact Steps.refl editor
  | succ fuel induction =>
      intro listener editor shaped
      cases listener with
      | callback callback => exact proceeds callback editor shaped
      | recompute wiring target =>
          simp only [Ends, reaction, leads_discard]
          exact proceeds_recompute induction shaped wiring target

theorem proceeds_recomputeEach (stepwise : Stepwise links react)
    (wiring : WiringId) (targets : List SlotKey) :
    ∀ {editor : Editor σ}, Shaped editor →
      Proceeds links (recomputeEach react wiring targets) editor := by
  intro editor shaped
  refine leads_recomputeEach (fun _ => Steps links editor) ?_ targets
    (Steps.refl editor)
  intro target _ current sofar
  exact (proceeds_recompute stepwise (sofar.shaped shaped) wiring target).after
    sofar

end Cascade

section Links

variable (stepwise : Stepwise links react) (shaped : Shaped editor)

include stepwise shaped

theorem proceeds_notifyEnds
    (this other : ConnectionId) : Proceeds links (notifyEnds react this other)
      editor := by
  simp only [Ends, notifyEnds, leads_bind, leads_look, leads_discard]
  apply Leads.imp (proceeds_notify stepwise shaped _ _)
  intro _ middle first
  exact (proceeds_notify stepwise (first.shaped shaped) _ _).after first

theorem proceeds_disconnect (allowed : links) (this : ConnectionId) :
    Proceeds links (disconnect react this) editor := by
  apply leads_disconnect
  · intro _
    exact Steps.refl editor
  · intro other linked
    have unlinks : Steps links editor (editor.unlink this other) :=
      Steps.single (Step.unlinked allowed (contains_of_target linked)
        (shaped.far this other linked))
    exact (proceeds_notifyEnds stepwise (unlinks.shaped shaped) this
      other).after unlinks

theorem proceeds_connect (allowed : links) {this other : ConnectionId}
    (knownThis : editor.connections.contains this)
    (knownOther : editor.connections.contains other) :
    Proceeds links (connect react this other) editor := by
  have asks : ∀ caches, Steps links editor { editor with caches } :=
    fun _ => Steps.aside rfl rfl rfl fun _ => rfl
  refine leads_connect (Steps.refl editor) (fun caches _ _ _ _ => asks caches)
    fun caches _ => ?_
  apply Leads.imp ((proceeds_disconnect stepwise ((asks caches).shaped shaped)
    allowed this).after (asks caches))
  intro _ middle sofar
  apply Leads.imp ((proceeds_disconnect stepwise (sofar.shaped shaped) allowed
    other).after sofar)
  intro _ parted frees
  have grows := frees.outgrows shaped
  have joins : Steps links parted (parted.link this other) :=
    Steps.single (Step.linked allowed (grows.knownConnection this knownThis)
      (grows.knownConnection other knownOther))
  exact (proceeds_notifyEnds stepwise (joins.shaped (frees.shaped shaped))
    this other).after (frees.trans joins)

end Links

section Wire

variable {engine : EngineId} {block : BlockId} {wiring : WiringId}

theorem Shaped.known_of_offers (shaped : Shaped editor)
    (offered : editor.Offers block slot) :
    editor.Known slot := by
  cases slot with
  | connection connection =>
      rcases offered with isOutput | ⟨row, member, isInput⟩
      · exact (shaped.arranged.output block connection isOutput).1
      · exact (shaped.arranged.row block row connection member isInput).1
  | field field => exact (shaped.arranged.rowField block field offered.1).1

theorem Shaped.known_target (shaped : Shaped editor) {lead : String} :
    ∀ target ∈ editor.targets lead block, editor.Known target.slot :=
  fun _ member => shaped.known_of_offers (targets_offered member).1

theorem proceeds_listenTo (editor : Editor σ) (engine : EngineId)
    (wiring : WiringId) (key : SlotKey) (source : Slot) :
    Proceeds links (listenTo engine wiring key source) editor := by
  simp only [Ends, listenTo, subscribe, leads_bind, leads_lookup, leads_look,
    leads_modify, leads_pure]
  constructor
  · intro home _
    constructor
    · intro sourceKey _
      refine Steps.aside rfl rfl rfl ?_
      intro other
      exact (congrArg Wiring.bindings (bare_wiring_addListener editor
        (editor.block home).workspace engine wiring other key sourceKey) :)
    · intro _ _
      exact Steps.refl editor
  · intro _ _
    exact Steps.refl editor

theorem proceeds_install (stepwise : Stepwise links react)
    (shaped : Shaped editor) (plan : Plan)
    (known : editor.Known plan.target.slot) :
    Proceeds links (install react engine block wiring plan) editor := by
  simp only [Ends, install]
  split
  · rw [leads_discard]
    exact proceeds_setTypes stepwise shaped known _
  · simp only [leads_bind, leads_lookup, leads_look, leads_modify]
    constructor
    · intro key _
      have binds : Steps links editor (editor.addBinding wiring key
          ⟨plan.target.slot, plan.target.declared.regular, plan.links,
            (editor.block block).text ++ " " ++ plan.target.label⟩) :=
        Steps.single (Step.bound known)
      have counts := binds.trans (steps_updateStats _ engine fun stats =>
        { stats with bindings := stats.bindings + 1 })
      constructor
      · intro sources _
        refine Proceeds.after ?_ counts
        apply proceeds_forM
        intro source _ current _
        exact proceeds_listenTo current engine wiring key source
      · intro _ _
        exact counts
    · intro _ _
      exact Steps.refl editor

theorem proceeds_rejectCycle (editor : Editor σ) (engine : EngineId)
    (block : BlockId) (plans : List Plan) : Proceeds links
      (rejectCycle engine block plans) editor := by
  simp only [Ends, rejectCycle, leads_bind, leads_lookup]
  constructor
  · intro edges _
    split
    · exact Steps.refl editor
    · simp only [leads_bind, leads_look]
      split
      · simp only [leads_bind, leads_modify, leads_look, leads_throw]
        exact steps_updateStats editor engine _
      · exact Steps.refl editor
  · intro _ _
    exact Steps.refl editor

theorem proceeds_wireLive (stepwise : Stepwise links react)
    (shaped : Shaped editor)
    (known : ∀ target ∈ targets, editor.Known target.slot) :
    Proceeds links (wireLive react engine block wiring targets) editor := by
  simp only [Ends, wireLive, leads_bind, leads_look, leads_modify]
  apply Leads.imp ((proceeds_rejectCycle _ engine block _).after
    (steps_updateStats editor engine _))
  intro _ accepted accepts
  have installs : Proceeds links
      ((targets.map (editor.plan block)).forM
        (install react engine block wiring)) accepted := by
    apply proceeds_forM
    intro plan member current sofar
    obtain ⟨target, isTarget, rfl⟩ := List.mem_map.mp member
    have reaches := accepts.trans sofar
    exact proceeds_install stepwise (reaches.shaped shaped) _
      ((reaches.outgrows shaped).known (known target isTarget))
  apply Leads.imp (installs.after accepts)
  intro _ installed sofar
  split
  · simp only [leads_discard, recomputeAll, leads_bind, leads_look]
    exact (proceeds_recomputeEach stepwise wiring _ (sofar.shaped shaped)).after
      sofar
  · exact sofar

theorem proceeds_wireStatic (stepwise : Stepwise links react)
    (shaped : Shaped editor)
    (known : ∀ target ∈ targets, editor.Known target.slot) :
    Proceeds links (wireStatic react targets) editor := by
  apply proceeds_forM
  intro target member current sofar
  simp only [Ends, leads_discard]
  exact proceeds_setTypes stepwise (sofar.shaped shaped)
    ((sofar.outgrows shaped).known (known target member)) _

theorem proceeds_disposeWiring (editor : Editor σ) (wiring : WiringId) :
    Proceeds links (disposeWiring wiring) editor := by
  apply leads_disposeWiring
  · intro _
    exact Steps.refl editor
  · intro _ _
    refine Steps.aside (by simp) (by simp) (by simp) ?_
    intro other
    rw [wiring_closeWiring]
    split
    · rename_i same
      rw [same]
    · rfl

theorem proceeds_wireLiveOrUndo (stepwise : Stepwise links react)
    (shaped : Shaped editor)
    (known : ∀ target ∈ targets, editor.Known target.slot) :
    Proceeds links (wireLiveOrUndo react engine block wiring targets)
      editor := by
  simp only [Ends, wireLiveOrUndo, leads_tryCatch]
  apply Leads.mono (proceeds_wireLive stepwise shaped known)
  · exact fun _ _ => id
  · intro fault broken breaks
    simp only [leads_bind, leads_discard, leads_modify, leads_throw]
    apply Leads.imp ((proceeds_disposeWiring broken wiring).after breaks)
    intro _ closed sofar
    refine sofar.trans (Steps.steady (steady_undo targets ?_))
    intro target member
    exact (sofar.outgrows shaped).known (known target member)

theorem steps_beginWiring (editor : Editor σ) (engine : EngineId)
    (block : BlockId) (mode : WiringMode) : Steps links editor
      (editor.beginWiring engine block mode) := by
  refine Steps.retouched (Retouched.of_tables rfl rfl rfl ?_)
  intro other key binding found
  rwa [wiring_beginWiring_of_bound found] at found

theorem steps_recordWiring (editor : Editor σ) (engine : EngineId)
    (block : BlockId) (wiring : WiringId) : Steps links editor
      (editor.recordWiring engine block wiring) :=
  Steps.aside rfl rfl rfl fun _ => rfl

theorem proceeds_wire (stepwise : Stepwise links react) (shaped : Shaped editor)
    (engine : EngineId) (block : BlockId) (mode : WiringMode) :
    Proceeds links (wire react engine block mode) editor := by
  simp only [Ends, wire, leads_bind, leads_look]
  split
  · exact Steps.refl editor
  · have begins : Steps links editor (editor.beginWiring engine block mode) :=
      steps_beginWiring editor engine block mode
    have known : ∀ target ∈ editor.targetsFor engine block,
        (editor.beginWiring engine block mode).Known target.slot :=
      fun target member => (begins.outgrows shaped).known
        (shaped.known_target target member)
    simp only [newWiring, leads_bind, leads_look, leads_modify, leads_pure]
    change Leads _ (editor.beginWiring engine block mode) _ _
    cases mode with
    | static =>
        simp only [leads_bind, leads_modify]
        apply Leads.imp ((proceeds_wireStatic stepwise (begins.shaped shaped)
          known).after begins)
        intro _ written sofar
        exact (sofar.trans (steps_updateStats written engine _)).trans
          (steps_recordWiring _ engine block _)
    | live =>
        change Leads (if (editor.targetsFor engine block).isEmpty = true
          then _ else _) _ _ _
        split
        · simp only [leads_bind, leads_pure, leads_modify]
          exact begins.trans (steps_recordWiring _ engine block _)
        · simp only [leads_bind, leads_pure, leads_modify]
          apply Leads.mono
            ((proceeds_wireLiveOrUndo stepwise (begins.shaped shaped)
              known).after begins)
          · intro _ wired sofar
            exact (sofar.trans (steps_updateStats wired engine _)).trans
              (steps_recordWiring _ engine block _)
          · exact fun _ _ => id

theorem proceeds_releaseWiring (editor : Editor σ) (engine : EngineId)
    (block : BlockId) :
    Proceeds links (releaseWiring engine block) editor := by
  refine leads_releaseWiring (fun _ => Steps.refl editor) fun wiring _ => ?_
  have forgets : Steps links editor (editor.forgetWiring engine block) :=
    Steps.aside rfl rfl rfl fun _ => rfl
  exact (proceeds_disposeWiring (editor.forgetWiring engine block) wiring).after
    forgets

theorem proceeds_applyExtension (stepwise : Stepwise links react)
    (shaped : Shaped editor) (workspace : WorkspaceId) (name : String)
    (block : BlockId) :
    Proceeds links (applyExtension react workspace name block) editor := by
  simp only [Ends, applyExtension, leads_bind, leads_lookup]
  constructor
  · intro action _
    cases action with
    | wire =>
        simp only [leads_bind, leads_look, leads_pure]
        exact proceeds_wire stepwise shaped _ block _
    | callback callback =>
        simp only [leads_bind, leads_pure]
        exact stepwise (.callback callback) editor shaped
  · intro _ _
    exact Steps.refl editor

end Wire

section Blocks

variable {block : BlockId}

theorem proceeds_initBlock (stepwise : Stepwise links react)
    (shaped : Shaped editor) (known : editor.blocks.contains block) :
    Proceeds links (initBlock react block) editor := by
  refine leads_initBlock (Steps.refl editor) ?_ ?_
  · intro _ name _ current sofar
    exact (proceeds_applyExtension stepwise (sofar.shaped shaped)
      _ name block).after sofar
  · intro current sofar
    exact sofar.trans (Steps.steady (steady_flags current
      ((sofar.outgrows shaped).knownBlock block known) fun _ => rfl))

theorem proceeds_disposeBlock (allowed : links)
    (stepwise : Stepwise links react) (shaped : Shaped editor)
    (known : editor.blocks.contains block) (limit : Nat) :
    Proceeds links (disposeBlock react limit block) editor := by
  refine leads_disposeBlock ?_ limit (fun _ => Steps.refl editor)
    (proceeds_releaseWiring editor _ block) ?_
  · intro current connection sofar _
    exact (proceeds_disconnect stepwise (sofar.shaped shaped) allowed
      connection).after sofar
  · intro current sofar
    exact sofar.trans (Steps.steady (steady_retireBlock
      ((sofar.outgrows shaped).knownBlock block known)))

theorem proceeds_newBlock (editor : Editor σ) (workspace : WorkspaceId)
    (type : String) (id : Option String) (extensions : List String) :
    Proceeds links (newBlock workspace type id extensions) editor := by
  have draws : ∀ drawn, Steps links editor { editor with drawn } :=
    fun _ => Steps.aside rfl rfl rfl fun _ => rfl
  refine leads_newBlock (fun _ => draws) fun chosen drawn _ => ?_
  refine ((draws drawn).trans (Steps.single
    (Step.blockMade workspace type chosen extensions))).trans ?_
  exact Steps.aside rfl rfl rfl fun _ => rfl

end Blocks

end TypeFlow.Editor

namespace TypeFlow.HostOperation

open Editor

variable {σ : Type}

/-- The operation may link or unlink connections. -/
def Relinks : HostOperation → Prop
  | .connect .. | .disconnect .. | .disposeBlock .. => True
  | _ => False

/-- Every operation consists of steps. -/
theorem proceeds_perform {links : Prop} {react : Reaction σ} {editor : Editor σ}
    {workspace : WorkspaceId} {operation : HostOperation}
    (allowed : operation.Relinks → links) (stepwise : Stepwise links react)
    (shaped : Shaped editor) (limit : Nat)
    (refers : operation.Refers workspace editor) :
    Proceeds links (operation.perform react limit workspace) editor := by
  cases operation with
  | newBlock type id extensions =>
      exact (leads_discard _).mpr
        (proceeds_newBlock editor workspace type id extensions)
  | removeBlock block => exact Steps.aside rfl rfl rfl fun _ => rfl
  | setOutput block check => exact Steps.single (Step.outputMade check refers)
  | appendInput block name check =>
      exact (leads_discard _).mpr (leads_appendInput (Steps.refl _) fun free =>
        Steps.single (Step.inputMade check refers free))
  | appendDummyInput block name =>
      exact (leads_discard _).mpr (leads_appendDummyInput (Steps.refl _)
        (Steps.single (Step.dummyMade name refers)))
  | newField name kind value => exact Steps.single (Step.fieldMade rfl)
  | appendField block place field =>
      exact leads_appendField (Steps.refl editor) fun nameFree =>
        Steps.single (Step.fieldAttached refers.1 refers.2.1
          refers.2.2 nameFree)
  | createVariable name request id =>
      simp only [Ends, perform, Editor.createVariable, leads_bind, leads_get,
        leads_set, leads_discard, leads_lookup]
      exact ⟨fun _ _ => Steps.aside rfl rfl rfl fun _ => rfl,
        fun _ _ => Steps.aside rfl rfl rfl fun _ => rfl⟩
  | initBlock block => exact proceeds_initBlock stepwise shaped refers
  | wire block mode =>
      simp only [Ends, perform, leads_bind, leads_look, leads_discard]
      exact proceeds_wire stepwise shaped _ block mode
  | releaseWiring block =>
      simp only [Ends, perform, leads_bind, leads_look, leads_discard]
      exact proceeds_releaseWiring editor _ block
  | disposeWiring wiring =>
      exact (leads_discard _).mpr (proceeds_disposeWiring editor wiring)
  | disposeBlock block =>
      exact proceeds_disposeBlock (allowed True.intro) stepwise
        shaped refers limit
  | connect this other =>
      exact proceeds_connect stepwise shaped (allowed True.intro)
        refers.1 refers.2
  | disconnect connection =>
      exact proceeds_disconnect stepwise shaped (allowed True.intro) connection
  | setValue field value => exact proceeds_setValue stepwise shaped refers value
  | setTypes slot check =>
      exact (leads_discard _).mpr
        (proceeds_setTypes stepwise shaped refers check)
  | listen slot callback =>
      simp only [Ends, perform, subscribe, leads_discard, leads_bind,
        leads_look, leads_lookup, leads_modify, leads_pure]
      exact ⟨fun _ _ =>
        ⟨fun _ _ => Steps.aside rfl rfl rfl fun _ => rfl, fun _ _ =>
          Steps.refl editor⟩,
        fun _ _ => Steps.refl editor⟩
  | unlisten subscription => exact Steps.aside rfl rfl rfl fun _ => rfl

end TypeFlow.HostOperation

namespace TypeFlow.Editor

variable {σ : Type}

/-- The states of an editor with any number of engines and workspaces, each
operation with its outcome.  Engines and workspaces may be furnished in any
way in between.  Callbacks are run by `outside`. -/
inductive Built (outside : Callbacks σ) : Editor σ → Prop
  | started {outer : σ} : Built outside { outer }
  | furnished {editor : Editor σ} (caches : OrderedMap CacheId Wildcard.Cache)
      (checkers : OrderedMap CheckerId CacheId)
      (engines : OrderedMap EngineId Engine)
      (workspaces : OrderedMap WorkspaceId Workspace)
      (pool : VariablePool) (drawn : Nat) (outer : σ) :
      Built outside editor →
        Built outside { editor with
          caches, checkers, engines, workspaces, pool, drawn, outer }
  | performed {before after : Editor σ} {workspace : WorkspaceId}
      {operation : HostOperation} {limit : Nat} {outcome : Except Fault Unit} :
      Built outside before → operation.Refers workspace before →
      operation.perform (reaction outside limit) limit workspace before =
        (outcome, after) →
        Built outside after

/-- A workspace that a host opened and works on. -/
theorem Reached.built {outside : Callbacks σ}
    {admits : Editor σ → HostOperation → Except Fault Unit → Editor σ → Prop}
    {settings : Settings} {workspace : WorkspaceId} {editor : Editor σ}
    (reached : Reached outside admits settings workspace editor) :
    Built outside editor := by
  induction reached with
  | @opened outer isTemplate editor run =>
      have opens : Leads (openWorkspace settings isTemplate) { outer }
          (fun _ after => Built outside after) (fun _ _ => True) := by
        simp only [openWorkspace, newEngine, newChecker, newCache, newWorkspace,
          leads_bind, leads_look, leads_lookup, leads_modify, leads_pure]
        refine ⟨?_, fun _ _ => True.intro⟩
        intro config _
        have starts : Built outside ({ outer } : Editor σ) := Built.started
        exact Built.furnished _ _ _ _ _ _ _ starts
      exact opens.returns run
  | performed _ refers run _ built => exact Built.performed built refers run

theorem steps_furnished {links : Prop} (editor : Editor σ)
    (caches : OrderedMap CacheId Wildcard.Cache)
    (checkers : OrderedMap CheckerId CacheId)
    (engines : OrderedMap EngineId Engine)
    (workspaces : OrderedMap WorkspaceId Workspace) (pool : VariablePool)
    (drawn : Nat) (outer : σ) :
    Steps links editor
      { editor with
        caches, checkers, engines, workspaces, pool, drawn, outer } :=
  Steps.aside rfl rfl rfl fun _ => rfl

theorem shaped_started (outer : σ) : Shaped ({ outer } : Editor σ) := by
  constructor
  · exact ⟨OrderedMap.numbered_empty _, OrderedMap.numbered_empty _,
      OrderedMap.numbered_empty _⟩
  · constructor
    all_goals intros; contradiction
  · exact fun _ => NamedBlock.empty _ rfl rfl
  · intros; contradiction
  · intros; contradiction

/-- Blocks and slots belong together in every state, if callbacks keep to
steps. -/
theorem Built.shaped {outside : Callbacks σ} {editor : Editor σ}
    (proceeds : ∀ callback editor, Shaped editor →
      Proceeds True (outside callback) editor)
    (built : Built outside editor) : Shaped editor := by
  induction built with
  | started => exact shaped_started _
  | @furnished before caches checkers engines workspaces pool drawn
    outer _ shaped =>
      have steps : Steps True before _ :=
        steps_furnished before caches checkers engines workspaces
          pool drawn outer
      exact steps.shaped shaped
  | @performed before after workspace operation limit outcome
    _ refers run shaped =>
      have steps := (HostOperation.proceeds_perform (fun _ => True.intro)
        (stepwise_reaction proceeds limit) shaped limit refers).holds run
      exact steps.shaped shaped

end TypeFlow.Editor
