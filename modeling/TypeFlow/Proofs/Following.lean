import TypeFlow.Proofs.Ripple

/-!
# Actions that end alike

An action follows another one if both end alike, although they call listeners
in different ways or belong to different outsides.  This is shown once for
every operation of a host, given that it holds for the calls of listeners.
Where the first action may use up its fuel, nothing is said of the second in
that case; so more fuel never changes how an operation ends.
-/

namespace TypeFlow

namespace Editor

variable {σ τ α β : Type} {lenient : Prop} {action : Nat → EditM τ α}

/-- The editor with its outside seen through `view`. -/
def under (view : τ → σ) (editor : Editor τ) : Editor σ :=
  { editor with outer := view editor.outer }

/-- From this state the two actions end alike, up to `view`.  If `lenient`, the
first one may also use up its fuel. -/
def Follows (lenient : Prop) (view : τ → σ) (left : EditM τ α)
    (right : EditM σ α) (editor : Editor τ) : Prop :=
  (lenient ∧ (left editor).1 = .error .unsettled) ∨
    right (editor.under view) = ((left editor).1, (left editor).2.under view)

/-- Calling a listener ends alike in both ways. -/
def FollowsCalls (lenient : Prop) (view : τ → σ) (left : Reaction τ)
    (right : Reaction σ) : Prop :=
  ∀ listener editor, Follows lenient view (left listener)
    (right listener) editor

section Rules

variable {view : τ → σ} {editor : Editor τ}

theorem follows_of_run {left : EditM τ α} {right : EditM σ α}
    (run : right (editor.under view) =
      ((left editor).1, (left editor).2.under view)) :
    Follows lenient view left right editor :=
  Or.inr run

theorem follows_pure (value : α) : Follows lenient view (pure value)
    (pure value) editor :=
  follows_of_run rfl

theorem follows_throw (fault : Fault) :
    Follows lenient view (throw fault : EditM τ α) (throw fault) editor :=
  follows_of_run rfl

theorem follows_bind {first : EditM τ α} {first' : EditM σ α}
    {next : α → EditM τ β} {next' : α → EditM σ β}
    (starts : Follows lenient view first first' editor)
    (goesOn : ∀ value after, Follows lenient view (next value) (next' value)
      after) :
    Follows lenient view (first >>= next) (first' >>= next') editor := by
  unfold Follows
  change (lenient ∧
    (ExceptT.bindCont next (first editor).1 (first editor).2).1 = _) ∨
    ExceptT.bindCont next' (first' (editor.under view)).1
      (first' (editor.under view)).2 =
      ((ExceptT.bindCont next (first editor).1 (first editor).2).1,
        (ExceptT.bindCont next (first editor).1 (first editor).2).2.under view)
  rcases starts with ⟨isLenient, unsettled⟩ | alike
  · refine Or.inl ⟨isLenient, ?_⟩
    rw [unsettled]
    rfl
  · rw [alike]
    rcases first editor with ⟨fault | value, after⟩
    · exact Or.inr rfl
    · exact goesOn value after

theorem follows_discard {action : EditM τ α} {action' : EditM σ α}
    (follows : Follows lenient view action action' editor) :
    Follows lenient view (discard action) (discard action') editor := by
  change Follows lenient view ((fun _ => ()) <$> action)
    ((fun _ => ()) <$> action') editor
  rw [map_eq_pure_bind, map_eq_pure_bind]
  exact follows_bind follows fun _ _ => follows_pure ()

theorem follows_look {read : Editor τ → α} {read' : Editor σ → α}
    {next : α → EditM τ β} {next' : α → EditM σ β}
    (same : read editor = read' (editor.under view))
    (goesOn : ∀ value, Follows lenient view (next value) (next' value) editor) :
    Follows lenient view (look read >>= next)
      (look read' >>= next') editor := by
  change Follows lenient view (next (read editor)) _ editor
  rw [Follows, run_look, ← same]
  exact goesOn (read editor)

theorem follows_modify {change : Editor τ → Editor τ}
    {change' : Editor σ → Editor σ} {next : PUnit → EditM τ β}
    {next' : PUnit → EditM σ β}
    (same : (change editor).under view = change' (editor.under view))
    (goesOn : Follows lenient view (next ⟨⟩) (next' ⟨⟩) (change editor)) :
    Follows lenient view (modify change >>= next) (modify change' >>= next')
      editor := by
  unfold Follows at goesOn ⊢
  rwa [same] at goesOn

theorem follows_get {next : Editor τ → EditM τ α} {next' : Editor σ → EditM σ α}
    (goesOn : Follows lenient view (next editor) (next' (editor.under view))
      editor) :
    Follows lenient view (get >>= next) (get >>= next') editor := goesOn

theorem follows_set {next : Editor τ} {next' : Editor σ}
    (same : next.under view = next') :
    Follows lenient view (set next : EditM τ PUnit) (set next') editor :=
  follows_of_run (congrArg (Prod.mk (Except.ok PUnit.unit)) same.symm)

theorem follows_lookup {find : Editor τ → Except Fault α}
    {find' : Editor σ → Except Fault α} {next : α → EditM τ β}
    {next' : α → EditM σ β} (same : find editor = find' (editor.under view))
    (goesOn : ∀ value after, Follows lenient view (next value) (next' value)
      after) :
    Follows lenient view (lookup find >>= next) (lookup find' >>= next')
      editor := by
  refine follows_bind (follows_get ?_) goesOn
  rw [same]
  cases find' (editor.under view) with
  | ok value => exact follows_pure value
  | error fault => exact follows_throw fault

theorem follows_forM {visit : α → EditM τ PUnit} {visit' : α → EditM σ PUnit}
    (follows : ∀ item editor, Follows lenient view (visit item) (visit' item)
      editor)
    (items : List α) :
    ∀ editor, Follows lenient view (items.forM visit)
      (items.forM visit') editor := by
  induction items with
  | nil => exact fun _ => follows_pure PUnit.unit
  | cons item rest induction =>
      intro editor
      exact follows_bind (follows item editor) fun _ after => induction after

/-- A handler that raises again what it was given. -/
theorem follows_tryCatch {action : EditM τ α} {action' : EditM σ α}
    {handle : Fault → EditM τ α} {handle' : Fault → EditM σ α}
    (follows : Follows lenient view action action' editor)
    (goesOn : ∀ fault after, Follows lenient view (handle fault) (handle' fault)
      after) (again : ∀ after, (handle .unsettled after).1 =
        .error .unsettled) :
    Follows lenient view (tryCatch action handle)
      (tryCatch action' handle') editor := by
  unfold Follows
  rw [run_tryCatch, run_tryCatch]
  rcases follows with ⟨isLenient, unsettled⟩ | alike
  · refine Or.inl ⟨isLenient, ?_⟩
    rw [eq_of_outcome unsettled]
    exact again (action editor).2
  · rw [alike]
    rcases action editor with ⟨fault | value, after⟩
    · exact goesOn fault after
    · exact Or.inr rfl

/-- How a guarded action ends. -/
theorem run_guarded {engine : EngineId} {key : SlotKey} {entered : Guard}
    (enters : (editor.engine engine).guard.enter key = .ok entered) :
    guarded engine key action editor =
      let result := action entered.depth (editor.setGuard engine entered)
      (result.1, result.2.setGuard engine
        ((result.2.engine engine).guard.leave key)) := by
  apply run_of_leads
  rw [leads_guarded]
  constructor
  · intro other alsoEnters
    cases enters.symm.trans alsoEnters
    unfold Leads
    rcases action entered.depth (editor.setGuard engine entered) with
      ⟨_ | _, _⟩ <;> rfl
  · intro fault refuses
    cases enters.symm.trans refuses

theorem run_guarded_refused {engine : EngineId} {key : SlotKey} {fault : Fault}
    (refuses : (editor.engine engine).guard.enter key = .error fault) :
    guarded engine key action editor = (.error fault, editor) := by
  apply run_of_leads
  rw [leads_guarded]
  constructor
  · intro entered enters
    cases refuses.symm.trans enters
  · intro other alsoRefuses
    cases refuses.symm.trans alsoRefuses
    rfl

theorem follows_guarded {action' : Nat → EditM σ α}
    (follows : ∀ depth editor, Follows lenient view (action depth)
      (action' depth) editor)
    (engine : EngineId) (key : SlotKey) :
    Follows lenient view (guarded engine key action)
      (guarded engine key action') editor := by
  unfold Follows
  cases enters : (editor.engine engine).guard.enter key with
  | error fault =>
      have refuses : ((editor.under view).engine engine).guard.enter key =
          .error fault := enters
      rw [run_guarded_refused enters, run_guarded_refused refuses]
      exact Or.inr rfl
  | ok entered =>
      have alsoEnters : ((editor.under view).engine engine).guard.enter key =
          .ok entered := enters
      rw [run_guarded enters, run_guarded alsoEnters]
      rcases follows entered.depth (editor.setGuard engine entered) with
        unsettled | alike
      · exact Or.inl unsettled
      · have inside : action' entered.depth
            ((editor.under view).setGuard engine entered) = _ :=
          alike
        rw [inside]
        exact Or.inr rfl

end Rules

section Calls

variable {view : τ → σ} {react : Reaction τ} {react' : Reaction σ}
  (same : FollowsCalls lenient view react react') {editor : Editor τ}

section Cascade

include same

theorem follows_notify (workspace : WorkspaceId) (key : SlotKey) :
    Follows lenient view (notify react workspace key)
      (notify react' workspace key) editor :=
  follows_look rfl fun listeners =>
    follows_bind (follows_forM same listeners _) fun _ _ => follows_pure _

theorem follows_setConnectionTypes (connection : ConnectionId) (check : Check) :
    Follows lenient view (setConnectionTypes react connection check)
      (setConnectionTypes react' connection check) editor := by
  refine follows_look rfl fun entry => ?_
  refine follows_modify rfl ?_
  split
  · exact follows_pure _
  · split
    · exact follows_pure _
    · refine follows_look rfl fun workspace => ?_
      refine follows_look rfl fun key => ?_
      exact follows_bind (follows_discard (follows_notify same workspace key))
        fun _ _ => follows_pure _

theorem follows_notifyField (field : FieldId) :
    Follows lenient view (notifyField react field)
      (notifyField react' field) editor := by
  refine follows_look rfl fun attached => ?_
  cases attached with
  | none => exact follows_pure _
  | some block =>
      refine follows_look rfl fun workspace => ?_
      refine follows_lookup rfl fun key _ => ?_
      exact follows_discard (follows_notify same workspace key)

theorem follows_setValue (field : FieldId) (value : FieldValue) :
    Follows lenient view (setValue react field value)
      (setValue react' field value) editor :=
  follows_modify rfl (follows_notifyField same field)

omit same in
theorem follows_retypeVariable (field : FieldId) (check : Check) :
    Follows lenient view (retypeVariable field check)
      (retypeVariable field check) editor := by
  refine follows_get ?_
  rw [show (editor.under view).variableOf field = editor.variableOf
    field from rfl,
    show (editor.under view).field field = editor.field field from rfl]
  split
  · exact follows_bind (follows_set rfl) fun _ _ => follows_pure _
  · exact follows_pure _

theorem follows_setFieldTypes (field : FieldId) (check : Check) :
    Follows lenient view (setFieldTypes react field check)
      (setFieldTypes react' field check) editor := by
  refine follows_look rfl fun kind => ?_
  cases kind with
  | reference previous =>
      refine follows_modify rfl ?_
      refine follows_bind (follows_retypeVariable field check)
        fun retyped _ => ?_
      dsimp only
      split
      · exact follows_bind (follows_notifyField same field) fun _ _ =>
          follows_pure _
      · exact follows_pure _
  | text => exact follows_pure _
  | dropdown => exact follows_pure _

theorem follows_setTypes (slot : Slot) (check : Check) :
    Follows lenient view (setTypes react slot check)
      (setTypes react' slot check) editor := by
  cases slot with
  | connection connection =>
      exact follows_setConnectionTypes same connection check
  | field field => exact follows_setFieldTypes same field check

theorem follows_recompute (wiring : WiringId) (target : SlotKey) :
    Follows lenient view (recompute react wiring target)
      (recompute react' wiring target) editor := by
  refine follows_look rfl fun entry => ?_
  split
  · exact follows_pure _
  · rename_i binding _
    refine follows_lookup rfl fun key _ => ?_
    refine follows_guarded (fun depth _ => ?_) entry.engine key
    refine follows_modify rfl ?_
    refine follows_lookup rfl fun check _ => ?_
    refine follows_bind (follows_setTypes same binding.target check)
      fun changed _ => ?_
    cases changed with
    | true => exact follows_modify rfl (follows_pure _)
    | false => exact follows_pure _

theorem follows_recomputeEach (wiring : WiringId) (targets : List SlotKey) :
    ∀ editor, Follows lenient view (recomputeEach react wiring targets)
      (recomputeEach react' wiring targets) editor := by
  induction targets with
  | nil => exact fun _ => follows_pure _
  | cons target rest induction =>
      intro editor
      refine follows_bind (follows_recompute same wiring target)
        fun changed middle => ?_
      exact follows_bind (induction middle) fun _ _ => follows_pure _

theorem follows_recomputeAll (wiring : WiringId) :
    Follows lenient view (recomputeAll react wiring)
      (recomputeAll react' wiring) editor :=
  follows_look rfl fun targets =>
    follows_recomputeEach same wiring targets editor

theorem follows_notifyEnds (this other : ConnectionId) :
    Follows lenient view (notifyEnds react this other)
      (notifyEnds react' this other) editor := by
  refine follows_look rfl fun workspace => ?_
  refine follows_look rfl fun thisKey => ?_
  refine follows_bind (follows_discard (follows_notify same workspace thisKey))
    fun _ _ => ?_
  refine follows_look rfl fun otherKey => ?_
  exact follows_discard (follows_notify same workspace otherKey)

theorem follows_disconnect (this : ConnectionId) :
    Follows lenient view (disconnect react this)
      (disconnect react' this) editor := by
  refine follows_look rfl fun linked => ?_
  cases linked with
  | none => exact follows_pure _
  | some other =>
      exact follows_modify rfl (follows_notifyEnds same this other)

omit same in
theorem follows_canConnectWith (this other : ConnectionId) :
    Follows lenient view (canConnectWith this other) (canConnectWith this other)
      editor := by
  refine follows_look rfl fun faces => ?_
  cases faces with
  | true =>
      refine follows_look rfl fun workspace => ?_
      exact follows_get (follows_bind (follows_set rfl) fun _ _ =>
        follows_pure _)
  | false => exact follows_pure _

theorem follows_connect (this other : ConnectionId) :
    Follows lenient view (connect react this other) (connect react' this other)
      editor := by
  refine follows_look rfl fun linked => ?_
  split
  · exact follows_pure _
  · refine follows_bind (follows_canConnectWith this other) fun fits _ => ?_
    cases fits with
    | true =>
        refine follows_bind (follows_disconnect same this) fun _ _ => ?_
        refine follows_bind (follows_disconnect same other) fun _ _ => ?_
        exact follows_modify rfl (follows_notifyEnds same this other)
    | false =>
        refine follows_look rfl fun _ => ?_
        exact follows_look rfl fun _ => follows_throw _

end Cascade

section Wiring

theorem follows_subscribe (slot : Slot) (listener : Listener) :
    Follows lenient view (subscribe slot listener)
      (subscribe slot listener) editor := by
  refine follows_lookup rfl fun block _ => ?_
  refine follows_look rfl fun workspace => ?_
  refine follows_lookup rfl fun key _ => ?_
  refine follows_look rfl fun number => ?_
  exact follows_modify rfl (follows_pure _)

theorem follows_listenTo (engine : EngineId) (wiring : WiringId)
    (target : SlotKey) (source : Slot) :
    Follows lenient view (listenTo engine wiring target source)
      (listenTo engine wiring target source) editor := by
  refine follows_bind (follows_subscribe source _) fun subscription _ => ?_
  refine follows_modify rfl ?_
  exact follows_of_run rfl

theorem follows_rejectCycle (engine : EngineId) (block : BlockId)
    (plans : List Plan) :
    Follows lenient view (rejectCycle engine block plans)
      (rejectCycle engine block plans) editor := by
  refine follows_lookup rfl fun edges _ => ?_
  split
  · exact follows_pure _
  · refine follows_look rfl fun rejects => ?_
    cases rejects with
    | true =>
        refine follows_modify rfl ?_
        exact follows_look rfl fun _ => follows_throw _
    | false => exact follows_pure _

theorem under_foldl_releaseSubscription (subscriptions : List SubscriptionId) :
    ∀ editor : Editor τ,
      (subscriptions.foldl releaseSubscription editor).under view =
      subscriptions.foldl releaseSubscription (editor.under view) := by
  induction subscriptions with
  | nil => exact fun _ => rfl
  | cons subscription rest induction =>
      intro editor
      exact induction (editor.releaseSubscription subscription)

theorem under_undo (targets : List Target) :
    ∀ editor : Editor τ,
      (targets.foldl (fun editor target => editor.resetTypes target.slot
        (some target.types)) editor).under view =
      targets.foldl (fun editor target => editor.resetTypes target.slot
        (some target.types)) (editor.under view) := by
  induction targets with
  | nil => exact fun _ => rfl
  | cons target rest induction =>
      intro editor
      have resets : (editor.resetTypes target.slot (some target.types)).under
          view =
          (editor.under view).resetTypes target.slot (some target.types) := by
        cases target.slot with
        | connection connection => rfl
        | field field =>
            simp only [resetTypes, resetFieldTypes]
            rw [show (editor.under view).field field =
              editor.field field from rfl]
            split <;> rfl
      rw [List.foldl_cons, List.foldl_cons, induction, resets]

theorem follows_disposeWiring (wiring : WiringId) :
    Follows lenient view (disposeWiring wiring)
      (disposeWiring wiring) editor := by
  refine follows_get ?_
  dsimp only
  rw [show (editor.under view).wiring wiring = editor.wiring wiring from rfl,
    show (editor.under view).isActive = editor.isActive from rfl]
  split
  · exact follows_pure _
  · refine follows_bind (follows_set (under_foldl_releaseSubscription _ editor))
      fun _ _ => ?_
    refine follows_modify rfl ?_
    exact follows_modify rfl (follows_pure _)

theorem follows_releaseWiring (engine : EngineId) (block : BlockId) :
    Follows lenient view (releaseWiring engine block)
      (releaseWiring engine block) editor := by
  refine follows_look rfl fun recorded => ?_
  cases recorded with
  | none => exact follows_pure _
  | some wiring =>
      exact follows_modify rfl (follows_disposeWiring wiring)

theorem follows_newWiring (engine : EngineId) (block : BlockId)
    (mode : WiringMode) :
    Follows lenient view (newWiring engine block mode)
      (newWiring engine block mode) editor :=
  follows_look rfl fun _ =>
    follows_modify rfl (follows_pure _)

include same

theorem follows_install (engine : EngineId) (block : BlockId)
    (wiring : WiringId) (plan : Plan) :
    Follows lenient view (install react engine block wiring plan)
      (install react' engine block wiring plan) editor := by
  unfold install
  dsimp only
  split
  · exact follows_discard (follows_setTypes same plan.target.slot _)
  · refine follows_lookup rfl fun key _ => ?_
    refine follows_look rfl fun label => ?_
    refine follows_modify rfl ?_
    refine follows_modify rfl ?_
    refine follows_lookup rfl fun sources _ => ?_
    exact follows_forM
      (fun source _ => follows_listenTo engine wiring key source) _ _

theorem follows_wireLive (engine : EngineId) (block : BlockId)
    (wiring : WiringId) (targets : List Target) :
    Follows lenient view (wireLive react engine block wiring targets)
      (wireLive react' engine block wiring targets) editor := by
  refine follows_look rfl fun plans => ?_
  refine follows_modify rfl ?_
  refine follows_bind (follows_rejectCycle engine block plans)
    fun _ planned => ?_
  refine follows_bind
    (follows_forM (fun plan _ => follows_install same engine block wiring plan)
    plans planned) fun _ _ => ?_
  refine follows_look rfl fun recomputes => ?_
  cases recomputes with
  | true => exact follows_discard (follows_recomputeAll same wiring)
  | false => exact follows_pure _

theorem follows_wireLiveOrUndo (engine : EngineId) (block : BlockId)
    (wiring : WiringId) (targets : List Target) :
    Follows lenient view (wireLiveOrUndo react engine block wiring targets)
      (wireLiveOrUndo react' engine block wiring targets) editor := by
  refine follows_tryCatch (follows_wireLive same engine block wiring targets)
    (fun fault _ => ?_) fun after => ?_
  · refine follows_bind (follows_discard (follows_disposeWiring wiring))
      fun _ _ => ?_
    refine follows_modify (under_undo targets _) ?_
    exact follows_throw fault
  · apply outcome_of_leads
    simp only [disposeWiring, leads_bind, leads_discard, leads_get]
    split <;> rfl

theorem follows_wireStatic (targets : List Target) :
    Follows lenient view (wireStatic react targets) (wireStatic react' targets)
      editor :=
  follows_forM (fun target _ =>
    follows_discard (follows_setTypes same target.slot _)) targets editor

theorem follows_wire (engine : EngineId) (block : BlockId) (mode : WiringMode) :
    Follows lenient view (wire react engine block mode)
      (wire react' engine block mode) editor := by
  refine follows_look rfl fun existing => ?_
  cases existing with
  | some wiring => exact follows_pure _
  | none =>
      refine follows_look rfl fun targets => ?_
      refine follows_bind (follows_newWiring engine block mode)
        fun wiring _ => ?_
      cases mode with
      | static =>
          refine follows_bind (follows_wireStatic same targets) fun _ _ => ?_
          refine follows_modify rfl ?_
          exact follows_modify rfl (follows_pure _)
      | live =>
          dsimp only
          split
          · exact follows_modify rfl (follows_pure _)
          · refine follows_bind (follows_wireLiveOrUndo same engine block
              wiring targets) fun _ _ => ?_
            refine follows_modify rfl ?_
            exact follows_modify rfl (follows_pure _)

theorem follows_applyExtension (workspace : WorkspaceId) (name : String)
    (block : BlockId) :
    Follows lenient view (applyExtension react workspace name block)
      (applyExtension react' workspace name block) editor := by
  refine follows_lookup rfl fun action _ => ?_
  cases action with
  | wire =>
      refine follows_look rfl fun entry => ?_
      exact follows_bind (follows_wire same entry.engine block entry.mode)
        fun _ _ => follows_pure _
  | callback callback =>
      exact follows_bind (same (.callback callback) _) fun _ _ => follows_pure _

theorem follows_initBlock (block : BlockId) :
    Follows lenient view (initBlock react block)
      (initBlock react' block) editor := by
  refine follows_look rfl fun entry => ?_
  cases entry.initialized with
  | true => exact follows_pure _
  | false =>
      refine follows_bind (follows_forM (fun name _ => follows_discard
        (follows_applyExtension same entry.workspace name block))
        entry.extensions _)
        fun _ _ => ?_
      exact follows_of_run rfl

theorem follows_disconnectRows (block : BlockId) (limit : Nat) :
    ∀ (place : Nat) (editor : Editor τ),
      Follows lenient view (disconnectRows react block limit place)
        (disconnectRows react' block limit place) editor := by
  induction limit with
  | zero => exact fun _ _ => follows_pure _
  | succ limit induction =>
      intro place editor
      refine follows_look rfl fun row => ?_
      cases row with
      | none => exact follows_pure _
      | some row =>
          refine follows_bind ?_ fun _ after => induction (place + 1) after
          cases row.connection with
          | none => exact follows_pure _
          | some connection => exact follows_disconnect same connection

theorem follows_disposeBlock (limit : Nat) (block : BlockId) :
    Follows lenient view (disposeBlock react limit block)
      (disposeBlock react' limit block) editor := by
  refine follows_look rfl fun entry => ?_
  cases entry.disposed with
  | true => exact follows_pure _
  | false =>
      refine follows_look rfl fun engine => ?_
      refine follows_bind (follows_discard (follows_releaseWiring engine block))
        fun _ _ => ?_
      refine follows_look rfl fun output => ?_
      refine follows_bind ?_ fun _ middle => ?_
      · cases output with
        | none => exact follows_pure _
        | some connection => exact follows_disconnect same connection
      · refine follows_bind (follows_disconnectRows same block limit 0 middle)
          fun _ _ => ?_
        refine follows_modify rfl ?_
        exact follows_of_run rfl

end Wiring

section Making

theorem follows_chooseId (given : Option String) :
    Follows lenient view (chooseId given) (chooseId given) editor := by
  unfold chooseId
  split
  · refine follows_bind ?_ fun _ _ => follows_pure _
    exact follows_modify rfl (follows_of_run rfl)
  · exact follows_pure _

theorem follows_newBlock (workspace : WorkspaceId) (type : String)
    (id : Option String) (extensions : List String) :
    Follows lenient view (newBlock workspace type id extensions)
      (newBlock workspace type id extensions) editor := by
  refine follows_bind (follows_chooseId id) fun chosen _ => ?_
  refine follows_look rfl fun taken => ?_
  cases taken with
  | true => exact follows_throw _
  | false =>
      refine follows_look rfl fun size => ?_
      refine follows_modify rfl ?_
      exact follows_modify rfl (follows_pure _)

theorem follows_newConnection (block : BlockId) (kind : SlotKind)
    (name : String) (check : Check) :
    Follows lenient view (newConnection block kind name check)
      (newConnection block kind name check) editor := by
  refine follows_look rfl fun size => ?_
  refine follows_look rfl fun id => ?_
  exact follows_modify rfl (follows_pure _)

theorem follows_setOutput (block : BlockId) (check : Check) :
    Follows lenient view (setOutput block check)
      (setOutput block check) editor := by
  refine follows_bind (follows_newConnection block .output "output" check)
    fun _ _ => ?_
  exact follows_modify rfl (follows_pure _)

theorem follows_refuseTakenInput (block : BlockId) (name : String) :
    Follows lenient view (refuseTakenInput block name)
      (refuseTakenInput block name) editor := by
  refine follows_look rfl fun entry => ?_
  cases (entry.row? name).isSome with
  | true => exact follows_throw _
  | false => exact follows_pure _

theorem follows_appendInput (block : BlockId) (name : String) (check : Check) :
    Follows lenient view (appendInput block name check)
      (appendInput block name check) editor := by
  refine follows_bind (follows_refuseTakenInput block name) fun _ _ => ?_
  refine follows_bind (follows_newConnection block .input name check) fun _ _ =>
    ?_
  refine follows_look rfl fun place => ?_
  exact follows_modify rfl (follows_pure _)

theorem follows_appendDummyInput (block : BlockId) (name : String) :
    Follows lenient view (appendDummyInput block name)
      (appendDummyInput block name) editor := by
  unfold appendDummyInput
  split
  · refine follows_look rfl fun place => ?_
    exact follows_modify rfl (follows_pure _)
  · refine follows_bind (follows_refuseTakenInput block name) fun _ _ => ?_
    refine follows_look rfl fun place => ?_
    exact follows_modify rfl (follows_pure _)

theorem follows_appendField (block : BlockId) (place : Nat) (field : FieldId) :
    Follows lenient view (appendField block place field)
      (appendField block place field) editor := by
  refine follows_look rfl fun name => ?_
  refine follows_look rfl fun found => ?_
  cases found.isSome with
  | true => exact follows_look rfl fun _ => follows_throw _
  | false =>
      refine follows_modify rfl ?_
      exact follows_of_run rfl

theorem follows_createVariable (workspace : WorkspaceId) (name : String)
    (request : TypeRequest) (id : Option String) :
    Follows lenient view (createVariable workspace name request id)
      (createVariable workspace name request id) editor := by
  refine follows_get ?_
  refine follows_bind (follows_set rfl) fun _ _ => ?_
  change Follows lenient view ((fun _ => ()) <$> _) ((fun _ => ()) <$> _) _
  rw [map_eq_pure_bind, map_eq_pure_bind]
  exact follows_lookup rfl fun _ _ => follows_pure ()

end Making

end Calls

end Editor

namespace HostOperation

open Editor

variable {σ τ : Type} {lenient : Prop} {view : τ → σ} {react : Reaction τ}
  {react' : Reaction σ} {editor : Editor τ}

theorem follows_newField (field : Field) :
    Follows lenient view (Editor.newField field)
      (Editor.newField field) editor :=
  follows_look rfl fun _ =>
    follows_modify rfl (follows_pure _)

/-- An operation ends alike if listeners are called alike. -/
theorem follows_perform (same : FollowsCalls lenient view react react')
    (limit : Nat) (workspace : WorkspaceId) (operation : HostOperation) :
    Follows lenient view (operation.perform react limit workspace)
      (operation.perform react' limit workspace) editor := by
  cases operation with
  | newBlock type id extensions =>
      exact follows_discard (follows_newBlock workspace type id extensions)
  | removeBlock block => exact follows_of_run rfl
  | setOutput block check =>
      exact follows_discard (follows_setOutput block check)
  | appendInput block name check =>
      exact follows_discard (follows_appendInput block name check)
  | appendDummyInput block name =>
      exact follows_discard (follows_appendDummyInput block name)
  | newField name kind value => exact follows_discard (follows_newField _)
  | appendField block place field => exact follows_appendField block place field
  | createVariable name request id =>
      exact follows_createVariable workspace name request id
  | initBlock block => exact follows_initBlock same block
  | wire block mode =>
      refine follows_look rfl fun engine => ?_
      exact follows_discard (follows_wire same engine block mode)
  | releaseWiring block =>
      refine follows_look rfl fun engine => ?_
      exact follows_discard (follows_releaseWiring engine block)
  | disposeWiring wiring => exact follows_discard (follows_disposeWiring wiring)
  | disposeBlock block => exact follows_disposeBlock same limit block
  | connect this other => exact follows_connect same this other
  | disconnect connection => exact follows_disconnect same connection
  | setValue field value => exact follows_setValue same field value
  | setTypes slot check =>
      exact follows_discard (follows_setTypes same slot check)
  | listen slot callback => exact follows_discard (follows_subscribe slot _)
  | unlisten subscription => exact follows_of_run rfl

end HostOperation

namespace Editor

variable {σ : Type}

/-- More fuel changes nothing about a call that did not use up its fuel. -/
theorem followsCalls_reaction (outside : Callbacks σ) (fuel : Nat) :
    ∀ more, FollowsCalls True id (reaction outside fuel)
      (reaction outside (fuel + more)) := by
  induction fuel with
  | zero => exact fun _ _ _ => Or.inl ⟨True.intro, rfl⟩
  | succ fuel induction =>
      intro more listener editor
      rw [Nat.add_right_comm]
      cases listener with
      | callback callback => exact follows_of_run rfl
      | recompute wiring target =>
          exact follows_discard
            (follows_recompute (induction more) wiring target)

end Editor

end TypeFlow
