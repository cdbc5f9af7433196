import TypeFlow.Proofs.Faults
import TypeFlow.Proofs.Host.Conduct
import TypeFlow.Proofs.WildcardCache

/-!
# What operations maintain

Operations are walked through once for all invariants of a kind.  Such an
invariant may speak of the chain of slots that are being recomputed.  It holds
again after a slot was put on the chain and after one was taken off, writing
checks does not touch it, and while no slot is on the chain it is kept by
whatever leaves the guards and the counters of their depths alone and puts
nothing but names in caches.  The same walk tells which faults can be raised.
-/

namespace TypeFlow

open OrderedMap (read_getD_insert)

namespace Editor

variable {σ α β : Type} {change : Editor σ → Editor σ} {action : EditM σ α}
  {holds : List SlotKey → Editor σ → Prop} {raised : Fault → Prop}

/-- From states with `holds` the action ends in such states, and it raises no
other faults. -/
def Maintains (holds : Editor σ → Prop) (faults : Fault → Prop)
    (action : EditM σ α) : Prop :=
  ∀ editor, holds editor → Leads action editor (fun _ after => holds after)
    (fun fault after => faults fault ∧ holds after)

/-- The action raises no other faults, whatever state it is run from. -/
abbrev Raises (faults : Fault → Prop) (action : EditM σ α) : Prop :=
  Maintains (fun _ => True) faults action

section Rules

variable {holds : Editor σ → Prop} {faults : Fault → Prop}

theorem maintains_bind {first : EditM σ α} {next : α → EditM σ β}
    (begins : Maintains holds faults first)
    (continues : ∀ value, Maintains holds faults (next value)) :
    Maintains holds faults (first >>= next) := by
  intro editor held
  rw [leads_bind]
  apply Leads.imp (begins editor held)
  intro value middle heldMiddle
  exact continues value middle heldMiddle

theorem maintains_look {view : Editor σ → α} {next : α → EditM σ β}
    (continues : ∀ value, Maintains holds faults (next value)) :
    Maintains holds faults (look view >>= next) :=
  maintains_bind (fun _ held => held) continues

theorem maintains_pure (value : α) : Maintains holds faults
    (pure value : EditM σ α) :=
  fun _ held => held

theorem maintains_throw {fault : Fault} (fails : faults fault) :
    Maintains holds faults (throw fault : EditM σ α) :=
  fun _ held => ⟨fails, held⟩

theorem maintains_modify
    (keeps : ∀ editor, holds editor → holds (change editor)) :
    Maintains holds faults (modify change : EditM σ PUnit) :=
  fun editor held => keeps editor held

theorem maintains_lookup {view : Editor σ → Except Fault α}
    (fails : ∀ editor fault, view editor = .error fault → faults fault) :
    Maintains holds faults (lookup view) := by
  intro editor held
  rw [leads_lookup]
  exact ⟨fun _ _ => held, fun fault isError =>
    ⟨fails editor fault isError, held⟩⟩

/-- Looking up what only a detached field lacks. -/
theorem maintains_lookup_detached {view : Editor σ → Except Fault α}
    (ofCascade : ∀ fault : Fault, fault.IsOfCascade → faults fault)
    (fails : ∀ {editor fault}, view editor = .error fault →
      ∃ name, fault = .fieldDetached name) :
    Maintains holds faults (lookup view) :=
  maintains_lookup fun _ fault isError =>
    ofCascade fault (.of_detached (fails isError))

theorem maintains_discard (maintains : Maintains holds faults action) :
    Maintains holds faults (discard action) := by
  intro editor held
  rw [leads_discard]
  exact maintains editor held

theorem maintains_forM {visit : α → EditM σ PUnit} (items : List α)
    (maintains : ∀ item ∈ items, Maintains holds faults (visit item)) :
    Maintains holds faults (items.forM visit) :=
  fun _ held => leads_forM (fun _ current => holds current) items
    (fun item _ current member heldHere => maintains item member current
      heldHere) held

theorem Raises.leads (raises : Raises faults action) (editor : Editor σ) :
    Leads action editor (fun _ _ => True) (fun fault _ => faults fault) :=
  Leads.mono (raises editor True.intro) (fun _ _ => id) fun _ _ => And.left

end Rules

/-- The guards and the counters of their depths are left alone, and caches stay
faithful. -/
structure Aside (before after : Editor σ) : Prop where
  cache : ∀ id, (before.cache id).Faithful → (after.cache id).Faithful
  outer : after.outer = before.outer
  guard : ∀ id, (after.engine id).guard = (before.engine id).guard
  depth : ∀ id,
    (after.engine id).stats.maxCascadeDepth =
      (before.engine id).stats.maxCascadeDepth
  wiring : ∀ id, (after.wiring id).engine = (before.wiring id).engine
  workspace : ∀ id, (after.workspace id).engine = (before.workspace id).engine

/-- In addition, bindings and the keys of slots are left alone. -/
structure Rewritten (before after : Editor σ) :
    Prop extends Aside before after where
  wirings : after.wirings = before.wirings
  slotKey : ∀ slot, after.slotKey slot = before.slotKey slot

section Changes

variable (editor : Editor σ)

theorem Aside.refl : Aside editor editor :=
  ⟨fun _ => id, rfl, fun _ => rfl, fun _ => rfl, fun _ => rfl, fun _ => rfl⟩

theorem Aside.trans {before middle after : Editor σ}
    (first : Aside before middle) (second : Aside middle after) :
    Aside before after where
  cache := fun id faithful => second.cache id (first.cache id faithful)
  outer := second.outer.trans first.outer
  guard := fun id => (second.guard id).trans (first.guard id)
  depth := fun id => (second.depth id).trans (first.depth id)
  wiring := fun id => (second.wiring id).trans (first.wiring id)
  workspace := fun id => (second.workspace id).trans (first.workspace id)

theorem aside_updateStats (engine : EngineId) {change : Stats → Stats}
    (keeps : ∀ stats, (change stats).maxCascadeDepth = stats.maxCascadeDepth) :
    Aside editor (editor.updateStats engine change) where
  cache := fun _ => id
  outer := rfl
  guard := fun _ => read_getD_insert Engine.guard rfl
  depth := fun _ =>
    read_getD_insert (fun entry : Engine => entry.stats.maxCascadeDepth)
      (keeps _)
  wiring := fun _ => rfl
  workspace := fun _ => rfl

theorem aside_updateWorkspace (workspace : WorkspaceId)
    {change : Workspace → Workspace}
    (keeps : ∀ entry, (change entry).engine = entry.engine) :
    Aside editor (editor.updateWorkspace workspace change) :=
  { Aside.refl editor with
    workspace := fun _ => read_getD_insert Workspace.engine (keeps _) }

theorem aside_updateWiring (wiring : WiringId) {change : Wiring → Wiring}
    (keeps : ∀ entry, (change entry).engine = entry.engine) :
    Aside editor (editor.updateWiring wiring change) :=
  { Aside.refl editor with
    wiring := fun _ => read_getD_insert Wiring.engine (keeps _) }

theorem aside_updateEngine (engine : EngineId) {change : Engine → Engine}
    (keepsGuard : ∀ entry, (change entry).guard = entry.guard)
    (keepsDepth : ∀ entry,
      (change entry).stats.maxCascadeDepth = entry.stats.maxCascadeDepth) :
    Aside editor (editor.updateEngine engine change) :=
  { Aside.refl editor with
    guard := fun _ => read_getD_insert Engine.guard (keepsGuard _)
    depth := fun _ =>
      read_getD_insert (fun entry : Engine => entry.stats.maxCascadeDepth)
        (keepsDepth _) }

theorem aside_updateRegistry (workspace : WorkspaceId)
    (change : Registry Listener → Registry Listener) :
    Aside editor (editor.updateRegistry workspace change) := by
  unfold updateRegistry
  exact aside_updateWorkspace editor workspace fun _ => rfl

theorem aside_setCache (id : CacheId) {cache : Wildcard.Cache}
    (faithful : (editor.cache id).Faithful → cache.Faithful) :
    Aside editor (editor.setCache id cache) :=
  { Aside.refl editor with
    cache := by
      intro other otherFaithful
      rw [Editor.cache, setCache, OrderedMap.getD_insert]
      split
      · rename_i same
        subst same
        exact faithful otherFaithful
      · exact otherFaithful }

/-- Asking whether two connections fit adds names to a cache. -/
theorem aside_canConnectWith (this other : ConnectionId) :
    Ends (canConnectWith this other) editor (Aside editor) := by
  simp only [Ends, canConnectWith, leads_bind, leads_look]
  split
  · simp only [leads_bind, leads_look, canConnect, leads_get, leads_set,
      leads_pure]
    apply aside_setCache
    intro faithful
    rw [faithful.relax]
    exact faithful.learn _
  · exact Aside.refl editor

theorem aside_foldl_releaseSubscription (subscriptions : List SubscriptionId) :
    Aside editor (subscriptions.foldl releaseSubscription editor) := by
  induction subscriptions generalizing editor with
  | nil => exact Aside.refl editor
  | cons subscription rest induction =>
      have releases : Aside editor (editor.releaseSubscription subscription) :=
        aside_updateRegistry editor subscription.workspace _
      exact releases.trans (induction _)

theorem rewritten_setCheck (connection : ConnectionId) (check : Check) :
    Rewritten editor (editor.setCheck connection check) :=
  { Aside.refl editor with
    wirings := rfl
    slotKey := by
      intro slot
      cases slot with
      | connection other =>
          exact read_getD_insert
            (fun entry : Connection => Except.ok entry.key) rfl
      | field field => rfl }

theorem rewritten_setKind (field : FieldId) (kind : FieldKind) :
    Rewritten editor (editor.updateField field fun entry => { entry with
      kind }) :=
  { Aside.refl editor with
    wirings := rfl
    slotKey := slotKey_updateField editor field (fun _ => rfl) fun _ => rfl }

theorem rewritten_setVariables (workspace : WorkspaceId) (store : Variables) :
    Rewritten editor (editor.setVariables workspace store) :=
  { Aside.refl editor with
    wirings := rfl
    slotKey := by
      intro slot
      cases slot <;> rfl
    workspace := fun _ => read_getD_insert Workspace.engine rfl }

theorem rewritten_updateStats (engine : EngineId) {change : Stats → Stats}
    (keeps : ∀ stats, (change stats).maxCascadeDepth = stats.maxCascadeDepth) :
    Rewritten editor (editor.updateStats engine change) :=
  { aside_updateStats editor engine keeps with
    wirings := rfl
    slotKey := by
      intro slot
      cases slot <;> rfl }

theorem aside_resetTypes (slot : Slot) (check : Check) :
    Aside editor (editor.resetTypes slot check) := by
  cases slot with
  | connection connection =>
      exact (rewritten_setCheck editor connection check).toAside
  | field field =>
      simp only [resetTypes, resetFieldTypes]
      split
      · exact (rewritten_setKind editor field (.reference check)).toAside
      · exact Aside.refl editor

theorem aside_undo (targets : List Target) :
    Aside editor (targets.foldl (fun editor target =>
      editor.resetTypes target.slot (some target.types)) editor) := by
  induction targets generalizing editor with
  | nil => exact Aside.refl editor
  | cons target rest induction =>
      exact (aside_resetTypes editor target.slot _).trans (induction _)

end Changes

/-- An invariant that can be followed through all operations.  It speaks of the
chain of slots that are being recomputed, for engines that serve. -/
structure Upholds (serves : EngineId → Prop)
    (holds : List SlotKey → Editor σ → Prop) :
    Prop where
  engine : ∀ {chain editor}, holds chain editor →
    ∀ wiring, serves (editor.wiring wiring).engine
  write : ∀ {chain before after}, Rewritten before after → holds chain before →
    holds chain after
  enter : ∀ {chain editor engine wiring target binding key entered},
    serves engine →
    holds chain editor →
      (editor.wiring wiring).bindings.get? target = some binding →
    editor.slotKey binding.target = .ok key →
    (editor.engine engine).guard.enter key = .ok entered →
      holds (chain ++ [key])
        ((editor.setGuard engine entered).updateStats engine
        (·.countRecompute entered.depth))
  leave : ∀ {chain editor engine key}, serves engine →
    holds (chain ++ [key]) editor →
    holds chain (editor.setGuard engine
      ((editor.engine engine).guard.leave key))
  aside : ∀ {before after}, Aside before after → holds [] before →
    holds [] after
  begin : ∀ {editor id wiring entry}, holds [] editor →
    entry.engine = (editor.workspace id).engine →
      holds [] { editor with wirings := editor.wirings.insert wiring entry }

/-- Nothing needs to be upheld to tell the faults. -/
theorem upholds_true : Upholds (fun _ => True) fun _ (_ : Editor σ) =>
    True := by
  constructor <;> intros <;> trivial

section Cascade

variable {serves : EngineId → Prop} {faults : List SlotKey → Fault → Prop}
  {react : Reaction σ} (upholds : Upholds serves holds)
  (ofCascade : ∀ chain (fault : Fault), fault.IsOfCascade → faults chain fault)
  (reacts : ∀ chain listener, Maintains (holds chain) (faults chain)
    (react listener))
  (chain : List SlotKey)

include upholds in
theorem maintains_rewrite
    (rewrites : ∀ editor, Rewritten editor (change editor)) :
    Maintains (holds chain) raised (modify change : EditM σ PUnit) :=
  maintains_modify fun editor held => upholds.write (rewrites editor) held

include reacts

theorem maintains_notify (workspace : WorkspaceId) (key : SlotKey) :
    Maintains (holds chain) (faults chain) (notify react workspace key) := by
  apply maintains_look
  intro listeners
  apply maintains_bind (maintains_forM listeners fun listener _ =>
    reacts chain listener)
  exact fun _ => maintains_pure _

include upholds

theorem maintains_setConnectionTypes (connection : ConnectionId)
    (check : Check) :
    Maintains (holds chain) (faults chain)
      (setConnectionTypes react connection check) := by
  apply maintains_look
  intro entry
  refine maintains_bind (maintains_rewrite upholds chain fun editor =>
    rewritten_setCheck editor connection _) fun _ => ?_
  split
  · exact maintains_pure _
  · split
    · exact maintains_pure _
    · apply maintains_look
      intro workspace
      apply maintains_look
      intro key
      apply maintains_bind
        (maintains_discard (maintains_notify reacts chain workspace key))
      exact fun _ => maintains_pure _

omit upholds in
include ofCascade in
theorem maintains_notifyField (field : FieldId) :
    Maintains (holds chain) (faults chain) (notifyField react field) := by
  apply maintains_look
  intro attached
  cases attached with
  | none => exact maintains_pure _
  | some block =>
      apply maintains_look
      intro workspace
      apply maintains_bind
        (maintains_lookup_detached (ofCascade chain) fun fails =>
          slotKey_error (show Editor.slotKey _ (.field field) = _ from fails))
      exact fun key => maintains_discard
        (maintains_notify reacts chain workspace key)

omit reacts in
theorem maintains_retypeVariable (field : FieldId) (check : Check) :
    Maintains (holds chain) (faults chain) (retypeVariable field check) := by
  intro editor held
  simp only [retypeVariable, leads_bind, leads_get]
  split
  · exact upholds.write (rewritten_setVariables editor _ _) held
  · exact held

include ofCascade

theorem maintains_setFieldTypes (field : FieldId) (check : Check) :
    Maintains (holds chain) (faults chain)
      (setFieldTypes react field check) := by
  apply maintains_look
  intro kind
  cases kind with
  | reference previous =>
      refine maintains_bind (maintains_rewrite upholds chain fun editor =>
        rewritten_setKind editor field _) fun _ => ?_
      apply maintains_bind (maintains_retypeVariable upholds chain field check)
      intro retyped
      dsimp only
      split
      · apply maintains_bind
          (maintains_notifyField ofCascade reacts chain field)
        exact fun _ => maintains_pure _
      · exact maintains_pure _
  | text => exact maintains_pure _
  | dropdown choices => exact maintains_pure _

theorem maintains_setTypes (slot : Slot) (check : Check) :
    Maintains (holds chain) (faults chain) (setTypes react slot check) := by
  cases slot with
  | connection connection =>
      exact maintains_setConnectionTypes upholds reacts chain connection check
  | field field =>
      exact maintains_setFieldTypes upholds ofCascade reacts chain field check

/-- While a binding is recomputed its target is on the chain. -/
theorem maintains_recompute
    (ofGuard : ∀ fault : Fault, fault.IsOfCascade → raised fault)
    (nested : ∀ key fault, faults (chain ++ [key]) fault → raised fault)
    (wiring : WiringId) (target : SlotKey) : Maintains (holds chain) raised
      (recompute react wiring target) := by
  intro editor held
  simp only [recompute, leads_bind, leads_look]
  split
  · exact held
  · rename_i binding isBound
    simp only [recomputeBinding, leads_bind, leads_lookup]
    refine ⟨?_, fun fault fails =>
      ⟨ofGuard fault (.of_detached (slotKey_error fails)), held⟩⟩
    intro key hasKey
    have serving := upholds.engine held wiring
    rw [leads_guarded]
    refine ⟨?_, fun fault refuses =>
      ⟨ofGuard fault (Guard.enter_error refuses), held⟩⟩
    intro entered enters
    have inside := upholds.enter serving held isBound hasKey enters
    rw [leads_bind, leads_modify]
    have continues : Maintains (holds (chain ++ [key]))
        (faults (chain ++ [key])) (do
          let check ← lookup (·.computed binding)
          let changed ← setTypes react binding.target check
          if changed then modify (·.updateStats (editor.wiring wiring).engine
            Stats.countWrite)
          return changed) := by
      apply maintains_bind
      · apply maintains_lookup
        intro _ fault fails
        rw [computed_error fails]
        exact ofCascade _ _ True.intro
      · intro check
        apply maintains_bind (maintains_setTypes upholds ofCascade reacts
          _ binding.target check)
        intro changed
        cases changed with
        | true =>
            exact maintains_bind (maintains_rewrite upholds _ fun editor =>
              rewritten_updateStats editor _ fun _ => rfl) fun _ =>
                maintains_pure _
        | false => exact maintains_pure _
    apply Leads.mono (continues _ inside)
    · intro _ after heldAfter
      exact upholds.leave serving heldAfter
    · intro fault after both
      exact ⟨nested key fault both.1, upholds.leave serving both.2⟩

end Cascade

section Host

variable {serves : EngineId → Prop} {faults : List SlotKey → Fault → Prop}
  {react : Reaction σ} (upholds : Upholds serves holds)
  (ofCascade : ∀ chain (fault : Fault), fault.IsOfCascade → faults chain fault)
  (deeper : ∀ key fault, faults [key] fault → faults [] fault)
  (reacts : ∀ chain listener, Maintains (holds chain) (faults chain)
    (react listener))

include upholds in
theorem maintains_aside (leaves : ∀ editor, Aside editor (change editor)) :
    Maintains (holds []) raised (modify change : EditM σ PUnit) :=
  maintains_modify fun editor held => upholds.aside (leaves editor) held

section Links

include reacts

theorem maintains_notifyEnds (this other : ConnectionId) :
    Maintains (holds []) (faults []) (notifyEnds react this other) := by
  apply maintains_look
  intro workspace
  apply maintains_look
  intro thisKey
  apply maintains_bind
    (maintains_discard (maintains_notify reacts [] workspace thisKey))
  intro _
  apply maintains_look
  exact fun otherKey =>
    maintains_discard (maintains_notify reacts [] workspace otherKey)

include upholds

theorem maintains_disconnect (this : ConnectionId) :
    Maintains (holds []) (faults []) (disconnect react this) := by
  apply maintains_look
  intro linked
  cases linked with
  | none => exact maintains_pure _
  | some other =>
      refine maintains_bind (maintains_aside upholds fun editor => ?_) fun _ =>
        ?_
      · exact { Aside.refl editor with }
      · exact maintains_notifyEnds reacts this other

end Links

include upholds ofCascade

theorem maintains_subscribe (slot : Slot) (listener : Listener) :
    Maintains (holds []) (faults []) (subscribe slot listener) := by
  apply maintains_bind (maintains_lookup_detached (ofCascade [])
    slotBlock_error)
  intro block
  apply maintains_look
  intro workspace
  apply maintains_bind (maintains_lookup_detached (ofCascade []) slotKey_error)
  intro key
  apply maintains_look
  intro number
  exact maintains_bind (maintains_aside upholds fun editor =>
    aside_updateRegistry editor workspace _) fun _ => maintains_pure _

theorem maintains_listenTo (engine : EngineId) (wiring : WiringId)
    (target : SlotKey) (source : Slot) :
    Maintains (holds []) (faults [])
      (listenTo engine wiring target source) := by
  apply maintains_bind (maintains_subscribe upholds ofCascade source _)
  intro subscription
  refine maintains_bind (maintains_aside upholds fun editor =>
    aside_updateWiring editor wiring fun _ => rfl) fun _ => ?_
  exact maintains_aside upholds fun editor => aside_updateStats editor
    engine fun _ => rfl

include reacts

theorem maintains_install (engine : EngineId) (block : BlockId)
    (wiring : WiringId) (plan : Plan) : Maintains (holds []) (faults [])
      (install react engine block wiring plan) := by
  unfold install
  dsimp only
  split
  · exact maintains_discard (maintains_setTypes upholds ofCascade reacts
      [] plan.target.slot _)
  · apply maintains_bind (maintains_lookup_detached (ofCascade [])
      slotKey_error)
    intro key
    apply maintains_look
    intro label
    refine maintains_bind (maintains_aside upholds fun editor =>
      aside_updateWiring editor wiring fun _ => rfl) fun _ => ?_
    refine maintains_bind (maintains_aside upholds fun editor =>
      aside_updateStats editor engine fun _ => rfl) fun _ => ?_
    apply maintains_bind (maintains_lookup_detached (ofCascade [])
      sourcesByKey_error)
    intro sources
    exact maintains_forM _ fun source _ =>
      maintains_listenTo upholds ofCascade engine wiring key source

include deeper

theorem maintains_recomputeAll (wiring : WiringId) :
    Maintains (holds []) (faults []) (recomputeAll react wiring) := by
  have each : ∀ targets, Maintains (holds []) (faults [])
      (recomputeEach react wiring targets) := by
    intro targets
    induction targets with
    | nil => exact maintains_pure _
    | cons target rest induction =>
        apply maintains_bind (maintains_recompute upholds ofCascade reacts []
          (ofCascade []) deeper wiring target)
        intro changed
        apply maintains_bind induction
        exact fun _ => maintains_pure _
  exact maintains_look each

/-! Besides what a cascade raises, an operation may raise any fault but the one
that tells that fuel was used up. -/

variable (fine : ∀ fault : Fault, fault ≠ .unsettled → faults [] fault)

section Bare

omit ofCascade reacts deeper

theorem maintains_disposeWiring (wiring : WiringId) :
    Maintains (holds []) (faults []) (disposeWiring wiring) := by
  intro editor held
  simp only [disposeWiring, leads_bind, leads_get]
  split
  · exact held
  · simp only [leads_bind, leads_set, leads_modify, leads_pure]
    refine upholds.aside (aside_updateStats _ _ ?_)
      (upholds.aside (aside_updateWiring _ _ ?_)
      (upholds.aside (aside_foldl_releaseSubscription editor _) held))
    · exact fun _ => rfl
    · exact fun _ => rfl

theorem maintains_releaseWiring (engine : EngineId) (block : BlockId) :
    Maintains (holds []) (faults []) (releaseWiring engine block) := by
  apply maintains_look
  intro recorded
  cases recorded with
  | none => exact maintains_pure _
  | some wiring =>
      refine maintains_bind (maintains_aside upholds fun editor =>
        aside_updateEngine editor engine (fun _ => rfl) fun _ => rfl) fun _ =>
          ?_
      exact maintains_disposeWiring upholds wiring

include fine

theorem maintains_rejectCycle (engine : EngineId) (block : BlockId)
    (plans : List Plan) :
    Maintains (holds []) (faults []) (rejectCycle engine block plans) := by
  apply maintains_bind
  · apply maintains_lookup
    intro editor fault fails
    obtain ⟨plan, _, planFails⟩ := mapM_error_mem fails
    obtain ⟨name, rfl⟩ := planEdges_error planFails
    exact fine _ nofun
  · intro edges
    split
    · exact maintains_pure _
    · apply maintains_look
      intro rejects
      cases rejects with
      | true =>
          refine maintains_bind (maintains_aside upholds fun editor =>
            aside_updateStats editor engine fun _ => rfl) fun _ => ?_
          exact maintains_look fun _ => maintains_throw (fine _ nofun)
      | false => exact maintains_pure _

end Bare

section Wire

include fine

theorem maintains_wireLive (engine : EngineId) (block : BlockId)
    (wiring : WiringId) (targets : List Target) :
    Maintains (holds []) (faults [])
      (wireLive react engine block wiring targets) := by
  apply maintains_look
  intro plans
  refine maintains_bind (maintains_aside upholds fun editor =>
    aside_updateStats editor engine fun _ => rfl) fun _ => ?_
  apply maintains_bind (maintains_rejectCycle upholds fine engine block plans)
  intro _
  apply maintains_bind (maintains_forM plans fun plan _ =>
    maintains_install upholds ofCascade reacts engine block wiring plan)
  intro _
  apply maintains_look
  intro recomputes
  cases recomputes with
  | true =>
      exact maintains_discard (maintains_recomputeAll upholds ofCascade deeper
        reacts wiring)
  | false => exact maintains_pure _

theorem maintains_wireLiveOrUndo (engine : EngineId) (block : BlockId)
    (wiring : WiringId) (targets : List Target) :
    Maintains (holds []) (faults [])
      (wireLiveOrUndo react engine block wiring targets) := by
  intro editor held
  simp only [wireLiveOrUndo, leads_tryCatch]
  apply Leads.mono (maintains_wireLive upholds ofCascade deeper reacts fine
    engine block wiring targets editor held)
  · exact fun _ _ => id
  · rintro fault broken ⟨allowed, heldBroken⟩
    refine maintains_bind
      (maintains_discard (maintains_disposeWiring upholds wiring))
      (fun _ => ?_) broken heldBroken
    refine maintains_bind (maintains_aside upholds fun editor =>
      aside_undo editor targets) fun _ => ?_
    exact maintains_throw allowed

omit fine deeper in
theorem maintains_wireStatic (targets : List Target) :
    Maintains (holds []) (faults []) (wireStatic react targets) :=
  maintains_forM targets fun target _ =>
    maintains_discard (maintains_setTypes upholds ofCascade reacts
      [] target.slot _)

/-- A wiring is begun by the engine of a workspace. -/
theorem maintains_wire {editor : Editor σ} (held : holds [] editor)
    (workspace : WorkspaceId) (block : BlockId) (mode : WiringMode) :
    Leads (wire react (editor.workspace workspace).engine block mode) editor
      (fun _ after => holds [] after)
      (fun fault after => faults [] fault ∧ holds [] after) := by
  unfold wire
  rw [leads_bind, leads_look]
  split
  · exact held
  · have begins : Leads (newWiring (editor.workspace workspace).engine
      block mode) editor
        (fun _ after => holds [] after)
        (fun fault after => faults [] fault ∧ holds [] after) := by
      simp only [newWiring, leads_bind, leads_look, leads_modify, leads_pure]
      exact upholds.begin held rfl
    have counts : ∀ change : Stats → Stats,
        (∀ stats, (change stats).maxCascadeDepth = stats.maxCascadeDepth) →
          Maintains (holds []) (faults [])
            (modify (·.updateStats (editor.workspace workspace).engine change) :
              EditM σ PUnit) :=
      fun change keeps => maintains_aside upholds fun current =>
        aside_updateStats current _ keeps
    have records : ∀ wiring : WiringId, Maintains (holds []) (faults [])
        (do
          modify (·.recordWiring (editor.workspace workspace).engine
            block wiring)
          return wiring : EditM σ WiringId) := by
      intro wiring
      refine maintains_bind (maintains_aside upholds fun current => ?_)
        fun _ => maintains_pure _
      exact aside_updateEngine current _ (fun _ => rfl) fun _ => rfl
    rw [leads_bind, leads_look, leads_bind]
    apply Leads.imp begins
    intro wiring begun heldBegun
    cases mode with
    | static =>
        refine maintains_bind (maintains_wireStatic upholds ofCascade reacts _)
          (fun _ => ?_) begun heldBegun
        exact maintains_bind (counts _ fun _ => rfl) fun _ => records wiring
    | live =>
        dsimp only
        split
        · exact records wiring begun heldBegun
        · refine maintains_bind (maintains_wireLiveOrUndo upholds ofCascade
            deeper reacts fine _ block wiring _) (fun _ => ?_) begun heldBegun
          exact maintains_bind (counts _ fun _ => rfl) fun _ => records wiring

theorem maintains_initBlock (block : BlockId) :
    Maintains (holds []) (faults []) (initBlock react block) := by
  intro editor held
  refine leads_initBlock held (fun _ name _ => ?_) fun current heldHere =>
    upholds.aside { Aside.refl current with } heldHere
  refine maintains_bind (maintains_lookup ?_) fun action => ?_
  · intro _ fault fails
    unfold ExtensionTable.action at fails
    split at fails
    · cases fails
    · cases fails
      exact fine _ nofun
  · cases action with
    | wire =>
        intro current heldHere
        simp only [leads_bind, leads_look, leads_pure]
        exact maintains_wire upholds ofCascade deeper reacts fine
          heldHere _ block _
    | callback callback =>
        exact maintains_bind (reacts [] (.callback callback)) fun _ =>
          maintains_pure _

end Wire

omit ofCascade deeper in
theorem maintains_disposeBlock (limit : Nat) (block : BlockId) :
    Maintains (holds []) (faults []) (disposeBlock react limit block) := by
  intro editor held
  refine leads_disposeBlock ?_ limit (fun _ => held)
    (maintains_releaseWiring upholds _ block editor held) ?_
  · exact fun current connection heldHere _ =>
      maintains_disconnect upholds reacts connection current heldHere
  · intro current heldHere
    refine upholds.aside ?_ heldHere
    exact { Aside.refl current with
      workspace := fun _ => read_getD_insert Workspace.engine rfl }

section Connect

omit deeper

theorem maintains_setValue (field : FieldId) (value : FieldValue) :
    Maintains (holds []) (faults []) (setValue react field value) := by
  refine maintains_bind (maintains_aside upholds fun editor => ?_) fun _ => ?_
  · exact { Aside.refl editor with }
  · exact maintains_notifyField ofCascade reacts [] field

omit ofCascade

include fine

theorem maintains_connect (this other : ConnectionId) :
    Maintains (holds []) (faults []) (connect react this other) := by
  apply maintains_look
  intro linked
  split
  · exact maintains_pure _
  · apply maintains_bind
    · intro editor held
      apply Leads.mono ((aside_canConnectWith editor this other).and
        (leads_canConnectWith this other editor))
      · intro _ after asks
        exact upholds.aside asks.1 held
      · intro _ _ fails
        exact fails.2.elim
    · intro fits
      cases fits with
      | true =>
          apply maintains_bind (maintains_disconnect upholds reacts this)
          intro _
          apply maintains_bind (maintains_disconnect upholds reacts other)
          intro _
          refine maintains_bind (maintains_aside upholds fun editor => ?_)
            fun _ => ?_
          · exact { Aside.refl editor with }
          · exact maintains_notifyEnds reacts this other
      | false =>
          apply maintains_look
          intro _
          exact maintains_look fun _ => maintains_throw (fine _ nofun)

end Connect

end Host

end Editor

namespace HostOperation

open Editor

variable {σ : Type} {serves : EngineId → Prop}
  {holds : List SlotKey → Editor σ → Prop}
  {faults : List SlotKey → Fault → Prop} {react : Reaction σ}

/-- What calls of listeners maintain is maintained by operations. -/
theorem maintains_perform (upholds : Upholds serves holds)
    (ofCascade : ∀ chain (fault : Fault), fault.IsOfCascade →
      faults chain fault)
    (deeper : ∀ key fault, faults [key] fault → faults [] fault)
    (reacts : ∀ chain listener, Maintains (holds chain) (faults chain)
      (react listener))
    (fine : ∀ fault : Fault, fault ≠ .unsettled → faults [] fault) (limit : Nat)
    (workspace : WorkspaceId) (operation : HostOperation) :
    Maintains (holds []) (faults [])
      (operation.perform react limit workspace) := by
  cases operation with
  | newBlock type id extensions =>
      intro editor held
      refine (leads_discard _).mpr
        (leads_newBlock (fun _ _ => ⟨fine _ nofun, ?_⟩) fun _ _ _ => ?_)
      · exact upholds.aside { Aside.refl editor with } held
      · refine upholds.aside ?_ held
        exact { Aside.refl editor with
          workspace := fun _ => read_getD_insert Workspace.engine rfl }
  | removeBlock block =>
      exact maintains_aside upholds fun editor =>
        aside_updateWorkspace editor workspace fun _ => rfl
  | setOutput block check =>
      intro editor held
      exact upholds.aside { Aside.refl editor with } held
  | appendInput block name check =>
      intro editor held
      refine (leads_discard _).mpr
        (leads_appendInput ⟨fine _ nofun, held⟩ fun _ => ?_)
      exact upholds.aside { Aside.refl editor with } held
  | appendDummyInput block name =>
      intro editor held
      refine (leads_discard _).mpr
        (leads_appendDummyInput ⟨fine _ nofun, held⟩ ?_)
      exact upholds.aside { Aside.refl editor with } held
  | newField name kind value =>
      intro editor held
      exact upholds.aside { Aside.refl editor with } held
  | appendField block place field =>
      intro editor held
      refine leads_appendField ⟨fine _ nofun, held⟩ fun _ => ?_
      exact upholds.aside { Aside.refl editor with } held
  | createVariable name request id =>
      intro editor held
      simp only [perform, Editor.createVariable, leads_bind, leads_get,
        leads_set, leads_discard, leads_lookup]
      have files : ∀ store drawn,
          holds [] { editor.setVariables workspace store with drawn } := by
        intro store drawn
        refine upholds.aside ?_ held
        exact { (rewritten_setVariables editor workspace store).toAside with }
      refine ⟨fun _ _ => files _ _, fun fault fails =>
        ⟨fine fault ?_, files _ _⟩⟩
      rcases VariableDesk.create_error fails with ⟨_, _, rfl⟩ | ⟨_, rfl⟩ <;> simp
  | initBlock block =>
      exact maintains_initBlock upholds ofCascade deeper reacts fine block
  | wire block mode =>
      intro editor held
      simp only [HostOperation.perform, leads_bind, leads_look, leads_discard]
      exact maintains_wire upholds ofCascade deeper reacts fine held
        workspace block mode
  | releaseWiring block =>
      exact maintains_look fun engine =>
        maintains_discard (maintains_releaseWiring upholds engine block)
  | disposeWiring wiring =>
      exact maintains_discard (maintains_disposeWiring upholds wiring)
  | disposeBlock block =>
      exact maintains_disposeBlock upholds reacts limit block
  | connect this other => exact maintains_connect upholds reacts fine this other
  | disconnect connection =>
      exact maintains_disconnect upholds reacts connection
  | setValue field value =>
      exact maintains_setValue upholds ofCascade reacts field value
  | setTypes slot check =>
      exact maintains_discard (maintains_setTypes upholds ofCascade reacts
        [] slot check)
  | listen slot callback =>
      exact maintains_discard (maintains_subscribe upholds ofCascade slot _)
  | unlisten subscription =>
      exact maintains_aside upholds fun editor =>
        aside_updateRegistry editor _ _

end HostOperation

namespace Editor

variable {σ : Type} {faults : Fault → Prop}

theorem raises_idle (callback : CallbackId) : Raises faults
    (idle callback : EditM σ Unit) :=
  maintains_pure ()

/-- What callbacks maintain is maintained by calls of listeners, if it does not
depend on the slots that are being recomputed. -/
theorem maintains_reaction {serves : EngineId → Prop} {holds : Editor σ → Prop}
    {outside : Callbacks σ} (upholds : Upholds serves fun _ => holds)
    (ofCascade : ∀ fault : Fault, fault.IsOfCascade → faults fault)
    (unsettled : faults .unsettled)
    (maintained : ∀ callback, Maintains holds faults (outside callback))
    (fuel : Nat) :
    ∀ listener, Maintains holds faults (reaction outside fuel listener) := by
  induction fuel with
  | zero => exact fun _ => maintains_throw unsettled
  | succ fuel induction =>
      intro listener
      cases listener with
      | callback callback => exact maintained callback
      | recompute wiring target =>
          exact maintains_discard (maintains_recompute upholds
            (fun _ => ofCascade)
            (fun _ => induction) [] ofCascade (fun _ _ => id) wiring target)

/-- Calling listeners raises the faults of cascades and those of callbacks. -/
theorem raises_reaction {outside : Callbacks σ}
    (ofCascade : ∀ fault : Fault, fault.IsOfCascade → faults fault)
    (unsettled : faults .unsettled)
    (raised : ∀ callback, Raises faults (outside callback)) (fuel : Nat) :
    ∀ listener, Raises faults (reaction outside fuel listener) :=
  maintains_reaction upholds_true ofCascade unsettled raised fuel

end Editor

end TypeFlow
