import TypeFlow.Proofs.Host.WireBlock

/-!
# Engines and their writers

All that an engine writes are checks of targets.  The functions below are those
of the engine with the writing of a check left open, together with what the
check was made of.  With the engine's own writer they are the engine's
functions.
-/

namespace TypeFlow

/-- What the check of a slot is made of.  A target that only loses its
directives has no links. -/
structure Recipe where
  slot : Slot
  regular : TypeList
  links : List Link

def Target.recipe (target : Target) : Recipe :=
  ⟨target.slot, target.declared.regular, []⟩

def Binding.recipe (binding : Binding) : Recipe :=
  ⟨binding.target, binding.regular, binding.links⟩

/-- How an engine writes a check that it made by a recipe. -/
abbrev Writer (σ : Type) := Recipe → Check → EditM σ Bool

namespace Editor

variable {σ : Type}

section Writer

variable (write : Writer σ)

def recomputeBindingBy (engine : EngineId) (binding : Binding) : EditM σ Bool :=
  do
  let key ← lookup (·.slotKey binding.target)
  guarded engine key fun depth => do
    modify (·.updateStats engine (·.countRecompute depth))
    let check ← lookup (·.computed binding)
    let changed ← write binding.recipe check
    if changed then modify (·.updateStats engine Stats.countWrite)
    return changed

def recomputeBy (wiring : WiringId) (target : SlotKey) : EditM σ Bool := do
  let entry ← look (·.wiring wiring)
  match entry.bindings.get? target with
  | none => return false
  | some binding => recomputeBindingBy write entry.engine binding

def recomputeEachBy (wiring : WiringId) : List SlotKey → EditM σ Nat
  | [] => return 0
  | target :: rest => do
      let changed ← recomputeBy write wiring target
      let others ← recomputeEachBy wiring rest
      return (if changed then others + 1 else others)

def recomputeAllBy (wiring : WiringId) : EditM σ Nat := do
  recomputeEachBy write wiring
    (← look fun editor => (editor.wiring wiring).bindings.keys)

def installBy (engine : EngineId) (block : BlockId) (wiring : WiringId)
    (plan : Plan) :
    EditM σ Unit := do
  let regular := plan.target.declared.regular
  if plan.links.isEmpty then
    discard (write plan.target.recipe (Check.ofList regular))
  else
    let key ← lookup (·.slotKey plan.target.slot)
    let label ← look fun editor => (editor.block block).text ++ " " ++
      plan.target.label
    modify (·.updateWiring wiring fun entry =>
      { entry with
        bindings := entry.bindings.insert key
          ⟨plan.target.slot, regular, plan.links, label⟩ })
    modify (·.updateStats engine fun stats => { stats with
      bindings := stats.bindings + 1 })
    let sources ← lookup (·.sourcesByKey plan.links)
    sources.values.forM (listenTo engine wiring key)

def wireLiveBy (engine : EngineId) (block : BlockId) (wiring : WiringId)
    (targets : List Target) : EditM σ Unit := do
  let plans ← look fun editor => targets.map (editor.plan block)
  modify (·.updateStats engine fun stats =>
    { stats with
      droppedDirectives :=
        stats.droppedDirectives +
          ((plans.map Plan.dropped).foldl (· + ·) 0 : Nat) })
  rejectCycle engine block plans
  plans.forM (installBy write engine block wiring)
  if (← look fun editor => (editor.engine engine).config.initialRecompute) then
    discard (recomputeAllBy write wiring)

def wireStaticBy (targets : List Target) : EditM σ Unit :=
  targets.forM fun target =>
    discard (write target.recipe (Check.ofList target.declared.regular))

def wireLiveOrUndoBy (engine : EngineId) (block : BlockId) (wiring : WiringId)
    (targets : List Target) : EditM σ Unit := do
  try
    wireLiveBy write engine block wiring targets
  catch fault =>
    discard (disposeWiring wiring)
    modify (undo targets)
    throw fault

def wireBy (engine : EngineId) (block : BlockId) (mode : WiringMode) :
    EditM σ WiringId := do
  match ← look (·.liveWiringFor? engine block) with
  | some existing => return existing
  | none =>
      let targets ← look (·.targetsFor engine block)
      let wiring ← newWiring engine block mode
      match mode with
      | .static =>
          wireStaticBy write targets
          modify (·.updateStats engine fun stats =>
            { stats with blocksStatic := stats.blocksStatic + 1 })
      | .live =>
          unless targets.isEmpty do
            wireLiveOrUndoBy write engine block wiring targets
            modify (·.updateStats engine fun stats =>
              { stats with blocksWired := stats.blocksWired + 1 })
      modify (·.recordWiring engine block wiring)
      return wiring

def applyExtensionBy (react : Reaction σ) (workspace : WorkspaceId)
    (name : String) (block : BlockId) : EditM σ (Option WiringId) := do
  let action ← lookup fun editor =>
    ExtensionTable.action (editor.workspace workspace).extensions name
  match action with
  | .wire =>
      let entry ← look (·.workspace workspace)
      return some (← wireBy write entry.engine block entry.mode)
  | .callback callback =>
      react (.callback callback)
      return none

def initBlockBy (react : Reaction σ) (block : BlockId) : EditM σ Unit := do
  let entry ← look (·.block block)
  unless entry.initialized do
    entry.extensions.forM fun name =>
      discard (applyExtensionBy write react entry.workspace name block)
    modify (·.updateBlock block fun entry => { entry with initialized := true })

end Writer

/-- Calls a listener; recomputations write by `writer`. -/
def reactionBy (writer : Reaction σ → Writer σ) (outside : Callbacks σ) :
    (fuel : Nat) → Reaction σ
  | 0, _ => throw .unsettled
  | _ + 1, .callback callback => outside callback
  | fuel + 1, .recompute wiring target =>
      discard (recomputeBy (writer (reactionBy writer outside fuel))
        wiring target)

/-- The engine's own way to write. -/
def plainWrite (react : Reaction σ) : Writer σ :=
  fun recipe check => setTypes react recipe.slot check

section Plain

variable (react : Reaction σ)

theorem recomputeBy_plainWrite : recomputeBy
    (plainWrite react) = recompute react := rfl

theorem recomputeEachBy_plainWrite (wiring : WiringId)
    (targets : List SlotKey) :
    recomputeEachBy (plainWrite react) wiring targets = recomputeEach react
      wiring targets := by
  induction targets with
  | nil => rfl
  | cons target rest induction =>
      rw [recomputeEachBy, recomputeEach, induction, recomputeBy_plainWrite]

theorem recomputeAllBy_plainWrite : recomputeAllBy
    (plainWrite react) = recomputeAll react := by
  funext wiring
  simp only [recomputeAllBy, recomputeAll, recomputeEachBy_plainWrite]

theorem installBy_plainWrite : installBy (plainWrite react) = install react :=
  rfl

theorem wireLiveBy_plainWrite : wireLiveBy
    (plainWrite react) = wireLive react := by
  funext engine block wiring targets
  simp only [wireLiveBy, wireLive, recomputeAllBy_plainWrite,
    installBy_plainWrite]

theorem wireStaticBy_plainWrite : wireStaticBy
    (plainWrite react) = wireStatic react := rfl

theorem wireLiveOrUndoBy_plainWrite :
    wireLiveOrUndoBy (plainWrite react) = wireLiveOrUndo react := by
  funext engine block wiring targets
  rw [wireLiveOrUndoBy, wireLiveBy_plainWrite]
  rfl

theorem wireBy_plainWrite : wireBy (plainWrite react) = wire react := by
  funext engine block mode
  rw [wireBy, wireLiveOrUndoBy_plainWrite, wireStaticBy_plainWrite]
  rfl

theorem applyExtensionBy_plainWrite :
    applyExtensionBy (plainWrite react) react = applyExtension react := by
  funext workspace name block
  rw [applyExtensionBy, wireBy_plainWrite]
  rfl

theorem initBlockBy_plainWrite : initBlockBy
    (plainWrite react) react = initBlock react := by
  funext block
  rw [initBlockBy, applyExtensionBy_plainWrite]
  rfl

theorem reactionBy_plainWrite (outside : Callbacks σ) (fuel : Nat) :
    reactionBy plainWrite outside fuel = reaction outside fuel := by
  induction fuel with
  | zero => rfl
  | succ fuel induction =>
      funext listener
      cases listener with
      | callback callback => rfl
      | recompute wiring target =>
          rw [reactionBy, reaction, induction, recomputeBy_plainWrite]

end Plain

end Editor

namespace HostOperation

open Editor

variable {σ : Type}

/-- Carries out an operation with engines that write by `writer`. -/
def performBy (writer : Reaction σ → Writer σ)
    (outside : Callbacks σ) (limit : Nat) (workspace : WorkspaceId) :
    HostOperation → EditM σ Unit
  | .initBlock block =>
      let react := reactionBy writer outside limit
      initBlockBy (writer react) react block
  | .wire block mode => do
      let engine ← look fun editor => (editor.workspace workspace).engine
      discard (wireBy (writer (reactionBy writer outside limit))
        engine block mode)
  | operation =>
      operation.perform (reactionBy writer outside limit) limit workspace

theorem performBy_plainWrite (outside : Callbacks σ) (limit : Nat)
    (workspace : WorkspaceId) (operation : HostOperation) :
    operation.performBy plainWrite outside limit workspace =
      operation.perform (reaction outside limit) limit workspace := by
  rw [← reactionBy_plainWrite]
  cases operation with
  | initBlock block =>
      rw [performBy, initBlockBy_plainWrite]
      rfl
  | wire block mode =>
      rw [performBy, wireBy_plainWrite]
      rfl
  | _ => rfl

end HostOperation

end TypeFlow
