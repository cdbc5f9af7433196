import TypeFlow.Directive.Declared
import TypeFlow.Directive.Graph
import TypeFlow.Editor.Recompute

/-!
# Wiring blocks

An engine scans a block for slots whose lists hold directives.  A static block
is left with its regular types.  On a live block each such slot gets a binding
that listens to its sources; if that fails, all lists are put back and no
listener stays behind.
-/

namespace TypeFlow

/-- A slot whose declared list holds directives. -/
structure Target where
  slot : Slot
  types : TypeList
  declared : Declared
  label : String
  deriving DecidableEq, Repr

/-- A target with the sources that were found for its directives. -/
structure Plan where
  target : Target
  links : List Link
  deriving DecidableEq, Repr

/-- The target a slot is, if its check holds a directive. -/
def Target.ofCheck? (lead : String) (slot : Slot) (label : String)
    (check : Check) :
    Option Target :=
  let declared := Declared.ofTypes lead check.types
  if declared.hasDirectives then some ⟨slot, check.types, declared, label⟩
    else none

/-- How many directives of a plan found no source. -/
def Plan.dropped (plan : Plan) : Nat :=
  plan.target.declared.directives.length - plan.links.length

namespace Editor

variable {σ : Type}

/-- The output, then the inputs, then the variable fields that have directives.
-/
def targets (editor : Editor σ) (lead : String) (block : BlockId) :
    List Target :=
  let entry := editor.block block
  let ofConnection (name : String) (connection : ConnectionId) :
      Option Target :=
    Target.ofCheck? lead (.connection connection)
      ("connection '" ++ name ++ "'") (editor.connection connection).check
  let ofField (field : FieldId) : Option Target :=
    Target.ofCheck? lead (.field field)
      ("variable '" ++ (editor.field field).name ++ "'")
      (editor.field field).check
  (entry.output.bind (ofConnection "output")).toList
    ++ entry.rows.filterMap
      (fun row => row.connection.bind (ofConnection row.name))
    ++ entry.fields.filterMap ofField

/-- The slot a directive names: a field, or else the connection of an input. -/
def findSource? (editor : Editor σ) (block : BlockId) (name : String) :
    Option Slot :=
  match editor.findField? block name with
  | some field => some (.field field)
  | none =>
      match (editor.block block).row? name with
      | some row => row.connection.map Slot.connection
      | none => none

def plan (editor : Editor σ) (block : BlockId) (target : Target) : Plan :=
  ⟨target, target.declared.directives.filterMap fun directive =>
    (editor.findSource? block directive.source).map (Link.mk directive)⟩

/-- Dependencies of a target on the fields among its sources.  Writing a
connection calls no one on its own block, so connections do not count. -/
def planEdges (editor : Editor σ) (plan : Plan) : Except Fault
    (List (SlotKey × SlotKey)) := do
  let fields := plan.links.filterMap fun link =>
    match link.source with
    | .field field => some field
    | .connection _ => none
  fields.mapM fun field => do
    return (← editor.slotKey plan.target.slot, ← editor.fieldKey field)

/-- The distinct sources of links by key. -/
def sourcesByKey (editor : Editor σ) (links : List Link) :
    Except Fault (OrderedMap SlotKey Slot) :=
  links.foldlM (fun sources link => do
    return sources.insert (← editor.slotKey link.source) link.source) {}

/-- Refuses a block whose directives depend on each other in a circle. -/
def rejectCycle (engine : EngineId) (block : BlockId) (plans : List Plan) :
    EditM σ Unit := do
  let edges ← lookup fun editor => plans.mapM editor.planEdges
  match (DirectiveGraph.ofEdges edges.flatten).findCycle with
  | none => return
  | some cycle =>
      if (← look fun editor => (editor.engine engine).config.rejectCycles) then
        modify (·.updateStats engine fun stats =>
          { stats with rejectedCycles := stats.rejectedCycles + 1 })
        throw (.cyclicDirectives (← look fun editor => (editor.block block).id)
          cycle)

/-- Subscribes the binding of a target to one of its sources. -/
def listenTo (engine : EngineId) (wiring : WiringId) (target : SlotKey)
    (source : Slot) :
    EditM σ Unit := do
  let subscription ← subscribe source (.recompute wiring target)
  modify (·.updateWiring wiring fun entry =>
    { entry with subscriptions := entry.subscriptions ++ [subscription] })
  modify (·.updateStats engine fun stats =>
    { stats with subscriptions := stats.subscriptions + 1 })

/-- Installs the binding of a target.  A target without sources only loses its
directives. -/
def install (react : Reaction σ) (engine : EngineId) (block : BlockId)
    (wiring : WiringId) (plan : Plan) : EditM σ Unit := do
  let regular := plan.target.declared.regular
  if plan.links.isEmpty then
    discard (setTypes react plan.target.slot (Check.ofList regular))
  else
    let key ← lookup (·.slotKey plan.target.slot)
    let label ← look fun editor => (editor.block block).text ++ " " ++
      plan.target.label
    modify (·.updateWiring wiring fun entry =>
      { entry with
        bindings := entry.bindings.insert key
          ⟨plan.target.slot, regular, plan.links, label⟩ })
    modify (·.updateStats engine fun stats => { stats with
      bindings := stats.bindings + 1 })
    let sources ← lookup (·.sourcesByKey plan.links)
    sources.values.forM (listenTo engine wiring key)

def wireLive (react : Reaction σ) (engine : EngineId) (block : BlockId)
    (wiring : WiringId) (targets : List Target) : EditM σ Unit := do
  let plans ← look fun editor => targets.map (editor.plan block)
  modify (·.updateStats engine fun stats =>
    { stats with
      droppedDirectives :=
        stats.droppedDirectives +
          ((plans.map Plan.dropped).foldl (· + ·) 0 : Nat) })
  rejectCycle engine block plans
  plans.forM (install react engine block wiring)
  if (← look fun editor => (editor.engine engine).config.initialRecompute) then
    discard (recomputeAll react wiring)

/-- Leaves each target with its regular types. -/
def wireStatic (react : Reaction σ) (targets : List Target) : EditM σ Unit :=
  targets.forM fun target =>
    discard (setTypes react target.slot (Check.ofList target.declared.regular))

/-- Releases the subscriptions of a wiring, once, and counts those that were
still active. -/
def disposeWiring (wiring : WiringId) : EditM σ Nat := do
  let editor ← get
  let entry := editor.wiring wiring
  if entry.disposed then return 0
  let active := entry.subscriptions.filter editor.isActive
  set (active.foldl releaseSubscription editor)
  modify (·.updateWiring wiring fun entry =>
    { entry with subscriptions := [], disposed := true })
  modify (·.updateStats entry.engine fun stats =>
    { stats with released := stats.released + active.length })
  return active.length

def newWiring (engine : EngineId) (block : BlockId) (mode : WiringMode) :
    EditM σ WiringId := do
  let id : WiringId := ⟨← look fun editor => editor.wirings.size⟩
  modify fun editor =>
    { editor with wirings := editor.wirings.insert id { block, mode, engine } }
  return id

/-- The recorded wiring of a block, by the block's id. -/
def wiringFor? (editor : Editor σ) (engine : EngineId) (block : BlockId) :
    Option WiringId :=
  (editor.engine engine).wirings.get? (editor.block block).id

/-- The recorded wiring of a block unless it was disposed. -/
def liveWiringFor? (editor : Editor σ) (engine : EngineId) (block : BlockId) :
    Option WiringId :=
  (editor.wiringFor? engine block).filter fun wiring =>
    !(editor.wiring wiring).disposed

def recordWiring (editor : Editor σ) (engine : EngineId) (block : BlockId)
    (wiring : WiringId) :
    Editor σ :=
  editor.updateEngine engine fun entry =>
    { entry with
      wirings := entry.wirings.insert (editor.block block).id wiring }

/-- Wires the targets of a live block, undoing everything if that fails. -/
def wireLiveOrUndo (react : Reaction σ) (engine : EngineId) (block : BlockId)
    (wiring : WiringId) (targets : List Target) : EditM σ Unit := do
  try
    wireLive react engine block wiring targets
  catch fault =>
    discard (disposeWiring wiring)
    modify fun editor =>
      targets.foldl (fun editor target => editor.resetTypes target.slot
        (some target.types)) editor
    throw fault

/-- Wires a block, unless it is wired already. -/
def wire (react : Reaction σ) (engine : EngineId) (block : BlockId)
    (mode : WiringMode) :
    EditM σ WiringId := do
  match ← look (·.liveWiringFor? engine block) with
  | some existing => return existing
  | none =>
      let targets ← look fun editor =>
        editor.targets (editor.engine engine).config.lead block
      let wiring ← newWiring engine block mode
      match mode with
      | .static =>
          wireStatic react targets
          modify (·.updateStats engine fun stats =>
            { stats with blocksStatic := stats.blocksStatic + 1 })
      | .live =>
          unless targets.isEmpty do
            wireLiveOrUndo react engine block wiring targets
            modify (·.updateStats engine fun stats =>
              { stats with blocksWired := stats.blocksWired + 1 })
      modify (·.recordWiring engine block wiring)
      return wiring

/-- Forgets the recorded wiring of a block and disposes of it. -/
def releaseWiring (engine : EngineId) (block : BlockId) : EditM σ Nat := do
  match ← look (·.wiringFor? engine block) with
  | none => return 0
  | some wiring =>
      modify fun editor => editor.updateEngine engine fun entry =>
        { entry with wirings := entry.wirings.erase (editor.block block).id }
      disposeWiring wiring

end Editor

end TypeFlow
