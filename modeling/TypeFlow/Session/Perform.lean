import TypeFlow.Session.View

/-!
# Performing commands

`perform` carries out one command, given how listeners are called.  Scripts
perform their commands in the same way; `runCallback` ties the two together,
with fuel for the nesting of scripts.
-/

namespace TypeFlow

inductive Reply where
  | nothing
  | flag (answer : Bool)
  | flags (answers : List Bool)
  | count (number : Nat)
  | text (text : String)
  | texts (texts : List String)
  | check (check : Check)
  | value (value : FieldValue)
  | choices (choices : List Choice)
  | engine (settings : Settings) (maxDepth : Int)
    (caches checkers : List String)
  | names (names : Option (List String))
  | block (view : BlockView)
  | key (key : SlotKey)
  | link (isConnected isOutput : Bool) (far : Option SlotKey)
  | types (check : Check) (provides : TypeList)
  | ofVariables (reply : VariableReply)
  | wiring (view : Option WiringView)
  | wired (same : Bool) (view : WiringView)
  | summary (live : Int) (stats cache : String)
  | stored (text : Option String)
  | snapshot (snapshot : Snapshot)
  deriving DecidableEq, Repr

namespace Session

open Editor (look lookup)

def makeField : FieldRequest → SessionM FieldId
  | .text name value => Editor.newField { name, kind := .text, value }
  | .dropdown name choices value => do
      Editor.newField (← lookup fun _ => Editor.dropdown name choices value)
  | .reference name types value =>
      Editor.newField { name, kind := .reference types, value }

def appendNewField (block : BlockId) (row : Nat) (request : FieldRequest) :
    SessionM Unit := do
  Editor.appendField block row (← makeField request)

def addPart (block : BlockId) : BlockPart → SessionM Reply
  | .output check => do
      let connection ← Editor.setOutput block check
      return .text (← look (·.connectionText connection))
  | .input name check fields => do
      let row ← Editor.appendInput block name check
      fields.forM (appendNewField block row)
      return .nothing
  | .dummy name fields => do
      let row ← Editor.appendDummyInput block name
      fields.forM (appendNewField block row)
      return .nothing
  | .unknown name => throw (.unknownCommand name)

/-- Makes a block, adds its parts and sets it up.  The block keeps its name
when a part fails. -/
def newBlock (react : Reaction Session) (workspace : WorkspaceId)
    (type : String) (id : Option String) (extensions : List String)
    (name : Option String) (parts : List BlockPart) (setUp : Bool) :
    SessionM Reply := do
  let block ← Editor.newBlock workspace type id extensions
  let blockId ← look fun editor => (editor.block block).id
  update fun session => { session with
    blocks := session.blocks.insert (name.getD blockId) block }
  parts.forM fun part => discard (addPart block part)
  if setUp then Editor.initBlock react block
  return .text (← look fun editor => (editor.block block).text)

/-- Describes an engine, with the names of its cache and of its checker. -/
def engineReply (engine : EngineId) : SessionM Reply := do
  let editor ← get
  let entry := editor.engine engine
  let cache := editor.cacheOf engine
  return .engine entry.config.toSettings entry.guard.maxDepth
    (editor.outer.caches.keysWhere (· = cache))
    (editor.outer.checkers.keysWhere (· = entry.checker))

/-- Runs a command on the variables of a workspace. -/
def onVariables (workspace : WorkspaceId) (command : VariableCommand) :
    SessionM Reply := do
  let editor ← get
  let desk : VariableDesk :=
    { store := editor.variablesOf workspace
      handles := editor.outer.variablePlaces
      drawn := editor.drawn }
  let result := desk.run command
  set { editor.setVariables workspace result.2.store with
      drawn := result.2.drawn }
  update fun session => { session with variablePlaces := result.2.handles }
  return .ofVariables (← lookup fun _ => result.1)

/-- Remembers a wiring under a name, if there is one. -/
def nameWiring (name : Option String) (wiring : WiringId) : SessionM Unit := do
  match name with
  | some name => update fun session =>
      { session with wirings := session.wirings.insert name wiring }
  | none => return

/-- Wires a block and tells whether it was wired that way before. -/
def wire (react : Reaction Session) (block : BlockId) (engine : EngineId)
    (mode : WiringMode) (name : Option String) : SessionM Reply := do
  let before ← look (·.wiringFor? engine block)
  let wiring ← Editor.wire react engine block mode
  nameWiring name wiring
  return .wired (before = some wiring) (← lookup (·.wiringView wiring))

def wiringReply (wiring : Option WiringId) : SessionM Reply := do
  match wiring with
  | some wiring => return .wiring (some (← lookup (·.wiringView wiring)))
  | none => return .wiring none

/-- The binding a wiring has for a key, by the key under which it is kept. -/
def binding (wiring : WiringId) (written : KeyText) :
    SessionM (SlotKey × Binding) := do
  let key ← lookup fun _ => written.resolve
  match (← look (·.wiring wiring)).bindings.get? key with
  | some binding => return (key, binding)
  | none => throw (.unknownReference key.text)

/-- Performs a command.  `limit` bounds how many rows are met while a block is
taken apart. -/
def perform (react : Reaction Session) (limit : Nat) : Command → SessionM Reply
  | .newCache name => do
      let cache ← Editor.newCache
      update fun session => { session with
        caches := session.caches.insert name cache }
      return .nothing
  | .newChecker name cache => do
      let checker ← Editor.newChecker (← find? caches cache)
      update fun session => { session with
        checkers := session.checkers.insert name checker }
      return .nothing
  | .newEngine name request => do
      let engine ← newEngine request
      update fun session => { session with
        engines := session.engines.insert name engine }
      engineReply engine
  | .newWorkspace name engine isTemplate => do
      let given ← find? engines engine
      let workspace ← Editor.newWorkspace given isTemplate
      let entry ← look (·.workspace workspace)
      update fun session =>
        { session with workspaces := session.workspaces.insert name workspace }
      if given.isNone then
        update fun session =>
          { session with
            engines := session.engines.insert (name ++ ".ext") entry.engine }
      return .text entry.mode.text
  | .newBlock workspace type id extensions name parts setUp => do
      newBlock react (← find workspaces workspace) type id extensions
        name parts setUp
  | .addPart block part => do addPart (← find blocks block) part
  | .newField name request => do
      let field ← makeField request
      update fun session => { session with
        slots := session.slots.insert name (.field field) }
      return .text (← look (·.fieldText field))
  | .appendField block row source => do
      let block ← find blocks block
      if (← look fun editor => (editor.block block).rows.length) ≤ row
        then throw .noRow
      match source with
      | .made request => appendNewField block row request
      | .saved name => Editor.appendField block row (← field (.saved name))
      return .nothing
  | .save address name => do
      let slot ← slot address
      update fun session => { session with
        slots := session.slots.insert name slot }
      return .nothing
  | .initBlock block => do
      Editor.initBlock react (← find blocks block)
      return .nothing
  | .disposeBlock block => do
      Editor.disposeBlock react limit (← find blocks block)
      return .nothing
  | .removeBlock workspace block => do
      let workspace ← find workspaces workspace
      let block ← find blocks block
      modify (·.removeBlock workspace block)
      return .nothing
  | .findBlock workspace id => do
      let workspace ← find workspaces workspace
      let editor ← get
      return .names (((editor.workspace workspace).blocks.get? id).map
        fun block => editor.outer.blocks.keysWhere (· = block))
  | .describe block => do
      let block ← find blocks block
      return .block (← look (·.blockView block))
  | .key address => do
      let slot ← slot address
      return .key (← lookup (·.slotKey slot))
  | .connect this other => do
      Editor.connect react (← connection this) (← connection other)
      return .nothing
  | .canConnect this other => do
      let this ← connection this
      let other ← connection other
      let withOther ← Editor.canConnectWith this other
      let byCheck ← Editor.canConnect (← look (·.connectionWorkspace this))
        this other
      return .flags [withOther, byCheck]
  | .disconnect address => do
      Editor.disconnect react (← connection address)
      return .nothing
  | .link address => do
      let connection ← connection address
      let editor ← get
      let entry := editor.connection connection
      return .link entry.target.isSome entry.isOutput (editor.farKey connection)
  | .types address => do
      let slot ← slot address
      return .types (← look (·.slotCheck slot)) (← lookup (·.provides slot))
  | .setTypes address check => do
      return .flag (← Editor.setTypes react (← slot address) check)
  | .resetTypes address check => do
      let slot ← slot address
      modify (·.resetTypes slot check)
      return .nothing
  | .setValue address value => do
      Editor.setValue react (← field address) value
      return .nothing
  | .value address => do
      let field ← field address
      return .value (← look fun editor => (editor.field field).value)
  | .choices address => do
      let field ← field address
      match ← look fun editor => (editor.field field).kind with
      | .dropdown choices => return .choices choices
      | _ => return .choices []
  | .setVariable address handle => do
      let field ← field address
      let place ← find variablePlaces handle
      let id ← look fun editor => (editor.pool.getD place default).id
      Editor.setValue react field (.text id)
      return .nothing
  | .referred address => do
      let field ← field address
      let editor ← get
      return .ofVariables (.single ((editor.variableOf field).map fun place =>
        editor.pool.getD place default))
  | .allows address request => do
      let field ← field address
      return .flag (← look (·.allows field request))
  | .onVariables workspace command =>
      do onVariables (← find workspaces workspace) command
  | .listen address name script times => do
      let slot ← slot address
      let callback ← newCallback ⟨name, script, times⟩
      let subscription ← Editor.subscribe slot (.callback callback)
      update fun session =>
        { session with
          subscriptions := session.subscriptions.insert name subscription }
      return .text (← look (·.subscriptionText subscription))
  | .unlisten name => do
      let subscription ← find subscriptions name
      modify (·.releaseSubscription subscription)
      return .text (← look (·.subscriptionText subscription))
  | .notify workspace written => do
      let workspace ← find workspaces workspace
      return .count (← Editor.notify react workspace
        (← lookup fun _ => written.resolve))
  | .clear workspace written => do
      let workspace ← find workspaces workspace
      let key ← lookup fun _ => written.resolve
      modify (·.updateRegistry workspace (·.clear key))
      return .nothing
  | .register workspace name script times => do
      let workspace ← find workspaces workspace
      let callback ← newCallback ⟨"ext:" ++ name, script, times⟩
      let extensions ← lookup fun editor =>
        ExtensionTable.register (editor.workspace workspace).extensions name
          (.callback callback)
      modify (·.updateWorkspace workspace fun entry => { entry with
        extensions })
      return .nothing
  | .unregister workspace name => do
      let workspace ← find workspaces workspace
      let result ← look fun editor =>
        ExtensionTable.unregister (editor.workspace workspace).extensions name
      modify (·.updateWorkspace workspace fun entry => { entry with
        extensions := result.2 })
      return .flag result.1
  | .extensionNames workspace => do
      let workspace ← find workspaces workspace
      return .texts (← look fun editor =>
        (editor.workspace workspace).extensions.keys)
  | .applyExtension workspace name block => do
      let workspace ← find workspaces workspace
      wiringReply (← Editor.applyExtension react workspace name
        (← find blocks block))
  | .wire block engine mode name => do
      let block ← find blocks block
      let engine ← engineFor block engine
      let mode ← match mode with
        | some text => lookup fun _ => WiringMode.ofText text
        | none => pure .live
      wire react block engine mode name
  | .releaseWiring block engine => do
      let block ← find blocks block
      return .count (← Editor.releaseWiring (← engineFor block engine) block)
  | .wiring block engine name => do
      let block ← find blocks block
      let engine ← engineFor block engine
      let wiring ← look (·.wiringFor? engine block)
      wiring.forM (nameWiring name)
      wiringReply wiring
  | .disposeWiring wiring => do
      return .count (← Editor.disposeWiring (← find wirings wiring))
  | .releaseSubscription wiring place => do
      let wiring ← find wirings wiring
      match (← look (·.wiring wiring)).subscriptions[place]? with
      | none => throw .noSubscription
      | some subscription =>
          modify (·.releaseSubscription subscription)
          return .text (← look (·.subscriptionText subscription))
  | .recomputeAll wiring => do
      return .count (← Editor.recomputeAll react (← find wirings wiring))
  | .recompute wiring written => do
      let wiring ← find wirings wiring
      let found ← binding wiring written
      return .flag (← Editor.recompute react wiring found.1)
  | .compute wiring written => do
      let found ← binding (← find wirings wiring) written
      return .check (← lookup (·.computed found.2))
  | .summary engine => do
      let engine ← find engines engine
      let editor ← get
      let stats := (editor.engine engine).stats
      let cache ← lookup fun editor =>
        (editor.cache (editor.cacheOf engine)).counts.summary
      return .summary stats.liveSubscriptions stats.summary cache
  | .resetStats engine => do
      let engine ← find engines engine
      modify (·.updateStats engine fun _ => {})
      return .nothing
  | .peek engine tag => do
      let engine ← find engines engine
      return .stored (← look fun editor =>
        (editor.cache (editor.cacheOf engine)).peek tag)
  | .raise message => throw (.raised message)
  | .snapshot => return .snapshot (← lookup Editor.snapshot)
  | .unknown name => throw (.unknownCommand name)

/-- Logs a callback and returns its script if it may run once more. -/
def takeTurn (id : CallbackId) : SessionM (List Command) := do
  let callback ← look fun editor => editor.outer.callbacks.getD id default
  update fun session => { session with log := session.log ++ [callback.tag] }
  if 0 < callback.times then
    update fun session =>
      { session with
        callbacks := session.callbacks.insert id { callback with
          times := callback.times - 1 } }
    return callback.script
  else return []

/-- Calls a callback.  The fuel bounds the nesting of scripts, `limit` that of
recomputations between two scripts. -/
def runCallback (limit : Nat) : (fuel : Nat) → CallbackId → SessionM Unit
  | 0, _ => throw .unsettled
  | fuel + 1, id => do
      (← takeTurn id).forM fun command =>
        discard (perform (Editor.reaction (runCallback limit fuel) limit)
          limit command)

/-- How listeners are called in a run whose nesting is bounded. -/
def reaction (limit : Nat) : Reaction Session :=
  Editor.reaction (runCallback limit limit) limit

end Session

end TypeFlow
