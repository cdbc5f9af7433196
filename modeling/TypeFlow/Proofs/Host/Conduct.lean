import TypeFlow.Proofs.Host.WireBlock

/-!
# Operations as courses of changes

Every operation of a host on a sound state, whether it returns or raises, is a
course of elementary changes.
-/

namespace TypeFlow.Editor

variable {σ : Type} {before : Editor σ} {block : BlockId}
  {raised : Fault → Editor σ → Prop} {slot : Slot} {this other : ConnectionId}

theorem steady_drawn (editor : Editor σ) (drawn : Nat) : Steady editor
    { editor with drawn } :=
  { Steady.refl editor with }

theorem steady_caches (editor : Editor σ)
    (caches : OrderedMap CacheId Wildcard.Cache) :
    Steady editor { editor with caches } :=
  { Steady.refl editor with }

/-- Nothing changes but what belongs to workspaces, and there only the
registered blocks. -/
theorem Steady.of_workspaces {after : Editor σ}
    (blocks : after.blocks = before.blocks)
    (connections : after.connections = before.connections)
    (fields : after.fields = before.fields)
    (wirings : after.wirings = before.wirings)
    (engines : after.engines = before.engines) (pool : after.pool = before.pool)
    (workspace : ∀ id, (after.workspace id).bare = (before.workspace id).bare)
    (index : ∀ id, (after.workspace id).variableIndex =
      (before.workspace id).variableIndex) :
    Steady before after where
  blockKeys := by rw [blocks]
  block := fun id => by unfold Editor.block; rw [blocks]
  wirings := wirings
  connectionKeys := by rw [connections]
  connection := fun id => by unfold Editor.connection; rw [connections]
  fieldKeys := by rw [fields]
  field := fun id => by unfold Editor.field; rw [fields]
  workspace := workspace
  engine := fun id => by unfold Editor.engine; rw [engines]
  poolKeys := by rw [pool]
  variableId := fun place => by rw [pool]
  filed := fun id place member => by rwa [index] at member
  indexKeys := fun id distinct => by rwa [index]
  named := fun id text _ => by unfold variablesOf; rw [index, pool]

theorem steady_registered (editor : Editor σ) (workspace : WorkspaceId)
    (change : OrderedMap String BlockId → OrderedMap String BlockId) :
    Steady editor (editor.updateWorkspace workspace fun entry =>
      { entry with blocks := change entry.blocks }) :=
  Steady.of_workspaces rfl rfl rfl rfl rfl rfl
    (fun _ => OrderedMap.read_getD_insert Workspace.bare rfl)
    fun _ => OrderedMap.read_getD_insert Workspace.variableIndex rfl

/-- Putting the variables back as they are changes nothing. -/
theorem steady_setVariables (editor : Editor σ) (workspace : WorkspaceId)
    (drawn : Nat) :
    Steady editor
      { editor.setVariables workspace (editor.variablesOf workspace) with
        drawn } := by
  have workspaceOf : ∀ id,
      (editor.setVariables workspace (editor.variablesOf workspace)).workspace
        id =
        editor.workspace id := fun _ => OrderedMap.read_getD_insert id rfl
  have same : Steady editor
      (editor.setVariables workspace (editor.variablesOf workspace)) :=
    Steady.of_workspaces rfl rfl rfl rfl rfl rfl (fun id => by rw [workspaceOf])
      fun id => by rw [workspaceOf]
  exact same.trans (steady_drawn _ drawn)

/-- The flags of a block say whether it was set up and taken apart. -/
theorem steady_flags (editor : Editor σ) {change : Block → Block}
    (known : editor.blocks.contains block)
    (same : ∀ entry, (change entry).bare = entry.bare) :
    Steady editor (editor.updateBlock block change) :=
  { Steady.refl editor with
    blockKeys := OrderedMap.keys_insert_of_contains _ known
    block := fun _ => OrderedMap.read_getD_insert Block.bare (same _) }

/-- The state after a block has left its workspace. -/
def retireBlock (editor : Editor σ) (workspace : WorkspaceId)
    (block : BlockId) : Editor σ :=
  (editor.removeBlock workspace block).updateBlock block fun entry =>
    { entry with disposed := true }

theorem steady_retireBlock {editor : Editor σ} {workspace : WorkspaceId}
    (known : editor.blocks.contains block) : Steady editor
      (editor.retireBlock workspace block) :=
  (steady_registered editor workspace fun blocks =>
    blocks.erase (editor.block block).id).trans
    (steady_flags _ known fun _ => rfl)

section Course

variable {settings : Settings} {liberties : Liberties} {workspace : WorkspaceId}
  {engine : EngineId} {pending : Option WiringId} {editor : Editor σ}
  {react : Reaction σ}

/-- The state ends at the end of a course that starts here. -/
abbrev Conducts (liberties : Liberties) (workspace : WorkspaceId)
    (engine : EngineId) (action : EditM σ α) (editor : Editor σ) : Prop :=
  Ends action editor fun after =>
    Course liberties workspace engine (none, editor) (none, after)

theorem leads_chooseId (given : Option String) (editor : Editor σ) :
    Leads (chooseId given) editor (fun _ after => ∃ drawn, after = { editor with
      drawn }) (fun _ _ => False) := by
  simp only [chooseId]
  split
  · simp only [draw, leads_bind, leads_modify, leads_look, leads_pure]
    exact ⟨_, rfl⟩
  · exact ⟨editor.drawn, rfl⟩

/-- A block is made unless its id is taken. -/
theorem leads_newBlock {type : String} {id : Option String}
    {extensions : List String} {returned : BlockId → Editor σ → Prop}
    (taken : ∀ chosen drawn, raised (.blockIdTaken chosen) { editor with
      drawn })
    (made : ∀ chosen drawn,
      ¬ (editor.workspace workspace).blocks.contains chosen →
      returned ⟨editor.blocks.size⟩ (({ editor with
          drawn
          blocks := editor.blocks.insert ⟨editor.blocks.size⟩
            { workspace, type, id := chosen, extensions } } :
            Editor σ).updateWorkspace workspace
        fun entry => { entry with
          blocks := entry.blocks.insert chosen ⟨editor.blocks.size⟩ })) :
    Leads (newBlock workspace type id extensions) editor returned raised := by
  simp only [newBlock, leads_bind]
  refine Leads.mono (leads_chooseId id editor) ?_ (fun _ _ => False.elim)
  rintro chosen _ ⟨drawn, rfl⟩
  simp only [leads_look]
  split
  · exact taken chosen drawn
  · rename_i free
    simp only [leads_bind, leads_look, leads_modify, leads_pure]
    exact made chosen drawn free

theorem conducts_newBlock (type : String) (id : Option String)
    (extensions : List String) (editor : Editor σ) :
    Conducts liberties workspace engine (newBlock workspace type id extensions)
      editor := by
  have draws : ∀ drawn, Course liberties workspace engine (none, editor)
      (none, { editor with drawn }) :=
    fun drawn => Course.steady (steady_drawn editor drawn)
  refine leads_newBlock (fun _ => draws) fun chosen drawn _ => ?_
  exact ((draws drawn).tail (Change.blockMade type chosen extensions)).trans
    (Course.steady (steady_registered _ workspace fun blocks =>
      blocks.insert chosen _))

theorem leads_newConnection (block : BlockId) (kind : SlotKind) (name : String)
    (check : Check) (editor : Editor σ)
    {returned : ConnectionId → Editor σ → Prop} :
    Leads (newConnection block kind name check) editor returned raised ↔
      returned editor.nextConnection
        (editor.withConnection block kind name check) := by
  simp only [newConnection, leads_bind, leads_look, leads_modify, leads_pure]
  rfl

section Inputs

variable {name : String}
  (taken : raised (.inputNameTaken name (editor.block block).text) editor)

include taken

theorem leads_refuseTakenInput {returned : Unit → Editor σ → Prop}
    (goesOn : (editor.block block).row? name = none → returned () editor) :
    Leads (refuseTakenInput block name) editor returned raised := by
  simp only [refuseTakenInput, leads_bind, leads_look]
  split
  · exact taken
  · rename_i free
    exact goesOn (by simpa using free)

/-- An input is appended unless its name is taken. -/
theorem leads_appendInput {check : Check} {returned : Nat → Editor σ → Prop}
    (made : (editor.block block).row? name = none →
      returned (editor.block block).rows.length
      ((editor.withConnection block .input name check).appendRow block
        { name, connection := some editor.nextConnection })) :
    Leads (appendInput block name check) editor returned raised := by
  simp only [appendInput, leads_bind]
  refine leads_refuseTakenInput taken fun free => ?_
  simp only [leads_newConnection, leads_look, leads_modify, leads_pure]
  exact made free

/-- So is a row without a connection, whose name is free if it is empty. -/
theorem leads_appendDummyInput {returned : Nat → Editor σ → Prop}
    (made : returned (editor.block block).rows.length
      (editor.appendRow block { name })) :
    Leads (appendDummyInput block name) editor returned raised := by
  simp only [appendDummyInput]
  split
  · simp only [leads_bind, leads_pure, leads_look, leads_modify]
    exact made
  · simp only [leads_bind, leads_pure, leads_look, leads_modify]
    exact leads_refuseTakenInput taken fun _ => made

end Inputs

/-- A field is attached unless the block has one of its name. -/
theorem leads_appendField {place : Nat} {field : FieldId}
    {returned : PUnit → Editor σ → Prop}
    (taken : raised (.fieldNameTaken (editor.field field).name
      (editor.block block).text) editor) (made : editor.findField? block
      (editor.field field).name = none →
      returned ⟨⟩ (editor.attachField block place field)) :
    Leads (appendField block place field) editor returned raised := by
  simp only [appendField, leads_bind, leads_look]
  split
  · simp only [leads_bind, leads_look, leads_throw]
    exact taken
  · rename_i nameFree
    exact made (by simpa using nameFree)

theorem conducts_createVariable (name : String) (request : TypeRequest)
    (id : Option String) (editor : Editor σ) :
    Conducts liberties workspace engine
      (createVariable workspace name request id) editor := by
  simp only [Ends, createVariable, leads_bind, leads_get, leads_set,
    leads_discard, leads_lookup]
  suffices course : Course liberties workspace engine (none, editor) (none,
      { editor.setVariables workspace (VariableDesk.run
          { store := editor.variablesOf workspace, drawn := editor.drawn }
          (.create name request id none)).2.store with
        drawn := (VariableDesk.run
          { store := editor.variablesOf workspace, drawn := editor.drawn }
          (.create name request id none)).2.drawn }) from
    ⟨fun _ _ => course, fun _ _ => course⟩
  simp only [VariableDesk.run]
  split
  · exact Course.steady (steady_setVariables editor workspace _)
  · exact Course.steady (steady_setVariables editor workspace _)
  · rename_i place store made
    exact Course.single (Change.variableMade _ made)

section Sound

variable (sound : Sound settings workspace engine none editor)

include sound

theorem conducts_releaseWiring (block : BlockId) :
    Conducts liberties workspace engine (releaseWiring engine block)
      editor := by
  refine leads_releaseWiring (fun _ => Course.refl _) fun wiring found => ?_
  have forgets : Change liberties workspace engine none editor (some wiring)
    (editor.forgetWiring engine block) := Change.forgotten found
  have known := (sound.wired.recorded _ wiring found).1
  refine leads_disposeWiring wiring _ ?_ ?_
  · intro disposed
    refine (Course.single forgets).tail (Change.dropped ?_)
    intro key binding isOpen
    rw [isOpen.1] at disposed
    cases disposed
  · intro isOpen _
    exact (Course.single forgets).tail (Change.closed (Or.inr rfl) known isOpen)

theorem conducts_setValue
    (ripples : RipplesOnly react) {field : FieldId} (value : FieldValue)
    (known : editor.fields.contains field) :
    Conducts liberties workspace engine (setValue react field value)
      editor := by
  simp only [Ends, setValue, leads_bind, leads_modify]
  have sets : Change liberties workspace engine none editor none
      (editor.updateField field fun entry => { entry with value }) :=
    Change.valueSet value known
  refine Ends.mono (notifyField_echoed ripples
    (sets.sound sound).responsive field) ?_
  intro after echoed
  exact (Course.single sets).trans (Course.steady echoed.toSteady)

theorem conducts_setTypes
    (ripples : RipplesOnly react) (check : Check) (known : editor.Known slot) :
    Conducts liberties workspace engine (setTypes react slot check) editor :=
  Ends.mono (setTypes_rippled ripples sound.responsive check known)
    fun _ rippled => Course.steady rippled.toSteady

theorem conducts_listen (callback : CallbackId) (known : editor.Known slot)
    (listens : liberties.listens) :
    Conducts liberties workspace engine (subscribe slot (.callback callback))
      editor := by
  simp only [Ends, subscribe, leads_bind, leads_look, leads_lookup,
    leads_modify, leads_pure]
  refine ⟨?_, fun _ _ => Course.refl _⟩
  intro block hasBlock
  refine ⟨?_, fun _ _ => Course.refl _⟩
  intro key _
  rw [sound.layout.slotWorkspace known hasBlock]
  exact Course.single (Change.listened key callback listens)

end Sound

/-- The state with two linked connections taken apart. -/
def unlink (editor : Editor σ) (this other : ConnectionId) : Editor σ :=
  (editor.setTarget this none).setTarget other none

/-- The state with two connections linked. -/
def link (editor : Editor σ) (this other : ConnectionId) : Editor σ :=
  (editor.setTarget this (some other)).setTarget other (some this)

/-- What disconnecting leaves behind: nothing changed if the connection was
free, and otherwise there is a cascade after it was unlinked. -/
inductive Parted (editor : Editor σ) (this : ConnectionId) (after : Editor σ) :
    Prop
  | free : (editor.connection this).target = none → after = editor →
    Parted editor this after
  | parted (other : ConnectionId) :
      (editor.connection this).target = some other →
      Echoed (editor.unlink this other) after → Parted editor this after

theorem notifyEnds_echoed (ripples : RipplesOnly react)
    (responsive : editor.Responsive) (this other : ConnectionId) :
    Ends (notifyEnds react this other) editor (Echoed editor) := by
  simp only [Ends, notifyEnds, leads_bind, leads_look, leads_discard]
  refine Leads.imp (notify_echoed ripples responsive _ _) ?_
  intro _ middle first
  refine Ends.mono (notify_echoed ripples
    (first.toSteady.responsive responsive) _ _) ?_
  intro after second
  exact first.trans second

/-- Disconnecting unlinks both ends and calls their listeners. -/
theorem leads_disconnect (this : ConnectionId)
    {returned : Unit → Editor σ → Prop}
    (free : (editor.connection this).target = none → returned () editor)
    (unlinks : ∀ other, (editor.connection this).target = some other →
      Leads (notifyEnds react this other) (editor.unlink this other) returned
        raised) :
    Leads (disconnect react this) editor returned raised := by
  simp only [disconnect, leads_bind, leads_look]
  split
  · rename_i isFree
    exact free isFree
  · rename_i other linked
    simp only [leads_bind, leads_modify]
    exact unlinks other linked

theorem parted_disconnect (sound : Sound settings workspace engine none editor)
    (ripples : RipplesOnly react) (this : ConnectionId) :
    Ends (disconnect react this) editor (Parted editor this) := by
  refine leads_disconnect this (fun isFree => Parted.free isFree rfl) ?_
  intro other linked
  have unlinks : Change Liberties.all workspace engine none editor none
    (editor.unlink this other) := Change.unlinked linked
  refine Ends.mono (notifyEnds_echoed ripples (unlinks.sound sound).responsive
    this other) ?_
  intro after echoed
  exact Parted.parted other linked echoed

theorem target_unlink (editor : Editor σ) (this other id : ConnectionId) :
    ((editor.unlink this other).connection id).target =
      if other = id ∨ this = id
        then none else (editor.connection id).target := by
  unfold unlink
  rw [target_setTargets]
  by_cases isOther : other = id
  · simp [isOther]
  · simp [isOther]

namespace Parted

variable {this : ConnectionId} {after : Editor σ}
  (parted : Parted editor this after)

include parted

theorem course : Course liberties workspace engine (none, editor)
    (none, after) := by
  cases parted with
  | free _ same =>
      rw [same]
      exact Course.refl _
  | parted other linked echoed =>
      have unlinks : Change liberties workspace engine none editor none
        (editor.unlink this other) := Change.unlinked linked
      exact (Course.single unlinks).trans (Course.steady echoed.toSteady)

theorem target_eq_none : (after.connection this).target = none := by
  cases parted with
  | free isFree same =>
      rw [same]
      exact isFree
  | parted other linked echoed =>
      rw [echoed.toSteady.connectionTarget, target_unlink, if_pos (Or.inr rfl)]

/-- No link is made. -/
theorem target_of {id far : ConnectionId}
    (linked : (after.connection id).target = some far) :
    (editor.connection id).target = some far := by
  cases parted with
  | free isFree same => rwa [same] at linked
  | parted other _ echoed =>
      rw [echoed.toSteady.connectionTarget, target_unlink] at linked
      split at linked
      · cases linked
      · exact linked

end Parted

theorem conducts_disconnect
    (sound : Sound settings workspace engine none editor)
    (ripples : RipplesOnly react) (this : ConnectionId) :
    Conducts liberties workspace engine (disconnect react this) editor :=
  Ends.mono (parted_disconnect sound ripples this) fun _ parted => parted.course

/-- Asking whether two connections fit changes caches only. -/
theorem leads_canConnectWith (this other : ConnectionId) (editor : Editor σ) :
    Leads (canConnectWith this other) editor
      (fun verdict after => (∃ caches, after = { editor with caches }) ∧
        (verdict = true → editor.canFace this other = true))
      (fun _ _ => False) := by
  simp only [canConnectWith, leads_bind, leads_look]
  split
  · rename_i faces
    simp only [leads_bind, leads_look, canConnect, leads_get, leads_set,
      leads_pure]
    exact ⟨⟨_, rfl⟩, fun _ => faces⟩
  · refine ⟨⟨editor.caches, rfl⟩, ?_⟩
    intro impossible
    cases impossible

theorem Course.outgrows {start finish : Option WiringId × Editor σ}
    (course : Course liberties workspace engine start finish)
    (sound : Sound settings workspace engine start.1 start.2) :
    Outgrows start.2 finish.2 :=
  course.keeps (fun _ => Outgrows start.2)
    (fun change sound sofar => sofar.trans (change.outgrows sound.tables)) sound
      (Outgrows.refl _)

/-- Whether two connections fit depends on what they are. -/
theorem Outgrows.canFace {after : Editor σ} (outgrows : Outgrows before after)
    (knownThis : before.connections.contains this)
    (knownOther : before.connections.contains other) :
    after.canFace this other = before.canFace this other := by
  unfold Editor.canFace
  dsimp only
  rw [outgrows.connectionBlock this knownThis,
    outgrows.connectionBlock other knownOther,
    isOutput_eq_of_key (outgrows.connectionKey this knownThis),
    isOutput_eq_of_key (outgrows.connectionKey other knownOther)]

/-- Two connections that were set free can be linked. -/
theorem change_link {middle after : Editor σ}
    (sound : Sound settings workspace engine none before)
    (knownThis : before.connections.contains this)
    (knownOther : before.connections.contains other)
    (faces : before.canFace this other = true)
    (first : Parted before this middle) (second : Parted middle other after) :
    Change liberties workspace engine
      none after none (after.link this other) := by
  have course : Course Liberties.all workspace engine
      (none, before) (none, after) :=
    first.course.trans second.course
  have outgrows := course.outgrows sound
  refine Change.linked (outgrows.knownConnection this knownThis)
    (outgrows.knownConnection other knownOther) ?_ second.target_eq_none ?_
  · cases linked : (after.connection this).target with
    | none => rfl
    | some far =>
        have earlier := second.target_of linked
        rw [first.target_eq_none] at earlier
        cases earlier
  · rw [outgrows.canFace knownThis knownOther]
    exact faces

/-- Linking two connections that fit sets both free, links them and calls their
listeners. -/
theorem leads_connect {returned : Unit → Editor σ → Prop}
    (already : returned () editor)
    (refused : ∀ caches left leftCheck right rightCheck,
      raised (.incompatible left leftCheck right rightCheck) { editor with
        caches })
    (links : ∀ caches, editor.canFace this other = true →
      Leads (disconnect react this) { editor with caches } (fun _ middle =>
        Leads (disconnect react other) middle (fun _ parted =>
          Leads (notifyEnds react this other) (parted.link this other)
            returned raised)
          raised) raised) :
    Leads (connect react this other) editor returned raised := by
  simp only [connect, leads_bind, leads_look]
  split
  · exact already
  · simp only [leads_bind]
    refine Leads.mono (leads_canConnectWith this other editor) ?_
      (fun _ _ => False.elim)
    rintro verdict _ ⟨⟨caches, rfl⟩, faces⟩
    split
    · rename_i accepted
      simp only [leads_bind, leads_modify]
      exact links caches (faces accepted)
    · simp only [leads_bind, leads_look, leads_throw]
      exact refused caches _ _ _ _

/-- What is good is kept up to the link. -/
theorem Sound.leads_connect (good : Editor σ → Prop)
    (sound : Sound settings workspace engine none editor)
    (ripples : RipplesOnly react) (knownThis : editor.connections.contains this)
    (knownOther : editor.connections.contains other)
    {returned : Unit → Editor σ → Prop} (already : returned () editor)
    (cached : ∀ caches, good { editor with caches })
    (disconnects : ∀ current connection, connection = this ∨
      connection = other →
      Sound settings workspace engine none current → good current →
        Leads (disconnect react connection) current (fun _ after => good after)
          raised)
    (links : ∀ parted, Sound settings workspace engine none parted →
      good parted →
      (parted.link this other).connections.contains this →
      (∀ {liberties : Liberties},
        Change liberties workspace engine
          none parted none (parted.link this other)) →
      Leads (notifyEnds react this other) (parted.link this other) returned
        raised)
    (refused : ∀ caches left leftCheck right rightCheck,
      raised (.incompatible left leftCheck right rightCheck) { editor with
        caches }) :
    Leads (connect react this other) editor returned raised := by
  refine Editor.leads_connect already refused fun caches faces => ?_
  have cachedSound := sound.steady (steady_caches editor caches)
  refine Leads.mono ((disconnects _ this (Or.inl rfl) cachedSound
    (cached caches)).and
    (parted_disconnect cachedSound ripples this)) ?_ (fun _ _ both => both.1)
  rintro _ middle ⟨goodMiddle, first⟩
  have middleSound :=
    (first.course : Course Liberties.all workspace engine _ _).sound cachedSound
  refine Leads.mono ((disconnects middle other (Or.inr rfl) middleSound
    goodMiddle).and
    (parted_disconnect middleSound ripples other)) ?_ (fun _ _ both => both.1)
  rintro _ parted ⟨goodParted, second⟩
  have change : ∀ {liberties : Liberties},
      Change liberties workspace engine
        none parted none (parted.link this other) :=
    change_link cachedSound knownThis knownOther faces first second
  have course : Course Liberties.all workspace engine (none, { editor with
    caches }) (none, parted) := first.course.trans second.course
  exact links parted (course.sound cachedSound) goodParted
    (((course.tail change).outgrows cachedSound).knownConnection this knownThis)
      change

theorem conducts_connect (sound : Sound settings workspace engine none editor)
    (ripples : RipplesOnly react) (knownThis : editor.connections.contains this)
    (knownOther : editor.connections.contains other) :
    Conducts liberties workspace engine (connect react this other) editor := by
  refine Sound.leads_connect
      (fun current => Course liberties workspace engine (none, editor)
      (none, current)) sound ripples knownThis knownOther (Course.refl _)
    (fun caches => Course.steady (steady_caches editor caches)) ?_ ?_
    (fun caches _ _ _ _ => Course.steady (steady_caches editor caches))
  · intro current connection _ soundHere course
    exact Ends.mono (conducts_disconnect soundHere ripples connection)
      fun _ later => course.trans later
  · intro parted _ course _ change
    have linked := course.tail change
    refine Ends.mono (notifyEnds_echoed ripples (linked.sound sound).responsive
      this other) ?_
    intro after echoed
    exact linked.trans (Course.steady echoed.toSteady)

/-- Nothing more is asked of a walk than its course. -/
theorem Walk.trivial {slots : Slot → Prop} {wiring : WiringId}
    {start : Editor σ} :
    Walk settings workspace engine react slots wiring start (fun _ => True)
      (fun _ => True) (fun _ _ => True) where
  holds := True.intro
  quietly := fun _ _ _ _ => True.intro
  write := fun _ _ _ _ _ _ _ => leads_trivial _ _
  recomputed := fun _ _ _ _ _ => leads_trivial _ _
  skipped := fun _ _ _ => True.intro
  idle := fun _ _ _ => True.intro
  settled := fun _ _ _ _ => True.intro
  detached := fun _ _ _ => True.intro
  circular := fun _ _ _ _ => True.intro
  undone := fun _ _ _ _ _ _ _ => True.intro

theorem conducts_wire (sound : Sound settings workspace engine none editor)
    (ripples : RipplesOnly react) (mode : WiringMode)
    (known : editor.blocks.contains block) :
    Conducts liberties workspace engine (wire react engine block mode) editor :=
  Leads.mono
    (leads_wire liberties sound known ripples (fun _ => True.intro)
      (fun _ => Walk.trivial))
    (fun _ _ both => both.1.course) (fun _ _ both => both.1.course)

/-- The only extension of a workspace wires the block. -/
theorem leads_applyExtension
    (sound : Sound settings workspace engine none editor) (name : String)
    (block : BlockId) {returned : Option WiringId → Editor σ → Prop}
    (wires : wireExtension = name →
      Leads (wire react engine block (editor.workspace workspace).mode) editor
        (fun wiring after => returned (some wiring) after) raised)
    (unknown : raised (.extensionUnknown name) editor) :
    Leads (applyExtension react workspace name block) editor returned
      raised := by
  simp only [applyExtension, leads_bind, leads_lookup, sound.desk.extensions]
  by_cases isWire : wireExtension = name
  · subst isWire
    refine ⟨?_, ?_⟩
    · intro action found
      cases found
      simp only [leads_bind, leads_look, leads_pure, sound.desk.engineOf]
      exact wires rfl
    · intro fault impossible
      cases impossible
  · have missing : ExtensionTable.action
        (⟨[(wireExtension, .wire)]⟩ : ExtensionTable ExtensionAction) name =
          .error (.extensionUnknown name) := by
      simp [ExtensionTable.action, OrderedMap.get?, OrderedMap.lookup, isWire]
    rw [missing]
    refine ⟨?_, ?_⟩
    · intro action impossible
      cases impossible
    · intro fault isUnknown
      cases isUnknown
      exact unknown

variable {good : Editor σ → Prop} {permitted : Fault → Editor σ → Prop}

section Blocks

/-- Setting up a block applies its extensions in turn. -/
theorem leads_initBlock (holds : good editor)
    (applies : (editor.block block).initialized = false →
      ∀ name ∈ (editor.block block).extensions, ∀ current, good current →
        Leads (applyExtension react (editor.block block).workspace name block)
          current (fun _ => good) permitted)
    (flagged : ∀ current, good current →
      good (current.updateBlock block fun entry => { entry with
        initialized := true })) :
    Leads (initBlock react block) editor (fun _ => good) permitted := by
  simp only [initBlock, leads_bind, leads_look]
  split
  · exact holds
  · rename_i fresh
    rw [Bool.not_eq_true] at fresh
    simp only [leads_bind, leads_modify]
    refine Leads.imp (leads_forM (fun _ => good) _ ?_ holds) fun _ => flagged
    intro name _ current listed stillHolds
    rw [leads_discard]
    exact applies fresh name listed current stillHolds

section Dispose

variable (disconnects : ∀ current connection, good current →
  current.Offers block (.connection connection) →
    Leads (disconnect react connection) current (fun _ => good) permitted)

include disconnects

theorem leads_disconnectRows (limit : Nat) :
    ∀ (place : Nat) (current : Editor σ), good current →
    Leads (disconnectRows react block limit place) current
      (fun _ => good) permitted := by
  induction limit with
  | zero => exact fun _ _ => id
  | succ limit induction =>
      intro place current holds
      simp only [disconnectRows, leads_bind, leads_look]
      split
      · exact holds
      · rename_i row atPlace
        cases has : row.connection with
        | none =>
            simp only [Option.forM, leads_bind, leads_pure]
            exact induction (place + 1) current holds
        | some connection =>
            simp only [Option.forM, leads_bind]
            have offered : current.Offers block (.connection connection) :=
              Or.inr ⟨row, List.mem_of_getElem? atPlace, has⟩
            exact Leads.imp (disconnects current connection holds offered)
              fun _ => induction (place + 1)

/-- Taking a block apart releases its wiring, disconnects it and takes it out of
the workspace. -/
theorem leads_disposeBlock {retired : Editor σ → Prop} (limit : Nat)
    (already : (editor.block block).disposed = true → retired editor)
    (releases :
      Leads
      (releaseWiring (editor.workspace (editor.block block).workspace).engine
        block) editor (fun _ => good) permitted)
    (retires : ∀ current, good current →
      retired (current.retireBlock (editor.block block).workspace block)) :
    Leads (disposeBlock react limit block) editor
      (fun _ => retired) permitted := by
  simp only [disposeBlock, leads_bind, leads_look]
  split
  · rename_i disposed
    exact already disposed
  · simp only [leads_bind, leads_look, leads_discard, leads_modify]
    have rows : ∀ current, good current →
        Leads (disconnectRows react block limit 0) current
        (fun _ after => retired
          (after.retireBlock (editor.block block).workspace block))
        permitted := fun current holds =>
      Leads.imp (leads_disconnectRows disconnects limit 0 current holds)
        fun _ => retires
    refine Leads.imp releases fun _ released holds => ?_
    cases isOutput : (released.block block).output with
    | none =>
        simp only [Option.forM, leads_pure]
        exact rows released holds
    | some connection =>
        simp only [Option.forM]
        exact Leads.imp (disconnects released connection holds
          (Or.inl isOutput)) fun _ => rows

end Dispose

theorem Leads.along {action : EditM σ α} {current : Editor σ}
    (leads : Leads action current (fun _ => good) permitted)
    (course : Course Liberties.all workspace engine
      (none, editor) (none, current))
    (conducts : Conducts Liberties.all workspace engine action current) :
    Leads action current
      (fun _ after => Course Liberties.all workspace engine
        (none, editor) (none, after) ∧
        good after) permitted :=
  Leads.mono (conducts.and leads)
    (fun _ _ both => ⟨course.trans both.1, both.2⟩) (fun _ _ both => both.2)

variable (sound : Sound settings workspace engine none editor)
  (ripples : RipplesOnly react) (known : editor.blocks.contains block)

include sound ripples known

theorem Sound.leads_initBlock (holds : good editor)
    (wires : (editor.block block).initialized = false →
      wireExtension ∈ (editor.block block).extensions → ∀ current mode,
        Outgrows editor current → Sound settings workspace engine none current →
          good current →
          Leads (wire react engine block mode) current
            (fun _ => good) permitted)
    (unknown : ∀ name current, good current →
      permitted (.extensionUnknown name) current)
    (flagged : ∀ current, current.blocks.contains block → good current →
      good (current.updateBlock block fun entry => { entry with
        initialized := true })) :
    Leads (initBlock react block) editor (fun _ => good) permitted := by
  have along : Leads (initBlock react block) editor (fun _ after =>
      Course Liberties.all workspace engine (none, editor) (none, after) ∧
        good after)
      permitted := by
    refine Editor.leads_initBlock ⟨Course.refl _, holds⟩ ?_ ?_
    · rintro fresh name listed current ⟨course, holds⟩
      have soundHere := course.sound sound
      have outgrows := course.outgrows sound
      rw [sound.layout.workspaceOf block known]
      refine leads_applyExtension soundHere name block ?_
        (unknown name current holds)
      rintro rfl
      exact (wires fresh listed current _ outgrows soundHere holds).along course
        (conducts_wire soundHere ripples _ (outgrows.knownBlock block known))
    · rintro current ⟨course, holds⟩
      have knownHere := (course.outgrows sound).knownBlock block known
      exact ⟨course.trans
        (Course.steady (steady_flags current knownHere fun _ => rfl)),
        flagged current knownHere holds⟩
  exact Leads.imp along fun _ _ both => both.2

theorem Sound.leads_disposeBlock {retired : Editor σ → Prop} (limit : Nat)
    (already : (editor.block block).disposed = true → retired editor)
    (releases : Leads (releaseWiring engine block) editor
      (fun _ => good) permitted)
    (disconnects : ∀ current connection, Outgrows editor current →
      Sound settings workspace engine none current → good current →
      current.Offers block (.connection connection) →
        Leads (disconnect react connection) current (fun _ => good) permitted)
    (retires : ∀ current, current.blocks.contains block → good current →
      retired (current.retireBlock workspace block)) :
    Leads (disposeBlock react limit block) editor
      (fun _ => retired) permitted := by
  have home := sound.layout.workspaceOf block known
  have released : Leads
      (releaseWiring (editor.workspace (editor.block block).workspace).engine
        block) editor
      (fun _ after => Course Liberties.all workspace engine
        (none, editor) (none, after) ∧
        good after) permitted := by
    rw [home, sound.desk.engineOf]
    exact releases.along (Course.refl _) (conducts_releaseWiring sound block)
  refine Editor.leads_disposeBlock ?_ limit already released ?_
  · rintro current connection ⟨course, holds⟩ offered
    have soundHere := course.sound sound
    exact (disconnects current connection (course.outgrows sound) soundHere
      holds offered).along
      course (conducts_disconnect soundHere ripples connection)
  · rintro current ⟨course, holds⟩
    rw [home]
    exact retires current ((course.outgrows sound).knownBlock block known) holds

end Blocks

/-- Every operation is a course of elementary changes. -/
theorem course_perform (sound : Sound settings workspace engine none editor)
    (ripples : RipplesOnly react) (limit : Nat) {operation : HostOperation}
    (refers : operation.Refers workspace editor)
    (within : operation.Within liberties editor) :
    Conducts liberties workspace engine
      (operation.perform react limit workspace) editor := by
  have after : ∀ {α : Type} {action : EditM σ α} {current : Editor σ},
      Course liberties workspace engine (none, editor) (none, current) →
        Conducts liberties workspace engine action current →
          Ends action current fun next =>
            Course liberties workspace engine (none, editor) (none, next) :=
    fun course conducts => Ends.mono conducts fun _ => course.trans
  cases operation with
  | newBlock type id extensions =>
      exact (leads_discard _).mpr (conducts_newBlock type id extensions editor)
  | removeBlock block =>
      exact Course.steady (steady_registered editor workspace fun blocks =>
        blocks.erase (editor.block block).id)
  | setOutput block check =>
      exact Course.single (Change.outputMade check refers within)
  | appendInput block name check =>
      exact (leads_discard _).mpr (leads_appendInput (Course.refl _) fun free =>
        Course.single (Change.inputMade check refers free))
  | appendDummyInput block name =>
      exact (leads_discard _).mpr (leads_appendDummyInput (Course.refl _)
        (Course.single (Change.dummyMade name refers)))
  | newField name kind value =>
      exact Course.single (Change.fieldMade rfl within)
  | appendField block place field =>
      exact leads_appendField (Course.refl _) fun nameFree =>
        Course.single (Change.fieldAttached refers.1 refers.2.1 refers.2.2
          nameFree within)
  | createVariable name request id =>
      exact conducts_createVariable name request id editor
  | initBlock block =>
      refine sound.leads_initBlock ripples refers (Course.refl _) ?_
        (fun _ _ => id) ?_
      · intro _ _ current mode outgrows soundHere course
        exact after course
          (conducts_wire soundHere ripples mode
            (outgrows.knownBlock block refers))
      · intro current known course
        exact course.trans
          (Course.steady (steady_flags current known fun _ => rfl))
  | wire block mode =>
      simp only [Ends, HostOperation.perform, leads_bind, leads_look,
        leads_discard, sound.desk.engineOf]
      exact conducts_wire sound ripples mode refers
  | releaseWiring block =>
      simp only [Ends, HostOperation.perform, leads_bind, leads_look,
        leads_discard, sound.desk.engineOf]
      exact conducts_releaseWiring sound block
  | disposeWiring wiring =>
      exact (leads_discard _).mpr
        (leads_disposeWiring wiring editor (fun _ => Course.refl _)
        fun isOpen _ => Course.single
          (Change.closed (Or.inl rfl) refers isOpen))
  | disposeBlock block =>
      refine sound.leads_disposeBlock ripples refers limit
        (fun _ => Course.refl _) (conducts_releaseWiring sound block) ?_ ?_
      · intro current connection _ soundHere course _
        exact after course (conducts_disconnect soundHere ripples connection)
      · intro current known course
        exact course.trans (Course.steady (steady_retireBlock known))
  | connect this other => exact conducts_connect sound ripples refers.1 refers.2
  | disconnect connection => exact conducts_disconnect sound ripples connection
  | setValue field value => exact conducts_setValue sound ripples value refers
  | setTypes slot check =>
      exact (leads_discard _).mpr (conducts_setTypes sound ripples check refers)
  | listen slot callback =>
      exact (leads_discard _).mpr (conducts_listen sound callback refers within)
  | unlisten subscription =>
      obtain ⟨sameWorkspace, entry, callback, found, isCallback⟩ := refers
      obtain ⟨subscriptionWorkspace, number⟩ := subscription
      dsimp only at sameWorkspace
      subst sameWorkspace
      exact Course.single (Change.unlistened within found isCallback)

end Course

end TypeFlow.Editor
