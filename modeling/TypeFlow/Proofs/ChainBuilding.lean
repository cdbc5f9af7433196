import TypeFlow.Proofs.ChainJoining

/-!
# Building a chain

A host can make blocks one after the other, declare each of them to be an echo,
wire it and plug the output before it into its input.  Whatever the number of
blocks, this gives a chain that waits to be fed.
-/

namespace TypeFlow

open OrderedMap (contains_congr contains_insert getD_insert keys_insert
  keys_insert_of_contains size_eq_length_keys size_insert_of_not_contains)

/-- The id that is given to the block in this place. -/
def blockName (place : Nat) : String :=
  String.ofList (List.replicate (place + 1) 'e')

theorem blockName_ne_empty (place : Nat) : blockName place ≠ "" := by
  intro isEmpty
  cases (congrArg String.toList isEmpty).symm.trans String.toList_ofList

theorem blockName_inj {left right : Nat}
    (same : blockName left = blockName right) :
    left = right := by
  have sameLetters := String.ofList_injective same
  have sameLength := congrArg List.length sameLetters
  simp only [List.length_replicate] at sameLength
  omega

namespace Editor

variable {σ : Type} {editor : Editor σ} {settings : Settings} {fuel : Nat}
  {name : String}

theorem Leads.run {α : Type} {action : EditM σ α}
    {returned : α → Editor σ → Prop}
    (leads : Leads action editor returned fun _ _ => False) :
    ∃ value after, action editor = (.ok value, after) ∧
      returned value after := by
  rcases run : action editor with ⟨outcome | value, after⟩
  · exact (leads.raises run).elim
  · exact ⟨value, after, rfl, leads.returns run⟩

/-- The states of a workspace in its plain use. -/
abbrev InUse (settings : Settings) (editor : Editor σ) : Prop :=
  Reached idle
    (fun before operation _ _ => operation.Within Liberties.plain before)
    settings ⟨0⟩ editor

section InUse

section InUse

variable (inUse : InUse settings editor)

include inUse

theorem InUse.sound : Sound settings ⟨0⟩ ⟨0⟩ none editor :=
  Reached.sound keepsOut_idle inUse

theorem InUse.atHome : AtHome ⟨0⟩ ⟨0⟩ none editor :=
  Reached.atHome keepsOut_idle (fun moves => moves) (fun listens => listens)
    (fun _ _ _ _ within => within) inUse

theorem InUse.tallied : Tallied ⟨0⟩ ⟨0⟩ editor :=
  Reached.tallied keepsOut_idle (fun listens => listens)
    (fun _ _ _ _ within => within) inUse

/-- There is room for a recomputation. -/
theorem InUse.room :
    ((editor.engine ⟨0⟩).guard.depth : Int) <
      (editor.engine ⟨0⟩).guard.maxDepth := by
  have config := inUse.sound.desk.config
  have one := (editor.engine ⟨0⟩).config.one_le_maxDepth
  rw [Guard.depth, inUse.sound.desk.stack,
    (inUse.climbing keepsOut_idle raises_idle).maxDepth, ← config]
  simp only [List.length_nil]
  omega

end InUse

end InUse

/-- The operations return, one after the other. -/
inductive Completes (fuel : Nat) : List HostOperation → Editor σ → Editor σ →
    Prop
  | nil (editor : Editor σ) : Completes fuel [] editor editor
  | cons {operation : HostOperation} {rest : List HostOperation}
      {before middle after : Editor σ} :
      operation.Refers ⟨0⟩ before → operation.Within Liberties.plain before →
      operation.perform (reaction idle fuel) fuel ⟨0⟩ before =
        (.ok (), middle) →
      Completes fuel rest middle after →
        Completes fuel (operation :: rest) before after

section Completes

variable {operations later : List HostOperation}
  {before middle after : Editor σ}

theorem Completes.append (first : Completes fuel operations before middle)
    (second : Completes fuel later middle after) :
    Completes fuel (operations ++ later) before after := by
  induction first with
  | nil => exact second
  | cons refers within run _ induction =>
      exact .cons refers within run (induction second)

theorem Completes.inUse (completes : Completes fuel operations before after)
    (inUse : InUse settings before) : InUse settings after := by
  induction completes with
  | nil => exact inUse
  | cons refers within run _ induction =>
      exact induction (.performed inUse refers run within)

theorem Completes.run (completes : Completes fuel operations before after) :
    operations.forM (HostOperation.perform (reaction idle fuel) fuel ⟨0⟩)
      before =
      (.ok (), after) := by
  induction completes with
  | nil => rfl
  | cons _ _ run _ induction =>
      apply run_of_leads
      change Leads (_ >>= fun _ => List.forM _ _) _ _ _
      rw [leads_bind, leads_of_run run, leads_of_run induction]

end Completes

/-- The state with one more block, which is registered. -/
def withBlock (editor : Editor σ) (workspace : WorkspaceId) (type id : String) :
    Editor σ :=
  { editor with
    blocks := editor.blocks.insert ⟨editor.blocks.size⟩ { workspace, type, id }
      }.updateWorkspace
      workspace fun entry => { entry with
        blocks := entry.blocks.insert id ⟨editor.blocks.size⟩ }

def withOutput (editor : Editor σ) (block : BlockId)
    (check : Check) : Editor σ :=
  (editor.withConnection block .output "output" check).updateBlock
    block fun entry => { entry with output := some editor.nextConnection }

def withInput (editor : Editor σ) (block : BlockId) (name : String)
    (check : Check) : Editor σ :=
  (editor.withConnection block .input name check).appendRow block
    { name, connection := some editor.nextConnection }

section Made

variable {block : BlockId}

theorem completes_newBlock (type : String) {id : String} (named : id ≠ "")
    (free : (editor.workspace ⟨0⟩).blocks.contains id = false) :
    Completes fuel [.newBlock type (some id) []] editor
      (editor.withBlock ⟨0⟩ type id) := by
  refine .cons trivial trivial ?_ (.nil _)
  apply run_of_leads
  simp only [HostOperation.perform, newBlock, chooseId, leads_discard,
    leads_bind, Option.getD_some, named, if_false, leads_pure, leads_look, free,
    Bool.false_eq_true, leads_modify]
  rfl

theorem completes_setOutput (known : editor.blocks.contains block)
    (check : Check) :
    Completes fuel [.setOutput block check] editor
      (editor.withOutput block check) :=
  .cons known (Or.inl trivial) rfl (.nil _)

theorem completes_appendInput (known : editor.blocks.contains block)
    (free : (editor.block block).row? name = none) (check : Check) :
    Completes fuel [.appendInput block name check] editor
      (editor.withInput block name check) := by
  refine .cons known trivial ?_ (.nil _)
  apply run_of_leads
  simp only [HostOperation.perform, appendInput, refuseTakenInput,
    leads_discard, leads_bind, leads_look, free, Option.isSome_none,
    Bool.false_eq_true, if_false, leads_pure, newConnection, leads_modify]
  rfl

theorem block_withBlock (workspace : WorkspaceId) (type id : String)
    (other : BlockId) :
    (editor.withBlock workspace type id).block other =
      if ⟨editor.blocks.size⟩ = other then { workspace, type, id }
        else editor.block other :=
  getD_insert _ _ _ _ _

theorem block_withOutput (check : Check) (other : BlockId) :
    (editor.withOutput block check).block other =
      if block = other then { editor.block block with
        output := some editor.nextConnection }
      else editor.block other :=
  block_updateBlock _ _ _ _

theorem block_withInput (name : String) (check : Check) (other : BlockId) :
    (editor.withInput block name check).block other =
      if block = other then
        { editor.block block with
          rows := (editor.block block).rows ++
            [{ name, connection := some editor.nextConnection }] }
      else editor.block other :=
  block_updateBlock _ _ _ _

theorem connection_withOutput (check : Check) (other : ConnectionId) :
    (editor.withOutput block check).connection other =
      if editor.nextConnection = other then
        { key := ⟨(editor.block block).id, .output, "output"⟩, block, check }
      else editor.connection other :=
  getD_insert _ _ _ _ _

theorem connection_withInput (name : String) (check : Check)
    (other : ConnectionId) :
    (editor.withInput block name check).connection other =
      if editor.nextConnection = other then
        { key := ⟨(editor.block block).id, .input, name⟩, block, check }
      else editor.connection other :=
  getD_insert _ _ _ _ _

end Made

/-- The state with one more block, which has an output. -/
def offering (editor : Editor σ) (type name : String)
    (check : Check) : Editor σ :=
  (editor.withBlock ⟨0⟩ type name).withOutput ⟨editor.blocks.size⟩ check

section Offering

variable {type : String} {check : Check}

theorem completes_offering (named : name ≠ "")
    (free : (editor.workspace ⟨0⟩).blocks.contains name = false) :
    Completes fuel [.newBlock type (some name) [],
      .setOutput ⟨editor.blocks.size⟩ check] editor
      (editor.offering type name check) := by
  apply (completes_newBlock type named free).append
  apply completes_setOutput
  exact (contains_insert _ _ _ _).mpr (Or.inl rfl)

theorem block_offering (id : BlockId) :
    (editor.offering type name check).block id =
      if ⟨editor.blocks.size⟩ = id then
        { workspace := ⟨0⟩, type, id := name, output :=
            some editor.nextConnection }
      else editor.block id := by
  rw [offering, block_withOutput, block_withBlock, if_pos rfl, block_withBlock]
  split
  · rfl
  · rfl

theorem connection_offering (id : ConnectionId) :
    (editor.offering type name check).connection id =
      if editor.nextConnection = id then
        { key := ⟨name, .output, "output"⟩, block :=
            ⟨editor.blocks.size⟩, check }
      else editor.connection id := by
  rw [offering, connection_withOutput, block_withBlock, if_pos rfl]
  rfl

theorem keys_offering :
    (editor.offering type name check).blocks.keys =
      (editor.blocks.insert ⟨editor.blocks.size⟩ default).keys := by
  refine (keys_insert_of_contains _ ?_).trans ?_
  · exact (contains_insert _ _ _ _).mpr (Or.inl rfl)
  · exact (keys_insert _ _ _).trans (keys_insert _ _ _).symm

theorem registered_offering (type name : String) (check : Check) :
    ((editor.offering type name check).workspace ⟨0⟩).blocks =
      (editor.workspace ⟨0⟩).blocks.insert name ⟨editor.blocks.size⟩ := by
  change ((editor.withBlock ⟨0⟩ type name).workspace ⟨0⟩).blocks = _
  rw [withBlock, workspace_updateWorkspace, if_pos rfl]
  rfl

theorem extended_offering (tables : Tables editor) :
    Extended editor (editor.offering type name check) where
  block := by
    intro id known
    have notNext : (⟨editor.blocks.size⟩ : BlockId) ≠ id := by
      rintro rfl
      exact tables.blocks.not_contains rfl known
    rw [block_offering, if_neg notNext]
  connection := by
    intro id known
    have notNext : editor.nextConnection ≠ id := by
      rintro rfl
      exact tables.connections.not_contains rfl known
    rw [connection_offering, if_neg notNext]
  wiring := fun _ _ => rfl

end Offering

/-- The echo that is made next. -/
def nextEcho (editor : Editor σ) : Echo :=
  ⟨⟨editor.blocks.size⟩, ⟨editor.connections.size + 1⟩, editor.nextConnection,
    editor.nextWiring⟩

/-- The state with one more block, which is declared to be an echo. -/
def withEcho (editor : Editor σ) (name : String) : Editor σ :=
  (editor.offering "echo" name (some ["From:IN"])).withInput
    ⟨editor.blocks.size⟩ "IN" none

section Declared

theorem completes_withEcho (named : name ≠ "")
    (free : (editor.workspace ⟨0⟩).blocks.contains name = false) :
    Completes fuel
      [.newBlock "echo" (some name) [], .setOutput ⟨editor.blocks.size⟩
        (some ["From:IN"]),
        .appendInput ⟨editor.blocks.size⟩ "IN" none] editor
        (editor.withEcho name) := by
  apply (completes_offering named free).append
  apply completes_appendInput
  · apply (contains_congr keys_offering _).mpr
    exact (contains_insert _ _ _ _).mpr (Or.inl rfl)
  · rw [block_offering, if_pos rfl]
    rfl

section Numbered

variable (numbered : editor.connections.Numbered ConnectionId.number)

include numbered

theorem nextConnection_offering (type : String) (check : Check) :
    (editor.offering type name check).nextConnection =
      ⟨editor.connections.size + 1⟩ :=
  congrArg ConnectionId.mk
    (size_insert_of_not_contains _ (numbered.not_contains rfl))

theorem block_withEcho (id : BlockId) :
    (editor.withEcho name).block id =
      if editor.nextEcho.block = id then
        { workspace := ⟨0⟩
          type := "echo"
          id := name
          output := some editor.nextEcho.output
          rows := [{ name := "IN", connection := some editor.nextEcho.input }] }
      else editor.block id := by
  rw [withEcho, block_withInput, nextConnection_offering numbered,
    block_offering, if_pos rfl, block_offering]
  change (if editor.nextEcho.block = id then _ else if editor.nextEcho.block =
    id then _ else _) = _
  split
  · rfl
  · rfl

theorem connection_withEcho (id : ConnectionId) :
    (editor.withEcho name).connection id =
      if editor.nextEcho.input = id then
        { key := ⟨name, .input, "IN"⟩, block := editor.nextEcho.block }
      else if editor.nextEcho.output = id then
        { key := ⟨name, .output, "output"⟩
          block := editor.nextEcho.block
          check := some ["From:IN"] }
      else editor.connection id := by
  rw [withEcho, connection_withInput, nextConnection_offering numbered,
    block_offering, if_pos rfl, connection_offering]
  rfl

end Numbered

theorem keys_withEcho :
    (editor.withEcho name).blocks.keys =
      (editor.blocks.insert ⟨editor.blocks.size⟩ default).keys := by
  refine (keys_insert_of_contains _ ?_).trans keys_offering
  apply (contains_congr keys_offering _).mpr
  exact (contains_insert _ _ _ _).mpr (Or.inl rfl)

theorem size_connections_withEcho
    (numbered : editor.connections.Numbered ConnectionId.number)
    (name : String) :
    (editor.withEcho name).connections.size = editor.connections.size + 2 := by
  have offered :
      (editor.offering "echo" name (some ["From:IN"])).connections.Numbered
      ConnectionId.number :=
    numbered.insert_next _ rfl
  have size :
      (editor.offering "echo" name (some ["From:IN"])).connections.size =
      editor.connections.size + 1 :=
    size_insert_of_not_contains _ (numbered.not_contains rfl)
  refine (size_insert_of_not_contains _ (offered.not_contains rfl)).trans ?_
  exact congrArg Nat.succ size

theorem registered_withEcho (name : String) :
    ((editor.withEcho name).workspace ⟨0⟩).blocks =
      (editor.workspace ⟨0⟩).blocks.insert name ⟨editor.blocks.size⟩ :=
  registered_offering "echo" name (some ["From:IN"])

end Declared

/-- Blocks are named after their places, whether they are registered or not. -/
structure Labelled (editor : Editor σ) : Prop where
  ids : ∀ id, editor.blocks.contains id →
    (editor.block id).id = blockName id.number
  registered : ∀ name, (editor.workspace ⟨0⟩).blocks.contains name →
    ∃ place < editor.blocks.size, name = blockName place

section Labelled

variable {before after : Editor σ}

theorem Labelled.uniqueIds (labelled : editor.Labelled) : editor.UniqueIds := by
  intro left right knownLeft knownRight sameId
  rw [labelled.ids left knownLeft, labelled.ids right knownRight] at sameId
  exact (congrArg BlockId.mk (blockName_inj sameId) :)

theorem Labelled.free (labelled : editor.Labelled) :
    (editor.workspace ⟨0⟩).blocks.contains (blockName editor.blocks.size) =
      false := by
  cases taken : (editor.workspace ⟨0⟩).blocks.contains
    (blockName editor.blocks.size) with
  | false => rfl
  | true =>
      obtain ⟨place, below, sameName⟩ := labelled.registered _ taken
      have same := blockName_inj sameName
      omega

/-- One more block is made and gets the next name. -/
theorem Labelled.grown (labelled : before.Labelled)
    (numbered : before.blocks.Numbered BlockId.number)
    (keys : after.blocks.keys =
      (before.blocks.insert ⟨before.blocks.size⟩ default).keys)
    (named : (after.block ⟨before.blocks.size⟩).id =
      blockName before.blocks.size)
    (earlier : ∀ id, before.blocks.contains id →
      after.block id = before.block id)
    (registered : (after.workspace ⟨0⟩).blocks =
      (before.workspace ⟨0⟩).blocks.insert (blockName before.blocks.size)
        ⟨before.blocks.size⟩) :
    after.Labelled ∧ after.blocks.size = before.blocks.size + 1 := by
  have size : after.blocks.size = before.blocks.size + 1 := by
    rw [size_eq_length_keys, keys, ← size_eq_length_keys]
    exact size_insert_of_not_contains _ (numbered.not_contains rfl)
  refine ⟨⟨?_, ?_⟩, size⟩
  · intro id known
    have origin := (contains_insert _ _ _ _).mp
      ((contains_congr keys id).mp known)
    rcases origin with rfl | wasKnown
    · exact named
    · rw [earlier id wasKnown]
      exact labelled.ids id wasKnown
  · intro name taken
    rw [registered] at taken
    rw [size]
    rcases (contains_insert _ _ _ _).mp taken with rfl | wasTaken
    · exact ⟨before.blocks.size, Nat.lt_succ_self _, rfl⟩
    · obtain ⟨place, below, isName⟩ := labelled.registered name wasTaken
      exact ⟨place, Nat.lt_succ_of_lt below, isName⟩

theorem Labelled.congr (labelled : before.Labelled)
    (blocks : after.blocks = before.blocks)
    (registered : (after.workspace ⟨0⟩).blocks =
      (before.workspace ⟨0⟩).blocks) :
    after.Labelled := by
  constructor
  · intro id known
    rw [blocks] at known
    rw [Editor.block, blocks]
    exact labelled.ids id known
  · rw [blocks, registered]
    exact labelled.registered

end Labelled

section Made

variable {bound after : Editor σ} {echo : Echo}

theorem Labelled.declares (labelled : editor.Labelled)
    (sound : Sound settings ⟨0⟩ ⟨0⟩ none editor) :
    (editor.withEcho (blockName editor.blocks.size)).Declares
      ⟨0⟩ editor.nextEcho := by
  have numbered := sound.tables.connections
  have differ : editor.nextEcho.input ≠ editor.nextEcho.output := by
    intro same
    have sameNumber : editor.connections.size + 1 = editor.connections.size :=
      (congrArg ConnectionId.number same :)
    omega
  constructor
  case output => rw [block_withEcho numbered, if_pos rfl]
  case rows => rw [block_withEcho numbered, if_pos rfl]
  case unrestricted => rw [connection_withEcho numbered, if_pos rfl]
  case declared => rw [connection_withEcho numbered, if_neg differ, if_pos rfl]
  case inputFree => rw [connection_withEcho numbered, if_pos rfl]
  case outputFree =>
    rw [connection_withEcho numbered, if_neg differ, if_pos rfl]
  case unwired =>
    -- Whatever is on record belongs to an earlier block, which has another
    -- name.
    have unrecorded : (editor.engine ⟨0⟩).wirings.get?
        (blockName editor.blocks.size) = none := by
      cases recorded : (editor.engine ⟨0⟩).wirings.get?
        (blockName editor.blocks.size) with
      | none => rfl
      | some wiring =>
          obtain ⟨known, sameId⟩ := sound.wired.recorded _ wiring recorded
          have knownBlock := sound.wired.block wiring known
          have below := sound.tables.blocks _ knownBlock
          rw [labelled.ids _ knownBlock] at sameId
          have same := blockName_inj sameId
          omega
    rw [liveWiringFor?, wiringFor?, block_withEcho numbered, if_pos rfl]
    exact congrArg (Option.filter _) unrecorded
  case next => rfl

theorem InUse.completes_wire (inUse : InUse settings editor)
    (declares : editor.Declares ⟨0⟩ echo) (lead : settings.lead = "From:")
    (recomputes : settings.initialRecompute = true) (fuel : Nat) :
    ∃ bound after, Completes fuel [.wire echo.block .live] editor after ∧
      Binds ⟨0⟩ echo editor bound ∧ Blanked echo.output bound after := by
  have sound := InUse.sound inUse
  have known : editor.blocks.contains echo.block :=
    contains_of_output declares.output
  have settingsOf := sound.desk.config
  have isLead : (editor.engine ⟨0⟩).config.lead = "From:" := by
    rw [settingsOf, lead]
  have initially : (editor.engine ⟨0⟩).config.initialRecompute = true := by
    rw [settingsOf, recomputes]
  obtain ⟨_, after, run, bound, binds, blanked⟩ :=
    (@Declares.leads_wire σ ⟨0⟩ editor echo (reaction idle fuel) declares
      (InUse.room inUse) sound.desk.active isLead initially).run
  refine ⟨bound, after, .cons known trivial ?_ (.nil after), binds, blanked⟩
  apply run_of_leads
  simp only [HostOperation.perform, leads_bind, leads_look, leads_discard,
    sound.desk.engineOf]
  rw [leads_of_run run]

/-- Making an echo changes nothing that was there. -/
theorem Binds.extended (tables : Tables editor)
    (binds : Binds ⟨0⟩ editor.nextEcho (editor.withEcho name) bound)
    (blanked : Blanked editor.nextEcho.output bound after) :
    Extended editor after := by
  constructor
  case block =>
    intro id known
    have notNext : editor.nextEcho.block ≠ id := by
      rintro rfl
      exact tables.blocks.not_contains rfl known
    rw [blanked.block, Editor.block, binds.blocks]
    exact (block_withEcho tables.connections id).trans (if_neg notNext)
  case connection =>
    intro id known
    have notInput : editor.nextEcho.input ≠ id := by
      rintro rfl
      exact Nat.not_succ_lt_self (tables.connections _ known)
    have notOutput : editor.nextEcho.output ≠ id := by
      rintro rfl
      exact tables.connections.not_contains rfl known
    rw [blanked.connection, if_neg notOutput, Editor.connection,
      binds.connections]
    exact (connection_withEcho tables.connections id).trans
      ((if_neg notInput).trans (if_neg notOutput))
  case wiring =>
    intro id known
    have notNext : editor.nextEcho.wiring ≠ id := by
      rintro rfl
      exact tables.wirings.not_contains rfl known
    rw [blanked.wiring]
    exact binds.earlier id notNext

/-- The new echo is a chain of its own. -/
theorem Binds.single (binds : Binds ⟨0⟩ echo editor bound)
    (blanked : Blanked echo.output bound after)
    (declares : editor.Declares ⟨0⟩ echo)
    (sound : Sound settings ⟨0⟩ ⟨0⟩ none after) (ids : after.UniqueIds) :
    EchoChain ⟨0⟩ [echo] after := by
  obtain ⟨label, isEntry⟩ := binds.entry
  have differ : echo.output ≠ echo.input := by
    intro same
    have declared := declares.declared
    rw [same, declares.unrestricted] at declared
    cases declared
  have block : ∀ id, after.block id = editor.block id := by
    intro id
    rw [blanked.block, Editor.block, binds.blocks, Editor.block]
  have connection : ∀ id, bound.connection id = editor.connection id := by
    intro id
    rw [Editor.connection, binds.connections, Editor.connection]
  have input : after.connection echo.input = editor.connection echo.input := by
    rw [blanked.connection, if_neg differ, connection]
  have output : after.connection echo.output =
      { editor.connection echo.output with check := none } := by
    rw [blanked.connection, if_pos rfl, connection]
  have isBound : (after.wiring echo.wiring).bare = _ :=
    (congrArg Wiring.bare (blanked.wiring echo.wiring)).trans isEntry
  have echoing : after.Echoing ⟨0⟩ echo := by
    apply sound.echoing
    · rw [block]
      exact declares.output
    · rw [block]
      exact declares.rows
    · rw [input]
      exact declares.unrestricted
    · exact (congrArg Wiring.mode isBound :)
    · exact (congrArg Wiring.disposed isBound :)
    · refine ⟨label, ?_⟩
      rw [output]
      exact (congrArg Wiring.bindings isBound :)
  constructor
  case ids => exact ids
  case echoing =>
    intro other member
    rw [List.mem_singleton.mp member]
    exact echoing
  case distinct => exact List.nodup_singleton _
  case plugged => exact List.isChain_singleton _
  case begins =>
    intro other isFirst
    rw [List.mem_singleton.mp (List.mem_of_head? isFirst), input]
    exact declares.inputFree
  case ends =>
    intro other isLast
    rw [List.mem_singleton.mp (List.mem_of_getLast? isLast), output]
    exact declares.outputFree
  case blank =>
    intro other member
    rw [List.mem_singleton.mp member, output]

theorem Binds.sizes (tables : Tables editor)
    (binds : Binds ⟨0⟩ editor.nextEcho (editor.withEcho name) bound)
    (blanked : Blanked editor.nextEcho.output bound after) :
    after.connections.size = editor.connections.size + 2 ∧
      after.wirings.size = editor.wirings.size + 1 := by
  constructor
  · have known : (editor.withEcho name).connections.contains
        editor.nextEcho.output := by
      apply (contains_insert _ _ _ _).mpr
      right
      exact (contains_insert _ _ _ _).mpr (Or.inl rfl)
    rw [← binds.connections] at known
    rw [blanked.size known, binds.connections]
    exact size_connections_withEcho tables.connections name
  · rw [blanked.wirings, size_eq_length_keys, binds.keys,
      ← size_eq_length_keys]
    exact size_insert_of_not_contains _ (tables.wirings.not_contains rfl)

/-- The host makes one more echo. -/
theorem InUse.makes_echo (inUse : InUse settings editor)
    (labelled : editor.Labelled) (lead : settings.lead = "From:")
    (recomputes : settings.initialRecompute = true) (fuel : Nat) :
    ∃ after, Completes fuel
        [.newBlock "echo" (some (blockName editor.blocks.size)) [],
          .setOutput editor.nextEcho.block (some ["From:IN"]),
          .appendInput editor.nextEcho.block "IN" none,
          .wire editor.nextEcho.block .live]
        editor after ∧
      Extended editor after ∧ EchoChain ⟨0⟩ [editor.nextEcho] after ∧
      after.Labelled ∧
      after.blocks.size = editor.blocks.size + 1 ∧
      after.connections.size = editor.connections.size + 2 ∧
      after.wirings.size = editor.wirings.size + 1 := by
  have sound := InUse.sound inUse
  have tables := sound.tables
  have declares := labelled.declares sound
  have completes : Completes fuel
      _ editor (editor.withEcho (blockName editor.blocks.size)) :=
    completes_withEcho (blockName_ne_empty _) labelled.free
  obtain ⟨bound, after, wires, binds, blanked⟩ :=
    InUse.completes_wire (completes.inUse inUse) declares lead recomputes fuel
  have made := completes.append wires
  have extended := binds.extended tables blanked
  obtain ⟨connections, wirings⟩ := binds.sizes tables blanked
  have block : ∀ id, after.block id =
      (editor.withEcho (blockName editor.blocks.size)).block id := by
    intro id
    rw [blanked.block, Editor.block, binds.blocks, Editor.block]
  have registered : (after.workspace ⟨0⟩).blocks =
      (bound.workspace ⟨0⟩).blocks := by
    rw [Editor.workspace, blanked.workspaces, Editor.workspace]
  obtain ⟨stillLabelled, blocks⟩ : after.Labelled ∧
      after.blocks.size = editor.blocks.size + 1 := by
    apply labelled.grown tables.blocks
    · rw [blanked.blocks, binds.blocks]
      exact keys_withEcho
    · rw [block, block_withEcho tables.connections]
      exact congrArg Block.id (if_pos rfl)
    · exact extended.block
    · rw [registered, binds.registered, registered_withEcho]
  exact ⟨after, made, extended, binds.single blanked declares
    (InUse.sound (made.inUse inUse))
    stillLabelled.uniqueIds, stillLabelled, blocks, connections, wirings⟩

end Made

end Editor

/-- The echo in this place, if each place is taken by an echo. -/
def Echo.inPlace (place : Nat) : Echo :=
  ⟨⟨place⟩, ⟨2 * place + 1⟩, ⟨2 * place⟩, ⟨place⟩⟩

namespace HostOperation

/-- Makes a block, declares it to be an echo and wires it. -/
def makeEcho (place : Nat) : List HostOperation :=
  [.newBlock "echo" (some (blockName place)) [],
    .setOutput (Echo.inPlace place).block (some ["From:IN"]),
    .appendInput (Echo.inPlace place).block "IN" none,
    .wire (Echo.inPlace place).block .live]

/-- Plugs the echo before this place into the one in this place. -/
def plugEcho : (place : Nat) → List HostOperation
  | 0 => []
  | place + 1 =>
      [.connect (Echo.inPlace place).output (Echo.inPlace (place + 1)).input]

def makeChain (count : Nat) : List HostOperation :=
  (List.range count).flatMap fun place => makeEcho place ++ plugEcho place

/-- Makes a block with an output and leaves it alone. -/
def makeLeaf (place : Nat) (types : TypeList) : List HostOperation :=
  [.newBlock "leaf" (some (blockName place)) [],
    .setOutput ⟨place⟩ (some types)]

end HostOperation

namespace Editor

variable {σ : Type}

/-- So many echoes have been made, and they form a chain. -/
structure Stocked (settings : Settings) (count : Nat) (editor : Editor σ) :
    Prop where
  inUse : InUse settings editor
  labelled : editor.Labelled
  blocks : editor.blocks.size = count
  connections : editor.connections.size = 2 * count
  wirings : editor.wirings.size = count
  chain : EchoChain ⟨0⟩ ((List.range count).map Echo.inPlace) editor

section Stocked

variable {settings : Settings} {count fuel : Nat} {editor : Editor σ}

theorem Stocked.nextEcho_eq (stocked : Stocked settings count editor) :
    editor.nextEcho = Echo.inPlace count := by
  rw [nextEcho, nextConnection, nextWiring, stocked.blocks, stocked.connections,
    stocked.wirings]
  rfl

theorem keys_plug {this other : ConnectionId}
    (caches : OrderedMap CacheId Wildcard.Cache)
    (knownThis : editor.connections.contains this)
    (knownOther : editor.connections.contains other) :
    (editor.plug caches this other).connections.keys =
      editor.connections.keys := by
  have first : (editor.setTarget this (some other)).connections.keys =
      editor.connections.keys :=
    keys_insert_of_contains _ knownThis
  refine (keys_insert_of_contains _ ?_).trans first
  exact (contains_congr first other).mpr knownOther

/-- One more echo is made, and the one before is plugged into it. -/
theorem Stocked.next (stocked : Stocked settings count editor)
    (lead : settings.lead = "From:")
    (recomputes : settings.initialRecompute = true) (enough : 0 < fuel) :
    ∃ after, Completes fuel
      (HostOperation.makeEcho count ++ HostOperation.plugEcho count) editor
      after ∧ Stocked settings (count + 1) after := by
  obtain ⟨made, makes, extended, single, labelled, blocks,
      connections, wirings⟩ :=
    InUse.makes_echo stocked.inUse stocked.labelled lead recomputes fuel
  rw [stocked.nextEcho_eq, stocked.blocks] at makes
  rw [stocked.nextEcho_eq] at single
  rw [stocked.blocks] at blocks
  rw [stocked.connections] at connections
  rw [stocked.wirings] at wirings
  have inUse := makes.inUse stocked.inUse
  have sound := InUse.sound inUse
  cases count with
  | zero =>
      exact ⟨made, makes, inUse, labelled, blocks, connections, wirings, single⟩
  | succ place =>
      -- The chain so far is not touched, and the new echo is a chain of its
      -- own.
      have chain := stocked.chain.extended (InUse.sound stocked.inUse)
        sound extended labelled.uniqueIds
      have isLast : ((List.range (place + 1)).map Echo.inPlace).getLast? =
          some (Echo.inPlace place) := by
        rw [List.range_succ, List.map_append]
        exact List.getLast?_concat
      have apart : ∀ echo ∈ (List.range (place + 1)).map Echo.inPlace,
          ∀ other ∈ [Echo.inPlace (place + 1)], echo.block ≠ other.block := by
        intro echo member other isNew same
        obtain ⟨earlier, isEarlier, rfl⟩ := List.mem_map.mp member
        rw [List.mem_singleton.mp isNew] at same
        have below := List.mem_range.mp isEarlier
        have samePlace : earlier = place + 1 := (congrArg BlockId.number same :)
        omega
      have knownOutput :=
        ((chain.echoing _ (List.mem_of_getLast? isLast)).outputEntry
        sound.layout).1
      have newEcho := single.echoing _ List.mem_cons_self
      have knownInput := (newEcho.inputEntry sound.layout).1
      have knownNew := (newEcho.outputEntry sound.layout).1
      obtain ⟨left, rfl⟩ : ∃ left, fuel = left + 1 :=
        Nat.exists_eq_add_one.mpr enough
      obtain ⟨_, after, run, caches, blanked⟩ :=
        (chain.leads_join single isLast rfl
        (apart _ (List.mem_of_getLast? isLast) _ List.mem_cons_self) sound
          (InUse.atHome inUse)
        (InUse.tallied inUse) (InUse.room inUse) idle left).run
      have plugs : Completes (left + 1) (HostOperation.plugEcho (place + 1))
          made after :=
        .cons ⟨knownOutput, knownInput⟩ trivial run (.nil after)
      have completes := makes.append plugs
      have afterInUse := completes.inUse stocked.inUse
      refine ⟨after, completes, afterInUse, ?_, ?_, ?_, ?_, ?_⟩
      · apply labelled.congr blanked.blocks
        rw [Editor.workspace, blanked.workspaces]
        rfl
      · rw [blanked.blocks]
        exact blocks
      · have keys := keys_plug caches knownOutput knownInput
        rw [blanked.size ((contains_congr keys _).mpr knownNew),
          size_eq_length_keys, keys, ← size_eq_length_keys]
        exact connections
      · rw [blanked.wirings]
        exact wirings
      · rw [List.range_succ, List.map_append]
        exact chain.joined single isLast rfl apart sound
          (InUse.sound afterInUse) blanked

/-- A chain of any length can be made. -/
theorem Stocked.makes_chain (stocked : Stocked settings 0 editor)
    (lead : settings.lead = "From:")
    (recomputes : settings.initialRecompute = true) (enough : 0 < fuel)
    (count : Nat) :
    ∃ after, Completes fuel (HostOperation.makeChain count) editor after ∧
      Stocked settings count after := by
  induction count with
  | zero => exact ⟨editor, .nil editor, stocked⟩
  | succ count induction =>
      obtain ⟨middle, sofar, stockedMiddle⟩ := induction
      obtain ⟨after, further, stockedAfter⟩ :=
        stockedMiddle.next lead recomputes enough
      refine ⟨after, ?_, stockedAfter⟩
      have unfolded : HostOperation.makeChain (count + 1) =
          HostOperation.makeChain count ++
          (HostOperation.makeEcho count ++ HostOperation.plugEcho count) := by
        rw [HostOperation.makeChain, List.range_succ, List.flatMap_append,
          List.flatMap_singleton, HostOperation.makeChain]
      rw [unfolded]
      exact sofar.append further

/-- A leaf is made beside the chain. -/
theorem Stocked.makes_leaf (stocked : Stocked settings count editor)
    (types : TypeList) (fuel : Nat) :
    ∃ after, Completes fuel (HostOperation.makeLeaf count types) editor after ∧
      EchoChain ⟨0⟩ ((List.range count).map Echo.inPlace) after ∧
      after.Leaf ⟨2 * count⟩ types := by
  have sound := InUse.sound stocked.inUse
  have tables := sound.tables
  have isNext : editor.nextConnection = ⟨2 * count⟩ :=
    congrArg ConnectionId.mk stocked.connections
  have makes : Completes fuel (HostOperation.makeLeaf count types) editor
      (editor.offering "leaf" (blockName count) (some types)) := by
    rw [← stocked.blocks]
    exact completes_offering (blockName_ne_empty _) stocked.labelled.free
  have extended : Extended editor
      (editor.offering "leaf" (blockName count) (some types)) :=
    extended_offering tables
  have labelled :
      (editor.offering "leaf" (blockName count) (some types)).Labelled := by
    apply (stocked.labelled.grown tables.blocks keys_offering
      _ extended.block _).1
    · rw [block_offering, if_pos rfl, stocked.blocks]
    · rw [registered_offering, stocked.blocks]
  refine ⟨_, makes, ?_, ?_⟩
  · exact stocked.chain.extended sound (InUse.sound (makes.inUse stocked.inUse))
      extended labelled.uniqueIds
  · constructor
    · refine ⟨⟨editor.blocks.size⟩, ?_⟩
      rw [block_offering, if_pos rfl, isNext]
    · rw [connection_offering, if_pos isNext]
    · rw [connection_offering, if_pos isNext]

end Stocked

end Editor

end TypeFlow
