import TypeFlow.Proofs.Matching

/-!
# Taking blocks apart

Taking a block apart frees the connections that the block lists: its output
and those of its rows.  A connection that it does not list any more, an output
in whose place another one was set, keeps its link.
-/

namespace TypeFlow

open HostOperation (AllAdmitted performAll)

/-- The connections that are freed when a block is taken apart. -/
def Block.freed (block : Block) (limit : Nat) : List ConnectionId :=
  if block.disposed then []
  else block.output.toList ++ (block.rows.take limit).filterMap Row.connection

theorem Block.freed_eq_connections {block : Block}
    (intact : block.disposed = false) {limit : Nat}
    (enough : block.rows.length ≤ limit) :
    block.freed limit = block.connections := by
  unfold freed connections
  rw [intact, if_neg Bool.false_ne_true, List.take_of_length_le enough]

theorem Block.mem_freed_iff {block : Block} (intact : block.disposed = false)
    (limit : Nat) (id : ConnectionId) :
    id ∈ block.freed limit ↔
      block.output = some id ∨ some id ∈ (block.rows.map Row.connection).take
        limit := by
  unfold freed
  rw [intact, if_neg Bool.false_ne_true, List.mem_append, Option.mem_toList,
    List.mem_filterMap, ← List.map_take, List.mem_map]

theorem mem_take_drop_append {α : Type} {item : α} {items added : List α}
    (absent : item ∉ added) (start length : Nat) :
    item ∈ ((items ++ added).drop start).take length ↔
      item ∈ (items.drop start).take length := by
  rw [List.drop_append, List.take_append, List.mem_append]
  constructor
  · rintro (listed | new)
    · exact listed
    · exact absurd (List.mem_of_mem_drop (List.mem_of_mem_take new)) absent
  · exact Or.inl

namespace Editor

variable {σ : Type}

section Rows

variable {links : Prop} {before middle after editor : Editor σ}
  {block : BlockId}

/-- The block keeps the connections of its rows, and those it gets are new. -/
def AddsRows (block : BlockId) (before after : Editor σ) : Prop :=
  ∃ added, (after.block block).rows.map Row.connection =
      (before.block block).rows.map Row.connection ++ added ∧
    ∀ connection, some connection ∈ added →
      ¬ before.connections.contains connection

theorem AddsRows.of_rows (same : (after.block block).rows.map Row.connection =
      (before.block block).rows.map Row.connection) : AddsRows block before
      after := by
  refine ⟨[], ?_, ?_⟩
  · rw [same, List.append_nil]
  · intro connection impossible
    cases impossible

theorem AddsRows.trans (first : AddsRows block before middle)
    (grows : Outgrows before middle) (second : AddsRows block middle after) :
    AddsRows block before after := by
  obtain ⟨early, firstRows, firstNew⟩ := first
  obtain ⟨late, secondRows, secondNew⟩ := second
  refine ⟨early ++ late, ?_, ?_⟩
  · rw [secondRows, firstRows, List.append_assoc]
  · intro connection member known
    rcases List.mem_append.mp member with isEarly | isLate
    · exact firstNew connection isEarly known
    · exact secondNew connection isLate (grows.knownConnection connection known)

/-- Rows are appended to one block. -/
theorem addsRows_updateBlock {other : BlockId} {change : Block → Block}
    (added : List Row) (sameBlocks : middle.blocks = before.blocks)
    (rows : (change (before.block other)).rows.map Row.connection =
      (before.block other).rows.map Row.connection ++ added.map Row.connection)
    (new : ∀ row ∈ added, ∀ connection, row.connection = some connection →
      ¬ before.connections.contains connection) :
    AddsRows block before (middle.updateBlock other change) := by
  have blockOf : ∀ id, middle.block id = before.block id := by
    intro id
    unfold Editor.block
    rw [sameBlocks]
  by_cases here : other = block
  · subst here
    refine ⟨added.map Row.connection, ?_, ?_⟩
    · rw [block_updateBlock, if_pos rfl, blockOf]
      exact rows
    · intro connection member
      obtain ⟨row, isAdded, has⟩ := List.mem_map.mp member
      exact new row isAdded connection has
  · apply AddsRows.of_rows
    rw [block_updateBlock, if_neg here, blockOf]

theorem map_connection_modify (rows : List Row) (place : Nat)
    (field : FieldId) :
    (rows.modify place fun row => { row with
      fields := row.fields ++ [field] }).map
      Row.connection = rows.map Row.connection := by
  induction rows generalizing place with
  | nil => simp
  | cons row rest induction =>
      cases place with
      | zero => simp
      | succ place => simp [induction place]

theorem Step.addsRows (step : Step links before after)
    (tables : before.SlotTables) (known : before.blocks.contains block) :
    AddsRows block before after := by
  have noRow : ∀ row ∈ ([] : List Row), ∀ connection,
      row.connection = some connection →
      ¬ before.connections.contains connection := by
    intro row impossible
    cases impossible
  cases step with
  | retouched retouched =>
      apply AddsRows.of_rows
      exact congrArg (List.map Row.connection)
        (congrArg Block.rows (retouched.block block) :)
  | bound known => exact AddsRows.of_rows rfl
  | blockMade workspace type id extensions =>
      apply AddsRows.of_rows
      rw [tables.block_addBlock known]
  | outputMade check _ =>
      exact addsRows_updateBlock [] rfl (List.append_nil _).symm noRow
  | @inputMade _ name check _ _ =>
      refine addsRows_updateBlock
        [{ name, connection := some before.nextConnection }] rfl ?_ ?_
      · exact List.map_append
      · intro row isRow connection has
        cases List.mem_singleton.mp isRow
        cases has
        exact tables.connection_next
  | dummyMade name _ =>
      refine addsRows_updateBlock [{ name }] rfl ?_ ?_
      · exact List.map_append
      · intro row isRow connection has
        cases List.mem_singleton.mp isRow
        cases has
  | fieldMade detached => exact AddsRows.of_rows rfl
  | fieldAttached _ _ _ _ =>
      refine addsRows_updateBlock [] rfl ?_ noRow
      rw [List.map_nil, List.append_nil]
      exact map_connection_modify _ _ _
  | unlinked _ _ _ => exact AddsRows.of_rows rfl
  | linked _ _ _ => exact AddsRows.of_rows rfl

theorem Steps.addsRows (steps : Steps links before after)
    (shaped : Shaped before) (known : before.blocks.contains block) :
    AddsRows block before after := by
  induction steps with
  | refl => exact AddsRows.of_rows rfl
  | tail sofar step induction =>
      have grows := Steps.outgrows sofar shaped
      exact induction.trans grows
        (step.addsRows (Steps.shaped sofar shaped).tables
          (grows.knownBlock block known))

end Rows

/-- The links are those of before without the ones that end at a connection
that is gone. -/
structure Frees (gone : ConnectionId → Prop) (before after : Editor σ) :
    Prop where
  steps : Steps True before after
  links : ∀ this other, (after.connection this).target = some other ↔
    (before.connection this).target = some other ∧ ¬ gone this ∧ ¬ gone other

namespace Frees

variable {before middle after editor : Editor σ}
  {gone more : ConnectionId → Prop}

theorem of_steps (steps : Steps False before after) (shaped : Shaped before) :
    Frees (fun _ => False) before after where
  steps := steps.mono False.elim
  links := by
    intro this other
    rw [steps.sameLinks shaped]
    simp

theorem trans (first : Frees gone before middle)
    (second : Frees more middle after) :
    Frees (fun id => gone id ∨ more id) before after where
  steps := first.steps.trans second.steps
  links := by
    intro this other
    rw [second.links, first.links]
    grind

/-- Only connections that were there count. -/
theorem congr (frees : Frees gone before after) (shaped : Shaped before)
    (same : ∀ id, before.connections.contains id → (gone id ↔ more id)) :
    Frees more before after where
  steps := frees.steps
  links := by
    intro this other
    rw [frees.links]
    constructor
    · rintro ⟨linked, thisStays, otherStays⟩
      rw [same this (contains_of_target linked)] at thisStays
      rw [same other (shaped.far this other linked)] at otherStays
      exact ⟨linked, thisStays, otherStays⟩
    · rintro ⟨linked, thisStays, otherStays⟩
      rw [← same this (contains_of_target linked)] at thisStays
      rw [← same other (shaped.far this other linked)] at otherStays
      exact ⟨linked, thisStays, otherStays⟩

theorem outgrows (frees : Frees gone before after) (shaped : Shaped before) :
    Outgrows before after :=
  frees.steps.outgrows shaped

theorem matched (frees : Frees gone before after) (matched : Matched before) :
    Matched after where
  toShaped := frees.steps.shaped matched.toShaped
  linking := by
    have grows := frees.outgrows matched.toShaped
    constructor
    · intro this other linked
      obtain ⟨earlier, thisStays, otherStays⟩ :=
        (frees.links this other).mp linked
      exact (frees.links other this).mpr
        ⟨matched.linking.back this other earlier, otherStays, thisStays⟩
    · intro this other linked
      obtain ⟨earlier, _, _⟩ := (frees.links this other).mp linked
      have knownThis := contains_of_target earlier
      have knownOther := matched.far this other earlier
      rw [grows.connectionBlock this knownThis,
        grows.connectionBlock other knownOther,
        isOutput_eq_of_key (grows.connectionKey this knownThis),
        isOutput_eq_of_key (grows.connectionKey other knownOther)]
      exact matched.linking.faces this other earlier

end Frees

/-- There is no new link but that of the two connections. -/
structure Joins (this other : ConnectionId) (before after : Editor σ) :
    Prop where
  steps : Steps True before after
  links : ∀ left right, (after.connection left).target = some right →
    (before.connection left).target = some right ∨
      (left = this ∧ right = other ∨ left = other ∧ right = this)

theorem Frees.joins {gone : ConnectionId → Prop} {before after : Editor σ}
    (frees : Frees gone before after) (this other : ConnectionId) :
    Joins this other before after where
  steps := frees.steps
  links := fun left right linked =>
    Or.inl ((frees.links left right).mp linked).1

section Dispose

variable {react : Reaction σ} {editor : Editor σ}
  (stepwise : Stepwise False react)

include stepwise

theorem disconnect_frees (matched : Matched editor) (this : ConnectionId) :
    Ends (disconnect react this) editor (Frees (· = this) editor) := by
  apply leads_disconnect
  · intro isFree
    refine ⟨Steps.refl editor, ?_⟩
    intro left right
    constructor
    · intro linked
      refine ⟨linked, ?_, ?_⟩
      · rintro rfl
        rw [isFree] at linked
        cases linked
      · rintro rfl
        rw [matched.linking.back left right linked] at isFree
        cases isFree
    · exact And.left
  · intro other linked
    have back := matched.linking.back this other linked
    have unlinks : Step True editor (editor.unlink this other) :=
      Step.unlinked True.intro (contains_of_target linked)
        (matched.far this other linked)
    have shaped := unlinks.shaped matched.toShaped
    apply Ends.mono (proceeds_notifyEnds stepwise shaped this other)
    intro after steps
    refine ⟨(Steps.single unlinks).trans (steps.mono False.elim), ?_⟩
    intro left right
    rw [steps.sameLinks shaped, target_unlink]
    constructor
    · intro stays
      split at stays
      · cases stays
      · rename_i untouched
        refine ⟨stays, fun isThis => untouched (Or.inr isThis.symm), ?_⟩
        rintro rfl
        have isOther := matched.linking.back left right stays
        rw [linked] at isOther
        cases isOther
        exact untouched (Or.inl rfl)
    · rintro ⟨stays, notThis, farNotThis⟩
      rw [if_neg]
      · exact stays
      · rintro (isOther | isThis)
        · subst isOther
          rw [back] at stays
          cases stays
          exact farNotThis rfl
        · exact notThis isThis.symm

/-- Rows that were not there at first have connections without links. -/
theorem disconnectRows_frees {block : BlockId} (limit : Nat) :
    ∀ (place : Nat) {editor : Editor σ}, Matched editor →
      editor.blocks.contains block →
      Leads (disconnectRows react block limit place) editor
        (fun _ after => Frees (fun id => some id ∈
          (((editor.block block).rows.map Row.connection).drop place).take
            limit) editor after)
        (fun _ after => ∃ gone, Frees gone editor after) := by
  induction limit with
  | zero =>
      intro place editor matched _
      apply (Frees.of_steps (Steps.refl editor) matched.toShaped).congr
        matched.toShaped
      simp
  | succ limit induction =>
      intro place editor matched known
      simp only [disconnectRows, leads_bind, leads_look]
      split
      · rename_i ended
        apply (Frees.of_steps (Steps.refl editor) matched.toShaped).congr
          matched.toShaped
        rw [List.drop_eq_nil_of_le (by simpa using ended)]
        simp
      · rename_i row isRow
        have listed : ((editor.block block).rows.map Row.connection).drop
            place =
            row.connection ::
              ((editor.block block).rows.map Row.connection).drop
                (place + 1) := by
          rw [← List.map_drop, ← List.map_drop,
            List.drop_eq_getElem?_toList_append, isRow]
          rfl
        rw [listed]
        cases row.connection with
        | none =>
            simp only [Option.forM, leads_bind, leads_pure]
            apply Leads.imp (induction (place + 1) matched known)
            intro _ after frees
            apply frees.congr matched.toShaped
            simp
        | some connection =>
            simp only [Option.forM, leads_bind]
            apply Leads.mono (disconnect_frees stepwise matched connection)
            · intro _ middle first
              obtain ⟨added, rows, new⟩ :=
                first.steps.addsRows matched.toShaped known
              have stillKnown :=
                (first.outgrows matched.toShaped).knownBlock block known
              apply Leads.mono (induction (place + 1) (first.matched matched)
                stillKnown)
              · intro _ after second
                apply (first.trans second).congr matched.toShaped
                intro id knownId
                rw [rows, mem_take_drop_append fun isNew =>
                  new id isNew knownId]
                simp
              · rintro _ after ⟨gone, second⟩
                exact ⟨_, first.trans second⟩
            · intro _ middle first
              exact ⟨_, first⟩

omit stepwise in
theorem blocks_releaseWiring (engine : EngineId) (block : BlockId) :
    Ends (releaseWiring engine block) editor fun after =>
      after.blocks = editor.blocks := by
  refine leads_releaseWiring (fun _ => rfl) fun wiring _ => ?_
  exact leads_disposeWiring wiring _ (fun _ => rfl) fun _ _ =>
    blocks_closeWiring _ wiring

theorem disposeBlock_frees (matched : Matched editor) {block : BlockId}
    (known : editor.blocks.contains block) (limit : Nat) :
    Leads (disposeBlock react limit block) editor
      (fun _ after => Frees (· ∈ (editor.block block).freed limit) editor after)
      (fun _ after => ∃ gone, Frees gone editor after) := by
  have shaped := matched.toShaped
  simp only [disposeBlock, leads_bind, leads_look]
  cases intact : (editor.block block).disposed with
  | true =>
      apply (Frees.of_steps (Steps.refl editor) shaped).congr shaped
      simp [Block.freed, intact]
  | false =>
      simp only [Bool.false_eq_true, if_false, leads_bind, leads_look,
        leads_discard, leads_modify]
      have rows : ∀ (gone : ConnectionId → Prop) current,
          Frees gone editor current →
          (∀ id, (editor.block block).output = some id ↔ gone id) →
          Leads (disconnectRows react block limit 0) current
            (fun _ after => Frees (· ∈ (editor.block block).freed limit) editor
              (after.retireBlock (editor.block block).workspace block))
            (fun _ after => ∃ gone, Frees gone editor after) := by
        intro gone current first isOutput
        have grows := first.outgrows shaped
        have matchedHere := first.matched matched
        obtain ⟨added, rows, new⟩ := first.steps.addsRows shaped known
        apply Leads.mono (disconnectRows_frees stepwise limit 0 matchedHere
          (grows.knownBlock block known))
        · intro _ after second
          have knownAfter :=
            (first.trans second).outgrows shaped |>.knownBlock block known
          have retires : Steps False after
              (after.retireBlock (editor.block block).workspace block) :=
            Steps.steady (steady_retireBlock knownAfter)
          have third := Frees.of_steps retires
            (second.matched matchedHere).toShaped
          apply ((first.trans second).trans third).congr shaped
          intro id knownId
          rw [rows, mem_take_drop_append fun isNew => new id isNew knownId,
            Block.mem_freed_iff intact, isOutput, List.drop_zero, or_false]
        · rintro _ after ⟨more, second⟩
          exact ⟨_, first.trans second⟩
      apply Leads.mono ((proceeds_releaseWiring editor _ block).and
        (blocks_releaseWiring _ block))
      · rintro _ released ⟨releases, sameBlocks⟩
        have begins := Frees.of_steps releases shaped
        have sameBlock : released.block block = editor.block block := by
          unfold Editor.block
          rw [sameBlocks]
        rw [sameBlock]
        cases hasOutput : (editor.block block).output with
        | none =>
            simp only [Option.forM, leads_pure]
            refine rows _ released begins ?_
            intro id
            simp [hasOutput]
        | some connection =>
            simp only [Option.forM]
            apply Leads.mono (disconnect_frees stepwise
              (begins.matched matched) connection)
            · intro _ current parts
              refine rows _ current (begins.trans parts) ?_
              intro id
              rw [hasOutput, Option.some.injEq, false_or]
              exact eq_comm
            · intro _ current parts
              exact ⟨_, begins.trans parts⟩
      · rintro _ after ⟨releases, _⟩
        exact ⟨_, Frees.of_steps releases shaped⟩

theorem connect_joins (matched : Matched editor) {this other : ConnectionId}
    (knownThis : editor.connections.contains this)
    (knownOther : editor.connections.contains other) :
    Ends (connect react this other) editor (Joins this other editor) := by
  have begins := Frees.of_steps (Steps.refl editor) matched.toShaped
  have asked : ∀ caches, Frees (fun _ => False) editor { editor with caches } :=
    fun _ => Frees.of_steps (Steps.aside rfl rfl rfl fun _ => rfl)
      matched.toShaped
  refine leads_connect (begins.joins this other)
    (fun caches _ _ _ _ => (asked caches).joins this other) fun caches _ => ?_
  refine Leads.mono (disconnect_frees stepwise ((asked caches).matched matched)
    this) ?_ fun _ _ first => ((asked caches).trans first).joins this other
  intro _ middle first
  have sofar := (asked caches).trans first
  refine Leads.mono (disconnect_frees stepwise (sofar.matched matched) other) ?_
    fun _ _ second => (sofar.trans second).joins this other
  intro _ parted second
  have frees := sofar.trans second
  have grows := frees.outgrows matched.toShaped
  have joins : Step True parted (parted.link this other) :=
    Step.linked True.intro (grows.knownConnection this knownThis)
      (grows.knownConnection other knownOther)
  have shaped := joins.shaped (frees.matched matched).toShaped
  apply Ends.mono (proceeds_notifyEnds stepwise shaped this other)
  intro after steps
  refine ⟨frees.steps.trans
    ((Steps.single joins).trans (steps.mono False.elim)), ?_⟩
  intro left right linked
  rw [steps.sameLinks shaped, target_link] at linked
  split at linked
  · rename_i isOther
    cases linked
    exact Or.inr (Or.inr ⟨isOther.symm, rfl⟩)
  · split at linked
    · rename_i isThis
      cases linked
      exact Or.inr (Or.inl ⟨isThis.symm, rfl⟩)
    · exact (frees.joins this other).links left right linked

end Dispose

/-- No link ends at a connection of the block. -/
def Detached (editor : Editor σ) (block : BlockId) : Prop :=
  ∀ this other, (editor.connection this).target = some other →
    (editor.connection other).block ≠ block

end Editor

/-- A connection of the block is asked to be linked. -/
def HostOperation.LinksTo {σ : Type} (block : BlockId) (editor : Editor σ) :
    HostOperation → Prop
  | .connect this other =>
      (editor.connection this).block = block ∨
        (editor.connection other).block = block
  | _ => False

instance HostOperation.decidableLinksTo {σ : Type} (block : BlockId)
    (editor : Editor σ) :
    (operation : HostOperation) → Decidable (operation.LinksTo block editor)
  | .connect this other =>
      inferInstanceAs (Decidable ((editor.connection this).block = block ∨
        (editor.connection other).block = block))
  | .newBlock .. | .removeBlock .. | .setOutput .. | .appendInput ..
  | .appendDummyInput ..
  | .newField .. | .appendField .. | .createVariable .. | .initBlock ..
  | .wire ..
  | .releaseWiring .. | .disposeWiring .. | .disposeBlock .. | .disconnect ..
  | .setValue ..
  | .setTypes .. | .listen .. | .unlisten .. => isFalse id

namespace Editor

variable {σ : Type}

section Later

variable {react : Reaction σ} {editor : Editor σ} {block : BlockId}

/-- One operation keeps a block detached unless it links it. -/
theorem Detached.perform (detached : editor.Detached block)
    (stepwise : Stepwise False react) (matched : Matched editor)
    {workspace : WorkspaceId} {operation : HostOperation} (limit : Nat)
    (refers : operation.Refers workspace editor)
    (spares : ¬ operation.LinksTo block editor) :
    Ends (operation.perform react limit workspace) editor fun after =>
      after.Detached block := by
  have kept : ∀ after, Outgrows editor after →
      (∀ this other, (after.connection this).target = some other →
        editor.connections.contains other ∧
          (editor.connection other).block ≠ block) →
      after.Detached block := by
    intro after grows ends this other linked
    obtain ⟨known, elsewhere⟩ := ends this other linked
    rwa [grows.connectionBlock other known]
  have fewer : ∀ gone after, Frees gone editor after →
      after.Detached block := by
    intro gone after frees
    apply kept after (frees.outgrows matched.toShaped)
    intro this other linked
    have earlier := ((frees.links this other).mp linked).1
    exact ⟨matched.far this other earlier, detached this other earlier⟩
  by_cases relinks : operation.Relinks
  · cases operation with
    | connect this other =>
        apply Ends.mono (connect_joins stepwise matched refers.1 refers.2)
        intro after joins
        apply kept after (joins.steps.outgrows matched.toShaped)
        intro left right linked
        rcases joins.links left right linked with earlier | ⟨_, rfl⟩ | ⟨_, rfl⟩
        · exact ⟨matched.far left right earlier, detached left right earlier⟩
        · exact ⟨refers.2, fun here => spares (Or.inr here)⟩
        · exact ⟨refers.1, fun here => spares (Or.inl here)⟩
    | disconnect connection =>
        exact Ends.mono (disconnect_frees stepwise matched connection) (fewer _)
    | disposeBlock other =>
        apply Leads.mono (disposeBlock_frees stepwise matched refers limit)
        · exact fun _ => fewer _
        · exact fun _ after ⟨gone, frees⟩ => fewer gone after frees
    | _ => exact relinks.elim
  · apply Ends.mono (HostOperation.proceeds_perform relinks stepwise
      matched.toShaped limit refers)
    intro after steps
    exact fewer _ after (Frees.of_steps steps matched.toShaped)

theorem Detached.performAll {outside : Callbacks σ}
    (handsOff : HandsOff outside) (limit : Nat) (workspace : WorkspaceId)
    (operations : List HostOperation) (matched : Matched editor)
    (detached : editor.Detached block) (admitted : AllAdmitted outside
      (fun current operation _ _ => ¬ operation.LinksTo block current) limit
        workspace operations editor) :
    (performAll outside limit workspace operations editor).Detached block := by
  have stepwise := stepwise_reaction handsOff limit
  refine (HostOperation.keeps_performAll
    (fun current => Matched current ∧ current.Detached block)
    ?_ operations ⟨matched, detached⟩ admitted).2
  rintro before operation outcome after refers run spares ⟨matched, detached⟩
  exact ⟨(perform_matched stepwise matched limit refers).holds run,
    (detached.perform stepwise matched limit refers spares).holds run⟩

end Later

theorem Shaped.block_of_listed {editor : Editor σ} (shaped : Shaped editor)
    {block : BlockId} {connection : ConnectionId}
    (listed : connection ∈ (editor.block block).connections) :
    (editor.connection connection).block = block := by
  rcases List.mem_append.mp listed with isOutput | inRow
  · exact (shaped.arranged.output block connection
      (Option.mem_toList.mp isOutput)).2.1
  · obtain ⟨row, member, has⟩ := List.mem_filterMap.mp inRow
    exact (shaped.arranged.row block row connection member has).2.1

/-- A block that was taken apart is detached exactly if none of its connections
was linked but those it lists.  It then stays detached as long as nobody links
it again, whatever else a host does. -/
theorem disposal_detaches {outside : Callbacks σ} (handsOff : HandsOff outside)
    {editor : Editor σ} (built : Built outside editor) {block : BlockId}
    (known : editor.blocks.contains block)
    (intact : (editor.block block).disposed = false) {limit : Nat}
    (enough : (editor.block block).rows.length ≤ limit) {after : Editor σ}
    (run : disposeBlock (reaction outside limit) limit block editor =
      (.ok (), after)) :
    (after.Detached block ↔
      ∀ connection, (editor.connection connection).block = block →
        (editor.connection connection).target ≠ none →
          connection ∈ (editor.block block).connections) ∧
    (after.Detached block →
      ∀ limit workspace operations,
        AllAdmitted outside
          (fun current operation _ _ => ¬ operation.LinksTo block current)
          limit workspace operations after →
          (performAll outside limit workspace operations after).Detached
            block) := by
  have matched := built.matched handsOff
  have frees :=
    (disposeBlock_frees (stepwise_reaction handsOff limit) matched known
    limit).returns run
  rw [Block.freed_eq_connections intact enough] at frees
  have grows := frees.outgrows matched.toShaped
  refine ⟨⟨?_, ?_⟩, ?_⟩
  · intro detached connection isOwn linked
    obtain ⟨far, isFar⟩ := Option.ne_none_iff_exists'.mp linked
    apply Classical.byContradiction
    intro unlisted
    have back := matched.linking.back connection far isFar
    have farStays : far ∉ (editor.block block).connections := by
      intro farListed
      have farBlock := matched.block_of_listed farListed
      exact (matched.linking.faces connection far isFar).1
        (isOwn.trans farBlock.symm)
    have stays := (frees.links far connection).mpr ⟨back, farStays, unlisted⟩
    apply detached far connection stays
    rw [grows.connectionBlock connection (contains_of_target isFar), isOwn]
  · intro listed this other linked isOwn
    obtain ⟨earlier, _, unlisted⟩ := (frees.links this other).mp linked
    rw [grows.connectionBlock other (matched.far this other earlier)] at isOwn
    apply unlisted (listed other isOwn _)
    rw [matched.linking.back this other earlier]
    exact Option.some_ne_none this
  · intro detached later workspace operations admitted
    exact Detached.performAll handsOff later workspace operations
      (frees.matched matched) detached admitted

/-- A block between two others, whose output was replaced before it was linked.
-/
def relayedBlock : List HostOperation :=
  [.newBlock "source" (some "A") [], .setOutput ⟨0⟩ none,
    .newBlock "relay" (some "B") [], .appendInput ⟨1⟩ "IN" none,
    .setOutput ⟨1⟩ none, .setOutput ⟨1⟩ none, .newBlock "sink" (some "C") [],
    .appendInput ⟨2⟩ "IN" none, .connect ⟨0⟩ ⟨1⟩, .connect ⟨3⟩ ⟨4⟩]

/-- The block is detached for good while its neighbours are linked to each
other. -/
theorem disposal_detaches_relayedBlock :
    ∃ editor after : Editor Unit, Built idle editor ∧
      (editor.connection ⟨0⟩).target = some ⟨1⟩ ∧
      (editor.connection ⟨4⟩).target = some ⟨3⟩ ∧
      disposeBlock (reaction idle 20) 20 ⟨1⟩ editor = (.ok (), after) ∧
      after.Detached ⟨1⟩ ∧
      (performAll idle 20 ⟨0⟩ [.connect ⟨0⟩ ⟨4⟩, .setOutput ⟨1⟩ none]
        after).Detached ⟨1⟩ ∧
      ((performAll idle 20 ⟨0⟩ [.connect ⟨0⟩ ⟨4⟩, .setOutput ⟨1⟩ none]
        after).connection ⟨0⟩).target = some ⟨4⟩ := by
  have reached : Reached idle (fun _ _ _ _ => True) {} ⟨0⟩
      (performAll idle 20 ⟨0⟩ relayedBlock freshWorkspace) :=
    reached_freshWorkspace.performAll 20 relayedBlock (by decide +kernel)
  generalize isEditor : performAll idle 20 ⟨0⟩ relayedBlock freshWorkspace =
    editor at reached
  have returns : (disposeBlock (reaction idle 20) 20 ⟨1⟩ editor).1 =
      .ok () := by
    rw [← isEditor]
    decide +kernel
  have listed : ∀ connection ∈ editor.connections.keys,
      (editor.connection connection).block = ⟨1⟩ →
        (editor.connection connection).target ≠ none →
        connection ∈ (editor.block ⟨1⟩).connections := by
    rw [← isEditor]
    decide +kernel
  have known : editor.blocks.contains ⟨1⟩ ∧
      (editor.block ⟨1⟩).disposed = false ∧
      (editor.block ⟨1⟩).rows.length ≤ 20 := by
    rw [← isEditor]
    decide +kernel
  have handsOff : HandsOff (idle : Callbacks Unit) :=
    fun _ current _ => Steps.refl current
  obtain ⟨criterion, lasts⟩ := disposal_detaches handsOff reached.built known.1
    known.2.1 known.2.2 (eq_of_outcome returns)
  have detached := criterion.mpr fun connection isOwn linked => by
    obtain ⟨far, isFar⟩ := Option.ne_none_iff_exists'.mp linked
    exact listed connection
      ((OrderedMap.mem_keys_iff _ _).mpr (contains_of_target isFar)) isOwn
      linked
  refine ⟨editor, _, reached.built, ?_, ?_, eq_of_outcome returns, detached,
    lasts detached 20 ⟨0⟩ _ ?_, ?_⟩
  all_goals
    rw [← isEditor]
    decide +kernel

/-- An output that is linked, with another one set in its place. -/
def replacedOutput : List HostOperation :=
  [.newBlock "source" (some "A") [], .setOutput ⟨0⟩ none,
    .newBlock "sink" (some "B") [], .appendInput ⟨1⟩ "IN" none,
    .connect ⟨0⟩ ⟨1⟩, .setOutput ⟨0⟩ none]

/-- The input stays linked to the replaced output of a block that was taken
apart. -/
theorem replacedOutput_stays_linked :
    ∃ editor after : Editor Unit, Built idle editor ∧
      editor.blocks.contains ⟨0⟩ ∧
      (editor.block ⟨0⟩).disposed = false ∧
      disposeBlock (reaction idle 20) 20 ⟨0⟩ editor = (.ok (), after) ∧
      (after.connection ⟨1⟩).target = some ⟨0⟩ ∧
      (after.connection ⟨0⟩).block = ⟨0⟩ ∧
      (after.connection ⟨1⟩).block = ⟨1⟩ := by
  have reached : Reached idle (fun _ _ _ _ => True) {} ⟨0⟩
      (performAll idle 20 ⟨0⟩ replacedOutput freshWorkspace) :=
    reached_freshWorkspace.performAll 20 replacedOutput (by decide +kernel)
  generalize isEditor : performAll idle 20 ⟨0⟩ replacedOutput freshWorkspace =
    editor at reached
  have returns : (disposeBlock (reaction idle 20) 20 ⟨0⟩ editor).1 =
      .ok () := by
    rw [← isEditor]
    decide +kernel
  refine ⟨editor, _, reached.built, ?_, ?_, eq_of_outcome returns, ?_, ?_, ?_⟩
  all_goals
    rw [← isEditor]
    decide +kernel

end Editor

end TypeFlow
