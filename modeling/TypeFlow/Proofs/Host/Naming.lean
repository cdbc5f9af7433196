import TypeFlow.Proofs.Host.Layout

/-!
# Names of slots

On one block an output, an input and a field never share a key: inputs have
different names, and so have fields.  Names are given once, so that changes
have to be examined only where a block gets a new slot.
-/

namespace TypeFlow

/-- No row before one with a connection has its name. -/
def Block.InputsFound (block : Block) : Prop :=
  block.rows.Pairwise fun row later => later.connection ≠ none →
    row.name ≠ later.name

namespace Editor

variable {σ : Type} {entry : Block} {row : Row} {place : Nat} {block : BlockId}

/-- The slots of a block go by the names under which they were made. -/
structure NamedBlock (editor : Editor σ) (entry : Block) : Prop where
  output : ∀ connection, entry.output = some connection →
    (editor.connection connection).key.name = "output"
  row : ∀ row connection, row ∈ entry.rows → row.connection = some connection →
    (editor.connection connection).key.name = row.name
  inputs : entry.InputsFound
  fields : (entry.fields.map fun field => (editor.field field).name).Nodup

def Naming (editor : Editor σ) : Prop :=
  ∀ id, editor.NamedBlock (editor.block id)

section Keep

variable {before after editor : Editor σ}

/-- Names stay with the slots, so a block whose slots stay keeps its names. -/
theorem NamedBlock.outgrow (outgrows : Outgrows before after)
    (arranged : Arranged before) {id : BlockId}
    (named : before.NamedBlock (before.block id))
    (sameOutput : entry.output = (before.block id).output)
    (sameRows : entry.rows = (before.block id).rows) :
    after.NamedBlock entry where
  output := by
    intro connection has
    rw [sameOutput] at has
    rw [outgrows.connectionKey connection (arranged.output id connection has).1]
    exact named.output connection has
  row := by
    intro row connection member has
    rw [sameRows] at member
    rw [outgrows.connectionKey connection
      (arranged.row id row connection member has).1]
    exact named.row row connection member has
  inputs := by
    unfold Block.InputsFound
    rw [sameRows]
    exact named.inputs
  fields := by
    have sameFields : entry.fields = (before.block id).fields := by
      unfold Block.fields
      rw [sameRows]
    have sameNames : entry.fields.map (fun field => (after.field field).name) =
        (before.block id).fields.map fun field =>
          (before.field field).name := by
      rw [sameFields]
      refine List.map_congr_left ?_
      intro field member
      exact outgrows.fieldName field (arranged.rowField id field member).1
    rw [sameNames]
    exact named.fields

/-- All blocks but one keep their slots. -/
theorem Naming.update (naming : before.Naming) (arranged : Arranged before)
    (outgrows : Outgrows before after) (block : BlockId)
    (others : ∀ id, id ≠ block → after.block id = before.block id)
    (here : after.NamedBlock (after.block block)) : after.Naming := by
  intro id
  by_cases same : id = block
  · rw [same]
    exact here
  · rw [others id same]
    exact (naming id).outgrow outgrows arranged rfl rfl

theorem Naming.keep (naming : before.Naming) (arranged : Arranged before)
    (outgrows : Outgrows before after)
    (same : ∀ id, (after.block id).bare = (before.block id).bare) :
    after.Naming := by
  intro id
  exact (naming id).outgrow outgrows arranged
    (congrArg Block.output (same id) :) (congrArg Block.rows (same id) :)

theorem NamedBlock.empty (editor : Editor σ) (noOutput : entry.output = none)
    (noRows : entry.rows = []) : editor.NamedBlock entry where
  output := by
    intro connection has
    rw [noOutput] at has
    cases has
  row := by
    intro row connection member
    rw [noRows] at member
    cases member
  inputs := by
    unfold Block.InputsFound
    rw [noRows]
    exact List.Pairwise.nil
  fields := by
    unfold Block.fields
    rw [noRows]
    exact List.nodup_nil

theorem NamedBlock.setOutput (named : editor.NamedBlock entry)
    {connection : ConnectionId}
    (isOutput : (editor.connection connection).key.name = "output") :
    editor.NamedBlock { entry with output := some connection } :=
  { named with
    output := by
      intro other has
      cases has
      exact isOutput }

theorem fields_append (entry : Block) (noFields : row.fields = []) :
    Block.fields { entry with rows := entry.rows ++ [row] } = entry.fields := by
  simp [Block.fields, noFields]

/-- A new row fits when its name is free or it has no connection. -/
theorem NamedBlock.appendRow (named : editor.NamedBlock entry)
    (fits : ∀ connection, row.connection = some connection →
      (editor.connection connection).key.name = row.name ∧
        entry.row? row.name = none)
    (noFields : row.fields = []) :
    editor.NamedBlock { entry with rows := entry.rows ++ [row] } where
  output := named.output
  row := by
    intro other connection member has
    rcases List.mem_append.mp member with earlier | isRow
    · exact named.row other connection earlier has
    · rw [List.mem_singleton] at isRow
      subst isRow
      exact (fits connection has).1
  inputs := by
    refine List.pairwise_append.mpr ⟨named.inputs,
      List.pairwise_singleton _ _, ?_⟩
    intro earlier isEarlier later isRow has
    cases List.mem_singleton.mp isRow
    obtain ⟨connection, isConnection⟩ := Option.ne_none_iff_exists'.mp has
    have free := (fits connection isConnection).2
    unfold Block.row? at free
    simpa using List.find?_eq_none.mp free earlier isEarlier
  fields := by
    rw [fields_append entry noFields]
    exact named.fields

/-- An input is the first row of its name. -/
theorem NamedBlock.row?_of_connection (named : editor.NamedBlock entry)
    (member : row ∈ entry.rows) (has : row.connection ≠ none) :
    entry.row? row.name = some row := by
  obtain ⟨earlier, later, isRows⟩ := List.append_of_mem member
  have found := named.inputs
  unfold Block.InputsFound at found
  rw [isRows, List.pairwise_append] at found
  have others : ∀ other ∈ earlier, ¬ other.name = row.name :=
    fun other isEarlier => found.2.2 other isEarlier row List.mem_cons_self has
  rw [Block.row?, isRows, List.find?_append,
    List.find?_eq_none.mpr (by simpa using others)]
  simp

theorem inputsFound_modify (found : entry.InputsFound) (place : Nat)
    (field : FieldId) :
    Block.InputsFound { entry with
      rows := entry.rows.modify place fun row => { row with
          fields := row.fields ++ [field] } } := by
  unfold Block.InputsFound at found ⊢
  dsimp only
  generalize entry.rows = rows at found ⊢
  induction rows generalizing place with
  | nil => simp
  | cons row rest induction =>
      obtain ⟨here, later⟩ := List.pairwise_cons.mp found
      cases place with
      | zero => exact List.pairwise_cons.mpr ⟨here, later⟩
      | succ place =>
          refine List.pairwise_cons.mpr ⟨?_, induction place later⟩
          intro other member
          rcases mem_modify member with earlier | ⟨old, earlier, rfl⟩
          · exact here other earlier
          · exact here old earlier

/-- Appending a field to a row adds it to the fields of the block. -/
theorem fields_modify_perm (entry : Block) (field : FieldId)
    (inRange : place < entry.rows.length) :
    (Block.fields { entry with
      rows := entry.rows.modify place fun row => { row with
        fields := row.fields ++ [field] }
      }).Perm (field :: entry.fields) := by
  unfold Block.fields
  dsimp only
  generalize entry.rows = rows at inRange ⊢
  induction rows generalizing place with
  | nil => simp at inRange
  | cons row rest induction =>
      cases place with
      | zero =>
          simp only [List.modify_zero_cons, List.flatMap_cons,
            List.append_assoc]
          exact List.perm_middle
      | succ place =>
          simp only [List.modify_succ_cons, List.flatMap_cons]
          have later :=
            (induction (by simpa using inRange)).append_left row.fields
          exact later.trans List.perm_middle

theorem NamedBlock.appendField (named : editor.NamedBlock entry)
    (inRange : place < entry.rows.length) {field : FieldId}
    (free : ∀ other ∈ entry.fields, (editor.field other).name ≠
      (editor.field field).name) :
    editor.NamedBlock { entry with
      rows := entry.rows.modify place fun row =>
        { row with fields := row.fields ++ [field] } } where
  output := named.output
  row := by
    intro row connection member has
    rcases mem_modify member with earlier | ⟨old, earlier, changed⟩
    · exact named.row row connection earlier has
    · subst changed
      exact named.row old connection earlier has
  inputs := inputsFound_modify named.inputs place field
  fields := by
    have names := (fields_modify_perm entry field inRange).map fun field =>
      (editor.field field).name
    refine names.nodup_iff.mpr (List.nodup_cons.mpr ⟨?_, named.fields⟩)
    intro taken
    obtain ⟨other, member, sameName⟩ := List.mem_map.mp taken
    exact free other member sameName

end Keep

section Changes

variable {workspace : WorkspaceId} {editor : Editor σ} (naming : editor.Naming)
  (arranged : Arranged editor)

include naming arranged

theorem Naming.blockMade {type id : String} {extensions : List String}
    (outgrows : Outgrows editor
      (editor.addBlock { workspace, type, id, extensions })) :
    Naming (editor.addBlock { workspace, type, id, extensions }) := by
  refine naming.update arranged outgrows ⟨editor.blocks.size⟩ ?_ ?_
  · intro other differs
    rw [block_addBlock, if_neg (Ne.symm differs)]
  · rw [block_addBlock, if_pos rfl]
    exact NamedBlock.empty _ rfl rfl

/-- A change of one block, after which its slots are known under their names. -/
theorem Naming.updateBlock {middle : Editor σ} {change : Block → Block}
    (outgrows : Outgrows editor (middle.updateBlock block change))
    (sameBlocks : middle.blocks = editor.blocks)
    (here : NamedBlock (middle.updateBlock block change)
      (change (editor.block block))) :
    Naming (middle.updateBlock block change) := by
  have sameBlock : ∀ id, middle.block id = editor.block id := by
    intro id
    unfold Editor.block
    rw [sameBlocks]
  refine naming.update arranged outgrows block ?_ ?_
  · intro id differs
    rw [block_updateBlock, if_neg (Ne.symm differs), sameBlock]
  · rw [block_updateBlock, if_pos rfl, sameBlock]
    exact here

theorem Naming.outputMade {check : Check} (outgrows : Outgrows editor
      ((editor.withConnection block .output "output" check).updateBlock
        block fun entry =>
          { entry with output := some editor.nextConnection })) :
    Naming ((editor.withConnection block .output "output" check).updateBlock
      block fun entry =>
        { entry with output := some editor.nextConnection }) := by
  refine naming.updateBlock arranged outgrows rfl
    (((naming block).outgrow outgrows arranged rfl rfl).setOutput ?_)
  change ((editor.withConnection block .output "output" check).connection
    editor.nextConnection).key.name = "output"
  rw [connection_withConnection, if_pos rfl]

theorem Naming.inputMade {name : String} {check : Check}
    (outgrows : Outgrows editor
      ((editor.withConnection block .input name check).appendRow block
        { name, connection := some editor.nextConnection }))
    (free : (editor.block block).row? name = none) :
    Naming ((editor.withConnection block .input name check).appendRow block
      { name, connection := some editor.nextConnection }) := by
  refine naming.updateBlock arranged outgrows rfl
    (((naming block).outgrow outgrows arranged rfl rfl).appendRow ?_ rfl)
  intro connection isNext
  cases isNext
  refine ⟨?_, free⟩
  change ((editor.withConnection block .input name check).connection
    editor.nextConnection).key.name = name
  rw [connection_withConnection, if_pos rfl]

theorem Naming.dummyMade {name : String}
    (outgrows : Outgrows editor (editor.appendRow block { name })) :
    Naming (editor.appendRow block { name }) := by
  refine naming.updateBlock arranged outgrows rfl
    (((naming block).outgrow outgrows arranged rfl rfl).appendRow ?_ rfl)
  intro connection impossible
  cases impossible

theorem Naming.fieldAttached {field : FieldId}
    (outgrows : Outgrows editor (editor.attachField block place field))
    (inRange : place < (editor.block block).rows.length)
    (free : editor.findField? block (editor.field field).name = none) :
    Naming (editor.attachField block place field) := by
  let attached := editor.updateField field fun entry => { entry with
      block := some block }
  have nameOf : ∀ other, (attached.field other).name =
      (editor.field other).name :=
    fun _ => OrderedMap.read_getD_insert Field.name rfl
  refine naming.updateBlock arranged outgrows rfl
    (((naming block).outgrow outgrows arranged rfl rfl).appendField inRange ?_)
  intro other member
  change (attached.field other).name ≠ (attached.field field).name
  rw [nameOf, nameOf]
  unfold findField? at free
  rw [List.find?_eq_none] at free
  simpa using free other member

end Changes

end Editor

end TypeFlow
