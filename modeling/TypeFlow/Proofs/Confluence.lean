import TypeFlow.Proofs.Coherence
import TypeFlow.Proofs.Plugging

/-!
# Confluence

Two hosts that do their work in whatever order end with the same checks if
they end with the same bindings, links, values and free checks.  Coherence
fixes the check of each target by what its sources provide, and going up the
links from block to block comes to an end.  Slots are compared by their keys.
-/

namespace TypeFlow.Editor

open HostOperation (performAll)

open OrderedMap (contains_insert mem_keys_iff)

variable {σ : Type} {settings : Settings} {workspace : WorkspaceId}
  {editor : Editor σ} {key : SlotKey} {binding : Binding}

/-- There are no variable fields, and every output is the output of its block.
-/
structure Strict (editor : Editor σ) : Prop where
  noReferences : ∀ field, (editor.field field).kind.bare ≠ .reference none
  output : ∀ connection, editor.connections.contains connection →
    (editor.connection connection).isOutput = true →
      (editor.block (editor.connection connection).block).output =
        some connection

section Strict

variable {engine : EngineId} {pending pending' : Option WiringId}
  {before after : Editor σ}

/-- What is there stays as it is, so only new fields, new connections and the
outputs of blocks have to be examined. -/
theorem Strict.outgrow (strict : before.Strict)
    (outgrows : Outgrows before after)
    (fields : ∀ id, after.fields.contains id → ¬ before.fields.contains id →
      (after.field id).kind.bare ≠ .reference none)
    (connections : ∀ id, after.connections.contains id →
      ¬ before.connections.contains id →
      (after.connection id).isOutput = true →
        (after.block (after.connection id).block).output = some id)
    (outputs : ∀ id connection, (before.block id).output = some connection →
      (after.block id).output = some connection) : after.Strict where
  noReferences := by
    intro field
    by_cases known : before.fields.contains field
    · rw [outgrows.fieldKind field known]
      exact strict.noReferences field
    · by_cases knownAfter : after.fields.contains field
      · exact fields field knownAfter known
      · unfold Editor.field
        rw [OrderedMap.getD_of_not_contains knownAfter]
        simp [default, FieldKind.bare]
  output := by
    intro connection knownAfter isOutput
    by_cases known : before.connections.contains connection
    · rw [isOutput_eq_of_key (outgrows.connectionKey connection known)]
        at isOutput
      rw [outgrows.connectionBlock connection known]
      exact outputs _ connection (strict.output connection known isOutput)
    · exact connections connection knownAfter known isOutput

theorem Strict.same (strict : before.Strict) (outgrows : Outgrows before after)
    (same : SameLayout before after) : after.Strict := by
  refine strict.outgrow outgrows ?_ ?_ ?_
  · intro id knownAfter unknown
    exact absurd ((same.knownField id).mp knownAfter) unknown
  · intro id knownAfter unknown
    exact absurd ((same.knownConnection id).mp knownAfter) unknown
  · intro id connection has
    exact ((congrArg Block.output (same.block id) :) :
      (after.block id).output = _).trans has

/-- A block gets a connection, which is its output if it is an output. -/
theorem Strict.withConnection (strict : editor.Strict)
    {block : BlockId} {kind : SlotKind} {name : String} {check : Check}
    {change : Block → Block} (outgrows : Outgrows editor
      ((editor.withConnection block kind name check).updateBlock block change))
    (isNew : kind = .output →
      (change (editor.block block)).output = some editor.nextConnection)
    (stays : ∀ connection, (editor.block block).output = some connection →
      (change (editor.block block)).output = some connection) :
    ((editor.withConnection block kind name check).updateBlock block
      change).Strict := by
  refine strict.outgrow outgrows
    (fun _ known unknown => absurd known unknown) ?_ ?_
  · intro id knownAfter unknown isOutput
    have isNext : editor.nextConnection = id := by
      rcases (contains_insert _ _ _ _).mp knownAfter with isNext | known
      · exact isNext
      · exact absurd known unknown
    subst isNext
    change ((editor.withConnection block kind name check).connection
      editor.nextConnection).isOutput = true at isOutput
    change (((editor.withConnection block kind name check).updateBlock
      block change).block
      ((editor.withConnection block kind name check).connection
        editor.nextConnection).block).output = _
    rw [connection_withConnection, if_pos rfl] at isOutput ⊢
    rw [block_updateBlock, if_pos rfl]
    exact isNew (by simpa [Connection.isOutput] using isOutput)
  · intro id connection has
    rw [block_updateBlock]
    split
    · rename_i same
      subst same
      exact stays connection has
    · exact has

theorem Change.strict {liberties : Liberties} (fixed : ¬ liberties.replaces)
    (unreferring : ¬ liberties.refers)
    (change : Change liberties workspace engine pending before pending' after)
    (sound : Sound settings workspace engine pending before)
    (strict : before.Strict) :
    after.Strict := by
  have outgrows := change.outgrows sound.tables
  cases change with
  | steady steady => exact strict.same outgrows steady.sameLayout
  | blockMade type id extensions =>
      refine strict.outgrow outgrows
        (fun _ known unknown => absurd known unknown)
        (fun _ known unknown => absurd known unknown) ?_
      intro block connection has
      rw [sound.tables.block_addBlock (contains_of_output has)]
      exact has
  | @outputMade _ block check known free =>
      refine strict.withConnection outgrows (fun _ => rfl) ?_
      intro connection has
      rw [free.resolve_left fixed] at has
      cases has
  | inputMade check known free =>
      exact strict.withConnection outgrows (by simp) (fun _ has => has)
  | @dummyMade _ block name known =>
      refine strict.outgrow outgrows
        (fun _ known unknown => absurd known unknown)
        (fun _ known unknown => absurd known unknown) ?_
      intro id connection has
      unfold appendRow
      rw [block_updateBlock]
      split
      · rename_i same
        subst same
        exact has
      · exact has
  | @fieldMade _ entry detached refers =>
      refine strict.outgrow outgrows ?_
        (fun _ known unknown => absurd known unknown) (fun _ _ has => has)
      intro id knownAfter unknown
      have isNext : ⟨before.fields.size⟩ = id := by
        rcases (contains_insert _ _ _ _).mp knownAfter with isNext | known
        · exact isNext
        · exact absurd known unknown
      rw [field_addField, if_pos isNext]
      intro isReference
      obtain ⟨types, hasTypes⟩ := FieldKind.bare_eq_reference.mp isReference
      exact refers.resolve_left unreferring types hasTypes
  | @fieldAttached _ block place field knownBlock inRange
    knownField free moves =>
      refine strict.outgrow outgrows ?_
        (fun _ known unknown => absurd known unknown) ?_
      · intro id knownAfter unknown
        rcases (contains_insert _ _ _ _).mp knownAfter with isField | known
        · subst isField
          exact absurd knownField unknown
        · exact absurd known unknown
      · intro id connection has
        rw [block_updateBlock]
        split
        · rename_i same
          subst same
          exact has
        · exact has
  | valueSet value known =>
      exact strict.same outgrows (sameLayout_setValue known value)
  | unlinked linked =>
      exact strict.same outgrows
        (sameLayout_setTargets (contains_of_target linked)
        (contains_of_target (sound.linking.back _ _ linked)) _ _)
  | linked knownThis knownOther freeThis freeOther fits =>
      exact strict.same outgrows
        (sameLayout_setTargets knownThis knownOther _ _)
  | variableMade drawn made =>
      exact strict.same outgrows (SameLayout.of_tables rfl rfl rfl)
  | begun mode known isIdle =>
      exact strict.same outgrows (SameLayout.of_tables rfl rfl rfl)
  | assembled offered step =>
      cases step with
      | ripple rippled => exact strict.same outgrows rippled.toSteady.sameLayout
      | bind => exact strict.same outgrows (SameLayout.of_tables rfl rfl rfl)
      | listen => exact strict.same outgrows (SameLayout.of_tables rfl rfl rfl)
  | recorded attends =>
      exact strict.same outgrows (SameLayout.of_tables rfl rfl rfl)
  | dropped nothing => exact strict
  | forgotten found =>
      exact strict.same outgrows (SameLayout.of_tables rfl rfl rfl)
  | closed mine known isOpen =>
      exact strict.same outgrows
        (SameLayout.of_tables (by simp) (by simp) (by simp))
  | listened key callback listens =>
      exact strict.same outgrows (SameLayout.of_tables rfl rfl rfl)
  | unlistened listens found isCallback =>
      exact strict.same outgrows (SameLayout.of_tables rfl rfl rfl)

theorem Course.strict {liberties : Liberties}
    {start finish : Option WiringId × Editor σ} (fixed : ¬ liberties.replaces)
    (unreferring : ¬ liberties.refers)
    (course : Course liberties workspace engine start finish)
    (sound : Sound settings workspace engine start.1 start.2)
    (strict : start.2.Strict) :
    finish.2.Strict :=
  course.keeps (fun _ => Strict) (Change.strict fixed unreferring) sound strict

theorem Blank.strict (blank : Blank engine editor) : editor.Strict where
  noReferences := by
    intro field
    unfold Editor.field
    rw [blank.fields]
    simp [OrderedMap.getD, default, FieldKind.bare]
  output := by
    intro connection known
    rw [blank.connections] at known
    cases known

theorem Strict.soleReferences (strict : editor.Strict) :
    editor.SoleReferences := by
  intro left right place isLeft
  exact absurd isLeft (strict.noReferences left)

end Strict

/-- An operation of a strict host, with its outcome. -/
structure Strictly (before : Editor σ) (operation : HostOperation)
    (outcome : Except Fault Unit) (after : Editor σ) : Prop where
  returned : outcome = .ok ()
  within : operation.Within Liberties.strict before
  spares : operation.Spares before after

theorem within_plain_of_strict {operation : HostOperation}
    (within : operation.Within Liberties.strict editor) :
    operation.Within Liberties.plain editor := by
  cases operation with
  | setOutput block check => exact Or.inl True.intro
  | newField name kind value => exact Or.inl True.intro
  | _ => exact within

/-- Strict hosts are orderly. -/
theorem Reached.orderly
    (reached : Reached idle Strictly settings workspace editor) :
    Reached idle Orderly settings workspace editor ∧ editor.Strict := by
  induction reached with
  | opened run =>
      exact ⟨Reached.opened run, (blank_openWorkspace.returns run).1.strict⟩
  | @performed before after operation limit outcome _ refers run
    strictly induction =>
      obtain ⟨reached, strict⟩ := induction
      have sound := reached.sound keepsOut_idle
      have course := sound.course_of_run keepsOut_idle refers
        strictly.within run
      have strictAfter := course.strict id id sound strict
      exact ⟨Reached.performed reached refers run ⟨strictly.returned,
        within_plain_of_strict strictly.within, strictly.spares,
        strictAfter.soleReferences⟩,
        strictAfter⟩

/-- The bindings of all open wirings, by the keys of their targets. -/
def liveBindings (editor : Editor σ) : List (SlotKey × Binding) :=
  editor.wirings.keys.flatMap fun wiring =>
    if (editor.wiring wiring).disposed then []
    else (editor.wiring wiring).bindings.keys.filterMap fun key =>
      ((editor.wiring wiring).bindings.get? key).map (key, ·)

def liveKeys (editor : Editor σ) : List SlotKey :=
  editor.liveBindings.map Prod.fst

theorem mem_liveBindings :
    (key, binding) ∈ editor.liveBindings ↔
      ∃ wiring, editor.OpenBinding wiring key binding := by
  unfold liveBindings
  simp only [List.mem_flatMap]
  constructor
  · rintro ⟨wiring, _, member⟩
    split at member
    · cases member
    · rename_i undisposed
      obtain ⟨found, _, isFound⟩ := List.mem_filterMap.mp member
      obtain ⟨value, hasValue, isEntry⟩ := Option.map_eq_some_iff.mp isFound
      cases isEntry
      exact ⟨wiring, by simpa using undisposed, hasValue⟩
  · rintro ⟨wiring, isOpen⟩
    refine ⟨wiring, (mem_keys_iff _ _).mpr (contains_of_openBinding isOpen), ?_⟩
    rw [if_neg (by simp [isOpen.1])]
    refine List.mem_filterMap.mpr ⟨key, ?_, by simp [isOpen.2]⟩
    exact (mem_keys_iff _ _).mpr (OrderedMap.contains_of_get? isOpen.2)

theorem mem_liveKeys : key ∈ editor.liveKeys ↔
    ∃ binding, (key, binding) ∈ editor.liveBindings := by
  simp [liveKeys]

/-- The same bindings with the same sources, the same links, the same fields and
values, and the same checks but for those that bindings write. -/
structure Alike (left right : Editor σ) : Prop where
  bound : left.liveKeys ⊆ right.liveKeys
  bound' : right.liveKeys ⊆ left.liveKeys
  rules : ∀ entry ∈ left.liveBindings, ∀ entry' ∈ right.liveBindings,
    entry.1 = entry'.1 →
    entry.2.regular = entry'.2.regular ∧
      List.Forall₂ (fun link link' => link.directive = link'.directive ∧
        left.slotKey link.source = right.slotKey link'.source) entry.2.links
        entry'.2.links
  links : ∀ this ∈ left.connections.keys, ∀ this' ∈ right.connections.keys,
    (left.connection this).key = (right.connection this').key →
      left.echoKey? (.connection this) = right.echoKey? (.connection this')
  values : ∀ field ∈ left.fields.keys, ∀ field' ∈ right.fields.keys,
    (left.field field).block ≠ none →
      left.fieldKey field = right.fieldKey field' →
      (left.field field).kind = (right.field field').kind ∧
        (left.field field).value = (right.field field').value
  checks : ∀ this ∈ left.connections.keys, ∀ this' ∈ right.connections.keys,
    (left.connection this).key = (right.connection this').key →
      (left.connection this).key ∉ left.liveKeys →
        Check.same (left.connection this).check
          (right.connection this').check = true

/-- A coherent state that a strict host reaches, with unique ids. -/
structure StrictCoherent (settings : Settings) (workspace : WorkspaceId)
    (editor : Editor σ) : Prop where
  coherence : SoundCoherent settings workspace ⟨0⟩ editor
  strict : editor.Strict
  ids : editor.UniqueIds

section StrictCoherent

variable {left right : Editor σ}

section Held

variable (held : StrictCoherent settings workspace editor)

include held

/-- A block has one output. -/
theorem StrictCoherent.output_eq {this other : ConnectionId}
    (knownThis : editor.connections.contains this)
    (knownOther : editor.connections.contains other)
    (sameKey : (editor.connection this).key = (editor.connection other).key)
    (isOutput : (editor.connection this).isOutput = true) : this = other := by
  have sameBlock := held.ids.sameBlock held.coherence.sound.layout knownThis
    knownOther sameKey
  have hasThis := held.strict.output this knownThis isOutput
  have hasOther := held.strict.output other knownOther
    ((isOutput_eq_of_key sameKey).symm.trans isOutput)
  rw [sameBlock] at hasThis
  exact Option.some.inj (hasThis.symm.trans hasOther)

/-- Bindings write connections. -/
theorem StrictCoherent.target {wiring : WiringId}
    (isOpen : editor.OpenBinding wiring key binding) :
    ∃ connection, binding.target = .connection connection ∧
      editor.connections.contains connection ∧
      (editor.connection connection).block = (editor.wiring wiring).block ∧
      (editor.connection connection).key = key := by
  have fits := held.coherence.sound.wired.target wiring key binding isOpen
  cases hTarget : binding.target with
  | connection connection =>
      rw [hTarget] at fits
      exact ⟨connection, rfl, fits⟩
  | field field =>
      rw [hTarget] at fits
      exact absurd fits.2 (held.strict.noReferences field)

/-- The binding under the key of an output writes that output. -/
theorem StrictCoherent.target_eq {output : ConnectionId}
    (known : editor.connections.contains output)
    (isOutput : (editor.connection output).isOutput = true)
    (live : ((editor.connection output).key, binding) ∈ editor.liveBindings) :
    binding.target = .connection output := by
  obtain ⟨wiring, isOpen⟩ := mem_liveBindings.mp live
  obtain ⟨connection, isTarget, knownTarget, _, hasKey⟩ := held.target isOpen
  rw [isTarget, held.output_eq known knownTarget hasKey.symm isOutput]

end Held

theorem provides_field_congr {field field' : FieldId}
    (noReference : (left.field field).kind.bare ≠ .reference none)
    (sameKind : (left.field field).kind = (right.field field').kind)
    (sameValue : (left.field field).value = (right.field field').value) :
    right.provides (.field field') = left.provides (.field field) := by
  simp only [provides, fieldProvides, sameValue]
  rw [← sameKind]
  split
  · rfl
  · rfl
  · rename_i types isReference
    exact absurd (FieldKind.bare_eq_reference.mpr ⟨types, isReference⟩)
      noReference

/-- The targets on a block have the same checks on both sides. -/
def Agreed (left right : Editor σ) (block : BlockId) : Prop :=
  ∀ wiring key binding binding', left.OpenBinding wiring key binding →
    (left.wiring wiring).block = block → (key, binding') ∈ right.liveBindings →
      Check.same (left.slotCheck binding.target)
        (right.slotCheck binding'.target) = true

variable (leftHeld : StrictCoherent settings workspace left)
  (rightHeld : StrictCoherent settings workspace right)
  (alike : Alike left right)

include leftHeld rightHeld alike

/-- Linked outputs of the same key have the same check, if the blocks upstream
agree. -/
theorem Alike.output_check {output output' input : ConnectionId}
    (linked : (left.connection output).target = some input)
    (isOutput : (left.connection output).isOutput = true)
    (known' : right.connections.contains output')
    (sameKey : (left.connection output).key = (right.connection output').key)
    (upstream : left.Agreed right (left.connection output).block) :
    Check.same (left.connection output).check (right.connection output').check =
      true := by
  have known := contains_of_target linked
  have isOutput' := (isOutput_eq_of_key sameKey).symm.trans isOutput
  by_cases live : (left.connection output).key ∈ left.liveKeys
  · obtain ⟨binding, isLive⟩ := mem_liveKeys.mp live
    obtain ⟨binding', isLive'⟩ := mem_liveKeys.mp (alike.bound live)
    obtain ⟨wiring, isOpen⟩ := mem_liveBindings.mp isLive
    have isTarget := leftHeld.target_eq known isOutput isLive
    have isTarget' : binding'.target = .connection output' := by
      refine rightHeld.target_eq known' isOutput' ?_
      rw [← sameKey]
      exact isLive'
    obtain ⟨connection, isConnection, _, sameBlock, _⟩ := leftHeld.target isOpen
    rw [isTarget] at isConnection
    cases isConnection
    have same := upstream wiring _ binding binding' isOpen
      sameBlock.symm isLive'
    rw [isTarget, isTarget'] at same
    exact same
  · exact alike.checks output ((mem_keys_iff _ _).mpr known) output'
      ((mem_keys_iff _ _).mpr known') sameKey live

/-- Inputs of the same key provide the same, if the blocks upstream agree. -/
theorem Alike.input_provides {input input' : ConnectionId}
    (known : left.connections.contains input)
    (known' : right.connections.contains input')
    (isInput : (left.connection input).key.kind = .input)
    (sameKey : (left.connection input).key = (right.connection input').key)
    (upstream : ∀ source, left.Plugged source (left.connection input).block →
      left.Agreed right source) :
    ProvidesAs left right (.connection input) (.connection input') := by
  have sameFar := alike.links input ((mem_keys_iff _ _).mpr known) input'
    ((mem_keys_iff _ _).mpr known') sameKey
  simp only [echoKey?] at sameFar
  cases linked : (left.connection input).target with
  | none =>
      rw [linked] at sameFar
      have free : (right.connection input').target = none := by
        cases linked' : (right.connection input').target with
        | none => rfl
        | some far' =>
            rw [linked'] at sameFar
            cases sameFar
      refine ProvidesAs.of_eq ?_
      simp only [provides, linked, free]
  | some far =>
      rw [linked] at sameFar
      cases linked' : (right.connection input').target with
      | none =>
          rw [linked'] at sameFar
          cases sameFar
      | some far' =>
          rw [linked'] at sameFar
          have sameFarKey := Option.some.inj sameFar
          have back := leftHeld.coherence.sound.linking.back input far linked
          have back' := rightHeld.coherence.sound.linking.back
            input' far' linked'
          have isOutput : (left.connection far).isOutput = true := by
            have faces :=
              (leftHeld.coherence.sound.linking.faces input far linked).2
            have notOutput : (left.connection input).isOutput = false := by
              simp [Connection.isOutput, isInput]
            rw [notOutput] at faces
            simpa using faces.symm
          have same := alike.output_check leftHeld rightHeld back isOutput
            (contains_of_target back') sameFarKey
            (upstream _ ⟨far, input, back, isOutput, rfl, rfl⟩)
          intro types provided
          simp only [provides, linked] at provided
          cases provided
          exact ⟨_, by
            simp only [provides, linked'], Check.types_agree_of_same same⟩

theorem Alike.source_provides {wiring wiring' : WiringId} {binding' : Binding}
    (isOpen : left.OpenBinding wiring key binding)
    (isOpen' : right.OpenBinding wiring' key binding') {link link' : Link}
    (member : link ∈ binding.links) (member' : link' ∈ binding'.links)
    (sameKey : left.slotKey link.source = right.slotKey link'.source)
    (upstream : ∀ source, left.Plugged source (left.wiring wiring).block →
      left.Agreed right source) : ProvidesAs left right link.source
      link'.source := by
  have fits := leftHeld.coherence.sound.wired.source wiring key binding
    isOpen link member
  have fits' := rightHeld.coherence.sound.wired.source wiring' key binding'
    isOpen' link' member'
  cases hSource : link.source with
  | connection input =>
      rw [hSource] at fits sameKey
      obtain ⟨known, onBlock, isInput⟩ := fits
      cases hSource' : link'.source with
      | connection input' =>
          rw [hSource'] at fits' sameKey
          rw [← onBlock] at upstream
          exact alike.input_provides leftHeld rightHeld known fits'.1 isInput
            (Except.ok.inj sameKey) upstream
      | field field' =>
          rw [hSource'] at sameKey
          have isField := (slotKey_field sameKey.symm).1
          rw [isInput] at isField
          cases isField
  | field field =>
      rw [hSource] at fits sameKey
      have attached := leftHeld.coherence.home.source wiring key binding isOpen
        link member field hSource
      cases hSource' : link'.source with
      | connection input' =>
          rw [hSource'] at fits' sameKey
          have isField := (slotKey_field sameKey).1
          rw [fits'.2.2] at isField
          cases isField
      | field field' =>
          rw [hSource'] at fits' sameKey
          obtain ⟨sameKind, sameValue⟩ := alike.values field
            ((mem_keys_iff _ _).mpr fits) field'
            ((mem_keys_iff _ _).mpr fits') (by simp [attached]) sameKey
          exact ProvidesAs.of_eq
            (provides_field_congr (leftHeld.strict.noReferences field)
            sameKind sameValue)

/-- The blocks agree one after another, each after those that are plugged into
it. -/
theorem Alike.agreed (acyclic : Acyclic left.Plugged) (block : BlockId) :
    left.Agreed right block := by
  have climbs := wellFounded_plugged leftHeld.coherence.sound.layout
    leftHeld.coherence.sound.linking acyclic
  induction block using climbs.induction with
  | _ block upstream =>
      intro wiring key binding binding' isOpen onBlock live'
      obtain ⟨wiring', isOpen'⟩ := mem_liveBindings.mp live'
      obtain ⟨sameRegular, sameLinks⟩ := alike.rules (key, binding)
        (mem_liveBindings.mpr ⟨wiring, isOpen⟩) (key, binding') live' rfl
      have linksAlike : List.Forall₂ (LinksAlike left right) binding.links
          binding'.links := by
        refine List.forall₂_iff_zip.mpr ⟨sameLinks.length_eq, ?_⟩
        intro link link' paired
        obtain ⟨member, member'⟩ := List.of_mem_zip paired
        obtain ⟨sameDirective, sameKey⟩ := List.forall₂_zip sameLinks paired
        refine ⟨sameDirective, alike.source_provides leftHeld rightHeld isOpen
          isOpen' member member' sameKey ?_⟩
        rw [onBlock]
        exact upstream
      obtain ⟨check, computes, same⟩ :=
        leftHeld.coherence.coherent.upToDate isOpen
      obtain ⟨check', computes', same'⟩ :=
        rightHeld.coherence.coherent.upToDate isOpen'
      obtain ⟨other, computesOther, sameOther⟩ :=
        computed_alike sameRegular linksAlike computes
      rw [computes'] at computesOther
      cases computesOther
      exact Check.same_trans same
        (Check.same_trans sameOther (Check.same_symm same'))

end StrictCoherent

section Decide

instance decidableStrictly (before : Editor σ) (operation : HostOperation)
    (outcome : Except Fault Unit) (after : Editor σ) :
    Decidable (before.Strictly operation outcome after) :=
  decidable_of_iff (outcome = .ok () ∧
    operation.Within Liberties.strict before ∧
    operation.Spares before after)
    ⟨fun ⟨returned, within, spares⟩ => ⟨returned, within, spares⟩,
      fun strictly => ⟨strictly.returned, strictly.within, strictly.spares⟩⟩

instance decidableAlike (left right : Editor σ) : Decidable
    (Alike left right) :=
  decidable_of_iff (_ ∧ _ ∧ _ ∧ _ ∧ _ ∧ _)
    ⟨fun ⟨bound, bound', rules, links, values, checks⟩ =>
      ⟨bound, bound', rules, links, values, checks⟩,
      fun alike => ⟨alike.bound, alike.bound', alike.rules,
        alike.links, alike.values, alike.checks⟩⟩

end Decide

/-- Strict hosts that end with the same bindings, links, values and free checks
end with the same checks, whatever they did before and in which order. -/
theorem same_check_of_alike {settings : Settings} {workspace : WorkspaceId}
    {left right : Editor σ} (recomputes : settings.initialRecompute = true)
    (leftReached : Reached idle Strictly settings workspace left)
    (rightReached : Reached idle Strictly settings workspace right)
    (leftIds : left.UniqueIds) (rightIds : right.UniqueIds)
    (acyclic : Acyclic left.Plugged) (alike : Alike left right) {key : SlotKey}
    {binding binding' : Binding} (live : (key, binding) ∈ left.liveBindings)
    (live' : (key, binding') ∈ right.liveBindings) :
    Check.same (left.slotCheck binding.target)
      (right.slotCheck binding'.target) = true := by
  obtain ⟨leftOrderly, leftStrict⟩ := leftReached.orderly
  obtain ⟨rightOrderly, rightStrict⟩ := rightReached.orderly
  obtain ⟨wiring, isOpen⟩ := mem_liveBindings.mp live
  exact alike.agreed ⟨leftOrderly.soundCoherent recomputes, leftStrict, leftIds⟩
    ⟨rightOrderly.soundCoherent recomputes, rightStrict, rightIds⟩ acyclic
    _ wiring key binding binding' isOpen rfl live'

/-- Two blocks, made and wired in the direction of the types. -/
def downstream : List HostOperation :=
  dropdownSource ++ [.newBlock "follower" (some "B") [],
    .setOutput ⟨1⟩ (some ["From:IN+List", "Z"]), .appendInput ⟨1⟩ "IN" none,
    .wire ⟨0⟩ .live, .wire ⟨1⟩ .live, .connect ⟨0⟩ ⟨2⟩,
    .setValue ⟨0⟩ (.text "y")]

/-- The same two blocks, made and wired from the other end, with a detour. -/
def upstream : List HostOperation :=
  [.newField "D" (.dropdown [[.text "x", .text "x", .list [.text "X"]],
      [.text "y", .text "y", .list [.text "Y"]]]) (.text "y"),
    .newBlock "follower" (some "B") [], .appendInput ⟨0⟩ "IN" none,
    .setOutput ⟨0⟩ (some ["From:IN+List", "Z"]), .wire ⟨0⟩ .live,
    .newBlock "source" (some "A") [], .setOutput ⟨1⟩ (some ["From:D"]),
    .connect ⟨0⟩ ⟨2⟩, .appendDummyInput ⟨1⟩ "", .appendField ⟨1⟩ 0 ⟨0⟩,
    .wire ⟨1⟩ .live, .setValue ⟨0⟩ (.text "x"), .disconnect ⟨2⟩,
    .setValue ⟨0⟩ (.text "y"), .connect ⟨2⟩ ⟨0⟩]

/-- Both ways end with the same check on the second output. -/
theorem same_check_of_alike_two_ways :
    ∃ left right : Editor Unit, ∃ binding binding',
      Reached idle Strictly {} ⟨0⟩ left ∧ Reached idle Strictly {} ⟨0⟩ right ∧
      left.UniqueIds ∧ right.UniqueIds ∧ Acyclic left.Plugged ∧
      Alike left right ∧
      (⟨"B", .output, "output"⟩, binding) ∈ left.liveBindings ∧
      (⟨"B", .output, "output"⟩, binding') ∈ right.liveBindings ∧
      Check.same (left.slotCheck binding.target)
        (right.slotCheck binding'.target) = true := by
  have leftReached : Reached idle Strictly {} ⟨0⟩
      (performAll idle 20 ⟨0⟩ downstream freshWorkspace) :=
    reached_freshWorkspace.performAll 20 downstream (by decide +kernel)
  have rightReached : Reached idle Strictly {} ⟨0⟩
      (performAll idle 20 ⟨0⟩ upstream freshWorkspace) :=
    reached_freshWorkspace.performAll 20 upstream (by decide +kernel)
  generalize isLeft : performAll idle 20 ⟨0⟩ downstream freshWorkspace = left
    at leftReached
  generalize isRight : performAll idle 20 ⟨0⟩ upstream freshWorkspace = right
    at rightReached
  have leftIds : left.UniqueIds := by
    rw [← isLeft]
    decide +kernel
  have rightIds : right.UniqueIds := by
    rw [← isRight]
    decide +kernel
  have acyclic : Acyclic left.Plugged := by
    refine acyclic_plugged_of_rises ?_
    rw [← isLeft]
    decide +kernel
  have alike : Alike left right := by
    rw [← isLeft, ← isRight]
    decide +kernel
  have isLive : ⟨"B", .output, "output"⟩ ∈ left.liveKeys := by
    rw [← isLeft]
    decide +kernel
  obtain ⟨binding, live⟩ := mem_liveKeys.mp isLive
  obtain ⟨binding', live'⟩ := mem_liveKeys.mp (alike.bound isLive)
  exact ⟨left, right, binding, binding', leftReached, rightReached, leftIds,
    rightIds, acyclic, alike, live, live', same_check_of_alike rfl leftReached
      rightReached leftIds rightIds acyclic alike live live'⟩

/-- A field that is moved before it is given a value leaves the output of the
first block as it was.  If it is moved afterwards, the output has followed. -/
theorem checks_differ_after_move :
    ∃ left right : Editor Unit, ∃ key binding binding',
      Reached idle (fun before operation outcome after => outcome = .ok () ∧
        operation.Within { Liberties.strict with moves := True } before ∧
        operation.Spares before after) {} ⟨0⟩ left ∧
      Reached idle (fun before operation outcome after => outcome = .ok () ∧
        operation.Within { Liberties.strict with moves := True } before ∧
        operation.Spares before after) {} ⟨0⟩ right ∧
      left.UniqueIds ∧ right.UniqueIds ∧ Acyclic left.Plugged ∧
      Alike left right ∧
      (key, binding) ∈ left.liveBindings ∧
      (key, binding') ∈ right.liveBindings ∧
      Check.same (left.slotCheck binding.target)
        (right.slotCheck binding'.target) = false := by
  refine ⟨performAll idle 20 ⟨0⟩ (downstream ++
      [.setValue ⟨0⟩ (.text "x"), .appendField ⟨1⟩ 0 ⟨0⟩,
        .setValue ⟨0⟩ (.text "y")])
      freshWorkspace,
    performAll idle 20 ⟨0⟩ (downstream ++ [.appendField ⟨1⟩ 0 ⟨0⟩])
    freshWorkspace, ⟨"A", .output, "output"⟩,
    ⟨.connection ⟨0⟩, [], [⟨⟨"D", none, none⟩, .field ⟨0⟩⟩],
      "source (A) connection 'output'"⟩,
    ⟨.connection ⟨0⟩, [], [⟨⟨"D", none, none⟩, .field ⟨0⟩⟩],
      "source (A) connection 'output'"⟩,
    reached_freshWorkspace.performAll 20 _ (by decide +kernel),
    reached_freshWorkspace.performAll 20 _ (by decide +kernel),
    ?_, ?_, acyclic_plugged_of_rises ?_, ?_, ?_, ?_, ?_⟩
  all_goals decide +kernel

end TypeFlow.Editor
