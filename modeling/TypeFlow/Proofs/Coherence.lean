import TypeFlow.Proofs.CoherentOperations

/-!
# Coherence

After every operation that returned, each binding of an open wiring is up to
date: its target has the check that would be computed now.  The host has to
leave fields on their blocks and the targets of bindings to the engine, and a
variable is created before a field refers to it, by one field at most.
-/

namespace TypeFlow

namespace HostOperation

variable {σ : Type}

/-- The operation writes no target of a binding, and a variable it makes is not
yet referred to. -/
def Spares (before after : Editor σ) : HostOperation → Prop
  | .setTypes slot _ => ¬ before.OpenTarget slot
  | .createVariable .. =>
      ∀ field, (before.field field).kind.bare = .reference none →
        after.variableOf field = before.variableOf field
  | _ => True

end HostOperation

namespace Editor

variable {σ : Type}

/-- An operation of an orderly host, with its outcome. -/
structure Orderly (before : Editor σ) (operation : HostOperation)
    (outcome : Except Fault Unit) (after : Editor σ) : Prop where
  returned : outcome = .ok ()
  within : operation.Within Liberties.plain before
  spares : operation.Spares before after
  sole : after.SoleReferences

section Decide

variable (editor : Editor σ)

theorem mem_fields_of_variableOf {field : FieldId} {place : VariableId}
    (refers : editor.variableOf field = some place) :
    field ∈ editor.fields.keys := by
  cases attached : (editor.field field).block with
  | none =>
      unfold variableOf at refers
      dsimp only at refers
      rw [attached] at refers
      cases refers
  | some block =>
      exact (OrderedMap.mem_keys_iff _ _).mpr (contains_of_attached attached)

theorem soleReferences_iff :
    editor.SoleReferences ↔ ∀ left ∈ editor.fields.keys,
      ∀ right ∈ editor.fields.keys, (editor.field left).kind.bare =
        .reference none →
      (editor.field right).kind.bare = .reference none →
      editor.variableOf left ≠ none →
        editor.variableOf left = editor.variableOf right →
        left = right := by
  constructor
  · intro sole left _ right _ isLeft isRight refers same
    obtain ⟨place, found⟩ := Option.ne_none_iff_exists'.mp refers
    exact sole left right place isLeft isRight found (same.symm.trans found)
  · intro sole left right place isLeft isRight leftRefers rightRefers
    exact sole left (editor.mem_fields_of_variableOf leftRefers) right
      (editor.mem_fields_of_variableOf rightRefers) isLeft isRight
      (by simp [leftRefers]) (leftRefers.trans rightRefers.symm)

instance decidableSoleReferences : Decidable editor.SoleReferences :=
  decidable_of_iff _ editor.soleReferences_iff.symm

instance decidableUpToDate (binding : Binding) : Decidable
    (editor.UpToDate binding) :=
  match computes : editor.computed binding with
  | .ok check =>
      decidable_of_iff (Check.same (editor.slotCheck binding.target)
        check = true) ⟨fun same => ⟨check, computes, same⟩, by
          rintro ⟨other, isOther, same⟩
          rw [computes] at isOther
          cases isOther
          exact same⟩
  | .error fault =>
      isFalse (by
        rintro ⟨check, impossible, _⟩
        rw [computes] at impossible
        cases impossible)

end Decide

section DecideOperation

variable (before after : Editor σ)

theorem spares_createVariable_iff (name : String) (request : TypeRequest)
    (id : Option String) :
    (HostOperation.createVariable name request id).Spares before after ↔
      ∀ field ∈ before.fields.keys, (before.field field).kind.bare =
        .reference none →
        after.variableOf field = before.variableOf field := by
  refine ⟨fun spares field _ => spares field,
    fun spares field isReference => ?_⟩
  by_cases known : before.fields.contains field
  · exact spares field ((OrderedMap.mem_keys_iff _ _).mpr known) isReference
  · unfold Editor.field at isReference
    rw [OrderedMap.getD_of_not_contains known] at isReference
    cases isReference

instance decidableSpares :
    (operation : HostOperation) → Decidable (operation.Spares before after)
  | .setTypes slot _ => inferInstanceAs (Decidable (¬ before.OpenTarget slot))
  | .createVariable name request id =>
      decidable_of_iff _ (spares_createVariable_iff before after name
        request id).symm
  | .newBlock .. | .removeBlock .. | .setOutput .. | .appendInput ..
  | .appendDummyInput ..
  | .newField .. | .appendField .. | .initBlock .. | .wire ..
  | .releaseWiring ..
  | .disposeWiring .. | .disposeBlock .. | .connect .. | .disconnect ..
  | .setValue ..
  | .listen .. | .unlisten .. => isTrue trivial

instance decidableOrderly (operation : HostOperation)
    (outcome : Except Fault Unit) :
    Decidable (before.Orderly operation outcome after) :=
  decidable_of_iff (outcome = .ok () ∧ operation.Within Liberties.plain before ∧
    operation.Spares before after ∧ after.SoleReferences)
    ⟨fun ⟨returned, within, spares, sole⟩ => ⟨returned, within, spares, sole⟩,
      fun orderly => ⟨orderly.returned, orderly.within, orderly.spares,
        orderly.sole⟩⟩

end DecideOperation

section Perform

variable {settings : Settings} {workspace : WorkspaceId} {engine : EngineId}
  {editor : Editor σ} {react : Reaction σ}

/-- Operations that return leave no binding stale. -/
theorem SoundCoherent.perform
    (held : SoundCoherent settings workspace engine editor)
    (settles : Settles workspace react) (ripples : RipplesOnly react)
    (recomputes : settings.initialRecompute = true) (limit : Nat)
    {operation : HostOperation} (refers : operation.Refers workspace editor)
    (within : operation.Within Liberties.plain editor) :
    Leads (operation.perform react limit workspace) editor
      (fun _ after => operation.Spares editor after → after.SoleReferences →
        after.Coherent)
      (fun _ _ => True) := by
  have plainly : ∀ {α : Type} {action : EditM σ α},
      Leads action editor (fun _ after => after.Coherent) (fun _ _ => True) →
        Leads action editor (fun _ after =>
          operation.Spares editor after → after.SoleReferences → after.Coherent)
          (fun _ _ => True) :=
    fun leads => Leads.imp leads (fun _ _ coherent _ _ => coherent)
  cases operation with
  | newBlock type id extensions =>
      exact (leads_discard _).mpr (plainly (held.newBlock type id extensions))
  | removeBlock block =>
      intro _ _
      exact (held.removeBlock block).coherent
  | setOutput block check =>
      exact (leads_discard _).mpr (plainly (held.setOutput block check))
  | appendInput block name check =>
      exact (leads_discard _).mpr (plainly (held.appendInput block name check))
  | appendDummyInput block name =>
      exact (leads_discard _).mpr (plainly (held.appendDummyInput block name))
  | newField name kind value =>
      exact (leads_discard _).mpr (plainly (held.newField _))
  | appendField block place field =>
      exact plainly (held.appendField block place (within.resolve_left id))
  | createVariable name request id =>
      exact Leads.mono (held.createVariable name request id)
        (fun _ _ coherent spares _ => coherent spares)
        (fun _ _ => fun impossible => impossible)
  | initBlock block =>
      exact plainly
        (Leads.imp (held.initBlock settles ripples recomputes refers)
        (fun _ _ heldAfter => heldAfter.coherent))
  | wire block mode =>
      simp only [HostOperation.perform, leads_bind, leads_look, leads_discard,
        held.sound.desk.engineOf]
      exact plainly
        (Leads.imp (held.wire settles ripples recomputes refers mode)
        (fun _ _ heldAfter => heldAfter.coherent))
  | releaseWiring block =>
      simp only [HostOperation.perform, leads_bind, leads_look, leads_discard,
        held.sound.desk.engineOf]
      exact plainly (Leads.imp (held.releaseWiring block)
        (fun _ _ both => both.2))
  | disposeWiring wiring =>
      exact (leads_discard _).mpr (plainly (held.disposeWiring wiring))
  | disposeBlock block =>
      exact plainly (Leads.imp (held.disposeBlock settles ripples refers limit)
        (fun _ _ heldAfter => heldAfter.coherent))
  | connect this other =>
      exact plainly (Leads.imp (held.connect settles ripples refers.1 refers.2)
        (fun _ _ heldAfter => heldAfter.coherent))
  | disconnect connection =>
      exact plainly (Leads.imp (held.disconnect settles ripples connection)
        (fun _ _ heldAfter => heldAfter.coherent))
  | setValue field value =>
      exact Leads.imp (held.setValue settles ripples refers value)
        (fun _ _ coherent _ sole => coherent sole)
  | setTypes slot check =>
      simp only [HostOperation.perform, leads_discard]
      by_cases isTarget : editor.OpenTarget slot
      · exact Leads.imp (leads_trivial _ _)
          (fun _ _ _ spares => absurd isTarget spares)
      · exact plainly (held.setTypes settles ripples refers check isTarget)
  | listen slot callback => exact absurd within id
  | unlisten subscription => exact absurd within id

theorem Blank.soundCoherent (blank : Blank engine editor)
    (desk : Desk settings workspace engine editor) :
    SoundCoherent settings workspace engine editor where
  sound := blank.sound desk
  home := blank.atHome
  sole := by
    intro left right place isLeft
    unfold Editor.field at isLeft
    rw [blank.fields] at isLeft
    cases isLeft
  coherent := by
    rintro wiring key ⟨binding, isOpen, _⟩
    have found := isOpen.2
    rw [blank.wiring] at found
    cases found

/-- Every state that an orderly host reaches is sound and coherent. -/
theorem Reached.soundCoherent (recomputes : settings.initialRecompute = true)
    (reached : Reached idle Orderly settings workspace editor) :
    SoundCoherent settings workspace ⟨0⟩ editor := by
  induction reached with
  | opened run =>
      obtain ⟨blank, desk⟩ := blank_openWorkspace.returns run
      exact blank.soundCoherent desk
  | @performed before after operation limit outcome reached refers run
    orderly held =>
      have ripples : RipplesOnly (reaction (idle : Callbacks σ) limit) :=
        ripplesOnly_reaction keepsOut_idle limit
      have settles : Settles workspace (reaction (idle : Callbacks σ) limit) :=
        settles_reaction keepsOut_idle limit
      have course := held.sound.course_of_run keepsOut_idle refers
        orderly.within run
      have coherent := held.perform settles ripples recomputes limit refers
        orderly.within
      rw [orderly.returned] at run
      exact ⟨course.sound held.sound, course.atHome id id held.sound held.home,
        orderly.sole, coherent.returns run orderly.spares orderly.sole⟩

end Perform

/-- In every state that an orderly host reaches, each binding of an open wiring
is up to date. -/
theorem upToDate_of_reached {settings : Settings} {workspace : WorkspaceId}
    {editor : Editor σ} (recomputes : settings.initialRecompute = true)
    (reached : Reached idle Orderly settings workspace editor)
    {wiring : WiringId} (undisposed : (editor.wiring wiring).disposed = false)
    {key : SlotKey} {binding : Binding}
    (bound : (editor.wiring wiring).bindings.get? key = some binding) :
    editor.UpToDate binding :=
  (reached.soundCoherent recomputes).coherent.upToDate ⟨undisposed, bound⟩

/-- A dropdown gives its types to the output of a block. -/
def dropdownSource : List HostOperation :=
  [.newBlock "source" (some "A") [], .setOutput ⟨0⟩ (some ["From:D"]),
    .appendDummyInput ⟨0⟩ "",
    .newField "D" (.dropdown [[.text "x", .text "x", .list [.text "X"]],
      [.text "y", .text "y", .list [.text "Y"]]]) (.text "x"),
    .appendField ⟨0⟩ 0 ⟨0⟩]

/-- The output is linked to a second block, which passes the types on to its
output and to a variable. -/
def typedChain : List HostOperation :=
  dropdownSource ++ [.createVariable "item" (.one "Q") (some "v"),
    .newBlock "follower" (some "B") [],
    .setOutput ⟨1⟩ (some ["From:IN", "From:F"]), .appendInput ⟨1⟩ "IN" none,
    .newField "F" (.reference (some ["From:IN"])) (.text "v"),
    .appendField ⟨1⟩ 0 ⟨1⟩, .wire ⟨0⟩ .live, .wire ⟨1⟩ .live, .connect ⟨0⟩ ⟨2⟩,
    .setValue ⟨0⟩ (.text "y")]

/-- At the end of the chain the output follows the dropdown. -/
theorem upToDate_of_reached_typedChain :
    ∃ editor : Editor Unit, ∃ binding,
      Reached idle Orderly {} ⟨0⟩ editor ∧
      (editor.wiring ⟨1⟩).disposed = false ∧
      (editor.wiring ⟨1⟩).bindings.get? ⟨"B", .output, "output"⟩ =
        some binding ∧
      editor.slotCheck binding.target = some ["Y"] ∧
      editor.UpToDate binding := by
  have reached : Reached idle Orderly {} ⟨0⟩
      (HostOperation.performAll idle 20 ⟨0⟩ typedChain freshWorkspace) :=
    reached_freshWorkspace.performAll 20 typedChain (by decide +kernel)
  generalize isFinal : HostOperation.performAll idle 20 ⟨0⟩ typedChain
    freshWorkspace = editor at reached
  have undisposed : (editor.wiring ⟨1⟩).disposed = false := by
    rw [← isFinal]
    decide +kernel
  have checks : ((editor.wiring ⟨1⟩).bindings.get? ⟨"B", .output, "output"⟩).map
      (fun binding => editor.slotCheck binding.target) = some (some ["Y"]) := by
    rw [← isFinal]
    decide +kernel
  obtain ⟨binding, bound, hasCheck⟩ := Option.map_eq_some_iff.mp checks
  exact ⟨editor, binding, reached, undisposed, bound, hasCheck,
    upToDate_of_reached rfl reached undisposed bound⟩

/-- The dropdown is moved to the second block.  The output of the first one
still takes its types from it but hears of no change. -/
theorem stale_after_move :
    ∃ editor : Editor Unit, ∃ binding,
      Reached idle (fun before operation outcome after => outcome = .ok () ∧
        operation.Within { Liberties.plain with moves := True } before ∧
        operation.Spares before after ∧ after.SoleReferences) {} ⟨0⟩ editor ∧
      editor.OpenBinding ⟨0⟩ ⟨"A", .output, "output"⟩ binding ∧
      ¬ editor.UpToDate binding := by
  refine ⟨HostOperation.performAll idle 20 ⟨0⟩ (typedChain ++
    [.appendField ⟨1⟩ 0 ⟨0⟩, .setValue ⟨0⟩ (.text "x")]) freshWorkspace,
    ⟨.connection ⟨0⟩, [], [⟨⟨"D", none, none⟩, .field ⟨0⟩⟩],
      "source (A) connection 'output'"⟩,
    ?_, ⟨?_, ?_⟩, ?_⟩
  · exact reached_freshWorkspace.performAll 20 _ (by decide +kernel)
  all_goals decide +kernel

end Editor

end TypeFlow
