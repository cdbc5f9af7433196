import TypeFlow.Proofs.Host.Reached
import TypeFlow.Proofs.Host.Stepwise
import TypeFlow.Proofs.Upkeep

/-!
# Links form a matching

Each connection is linked to at most one other, which is linked back to it, has
the other direction and belongs to another block.  Operations keep it so on any
number of workspaces, and also when they stop halfway because a listener
raises, as long as listeners leave the links alone.
-/

namespace TypeFlow

open HostOperation (performAll)

namespace Editor

variable {σ : Type} {before after editor : Editor σ} {react : Reaction σ}

/-- A state in which links form a matching. -/
structure Matched (editor : Editor σ) : Prop extends Shaped editor where
  linking : Linking editor

/-- Linked connections stay what they are. -/
theorem Linking.outgrow (linking : Linking before)
    (outgrows : Outgrows before after) (same : SameLinks before after) :
    Linking after := by
  constructor
  · intro this other linked
    rw [same] at linked ⊢
    exact linking.back this other linked
  · intro this other linked
    rw [same] at linked
    have knownThis := contains_of_target linked
    have knownOther := contains_of_target (linking.back this other linked)
    rw [outgrows.connectionBlock this knownThis,
      outgrows.connectionBlock other knownOther,
      isOutput_eq_of_key (outgrows.connectionKey this knownThis),
      isOutput_eq_of_key (outgrows.connectionKey other knownOther)]
    exact linking.faces this other linked

theorem Matched.steps (matched : Matched before)
    (steps : Steps False before after) :
    Matched after where
  toShaped := steps.shaped matched.toShaped
  linking := matched.linking.outgrow (steps.outgrows matched.toShaped)
    (steps.sameLinks matched.toShaped)

/-- A step by which two connections are linked or unlinked. -/
theorem Matched.relink (matched : Matched before)
    (step : Step True before after) (linking : Linking after) :
    Matched after where
  toShaped := step.shaped matched.toShaped
  linking := linking

section Operations

variable (stepwise : Stepwise False react) (matched : Matched editor)

include stepwise matched

theorem notifyEnds_matched (this other : ConnectionId) :
    Ends (notifyEnds react this other) editor fun after =>
      Matched after ∧ Outgrows editor after ∧ SameLinks editor after := by
  apply Ends.mono (proceeds_notifyEnds stepwise matched.toShaped this other)
  intro after steps
  exact ⟨matched.steps steps, steps.outgrows matched.toShaped,
    steps.sameLinks matched.toShaped⟩

/-- However disconnecting ends, the connection is free and nothing is linked
that was not. -/
theorem disconnect_matched (this : ConnectionId) :
    Ends (disconnect react this) editor fun after =>
      Matched after ∧ Outgrows editor after ∧
        (after.connection this).target = none ∧
        ∀ id, (editor.connection id).target = none →
          (after.connection id).target = none := by
  apply leads_disconnect
  · intro isFree
    exact ⟨matched, Outgrows.refl editor, isFree, fun _ => id⟩
  · intro other linked
    have unlinks : Step True editor (editor.unlink this other) :=
      Step.unlinked True.intro (contains_of_target linked)
        (matched.far this other linked)
    have parted := matched.relink unlinks (matched.linking.unlinked linked)
    apply Ends.mono (notifyEnds_matched stepwise parted this other)
    rintro after ⟨matchedAfter, outgrows, same⟩
    refine ⟨matchedAfter, (unlinks.outgrows matched.tables).trans
      outgrows, ?_, ?_⟩
    · rw [same, target_unlink, if_pos (Or.inr rfl)]
    · intro id isFree
      rw [same, target_unlink]
      split
      · rfl
      · exact isFree

theorem connect_matched {this other : ConnectionId}
    (knownThis : editor.connections.contains this)
    (knownOther : editor.connections.contains other) :
    Ends (connect react this other) editor Matched := by
  have asked : ∀ caches, Matched { editor with caches } :=
    fun _ => matched.steps (Steps.aside rfl rfl rfl fun _ => rfl)
  refine leads_connect matched (fun caches _ _ _ _ => asked caches)
    fun caches faces => ?_
  refine Leads.mono (disconnect_matched stepwise (asked caches) this) ?_
    fun _ _ all => all.1
  rintro _ middle ⟨matchedMiddle, first, freeThis, _⟩
  refine Leads.mono (disconnect_matched stepwise matchedMiddle other) ?_
    fun _ _ all => all.1
  rintro _ parted ⟨matchedParted, second, freeOther, stillFree⟩
  have outgrows := first.trans second
  have laterThis := outgrows.knownConnection this knownThis
  have laterOther := outgrows.knownConnection other knownOther
  have stillFaces : parted.canFace this other = true := by
    rw [outgrows.canFace knownThis knownOther]
    exact faces
  have joins : Step True parted (parted.link this other) :=
    Step.linked True.intro laterThis laterOther
  have joined := matchedParted.relink joins
    (matchedParted.linking.linked laterThis
    laterOther (stillFree this freeThis) freeOther stillFaces)
  exact Ends.mono (notifyEnds_matched stepwise joined this other)
    fun _ all => all.1

end Operations

theorem disposeBlock_matched (stepwise : Stepwise False react)
    (matched : Matched editor) {block : BlockId}
    (known : editor.blocks.contains block) (limit : Nat) :
    Ends (disposeBlock react limit block) editor Matched := by
  have released : Ends
      (releaseWiring (editor.workspace (editor.block block).workspace).engine
        block) editor
      fun after => Matched after ∧ Outgrows editor after :=
    Ends.mono (proceeds_releaseWiring editor _ block) fun _ releases =>
      ⟨matched.steps releases, releases.outgrows matched.toShaped⟩
  have disposed : Leads (disposeBlock react limit block) editor
      (fun _ => Matched)
      (fun _ after => Matched after ∧ Outgrows editor after) := by
    refine leads_disposeBlock ?_ limit (fun _ => matched) released ?_
    · rintro current connection ⟨matchedHere, sofar⟩ _
      exact Ends.mono (disconnect_matched stepwise matchedHere connection)
        fun _ all => ⟨all.1, sofar.trans all.2.1⟩
    · rintro current ⟨matchedHere, sofar⟩
      exact matchedHere.steps
        (Steps.steady (steady_retireBlock (sofar.knownBlock block known)))
  exact Leads.mono disposed (fun _ _ => id) fun _ _ both => both.1

theorem perform_matched (stepwise : Stepwise False react)
    (matched : Matched editor) {workspace : WorkspaceId}
    {operation : HostOperation} (limit : Nat)
    (refers : operation.Refers workspace editor) :
    Ends (operation.perform react limit workspace) editor Matched := by
  by_cases relinks : operation.Relinks
  · cases operation with
    | connect this other =>
        exact connect_matched stepwise matched refers.1 refers.2
    | disconnect connection =>
        exact Ends.mono (disconnect_matched stepwise matched connection)
          fun _ all => all.1
    | disposeBlock block =>
        exact disposeBlock_matched stepwise matched refers limit
    | _ => exact relinks.elim
  · exact Ends.mono (HostOperation.proceeds_perform relinks stepwise
      matched.toShaped limit refers) fun _ steps => matched.steps steps

/-- Callbacks may do what they like but link and unlink nothing. -/
def HandsOff (outside : Callbacks σ) : Prop :=
  ∀ callback editor, Shaped editor → Proceeds False (outside callback) editor

theorem Built.matched {outside : Callbacks σ} (handsOff : HandsOff outside)
    (built : Built outside editor) : Matched editor := by
  induction built with
  | started =>
      refine ⟨shaped_started _, ?_, ?_⟩
      · intro this other impossible
        cases impossible
      · intro this other impossible
        cases impossible
  | @furnished before caches checkers engines workspaces pool drawn
    outer _ matched =>
      have steps : Steps False before _ :=
        steps_furnished before caches checkers engines workspaces
          pool drawn outer
      exact matched.steps steps
  | performed _ refers run matched =>
      exact (perform_matched (stepwise_reaction handsOff _) matched
        _ refers).holds run

end Editor

end TypeFlow
