import TypeFlow.Proofs.Heeding
import TypeFlow.Proofs.Host.Reached

/-!
# Changes reach both ends of a link

Linking, unlinking and setting a check call the listeners of every connection
whose far end is another one afterwards or has another check.  The calls go
through the workspace of the end that was asked, so this holds for the
connections whose far ends are in their own workspace.
-/

namespace TypeFlow.Editor

variable {σ : Type} {this other : ConnectionId}

/-- The far end, if there is one, is in the workspace of the connection. -/
def FarEndNear (editor : Editor σ) (connection : ConnectionId) : Prop :=
  ∀ far, (editor.connection connection).target = some far →
    editor.connectionWorkspace far = editor.connectionWorkspace connection

instance decidableFarEndNear (editor : Editor σ) (connection : ConnectionId) :
    Decidable (editor.FarEndNear connection) :=
  match linked : (editor.connection connection).target with
  | none => isTrue (by
      intro far isLinked
      rw [linked] at isLinked
      cases isLinked)
  | some far =>
      decidable_of_iff (editor.connectionWorkspace far =
        editor.connectionWorkspace connection) (by
          constructor
          · intro near other isLinked
            rw [linked] at isLinked
            cases isLinked
            exact near
          · exact fun near => near far linked)

section Links

variable {loyal : Listener → Prop} {inHouse : ConnectionId → Prop}
  {react : Reaction (Journaled σ)} {editor : Editor (Journaled σ)}

/-- The first end is told in its own workspace, and so is the second if it is
in the same one. -/
theorem notifyEnds_passed (attentive : Attentive loyal inHouse react)
    (tied : Tied inHouse editor) (this other : ConnectionId) :
    Leads (notifyEnds react this other) editor
      (fun _ after => Passed loyal inHouse editor after ∧
        (∀ listener ∈ editor.listenersOf this, CalledSince editor after
          (·.listener = listener)) ∧
        (editor.connections.contains other →
          editor.connectionWorkspace other = editor.connectionWorkspace this →
            ∀ listener ∈ editor.listenersOf other, loyal listener →
              CalledSince editor after (·.listener = listener)))
      (fun _ _ => True) := by
  simp only [notifyEnds, leads_bind, leads_look, leads_discard]
  apply Leads.imp (notify_passed attentive tied _ _)
  rintro _ middle ⟨first, calledThis⟩
  apply Leads.imp (notify_passed attentive
    (tied.keep first.toPlaced first.links) _ _)
  rintro _ after ⟨second, calledOther⟩
  refine ⟨first.trans second, ?_, ?_⟩
  · intro listener listed
    exact (calledThis listener listed).later second.grown
  · intro isKnown sameWorkspace listener listed isLoyal
    apply CalledSince.earlier first.grown
    apply calledOther
    rw [first.key other isKnown, ← sameWorkspace]
    exact first.registered _ _ listener isLoyal listed

/-- What a disconnection that returns has done. -/
structure Freed (loyal : Listener → Prop) (inHouse : ConnectionId → Prop)
    (this : ConnectionId) (before after : Editor (Journaled σ)) :
    Prop extends Heeded loyal inHouse before after where
  tied : Tied inHouse after
  free : (after.connection this).target = none
  stillFree : ∀ id, (before.connection id).target = none →
    (after.connection id).target = none
  asker : ∀ other, (before.connection this).target = some other →
    ∀ listener ∈ before.listenersOf this, loyal listener →
      CalledSince before after (·.listener = listener)

theorem Tied.unlink (tied : Tied inHouse editor)
    (linked : (editor.connection this).target = some other) :
    Tied inHouse (editor.unlink this other) where
  back := tied.back.unlink linked
  near := by
    intro left right isInHouse isLinked
    rw [target_unlink] at isLinked
    split at isLinked
    · cases isLinked
    · have placed : Placed (fun _ => True) editor (editor.unlink this other) :=
        placed_setTargets editor this other none none
      rw [placed.home left (contains_of_target isLinked),
        placed.home right (contains_of_target (tied.back left right isLinked))]
      exact tied.near left right isInHouse isLinked

theorem disconnect_freed (attentive : Attentive loyal inHouse react)
    (tied : Tied inHouse editor) (this : ConnectionId) :
    Leads (disconnect react this) editor
      (fun _ after => Freed loyal inHouse this editor after)
      (fun _ _ => True) := by
  apply leads_disconnect
  · intro isFree
    refine ⟨(Passed.refl tied).toHeeded, tied, isFree, fun _ => id, ?_⟩
    intro other linked
    rw [isFree] at linked
    cases linked
  · intro other linked
    have placed : Placed loyal editor (editor.unlink this other) :=
      placed_setTargets editor this other none none
    have knownThis := contains_of_target linked
    have knownOther := contains_of_target (tied.back this other linked)
    have tiedUnlinked := tied.unlink linked
    apply Leads.imp (notifyEnds_passed attentive tiedUnlinked this other)
    rintro _ after ⟨passed, calledThis, calledOther⟩
    refine ⟨Passed.owing placed rfl passed ?_,
      tiedUnlinked.keep passed.toPlaced passed.links, ?_, ?_, ?_⟩
    · intro id isKnown isInHouse differs listener listed isLoyal
      have stillListed := placed.listenersOf isKnown isLoyal listed
      rcases FarEndDiffers.of_setTargets differs with isThis | isOther
      · subst isThis
        exact calledThis listener stillListed
      · subst isOther
        apply calledOther (placed.known id isKnown)
          _ listener stillListed isLoyal
        rw [placed.home id isKnown, placed.home this knownThis]
        exact (tied.near id this isInHouse (tied.back this id linked)).symm
    · rw [passed.links, target_unlink, if_pos (Or.inr rfl)]
    · intro id isFree
      rw [passed.links, target_unlink]
      split
      · rfl
      · exact isFree
    · intro _ _ listener listed isLoyal
      apply CalledSince.earlier (Grown.of_eq rfl)
      exact calledThis listener (placed.listenersOf knownThis isLoyal listed)

theorem Tied.link (tied : Tied inHouse editor)
    (freeThis : (editor.connection this).target = none)
    (freeOther : (editor.connection other).target = none)
    (knownThis : editor.connections.contains this)
    (knownOther : editor.connections.contains other)
    (near : inHouse this ∨ inHouse other →
      editor.connectionWorkspace other = editor.connectionWorkspace this) :
    Tied inHouse (editor.link this other) where
  back := tied.back.link freeThis freeOther
  near := by
    have placed : Placed (fun _ => True) editor (editor.link this other) :=
      placed_setTargets editor this other (some other) (some this)
    intro left right isInHouse isLinked
    rw [target_link] at isLinked
    split at isLinked
    · rename_i isOther
      cases isLinked
      subst isOther
      rw [placed.home this knownThis, placed.home other knownOther]
      exact (near (Or.inr isInHouse)).symm
    · split at isLinked
      · rename_i isThis
        cases isLinked
        subst isThis
        rw [placed.home this knownThis, placed.home other knownOther]
        exact near (Or.inl isInHouse)
      · rw [placed.home left (contains_of_target isLinked),
          placed.home right (contains_of_target
            (tied.back left right isLinked))]
        exact tied.near left right isInHouse isLinked

/-- What a connection that returns and was not there before has done. -/
structure Joined (loyal : Listener → Prop) (this other : ConnectionId)
    (before after : Editor (Journaled σ)) : Prop where
  forth : (after.connection this).target = some other
  back : (after.connection other).target = some this
  asker : ∀ listener ∈ before.listenersOf this, loyal listener →
    CalledSince before after (·.listener = listener)

theorem link_joined (attentive : Attentive loyal inHouse react)
    (tied : Tied inHouse editor) (differs : this ≠ other)
    (freeThis : (editor.connection this).target = none)
    (freeOther : (editor.connection other).target = none)
    (knownThis : editor.connections.contains this)
    (knownOther : editor.connections.contains other)
    (near : inHouse this ∨ inHouse other →
      editor.connectionWorkspace other = editor.connectionWorkspace this) :
    Leads (notifyEnds react this other) (editor.link this other)
      (fun _ after => Heeded loyal inHouse editor after ∧
        Joined loyal this other editor after)
      (fun _ _ => True) := by
  have placed : Placed loyal editor (editor.link this other) :=
    placed_setTargets editor this other (some other) (some this)
  have tiedLinked := tied.link freeThis freeOther knownThis knownOther near
  apply Leads.imp (notifyEnds_passed attentive tiedLinked this other)
  rintro _ after ⟨passed, calledThis, calledOther⟩
  refine ⟨Passed.owing placed rfl passed ?_, ?_, ?_, ?_⟩
  · intro id isKnown isInHouse isChanged listener listed isLoyal
    have stillListed := placed.listenersOf isKnown isLoyal listed
    rcases FarEndDiffers.of_setTargets isChanged with isThis | isOther
    · subst isThis
      exact calledThis listener stillListed
    · subst isOther
      apply calledOther (placed.known id isKnown) _ listener stillListed isLoyal
      rw [placed.home id isKnown, placed.home this knownThis]
      exact near (Or.inr isInHouse)
  · rw [passed.links, target_link, if_neg differs.symm, if_pos rfl]
  · rw [passed.links, target_link, if_pos rfl]
  · intro listener listed isLoyal
    apply CalledSince.earlier (Grown.of_eq rfl)
    exact calledThis listener (placed.listenersOf knownThis isLoyal listed)

theorem ne_of_canFace (faces : editor.canFace this other = true) :
    this ≠ other := by
  unfold canFace at faces
  simp only [ne_eq, Bool.and_eq_true, decide_eq_true_eq] at faces
  exact faces.1.1

/-- Up to three steps, and each of them lets those concerned hear of it. -/
theorem connect_joined (attentive : Attentive loyal inHouse react)
    (tied : Tied inHouse editor) (knownThis : editor.connections.contains this)
    (knownOther : editor.connections.contains other)
    (near : inHouse this ∨ inHouse other →
      editor.connectionWorkspace other = editor.connectionWorkspace this) :
    Leads (connect react this other) editor
      (fun _ after => after = editor ∨
        Heeded loyal inHouse editor after ∧
        Joined loyal this other editor after)
      (fun _ _ => True) := by
  refine leads_connect (Or.inl rfl) (fun _ _ _ _ _ => True.intro)
    fun caches faces => ?_
  have quiet : Undisturbed loyal editor { editor with caches } :=
    Undisturbed.of_tables rfl rfl fun _ => rfl
  have cached := quiet.passed tied (Grown.of_eq rfl)
  apply Leads.imp (disconnect_freed attentive
    (tied.keep cached.toPlaced cached.links) this)
  intro _ middle first
  apply Leads.imp (disconnect_freed attentive first.tied other)
  intro _ parted second
  have sofar := (cached.toHeeded.trans first.toHeeded).trans second.toHeeded
  apply Leads.imp (link_joined attentive second.tied (ne_of_canFace faces)
    (second.stillFree this first.free) second.free (sofar.known this knownThis)
    (sofar.known other knownOther) ?_)
  · rintro _ after ⟨heeded, joined⟩
    refine Or.inr ⟨sofar.trans heeded, joined.forth, joined.back, ?_⟩
    intro listener listed isLoyal
    exact CalledSince.earlier sofar.grown (joined.asker listener
      (sofar.toPlaced.listenersOf knownThis isLoyal listed) isLoyal)
  · intro isInHouse
    rw [sofar.home this knownThis, sofar.home other knownOther]
    exact near isInHouse

end Links

end TypeFlow.Editor

namespace TypeFlow

open Editor

variable {σ : Type}

/-- The operations that change links or checks. -/
inductive LinkOperation where
  | connect (this other : ConnectionId)
  | disconnect (this : ConnectionId)
  | setTypes (slot : Slot) (check : Check)

namespace LinkOperation

def perform (react : Reaction σ) : LinkOperation → EditM σ Unit
  | .connect this other => Editor.connect react this other
  | .disconnect this => Editor.disconnect react this
  | .setTypes slot check => discard (Editor.setTypes react slot check)

/-- The connections that an operation names exist. -/
def Refers (editor : Editor σ) : LinkOperation → Prop
  | .connect this other =>
      editor.connections.contains this ∧ editor.connections.contains other
  | .disconnect this => editor.connections.contains this
  | .setTypes _ _ => True

instance decidableRefers (editor : Editor σ) :
    (operation : LinkOperation) → Decidable (operation.Refers editor)
  | .connect this other => inferInstanceAs (Decidable
      (editor.connections.contains this = true ∧
        editor.connections.contains other = true))
  | .disconnect this =>
      inferInstanceAs (Decidable (editor.connections.contains this = true))
  | .setTypes _ _ => isTrue trivial

/-- The connection that is asked to link or unlink. -/
def asks (connection : ConnectionId) : LinkOperation → Prop
  | .connect this _ | .disconnect this => connection = this
  | .setTypes _ _ => False

theorem mirrors_perform {react : Reaction (Journaled σ)} {react' : Reaction σ}
    (same : MirrorsCalls react react') (operation : LinkOperation)
    {editor : Editor (Journaled σ)} :
    Mirrors (operation.perform react) (operation.perform react') editor := by
  cases operation with
  | connect this other => exact mirrors_connect same this other
  | disconnect this => exact mirrors_disconnect same this
  | setTypes slot check =>
      exact mirrors_discard (mirrors_setTypes same slot check)

/-- Every loyal listener of a connection whose far end differs was called, if
the connection was asked or its far ends are in its own workspace. -/
def Heard (operation : LinkOperation) (loyal : Listener → Prop)
    (before after : Editor (Journaled σ)) : Prop :=
  ∀ connection, before.connections.contains connection →
    FarEndDiffers before after connection →
    operation.asks connection ∨ before.FarEndNear connection ∧
      after.FarEndNear connection →
      ∀ listener ∈ before.listenersOf connection, loyal listener →
        CalledSince before after (·.listener = listener)

section Heard

variable {loyal : Listener → Prop} {react : Reaction (Journaled σ)}
  (attentive : ∀ inHouse, Attentive loyal inHouse react)
  {editor : Editor (Journaled σ)} (back : editor.MutualLinks)

include attentive back

theorem heard_setTypes (slot : Slot) (check : Check) :
    Leads ((setTypes slot check).perform react) editor
      (fun _ after => (setTypes slot check).Heard loyal editor after)
      (fun _ _ => True) := by
  have tied : Tied editor.FarEndNear editor :=
    ⟨back, fun this other near => near other⟩
  rw [perform, leads_discard]
  apply Leads.imp (setTypes_passed (attentive _) tied slot check)
  intro _ after passed connection isKnown differs cause listener listed isLoyal
  rcases cause with asked | ⟨near, _⟩
  · exact asked.elim
  · exact passed.told connection isKnown near differs listener listed isLoyal

theorem heard_disconnect (this : ConnectionId) :
    Leads ((disconnect this).perform react) editor
      (fun _ after => (disconnect this).Heard loyal editor after)
      (fun _ _ => True) := by
  have tied : Tied editor.FarEndNear editor :=
    ⟨back, fun this other near => near other⟩
  apply Leads.imp (disconnect_freed (attentive _) tied this)
  intro _ after freed connection isKnown differs cause listener listed isLoyal
  rcases cause with asked | ⟨near, _⟩
  · obtain rfl : connection = this := asked
    cases linked : (editor.connection connection).target with
    | some other => exact freed.asker other linked listener listed isLoyal
    | none =>
        rcases differs with otherEnd | ⟨far, isLinked, _⟩
        · exact absurd (freed.free.trans linked.symm) otherEnd
        · rw [linked] at isLinked
          cases isLinked
  · exact freed.told connection isKnown near differs listener listed isLoyal

theorem heard_connect {this other : ConnectionId}
    (knownThis : editor.connections.contains this)
    (knownOther : editor.connections.contains other) :
    Leads ((connect this other).perform react) editor
      (fun _ after => (connect this other).Heard loyal editor after)
      (fun _ _ => True) := by
  -- The two connections are in house only if they are in the same workspace.
  let inHouse (connection : ConnectionId) : Prop :=
    editor.FarEndNear connection ∧
    (connection = this ∨ connection = other →
      editor.connectionWorkspace other = editor.connectionWorkspace this)
  have tied : Tied inHouse editor := ⟨back, fun this other near => near.1 other⟩
  have near : inHouse this ∨ inHouse other →
      editor.connectionWorkspace other = editor.connectionWorkspace this := by
    rintro (isInHouse | isInHouse)
    · exact isInHouse.2 (Or.inl rfl)
    · exact isInHouse.2 (Or.inr rfl)
  apply Leads.imp (connect_joined (attentive inHouse) tied knownThis
    knownOther near)
  rintro _ after (unchanged | ⟨heeded, joined⟩)
  · subst unchanged
    intro connection _ differs
    rcases differs with otherEnd | ⟨_, _, otherCheck⟩
    · exact absurd rfl otherEnd
    · exact absurd (Check.same_refl _) otherCheck
  · intro connection isKnown differs cause listener listed isLoyal
    rcases cause with asked | ⟨nearBefore, nearAfter⟩
    · obtain rfl : connection = this := asked
      exact joined.asker listener listed isLoyal
    · refine heeded.told connection isKnown ⟨nearBefore, ?_⟩ differs listener
        listed isLoyal
      rintro (rfl | rfl)
      · have sameAfter := nearAfter other joined.forth
        rwa [heeded.home _ knownOther, heeded.home _ knownThis] at sameAfter
      · have sameAfter := nearAfter this joined.back
        rw [heeded.home _ knownOther, heeded.home _ knownThis] at sameAfter
        exact sameAfter.symm

theorem heard_perform {operation : LinkOperation}
    (refers : operation.Refers editor) :
    Leads (operation.perform react) editor
      (fun _ after => operation.Heard loyal editor after)
      (fun _ _ => True) := by
  cases operation with
  | connect this other => exact heard_connect attentive back refers.1 refers.2
  | disconnect this => exact heard_disconnect attentive back this
  | setTypes slot check => exact heard_setTypes attentive back slot check

end Heard

/-- When linking, unlinking or setting a check returns, the listeners of every
connection whose far end is another one or has another check were called, if
that connection was asked or its far ends are in its own workspace. -/
theorem changes_reach_both_ends {loyal : Listener → Prop}
    {scripts : CallbackId → Script σ}
    (discreet : ∀ callback, (scripts callback).Discreet loyal)
    {editor after : Editor σ} (history : editor.LinkHistory)
    {operation : LinkOperation} (refers : operation.Refers editor)
    {limit fuel : Nat}
    (run : operation.perform (Script.calling scripts limit fuel) editor =
      (.ok (), after)) :
    ∃ calls, operation.perform (Script.noting scripts limit fuel)
      (editor.journal []) =
        (.ok (), after.journal calls) ∧
      ∀ connection, editor.connections.contains connection →
        FarEndDiffers editor after connection →
        operation.asks connection ∨
          editor.FarEndNear connection ∧ after.FarEndNear connection →
        ∀ listener ∈ editor.listenersOf connection, loyal listener →
          ∃ call ∈ calls, call.listener = listener := by
  obtain ⟨calls, journaled⟩ :=
    (mirrors_perform (Script.mirrorsCalls_noting scripts limit fuel)
      operation).run run
  have backJournaled : (editor.journal []).MutualLinks := history.mutualLinks
  have refersJournaled : operation.Refers (editor.journal []) := by
    cases operation <;> exact refers
  have heard :=
    (heard_perform (fun _ => Script.attentive_noting discreet limit fuel)
    backJournaled refersJournaled).returns journaled
  refine ⟨calls, journaled, ?_⟩
  intro connection isKnown differs cause listener listed isLoyal
  obtain ⟨since, hCalls, called⟩ :=
    heard connection isKnown differs cause listener listed isLoyal
  have sameCalls : calls = since := hCalls
  rwa [sameCalls]

/-- Three blocks with a listener each. -/
def threeBlocks : Editor Unit :=
  HostOperation.performAll idle 20 ⟨0⟩
    [.newBlock "source" (some "A") [], .setOutput ⟨0⟩ (some ["X"]),
      .newBlock "sink" (some "B") [], .appendInput ⟨1⟩ "IN" (some ["X", "Y"]),
      .newBlock "source" (some "C") [], .setOutput ⟨2⟩ (some ["Y"]),
      .listen (.connection ⟨0⟩) ⟨0⟩, .listen (.connection ⟨1⟩) ⟨1⟩,
      .listen (.connection ⟨2⟩) ⟨2⟩] freshWorkspace

/-- The third block is linked to the second one. -/
def twoLinked : Editor Unit :=
  (Editor.connect (fun _ => return) ⟨2⟩ ⟨1⟩ threeBlocks).2

/-- The second callback sets the check of its block's input, once. -/
def narrowing : CallbackId → Script Unit
  | ⟨1⟩ => .choose fun editor =>
      if (editor.connection ⟨1⟩).target = some ⟨0⟩ then
        .setTypes (.connection ⟨1⟩) (some ["X"]) .done
      else .done
  | _ => .done

/-- The output of the first block takes the place of that of the third one, and
all three blocks hear of it. -/
theorem changes_reach_both_ends_twoLinked :
    twoLinked.LinkHistory ∧
    ∃ (after : Editor Unit) (calls : List (Call Unit)),
      (connect ⟨0⟩ ⟨1⟩).perform (Script.noting narrowing 20 20)
        (twoLinked.journal []) =
        (.ok (), after.journal calls) ∧
      ∀ number ∈ [0, 1, 2], ∃ call ∈ calls,
        call.listener = .callback ⟨number⟩ := by
  have history : twoLinked.LinkHistory := by
    have linked : Editor.connect (fun _ => return) ⟨2⟩ ⟨1⟩ threeBlocks =
        ((Editor.connect (fun _ => return) ⟨2⟩ ⟨1⟩ threeBlocks).1, twoLinked) :=
      rfl
    refine LinkHistory.connected (LinkHistory.of_free ?_) ?_ linked
    · decide +kernel
    · exact fun _ editor => SameLinks.refl editor
  have discreet : ∀ callback, (narrowing callback).Discreet fun _ => True := by
    intro callback
    unfold narrowing
    split
    · intro editor
      dsimp only
      split <;> trivial
    · trivial
  have returns : ((connect ⟨0⟩ ⟨1⟩).perform (Script.calling narrowing 20 20)
    twoLinked).1 =
      .ok () := by
    decide +kernel
  obtain ⟨calls, run, heard⟩ := changes_reach_both_ends discreet history
    (by decide +kernel) (eq_of_outcome returns)
  refine ⟨history, _, calls, run, ?_⟩
  have near : ∀ number ∈ [0, 1, 2], twoLinked.FarEndNear ⟨number⟩ ∧
      ((connect ⟨0⟩ ⟨1⟩).perform (Script.calling narrowing 20 20)
        twoLinked).2.FarEndNear ⟨number⟩ := by
    decide +kernel
  have moved : ∀ number ∈ [0, 1, 2], twoLinked.connections.contains ⟨number⟩ ∧
      (((connect ⟨0⟩ ⟨1⟩).perform (Script.calling narrowing 20 20)
        twoLinked).2.connection ⟨number⟩).target ≠ (twoLinked.connection
        ⟨number⟩).target ∧
      .callback ⟨number⟩ ∈ twoLinked.listenersOf ⟨number⟩ := by
    decide +kernel
  intro number member
  obtain ⟨isKnown, otherEnd, listed⟩ := moved number member
  exact heard ⟨number⟩ isKnown (Or.inl otherEnd)
    (Or.inr (near number member)) _ listed True.intro

/-- A workspace with a block that has an output, and another one with a block
that has an input with a listener. -/
def twoWorkspaces : Editor Unit :=
  let prepare : EditM Unit Unit := do
    let first ← newWorkspace none false
    let second ← newWorkspace none false
    discard (Editor.setOutput (← newBlock first "source" (some "A") []) none)
    discard (appendInput (← newBlock second "sink" (some "B") []) "IN" none)
    discard (subscribe (.connection ⟨1⟩) (.callback ⟨0⟩))
  (prepare { outer := () }).2

/-- Linking connections of two workspaces calls no listener of the one that was
not asked, although its far end changes. -/
theorem far_workspace_unheard :
    ∃ editor after : Editor Unit, ∃ this other listener,
      ∃ calls : List (Call Unit),
      editor.LinkHistory ∧ (connect this other).Refers editor ∧
      (connect this other).perform (Script.calling (fun _ => .done) 20 20)
        editor = (.ok (), after) ∧
      (connect this other).perform (Script.noting (fun _ => .done) 20 20)
        (editor.journal []) =
        (.ok (), after.journal calls) ∧
      FarEndDiffers editor after other ∧ listener ∈ editor.listenersOf other ∧
      listener ∉ calls.map Call.listener := by
  have returns :
      ((connect ⟨0⟩ ⟨1⟩).perform (Script.calling (fun _ => .done) 20 20)
      twoWorkspaces).1 = .ok () := by
    decide +kernel
  have silent :
      (((connect ⟨0⟩ ⟨1⟩).perform (Script.noting (fun _ => .done) 20 20)
      (twoWorkspaces.journal [])).2.calls.map Call.listener) = [] := by
    decide +kernel
  obtain ⟨calls, journaled⟩ :=
    (mirrors_perform (Script.mirrorsCalls_noting _ 20 20)
    (connect ⟨0⟩ ⟨1⟩)).run (eq_of_outcome returns)
  rw [journaled] at silent
  refine ⟨twoWorkspaces, _, ⟨0⟩, ⟨1⟩, .callback ⟨0⟩, calls,
    LinkHistory.of_free ?_, ?_, eq_of_outcome returns, journaled,
    Or.inl ?_, ?_, ?_⟩
  · decide +kernel
  · decide +kernel
  · decide +kernel
  · decide +kernel
  · exact fun listed => List.not_mem_nil (silent ▸ listed)

end LinkOperation

end TypeFlow
