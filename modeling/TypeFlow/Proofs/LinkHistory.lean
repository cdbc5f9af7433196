import TypeFlow.Proofs.Host.Conduct

/-!
# Links are mutual

Connections are linked and unlinked in pairs.  So each end of a link is the far
end of the other, in every state that can be reached while listeners leave the
links alone, however many workspaces there are.
-/

namespace TypeFlow.Editor

variable {σ : Type}

/-- Each end of a link is the far end of the other. -/
def MutualLinks (editor : Editor σ) : Prop :=
  ∀ this other, (editor.connection this).target = some other →
    (editor.connection other).target = some this

def SameLinks (before after : Editor σ) : Prop :=
  ∀ id, (after.connection id).target = (before.connection id).target

/-- Listeners do not link or unlink anything. -/
def KeepsLinks (react : Reaction σ) : Prop :=
  ∀ listener editor, Ends (react listener) editor (SameLinks editor)

/-- The states that a host can reach as far as links are concerned, with any
number of workspaces.  Connections are linked and unlinked in no other way, so
all else that happens leaves the links as they are. -/
inductive LinkHistory : Editor σ → Prop
  | unlinked {editor : Editor σ} :
      (∀ id, (editor.connection id).target = none) →
      LinkHistory editor
  | elsewhere {before after : Editor σ} : LinkHistory before →
      SameLinks before after →
      LinkHistory after
  | connected {before after : Editor σ} {react : Reaction σ}
      {this other : ConnectionId}
      {outcome : Except Fault Unit} : LinkHistory before → KeepsLinks react →
      connect react this other before = (outcome, after) → LinkHistory after
  | disconnected {before after : Editor σ} {react : Reaction σ}
      {this : ConnectionId}
      {outcome : Except Fault Unit} : LinkHistory before → KeepsLinks react →
      disconnect react this before = (outcome, after) → LinkHistory after

variable {before middle after editor : Editor σ} {react : Reaction σ}
  {this other : ConnectionId}

/-- A state in which none of the connections made so far is linked. -/
theorem LinkHistory.of_free
    (free : ∀ id ∈ editor.connections.keys, (editor.connection id).target =
      none) :
    editor.LinkHistory := by
  apply LinkHistory.unlinked
  intro id
  by_cases isKnown : editor.connections.contains id
  · exact free id ((OrderedMap.mem_keys_iff _ _).mpr isKnown)
  · unfold connection
    rw [OrderedMap.getD_of_not_contains isKnown]
    rfl

theorem SameLinks.refl (editor : Editor σ) : SameLinks editor editor :=
  fun _ => rfl

theorem SameLinks.trans (first : SameLinks before middle)
    (second : SameLinks middle after) :
    SameLinks before after :=
  fun id => (second id).trans (first id)

theorem MutualLinks.same (back : before.MutualLinks)
    (same : SameLinks before after) :
    after.MutualLinks := by
  intro left right linked
  rw [same] at linked ⊢
  exact back left right linked

theorem MutualLinks.unlink (back : editor.MutualLinks)
    (linked : (editor.connection this).target = some other) :
    (editor.unlink this other).MutualLinks := by
  intro left right isLinked
  have backLinked := back this other linked
  rw [target_unlink] at isLinked ⊢
  split at isLinked
  · cases isLinked
  · rename_i untouched
    have stillLinked := back left right isLinked
    rw [if_neg]
    · exact stillLinked
    · rintro (isOther | isThis)
      · subst isOther
        rw [backLinked] at stillLinked
        cases stillLinked
        exact untouched (Or.inr rfl)
      · subst isThis
        rw [linked] at stillLinked
        cases stillLinked
        exact untouched (Or.inl rfl)

theorem target_link (editor : Editor σ) (this other id : ConnectionId) :
    ((editor.link this other).connection id).target =
      if other = id then some this
      else if this = id then some other
      else (editor.connection id).target :=
  target_setTargets editor this other _ _ id

/-- Two connections that are free can be linked. -/
theorem MutualLinks.link (back : editor.MutualLinks)
    (freeThis : (editor.connection this).target = none)
    (freeOther : (editor.connection other).target = none) :
    (editor.link this other).MutualLinks := by
  have unaimed : ∀ {free : ConnectionId},
      (editor.connection free).target = none →
      ∀ id, (editor.connection id).target ≠ some free := by
    intro free isFree id aims
    rw [back id free aims] at isFree
    cases isFree
  intro left right isLinked
  rw [target_link] at isLinked ⊢
  split at isLinked
  · rename_i isOther
    cases isLinked
    by_cases same : other = this
    · rw [if_pos same, ← isOther, same]
    · rw [if_neg same, if_pos rfl, isOther]
  · rename_i notOther
    split at isLinked
    · rename_i isThis
      cases isLinked
      rw [if_pos rfl, isThis]
    · rw [if_neg, if_neg]
      · exact back left right isLinked
      · rintro rfl
        exact unaimed freeThis left isLinked
      · rintro rfl
        exact unaimed freeOther left isLinked

section Keeps

variable (keeps : KeepsLinks react)

include keeps

theorem notify_sameLinks (workspace : WorkspaceId) (key : SlotKey) :
    Ends (notify react workspace key) editor (SameLinks editor) := by
  simp only [Ends, notify, leads_bind, leads_look, leads_pure]
  apply leads_forM fun _ current => SameLinks editor current
  · intro listener _ current _ sofar
    exact Ends.mono (keeps listener current) fun _ => sofar.trans
  · exact SameLinks.refl editor

theorem notifyEnds_sameLinks (this other : ConnectionId) :
    Ends (notifyEnds react this other) editor (SameLinks editor) := by
  simp only [Ends, notifyEnds, leads_bind, leads_look, leads_discard]
  apply Leads.imp (notify_sameLinks keeps _ _)
  intro _ middle first
  exact Ends.mono (notify_sameLinks keeps _ _) fun _ => first.trans

/-- However disconnecting ends, the connection is free and nothing is linked
that was not. -/
theorem disconnect_links (back : editor.MutualLinks)
    (this : ConnectionId) :
    Ends (disconnect react this) editor fun after => after.MutualLinks ∧
      (after.connection this).target = none ∧
        ∀ id, (editor.connection id).target = none →
          (after.connection id).target = none := by
  apply leads_disconnect
  · intro isFree
    exact ⟨back, isFree, fun _ => id⟩
  · intro other linked
    apply Ends.mono (notifyEnds_sameLinks keeps this other)
    intro after same
    refine ⟨(back.unlink linked).same same, ?_, ?_⟩
    · rw [same, target_unlink, if_pos (Or.inr rfl)]
    · intro id isFree
      rw [same, target_unlink]
      split
      · rfl
      · exact isFree

theorem connect_mutualLinks (back : editor.MutualLinks)
    (this other : ConnectionId) :
    Ends (connect react this other) editor MutualLinks := by
  refine leads_connect back (fun _ _ _ _ _ => back) fun caches _ => ?_
  have cached : MutualLinks { editor with caches } := back
  refine Leads.mono (disconnect_links keeps cached this) ?_
    fun _ _ both => both.1
  rintro _ middle ⟨backMiddle, freeThis, _⟩
  refine Leads.mono (disconnect_links keeps backMiddle other) ?_
    fun _ _ both => both.1
  rintro _ parted ⟨backParted, freeOther, stillFree⟩
  have linked := backParted.link (stillFree this freeThis) freeOther
  exact Ends.mono (notifyEnds_sameLinks keeps this other) fun _ => linked.same

end Keeps

theorem LinkHistory.mutualLinks (history : editor.LinkHistory) :
    editor.MutualLinks := by
  induction history with
  | unlinked free =>
      intro this other linked
      rw [free this] at linked
      cases linked
  | elsewhere _ same back => exact back.same same
  | connected _ keeps run back =>
      exact (connect_mutualLinks keeps back _ _).holds run
  | disconnected _ keeps run back =>
      exact ((disconnect_links keeps back _).holds run).1

end TypeFlow.Editor
