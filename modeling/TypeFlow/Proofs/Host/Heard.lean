import TypeFlow.Proofs.Host.Wired

/-!
# What the registry holds through changes

Adding a listener, closing a wiring and the subscriptions of callbacks keep
the registry exact and each subscription with its owner.  Closing a wiring
takes away its own listeners and leaves the others in order.
-/

namespace TypeFlow.Editor

variable {σ : Type} {workspace : WorkspaceId} {before after editor : Editor σ}
  {wiring : WiringId} {key : SlotKey} {number : Nat}

/-- Changes that leave registries and subscriptions alone and keep open
bindings open. -/
theorem Heard.keep (heard : Heard workspace before)
    (registry : ∀ id, (after.workspace id).registry =
      (before.workspace id).registry)
    (subscriptions : ∀ wiring,
      (after.wiring wiring).subscriptions =
        (before.wiring wiring).subscriptions)
    (staysOpen : ∀ wiring key binding, before.OpenBinding wiring key binding →
      ∃ current, after.OpenBinding wiring key current) : Heard workspace
      after := by
  constructor
  · rw [registry]
    exact heard.exact
  · simpa only [registry] using heard.silent
  · intro key wiring target listed
    rw [registry] at listed
    obtain ⟨binding, isOpen⟩ := heard.bound key wiring target listed
    exact staysOpen wiring target binding isOpen
  · simpa only [registry, subscriptions] using heard.owned
  · simpa only [registry, subscriptions] using heard.own

/-- Nobody has listened for a key that is not bound yet. -/
theorem Heard.unheard (heard : Heard workspace before)
    (fresh : (before.wiring wiring).bindings.get? key = none)
    (source : SlotKey) :
    .recompute wiring key ∉ (before.workspace workspace).registry.listenersAt
      source := by
  intro listed
  obtain ⟨_, _, bound⟩ := heard.bound source wiring key listed
  rw [fresh] at bound
  cases bound

theorem Heard.steady (heard : Heard workspace before)
    (steady : Steady before after) :
    Heard workspace after :=
  heard.keep steady.registry (fun wiring => by rw [steady.wiring])
    fun _ _ binding isOpen => ⟨binding, steady.openBinding.mpr isOpen⟩

@[simp] theorem wiring_updateStats (editor : Editor σ) (engine : EngineId)
    (change : Stats → Stats) (wiring : WiringId) :
    (editor.updateStats engine change).wiring wiring = editor.wiring wiring :=
  rfl

theorem workspace_addListener (editor : Editor σ)
    (workspace other : WorkspaceId) (engine : EngineId) (wiring : WiringId)
    (key source : SlotKey) :
    (editor.addListener workspace engine wiring key source).workspace other =
      if workspace = other then
        { editor.workspace workspace with
          registry := (editor.workspace workspace).registry.subscribe source
            (.recompute wiring key) }
      else editor.workspace other := by
  change (editor.updateRegistry workspace
    (·.subscribe source (.recompute wiring key))).workspace other = _
  rw [updateRegistry, workspace_updateWorkspace]

theorem wiring_addListener (editor : Editor σ) (workspace : WorkspaceId)
    (engine : EngineId) (wiring other : WiringId) (key source : SlotKey) :
    (editor.addListener workspace engine wiring key source).wiring other =
      if wiring = other then
        { editor.wiring wiring with
          subscriptions := (editor.wiring wiring).subscriptions ++
            [⟨workspace, (editor.workspace workspace).registry.nextNumber⟩] }
      else editor.wiring other := by
  rw [addListener, wiring_updateStats, wiring_updateWiring]
  rfl

theorem bare_wiring_addListener (editor : Editor σ) (workspace : WorkspaceId)
    (engine : EngineId) (wiring other : WiringId) (key source : SlotKey) :
    ((editor.addListener workspace engine wiring key source).wiring
      other).bare =
      (editor.wiring other).bare :=
  OrderedMap.read_getD_insert Wiring.bare rfl

theorem openBinding_of_bare {binding : Binding}
    (same : (after.wiring wiring).bare = (before.wiring wiring).bare) :
    after.OpenBinding wiring key binding ↔
      before.OpenBinding wiring key binding := by
  have sameBindings :
      (after.wiring wiring).bindings = (before.wiring wiring).bindings :=
    (congrArg Wiring.bindings same :)
  have sameDisposed :
      (after.wiring wiring).disposed = (before.wiring wiring).disposed :=
    (congrArg Wiring.disposed same :)
  unfold OpenBinding
  rw [sameBindings, sameDisposed]

section Registered

variable (heard : Heard workspace editor)

include heard

theorem Heard.listen (engine : EngineId) {binding : Binding}
    (isOpen : editor.OpenBinding wiring key binding) (source : SlotKey) :
    Heard workspace (editor.addListener workspace engine wiring key
      source) := by
  have registry :
      ((editor.addListener workspace engine wiring key source).workspace
      workspace).registry = (editor.workspace workspace).registry.subscribe
        source (.recompute wiring key) := by
    rw [workspace_addListener, if_pos rfl]
  have openSame : ∀ other otherKey otherBinding,
      (editor.addListener workspace engine wiring key source).OpenBinding
        other otherKey
        otherBinding ↔ editor.OpenBinding other otherKey otherBinding :=
    fun other _ _ => openBinding_of_bare
      (bare_wiring_addListener editor workspace engine wiring other key source)
  constructor
  · rw [registry]
    exact heard.exact.subscribe source _
  · intro other differs listenedKey
    rw [workspace_addListener, if_neg (Ne.symm differs)]
    exact heard.silent other differs listenedKey
  · intro listenedKey other target listed
    rw [registry, Registry.listenersAt_subscribe] at listed
    have origin : .recompute other target ∈
        (editor.workspace workspace).registry.listenersAt listenedKey ∨
          (other = wiring ∧ target = key) := by
      split at listed
      · rename_i sameKey
        rw [sameKey] at listed
        rcases List.mem_append.mp listed with earlier | new
        · exact Or.inl earlier
        · rw [List.mem_singleton] at new
          cases new
          exact Or.inr ⟨rfl, rfl⟩
      · exact Or.inl listed
    rcases origin with earlier | ⟨rfl, rfl⟩
    · obtain ⟨known, wasOpen⟩ := heard.bound listenedKey other target earlier
      exact ⟨known, (openSame other target known).mpr wasOpen⟩
    · exact ⟨binding, (openSame other target binding).mpr isOpen⟩
  · intro number subscription other target found active isListener
    rw [registry, Registry.subscription?_subscribe] at found
    rw [wiring_addListener]
    split at found
    · rename_i isNext
      cases found
      cases isListener
      rw [if_pos rfl, isNext]
      simp
    · have earlier := heard.owned number subscription other target found
        active isListener
      split
      · rename_i same
        rw [same]
        exact List.mem_append_left _ earlier
      · exact earlier
  · intro other id member
    rw [registry]
    have origin : id ∈ (editor.wiring other).subscriptions ∨
        (wiring = other ∧
          id =
            ⟨workspace, (editor.workspace workspace).registry.nextNumber⟩) := by
      rw [wiring_addListener] at member
      split at member
      · rename_i same
        rw [same] at member
        rcases List.mem_append.mp member with earlier | new
        · exact Or.inl earlier
        · exact Or.inr ⟨same, List.mem_singleton.mp new⟩
      · exact Or.inl member
    rcases origin with earlier | ⟨rfl, rfl⟩
    · obtain ⟨sameWorkspace, subscription, target, found, isListener⟩ :=
        heard.own other id earlier
      refine ⟨sameWorkspace, subscription, target, ?_, isListener⟩
      rw [Registry.subscription?_subscribe, if_neg]
      · exact found
      · intro isNext
        rw [isNext, Registry.subscription?_nextNumber] at found
        cases found
    · refine ⟨rfl, { key := source, listener := .recompute wiring key }, key,
        ?_, rfl⟩
      rw [Registry.subscription?_subscribe, if_pos rfl]

theorem Heard.number_mem_iff {subscription : Subscription Listener}
    (found : (editor.workspace workspace).registry.subscription? number =
      some subscription) :
    number ∈ ((editor.wiring wiring).subscriptions.filter editor.isActive).map
        SubscriptionId.number ↔
      subscription.active = true ∧
        subscription.listener.isOf wiring = true := by
  constructor
  · intro member
    obtain ⟨id, inActive, sameNumber⟩ := List.mem_map.mp member
    obtain ⟨inSubscriptions, active⟩ := List.mem_filter.mp inActive
    obtain ⟨sameWorkspace, own, target, ownFound, isListener⟩ :=
      heard.own wiring id inSubscriptions
    rw [sameNumber, found] at ownFound
    cases ownFound
    unfold isActive subscription? at active
    rw [sameWorkspace, sameNumber, found] at active
    exact ⟨active, Listener.isOf_eq_true_iff.mpr ⟨target, isListener⟩⟩
  · rintro ⟨active, isMine⟩
    obtain ⟨target, isListener⟩ := Listener.isOf_eq_true_iff.mp isMine
    have owned := heard.owned number subscription wiring target found
      active isListener
    refine List.mem_map.mpr ⟨⟨workspace, number⟩,
      List.mem_filter.mpr ⟨owned, ?_⟩, rfl⟩
    unfold isActive subscription?
    rw [found]
    exact active

theorem Heard.registry_closeWiring (wiring : WiringId) :
    ((editor.closeWiring wiring).workspace workspace).registry =
      (editor.workspace workspace).registry.releaseAll
        (((editor.wiring wiring).subscriptions.filter editor.isActive).map
          SubscriptionId.number) := by
  rw [workspace_closeWiring editor wiring
    (fun id member => (heard.own wiring id member).1), if_pos rfl]

/-- Closing a wiring takes away exactly its own listeners. -/
theorem Heard.listenersAt_closeWiring (wiring : WiringId)
    (key : SlotKey) :
    ((editor.closeWiring wiring).workspace workspace).registry.listenersAt key =
      ((editor.workspace workspace).registry.listenersAt key).filter
        fun listener => !listener.isOf wiring := by
  rw [heard.registry_closeWiring wiring]
  refine Registry.listenersAt_releaseAll heard.exact _ ?_ ?_ key
  · intro number subscription found active failed
    exact (heard.number_mem_iff found).mpr ⟨active, by simpa using failed⟩
  · intro number member subscription found
    simpa using ((heard.number_mem_iff found).mp member).2

theorem Heard.closed (wiring : WiringId) :
    Heard workspace (editor.closeWiring wiring) := by
  have listeners := heard.listenersAt_closeWiring wiring
  have registry := heard.registry_closeWiring wiring
  have subscriptions : ∀ other, wiring ≠ other →
      ((editor.closeWiring wiring).wiring other).subscriptions =
        (editor.wiring other).subscriptions := by
    intro other differs
    rw [wiring_closeWiring, if_neg differs]
  constructor
  · rw [registry]
    exact heard.exact.releaseAll _
  · intro other differs key
    rw [workspace_closeWiring editor wiring
      (fun id member => (heard.own wiring id member).1),
      if_neg (Ne.symm differs)]
    exact heard.silent other differs key
  · intro key other target listed
    rw [listeners] at listed
    obtain ⟨earlier, notMine⟩ := List.mem_filter.mp listed
    have differs : other ≠ wiring := by simpa [Listener.isOf] using notMine
    obtain ⟨binding, isOpen⟩ := heard.bound key other target earlier
    exact ⟨binding, openBinding_closeWiring.mpr ⟨differs, isOpen⟩⟩
  · intro number subscription other target found active isListener
    rw [registry, Registry.subscription?_releaseAll] at found
    split at found
    · obtain ⟨earlier, _, ended⟩ := Option.map_eq_some_iff.mp found
      subst ended
      cases active
    · rename_i kept
      have differs : wiring ≠ other := by
        rintro rfl
        refine kept ((heard.number_mem_iff found).mpr ⟨active, ?_⟩)
        exact Listener.isOf_eq_true_iff.mpr ⟨target, isListener⟩
      rw [subscriptions other differs]
      exact heard.owned number subscription other target found active isListener
  · intro other id member
    have differs : wiring ≠ other := by
      rintro rfl
      rw [wiring_closeWiring, if_pos rfl] at member
      cases member
    rw [subscriptions other differs] at member
    obtain ⟨sameWorkspace, subscription, target, found, isListener⟩ :=
      heard.own other id member
    refine ⟨sameWorkspace, ?_⟩
    rw [registry, Registry.subscription?_releaseAll]
    split
    · exact ⟨subscription.ended, target, by rw [found]; rfl, isListener⟩
    · exact ⟨subscription, target, found, isListener⟩

end Registered

theorem registry_updateRegistry (editor : Editor σ)
    (workspace other : WorkspaceId)
    (change : Registry Listener → Registry Listener) :
    ((editor.updateRegistry workspace change).workspace other).registry =
      if workspace = other then change (editor.workspace workspace).registry
      else (editor.workspace other).registry := by
  rw [updateRegistry, workspace_updateWorkspace]
  split <;> rfl

/-- A callback that listens changes nothing for bindings. -/
theorem recompute_mem_listened {otherKey : SlotKey} {callback : CallbackId}
    {target : SlotKey} :
    .recompute wiring target ∈ ((editor.updateRegistry workspace
      (·.subscribe key (.callback callback))).workspace
      workspace).registry.listenersAt otherKey ↔
      .recompute wiring target ∈
        (editor.workspace workspace).registry.listenersAt otherKey := by
  rw [registry_updateRegistry, if_pos rfl, Registry.listenersAt_subscribe]
  split
  · rename_i sameKey
    simp [sameKey]
  · rfl

theorem mem_listenersAt_of_unlistened {listener : Listener}
    (listed : listener ∈
      ((editor.releaseSubscription ⟨workspace, number⟩).workspace
      workspace).registry.listenersAt key) :
    listener ∈ (editor.workspace workspace).registry.listenersAt key := by
  rw [releaseSubscription, registry_updateRegistry, if_pos rfl,
    Registry.listenersAt_release] at listed
  split at listed
  · split at listed
    · exact List.mem_of_mem_erase listed
    · exact listed
  · exact listed

theorem Heard.listened (heard : Heard workspace editor) (key : SlotKey)
    (callback : CallbackId) :
    Heard workspace
      (editor.updateRegistry workspace
        (·.subscribe key (.callback callback))) := by
  constructor
  · rw [registry_updateRegistry, if_pos rfl]
    exact heard.exact.subscribe key _
  · intro other differs otherKey
    rw [registry_updateRegistry, if_neg (Ne.symm differs)]
    exact heard.silent other differs otherKey
  · intro otherKey wiring target listed
    exact heard.bound otherKey wiring target (recompute_mem_listened.mp listed)
  · intro number subscription wiring target found active isListener
    rw [registry_updateRegistry, if_pos rfl, Registry.subscription?_subscribe]
      at found
    split at found
    · cases found
      cases isListener
    · exact heard.owned number subscription wiring target found
        active isListener
  · intro wiring id member
    obtain ⟨sameWorkspace, subscription, target, found, isListener⟩ :=
      heard.own wiring id member
    refine ⟨sameWorkspace, subscription, target, ?_, isListener⟩
    rw [registry_updateRegistry, if_pos rfl, Registry.subscription?_subscribe,
      if_neg]
    · exact found
    · intro isNext
      rw [isNext, Registry.subscription?_nextNumber] at found
      cases found

theorem Heard.unlistened (heard : Heard workspace editor) (number : Nat) :
    Heard workspace (editor.releaseSubscription ⟨workspace, number⟩) := by
  have registry : ((editor.releaseSubscription ⟨workspace, number⟩).workspace
      workspace).registry = (editor.workspace workspace).registry.release
      number := by
    rw [releaseSubscription, registry_updateRegistry, if_pos rfl]
  constructor
  · rw [registry]
    exact heard.exact.release number
  · intro other differs key
    rw [releaseSubscription, registry_updateRegistry, if_neg (Ne.symm differs)]
    exact heard.silent other differs key
  · intro key wiring target listed
    exact heard.bound key wiring target (mem_listenersAt_of_unlistened listed)
  · intro other subscription wiring target found active isListener
    rw [registry, Registry.subscription?_release] at found
    split at found
    · obtain ⟨earlier, _, ended⟩ := Option.map_eq_some_iff.mp found
      subst ended
      cases active
    · exact heard.owned other subscription wiring target found active isListener
  · intro wiring id member
    obtain ⟨sameWorkspace, subscription, target, found, isListener⟩ :=
      heard.own wiring id member
    refine ⟨sameWorkspace, ?_⟩
    rw [registry, Registry.subscription?_release]
    split
    · exact ⟨subscription.ended, target, by rw [found]; rfl, isListener⟩
    · exact ⟨subscription, target, found, isListener⟩

end TypeFlow.Editor
