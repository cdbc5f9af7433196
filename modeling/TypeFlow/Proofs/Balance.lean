import TypeFlow.Proofs.Host.AtHome
import TypeFlow.Proofs.RegistryCount
import TypeFlow.Proofs.Rollback

/-!
# Subscriptions balance

As long as only engines listen, each registered listener belongs to an active
subscription and each active subscription is held by one recorded wiring that
is not disposed.  The counters of the engine agree with the registry, and no
binding is registered twice under one key.  If fields stay on their blocks, a
binding is registered exactly once for each of its sources.
-/

namespace TypeFlow.Editor

open OrderedMap (contains_iff_get? getD mem_keys_iff nodup_keys_insert
  read_getD_insert values_eq_map_getD)

variable {σ : Type} {wiring : WiringId} {liberties : Liberties}

/-- The subscriptions held by recorded wirings that are not disposed. -/
def heldSubscriptions (editor : Editor σ) (engine : EngineId) :
    List SubscriptionId :=
  ((editor.engine engine).wirings.values.filter fun wiring =>
    !(editor.wiring wiring).disposed).flatMap fun wiring =>
      (editor.wiring wiring).subscriptions

/-- Registry, counters and wirings agree in what is subscribed. -/
structure Balanced (workspace : WorkspaceId) (engine : EngineId)
    (editor : Editor σ) : Prop where
  counted : ((editor.workspace workspace).registry.count : Int) =
    (editor.engine engine).stats.liveSubscriptions
  held : (editor.workspace workspace).registry.count =
    (editor.heldSubscriptions engine).length
  active : ∀ id ∈ editor.heldSubscriptions engine, editor.isActive id = true
  single : ∀ key wiring target,
    ((editor.workspace workspace).registry.listenersAt key).count
      (.recompute wiring target) ≤ 1

/-- What every change keeps, whether a wiring is pending or not. -/
structure Tallied (workspace : WorkspaceId) (engine : EngineId)
    (editor : Editor σ) : Prop where
  keys : (editor.workspace workspace).registry.listeners.keys.Nodup
  records : (editor.engine engine).wirings.keys.Nodup
  live : (editor.engine engine).stats.liveSubscriptions =
    (editor.workspace workspace).registry.activeNumbers.length
  active : ∀ wiring, ∀ id ∈ (editor.wiring wiring).subscriptions,
    editor.isActive id = true
  distinct : ∀ wiring, (editor.wiring wiring).subscriptions.Nodup
  single : ∀ key wiring target,
    ((editor.workspace workspace).registry.listenersAt key).count
      (.recompute wiring target) ≤ 1
  recomputes : ∀ key callback,
    .callback callback ∉ (editor.workspace workspace).registry.listenersAt key

section Tally

variable {settings : Settings} {workspace : WorkspaceId} {engine : EngineId}
  {pending : Option WiringId} {before after editor : Editor σ}

/-- Changes that subscribe and release nothing. -/
theorem Tallied.keep (tallied : Tallied workspace engine before)
    (registry : ∀ id, (after.workspace id).registry =
      (before.workspace id).registry)
    (records : (after.engine engine).wirings.keys.Nodup)
    (live : (after.engine engine).stats.liveSubscriptions =
      (before.engine engine).stats.liveSubscriptions)
    (subscriptions : ∀ wiring,
      (after.wiring wiring).subscriptions =
        (before.wiring wiring).subscriptions) :
    Tallied workspace engine after where
  keys := by rw [registry]; exact tallied.keys
  records := records
  live := by rw [live, registry]; exact tallied.live
  active := by
    intro wiring id member
    rw [subscriptions] at member
    rw [Underway.isActive_congr registry]
    exact tallied.active wiring id member
  distinct := by
    intro wiring
    rw [subscriptions]
    exact tallied.distinct wiring
  single := by rw [registry]; exact tallied.single
  recomputes := by rw [registry]; exact tallied.recomputes

theorem Tallied.steady (tallied : Tallied workspace engine before)
    (steady : Steady before after) : Tallied workspace engine after :=
  tallied.keep steady.registry (by rw [steady.recorded]; exact tallied.records)
    (steady.liveSubscriptions engine) fun wiring => by rw [steady.wiring]

/-- A subscription is held by one wiring only, under its own number. -/
theorem Heard.same_holder (heard : Heard workspace editor)
    {left right : WiringId} {mine other : SubscriptionId}
    (inLeft : mine ∈ (editor.wiring left).subscriptions)
    (inRight : other ∈ (editor.wiring right).subscriptions)
    (sameNumber : mine.number = other.number) : left = right := by
  obtain ⟨_, subscription, _, found, isLeft⟩ := heard.own left mine inLeft
  obtain ⟨_, _, _, foundAgain, isRight⟩ := heard.own right other inRight
  rw [← sameNumber, found] at foundAgain
  cases foundAgain
  rw [isLeft] at isRight
  cases isRight
  rfl

theorem subscriptionId_eq_of_number {left right : SubscriptionId}
    (inLeft : left.workspace = workspace)
    (inRight : right.workspace = workspace)
    (sameNumber : left.number = right.number) : left = right := by
  obtain ⟨leftWorkspace, leftNumber⟩ := left
  obtain ⟨rightWorkspace, rightNumber⟩ := right
  cases inLeft
  cases inRight
  cases sameNumber
  rfl

section Close

variable (tallied : Tallied workspace engine editor)
  (heard : Heard workspace editor)

include tallied heard

/-- What a wiring holds is active in the registry. -/
theorem Tallied.number_active {id : SubscriptionId}
    (member : id ∈ (editor.wiring wiring).subscriptions) :
    id.number ∈ (editor.workspace workspace).registry.activeNumbers := by
  obtain ⟨sameWorkspace, subscription, _, found, _⟩ :=
    heard.own wiring id member
  have active := tallied.active wiring id member
  unfold isActive subscription? at active
  rw [sameWorkspace, found] at active
  exact Registry.mem_activeNumbers.mpr ⟨subscription, found, active⟩

/-- A binding that was not registered under a key is registered there once. -/
theorem Tallied.listen {key source : SlotKey} (fresh : .recompute wiring key ∉
      (editor.workspace workspace).registry.listenersAt source) :
    Tallied workspace engine
      (editor.addListener workspace engine wiring key source) := by
  have registry :
      ((editor.addListener workspace engine wiring key source).workspace
      workspace).registry = (editor.workspace workspace).registry.subscribe
        source (.recompute wiring key) := by
    rw [workspace_addListener, if_pos rfl]
  constructor
  · rw [registry]
    exact nodup_keys_insert source _ tallied.keys
  · rw [addListener, updateStats, engine_updateEngine, if_pos rfl]
    exact tallied.records
  · rw [registry, Registry.length_activeNumbers_subscribe, addListener,
      updateStats, engine_updateEngine, if_pos rfl]
    have live := tallied.live
    unfold Stats.liveSubscriptions at live ⊢
    push_cast
    rw [← live]
    change (editor.engine engine).stats.subscriptions + 1 -
      (editor.engine engine).stats.released = _
    omega
  · intro other id member
    refine Underway.isActive_addListener editor workspace engine
      wiring key source ?_
    rw [wiring_addListener] at member
    split at member
    · rcases List.mem_append.mp member with earlier | isNew
      · exact Or.inl (tallied.active wiring id earlier)
      · exact Or.inr (List.mem_singleton.mp isNew)
    · exact Or.inl (tallied.active other id member)
  · intro other
    rw [wiring_addListener]
    split
    · rw [List.nodup_append]
      refine ⟨tallied.distinct wiring, by simp, ?_⟩
      rintro id earlier next isNext rfl
      -- A number that is given out only now is not in use.
      obtain ⟨_, subscription, _, found, _⟩ := heard.own wiring id earlier
      rw [List.mem_singleton.mp isNext, Registry.subscription?_nextNumber]
        at found
      cases found
    · exact tallied.distinct other
  · intro otherKey other target
    rw [listenersAt_addListener, List.count_append]
    have atMost := tallied.single otherKey other target
    split
    · rename_i here
      by_cases same : Listener.recompute wiring key = .recompute other target
      · rw [← same, ← here.2, List.count_eq_zero_of_not_mem fresh]
        simp
      · simpa [List.count_singleton, same] using atMost
    · simpa using atMost
  · intro otherKey callback listed
    rw [listenersAt_addListener] at listed
    rcases List.mem_append.mp listed with earlier | isNew
    · exact tallied.recomputes otherKey callback earlier
    · split at isNew
      · cases List.mem_singleton.mp isNew
      · cases isNew

/-- Closing a wiring releases what it holds, and nothing else. -/
theorem Tallied.closed (sameEngine : (editor.wiring wiring).engine = engine) :
    Tallied workspace engine (editor.closeWiring wiring) := by
  have registry := heard.registry_closeWiring wiring
  have listeners := heard.listenersAt_closeWiring wiring
  have allActive : (editor.wiring wiring).subscriptions.filter editor.isActive =
      (editor.wiring wiring).subscriptions :=
    List.filter_eq_self.mpr (tallied.active wiring)
  rw [allActive] at registry
  have engineOf := engine_closeWiring editor wiring engine
  rw [if_pos sameEngine, sameEngine, allActive] at engineOf
  have numbers :
      ((editor.wiring wiring).subscriptions.map
        SubscriptionId.number).Nodup := by
    refine (tallied.distinct wiring).map_on ?_
    intro left inLeft right inRight
    exact subscriptionId_eq_of_number (heard.own wiring left inLeft).1
      (heard.own wiring right inRight).1
  have areActive :
      ∀ number ∈ (editor.wiring wiring).subscriptions.map SubscriptionId.number,
      number ∈ (editor.workspace workspace).registry.activeNumbers := by
    intro number member
    obtain ⟨id, inSubscriptions, rfl⟩ := List.mem_map.mp member
    exact tallied.number_active heard inSubscriptions
  have lengths := Registry.length_activeNumbers_releaseAll numbers areActive
  rw [List.length_map] at lengths
  constructor
  · rw [registry]
    exact Registry.nodup_keys_releaseAll tallied.keys _
  · rw [engineOf]
    exact tallied.records
  · have live := tallied.live
    rw [registry, engineOf]
    unfold Stats.liveSubscriptions at live ⊢
    dsimp only
    omega
  · intro other id member
    have differs : wiring ≠ other := by
      rintro rfl
      rw [wiring_closeWiring, if_pos rfl] at member
      cases member
    rw [wiring_closeWiring, if_neg differs] at member
    have sameWorkspace := (heard.own other id member).1
    have active := tallied.active other id member
    unfold isActive subscription? at active ⊢
    rw [sameWorkspace, registry, Registry.subscription?_releaseAll, if_neg]
    · rwa [sameWorkspace] at active
    · intro released
      obtain ⟨mine, inMine, sameNumber⟩ := List.mem_map.mp released
      exact differs (heard.same_holder inMine member sameNumber)
  · intro other
    rw [wiring_closeWiring]
    split
    · exact List.nodup_nil
    · exact tallied.distinct other
  · intro key other target
    rw [listeners]
    exact Nat.le_trans (List.filter_sublist.count_le _)
      (tallied.single key other target)
  · intro key callback listed
    rw [listeners] at listed
    exact tallied.recomputes key callback (List.mem_filter.mp listed).1

end Close

theorem Change.tallied {pending' : Option WiringId}
    (silent : ¬ liberties.listens)
    (change : Change liberties workspace engine pending before pending' after)
    (sound : Sound settings workspace engine pending before)
    (tallied : Tallied workspace engine before) :
    Tallied workspace engine after := by
  cases change with
  | steady steady => exact tallied.steady steady
  | blockMade | outputMade | inputMade | dummyMade | fieldMade | fieldAttached
  | valueSet
  | unlinked | linked =>
      exact tallied.keep (fun _ => rfl) tallied.records rfl fun _ => rfl
  | @variableMade _ _ _ _ _ _ store drawn made =>
      exact tallied.keep (fun _ => read_getD_insert Workspace.registry rfl)
        tallied.records rfl fun _ => rfl
  | @begun _ block mode known isIdle =>
      refine tallied.keep (fun _ => rfl) tallied.records rfl ?_
      intro wiring
      change ((before.beginWiring engine block mode).wiring
        wiring).subscriptions = _
      rw [wiring_beginWiring]
      split
      · rename_i isNext
        rw [← isNext, sound.tables.wiring_default]
        rfl
      · rfl
  | assembled offered step =>
      cases step with
      | ripple rippled => exact tallied.steady rippled.toSteady
      | @bind key binding =>
          exact tallied.keep (fun _ => rfl) tallied.records rfl
            fun _ => read_getD_insert Wiring.subscriptions rfl
      | listen isOpen member hasKey fresh =>
          exact tallied.listen sound.heard fresh
  | recorded attends =>
      refine tallied.keep (fun _ => rfl) ?_ ?_ fun _ => rfl
      · rw [recordWiring, engine_updateEngine, if_pos rfl]
        exact nodup_keys_insert _ _ tallied.records
      · rw [recordWiring, engine_updateEngine, if_pos rfl]
  | dropped nothing => exact tallied
  | forgotten found =>
      refine tallied.keep (fun _ => rfl) ?_ ?_ fun _ => rfl
      · rw [forgetWiring, engine_updateEngine, if_pos rfl]
        exact OrderedMap.nodup_keys_erase _ tallied.records
      · rw [forgetWiring, engine_updateEngine, if_pos rfl]
  | closed mine known isOpen =>
      exact tallied.closed sound.heard (sound.wired.engineOf _ known)
  | listened key callback listens => exact absurd listens silent
  | unlistened listens found isCallback => exact absurd listens silent

theorem Course.tallied {start finish : Option WiringId × Editor σ}
    (silent : ¬ liberties.listens)
    (course : Course liberties workspace engine start finish)
    (sound : Sound settings workspace engine start.1 start.2)
    (tallied : Tallied workspace engine start.2) :
    Tallied workspace engine finish.2 :=
  course.keeps (fun _ => Tallied workspace engine)
    (Change.tallied silent) sound tallied

theorem mem_records {map : OrderedMap String WiringId}
    (distinct : map.keys.Nodup) :
    wiring ∈ map.values ↔ ∃ id, map.get? id = some wiring := by
  rw [values_eq_map_getD map default distinct, List.mem_map]
  constructor
  · rintro ⟨id, member, isWiring⟩
    obtain ⟨found, hasId⟩ :=
      (contains_iff_get? _ _).mp ((mem_keys_iff _ _).mp member)
    refine ⟨id, ?_⟩
    rw [getD, hasId] at isWiring
    rw [hasId, ← isWiring]
    rfl
  · rintro ⟨id, hasId⟩
    refine ⟨id, (mem_keys_iff _ _).mpr (OrderedMap.contains_of_get? hasId), ?_⟩
    rw [getD, hasId]
    rfl

/-- No wiring is on record twice. -/
theorem Wired.nodup_records (wired : Wired engine pending editor)
    (distinct : (editor.engine engine).wirings.keys.Nodup) :
    (editor.engine engine).wirings.values.Nodup := by
  rw [values_eq_map_getD _ default distinct]
  refine distinct.map_on ?_
  intro left inLeft right inRight same
  obtain ⟨leftWiring, hasLeft⟩ :=
    (contains_iff_get? _ _).mp ((mem_keys_iff _ _).mp inLeft)
  obtain ⟨rightWiring, hasRight⟩ :=
    (contains_iff_get? _ _).mp ((mem_keys_iff _ _).mp inRight)
  rw [getD, getD, hasLeft, hasRight] at same
  change leftWiring = rightWiring at same
  rw [← (wired.recorded left leftWiring hasLeft).2, same]
  exact (wired.recorded right rightWiring hasRight).2

theorem mem_heldSubscriptions
    (distinct : (editor.engine engine).wirings.keys.Nodup)
    {id : SubscriptionId} :
    id ∈ editor.heldSubscriptions engine ↔ ∃ wiring,
      (∃ name, (editor.engine engine).wirings.get? name = some wiring) ∧
        (editor.wiring wiring).disposed = false ∧
        id ∈ (editor.wiring wiring).subscriptions := by
  simp only [heldSubscriptions, List.mem_flatMap, List.mem_filter,
    mem_records distinct, Bool.not_eq_true', and_assoc]

section Count

variable (tallied : Tallied workspace engine editor)
  (sound : Sound settings workspace engine none editor)

include tallied sound

/-- Between operations the held subscriptions are the active ones. -/
theorem Tallied.held_iff (id : SubscriptionId) :
    id ∈ editor.heldSubscriptions engine ↔
      id.workspace = workspace ∧
        id.number ∈ (editor.workspace workspace).registry.activeNumbers := by
  rw [mem_heldSubscriptions tallied.records]
  constructor
  · rintro ⟨wiring, _, _, member⟩
    exact ⟨(sound.heard.own wiring id member).1,
      tallied.number_active sound.heard member⟩
  · rintro ⟨sameWorkspace, isActive⟩
    obtain ⟨subscription, found, active⟩ :=
      Registry.mem_activeNumbers.mp isActive
    have listed :=
      (sound.heard.exact.mem_iff subscription.key subscription.listener).mpr
      ⟨id.number, subscription, found, active, rfl, rfl⟩
    cases isListener : subscription.listener with
    | callback callback =>
        rw [isListener] at listed
        exact absurd listed (tallied.recomputes _ callback)
    | recompute wiring target =>
        rw [isListener] at listed
        obtain ⟨binding, isOpen⟩ := sound.heard.bound _ wiring target listed
        have owned := sound.heard.owned id.number subscription wiring
          target found active isListener
        rw [← sameWorkspace] at owned
        exact ⟨wiring, ⟨_, sound.wired.onRecord wiring target binding isOpen
          nofun⟩, isOpen.1, owned⟩

/-- No subscription is held twice. -/
theorem Tallied.nodup_held : (editor.heldSubscriptions engine).Nodup := by
  unfold heldSubscriptions
  rw [List.nodup_flatMap]
  refine ⟨fun wiring _ => tallied.distinct wiring, ?_⟩
  have recorded := (sound.wired.nodup_records tallied.records).filter
    fun wiring => !(editor.wiring wiring).disposed
  refine recorded.imp ?_
  intro left right differ id inLeft inRight
  exact differ (sound.heard.same_holder inLeft inRight rfl)

theorem Tallied.balanced : Balanced workspace engine editor := by
  have counted := sound.heard.exact.count_eq tallied.keys
  have numbers :
      ((editor.heldSubscriptions engine).map SubscriptionId.number).Perm
      (editor.workspace workspace).registry.activeNumbers := by
    refine (List.perm_ext_iff_of_nodup ?_ (Registry.nodup_activeNumbers _)).mpr
      ?_
    · refine (tallied.nodup_held sound).map_on ?_
      intro left inLeft right inRight
      exact subscriptionId_eq_of_number
        ((tallied.held_iff sound left).mp inLeft).1
        ((tallied.held_iff sound right).mp inRight).1
    · intro number
      rw [List.mem_map]
      constructor
      · rintro ⟨id, isHeld, rfl⟩
        exact ((tallied.held_iff sound id).mp isHeld).2
      · intro active
        exact ⟨⟨workspace, number⟩, (tallied.held_iff sound _).mpr
          ⟨rfl, active⟩, rfl⟩
  constructor
  · rw [counted, tallied.live]
  · rw [counted, ← numbers.length_eq, List.length_map]
  · intro id isHeld
    obtain ⟨wiring, _, _, member⟩ :=
      (mem_heldSubscriptions tallied.records).mp isHeld
    exact tallied.active wiring id member
  · exact tallied.single

end Count

/-- A new engine has counted nothing. -/
theorem uncounted_openWorkspace {isTemplate : Bool} {outer : σ} :
    Leads (openWorkspace settings isTemplate) { outer }
      (fun _ after => (after.engine ⟨0⟩).stats.liveSubscriptions = 0)
      (fun _ _ => True) := by
  simp only [openWorkspace, newEngine, newChecker, newCache, newWorkspace,
    leads_bind, leads_look, leads_lookup, leads_modify, leads_pure]
  exact ⟨fun _ _ => rfl, fun _ _ => True.intro⟩

/-- The sources of bindings are attached, so they have keys. -/
theorem AtHome.sourceKey (home : AtHome workspace engine pending editor)
    {key : SlotKey} {binding : Binding}
    (isOpen : editor.OpenBinding wiring key binding) {link : Link}
    (member : link ∈ binding.links) :
    ∃ source, editor.slotKey link.source = .ok source := by
  cases isSource : link.source with
  | connection connection => exact ⟨_, rfl⟩
  | field field =>
      exact ⟨_, fieldKey_of_attached (home.source wiring key binding isOpen
        link member field isSource)⟩

theorem Blank.tallied (blank : Blank engine editor)
    (uncounted : (editor.engine engine).stats.liveSubscriptions = 0) :
    Tallied workspace engine editor := by
  constructor
  · rw [blank.registry]
    exact List.nodup_nil
  · rw [blank.records]
    exact List.nodup_nil
  · rw [blank.registry, uncounted]
    rfl
  · intro wiring id member
    rw [blank.wiring] at member
    cases member
  · intro wiring
    rw [blank.wiring]
    exact List.nodup_nil
  · intro key wiring target
    rw [blank.registry]
    exact Nat.zero_le 1
  · intro key callback listed
    rw [blank.registry] at listed
    cases listed

theorem Reached.tallied {outside : Callbacks σ} (keepsOut : KeepsOut outside)
    {admits : Editor σ → HostOperation → Except Fault Unit → Editor σ → Prop}
    (silent : ¬ liberties.listens)
    (within : ∀ before operation outcome after, admits before operation
      outcome after →
      operation.Within liberties before)
    (reached : Reached outside admits settings workspace editor) :
    Tallied workspace ⟨0⟩ editor :=
  reached.keeps keepsOut (Tallied workspace ⟨0⟩) within
    (fun run => (blank_openWorkspace.returns run).1.tallied
      (uncounted_openWorkspace.returns run))
    (Course.tallied silent)

end Tally

/-- In every state of a workspace to which only engines listen, registry,
counters and wirings agree.  If no field is moved, each binding is registered
exactly once for each of its sources. -/
theorem subscriptions_balanced {outside : Callbacks σ}
    (keepsOut : KeepsOut outside) {moves : Prop} {settings : Settings}
    {workspace : WorkspaceId} {editor : Editor σ}
    (reached : Reached outside (fun before operation _ _ =>
      operation.Within ⟨moves, False, True, True⟩ before)
      settings workspace editor) :
    Balanced workspace (editor.workspace workspace).engine editor ∧
      (¬ moves → ∀ wiring key binding, editor.OpenBinding wiring key binding →
        ∀ link ∈ binding.links, ∃ source,
          editor.slotKey link.source = .ok source ∧
          ((editor.workspace workspace).registry.listenersAt source).count
            (.recompute wiring key) = 1) := by
  have sound := reached.sound keepsOut
  have tallied : Tallied workspace ⟨0⟩ editor :=
    reached.tallied keepsOut id fun _ _ _ _ => id
  refine ⟨?_, ?_⟩
  · rw [sound.desk.engineOf]
    exact tallied.balanced sound
  · intro stays wiring key binding isOpen link member
    have home : AtHome workspace ⟨0⟩ none editor :=
      reached.atHome keepsOut stays id fun _ _ _ _ => id
    obtain ⟨source, hasKey⟩ := home.sourceKey isOpen member
    refine ⟨source, hasKey,
      Nat.le_antisymm (tallied.single source wiring key) ?_⟩
    rw [Nat.one_le_iff_ne_zero, ← Nat.pos_iff_ne_zero, List.count_pos_iff]
    exact home.attends wiring key binding isOpen nofun link member source hasKey

/-- The first block of the pair cannot be wired.  The wiring of the second one
is disposed, and it is wired again with two directives for one source. -/
def rewiredPair : List HostOperation :=
  faultyPair ++ [.wire ⟨0⟩ .live, .disposeWiring ⟨0⟩,
    .setTypes (.field ⟨1⟩) (some ["From:IN", "From:IN-From"]), .wire ⟨1⟩ .live,
    .wire ⟨1⟩ .live]

/-- Both directives share one registration, the only one there is. -/
theorem subscriptions_balanced_rewiredPair :
    ∃ editor : Editor Unit, ∃ binding,
      Reached idle (fun before operation _ _ =>
        operation.Within ⟨False, False, True, True⟩ before) {} ⟨0⟩ editor ∧
      Balanced ⟨0⟩ (editor.workspace ⟨0⟩).engine editor ∧
      (editor.workspace ⟨0⟩).registry.count = 1 ∧
      editor.OpenBinding ⟨2⟩ ⟨"B", .field, "F"⟩ binding ∧
      binding.links.length = 2 ∧
      ∀ link ∈ binding.links, ∃ source,
        editor.slotKey link.source = .ok source ∧
        ((editor.workspace ⟨0⟩).registry.listenersAt source).count
          (.recompute ⟨2⟩ ⟨"B", .field, "F"⟩) = 1 := by
  have reached : Reached idle (fun before operation _ _ =>
      operation.Within ⟨False, False, True, True⟩ before) {} ⟨0⟩
      (HostOperation.performAll idle 20 ⟨0⟩ rewiredPair freshWorkspace) :=
    reached_freshWorkspace.performAll 20 rewiredPair (by decide +kernel)
  generalize isFinal : HostOperation.performAll idle 20 ⟨0⟩ rewiredPair
    freshWorkspace = editor at reached
  have counted : (editor.workspace ⟨0⟩).registry.count = 1 := by
    rw [← isFinal]
    decide +kernel
  have undisposed : (editor.wiring ⟨2⟩).disposed = false := by
    rw [← isFinal]
    decide +kernel
  have links : ((editor.wiring ⟨2⟩).bindings.get? ⟨"B", .field, "F"⟩).map
      (fun binding => binding.links.length) = some 2 := by
    rw [← isFinal]
    decide +kernel
  obtain ⟨binding, bound, two⟩ := Option.map_eq_some_iff.mp links
  have balanced := subscriptions_balanced keepsOut_idle reached
  exact ⟨editor, binding, reached, balanced.1, counted,
    ⟨undisposed, bound⟩, two, balanced.2 id ⟨2⟩ _ binding ⟨undisposed, bound⟩⟩

/-- A dropdown is moved from a wired block to another one.  The binding that
reads it is not registered under the key the dropdown has now. -/
theorem unregistered_after_move :
    ∃ editor : Editor Unit, ∃ binding link source,
      Reached idle (fun before operation _ _ =>
        operation.Within ⟨True, False, True, True⟩ before) {} ⟨0⟩ editor ∧
      editor.OpenBinding ⟨0⟩ ⟨"A", .output, "output"⟩ binding ∧
      link ∈ binding.links ∧
      editor.slotKey link.source = .ok source ∧
      ((editor.workspace ⟨0⟩).registry.listenersAt source).count
        (.recompute ⟨0⟩ ⟨"A", .output, "output"⟩) = 0 := by
  refine ⟨HostOperation.performAll idle 20 ⟨0⟩
    [.newBlock "source" (some "A") [], .setOutput ⟨0⟩ (some ["From:D"]),
      .appendDummyInput ⟨0⟩ "",
      .newField "D" (.dropdown [[.text "x", .text "x", .list [.text "X"]]])
        (.text "x"), .appendField ⟨0⟩ 0 ⟨0⟩, .wire ⟨0⟩ .live,
        .newBlock "other" (some "B") [],
      .appendDummyInput ⟨1⟩ "", .appendField ⟨1⟩ 0 ⟨0⟩] freshWorkspace,
    ⟨.connection ⟨0⟩, [], [⟨⟨"D", none, none⟩, .field ⟨0⟩⟩],
      "source (A) connection 'output'"⟩,
    ⟨⟨"D", none, none⟩, .field ⟨0⟩⟩, ⟨"B", .field, "D"⟩, ?_,
    ⟨?_, ?_⟩, ?_, ?_, ?_⟩
  · exact reached_freshWorkspace.performAll 20 _ (by decide +kernel)
  all_goals decide +kernel

end TypeFlow.Editor
