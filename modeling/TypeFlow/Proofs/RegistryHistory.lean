import Mathlib.Data.List.Induction
import TypeFlow.Proofs.RegistryCount

/-!
# Histories of a registry

A registry is used by a program and by the listeners that are called meanwhile.
Whoever is running may subscribe, release, clear a key or notify one.  It may
also return, so that the notification it was called by goes on, or raise, which
cuts that notification short.  A list of such moves is a history, and nothing
else is assumed of listeners.

Without clearing, the registry holds the listeners of the active subscriptions
at every moment, and a notification that returns has called those that were
there when it began.  A subscription whose key was cleared takes no listener
away as long as its listener is not subscribed there again.
-/

namespace TypeFlow

/-- What whoever is running does next. -/
inductive RegistryMove (L : Type) where
  | subscribe (key : SlotKey) (listener : L)
  | release (number : Nat)
  | clear (key : SlotKey)
  | notify (key : SlotKey)
  /-- The innermost notification calls its next listener or returns after the
  last one. -/
  | proceed
  /-- The innermost notification is cut short. -/
  | raise
  deriving DecidableEq, Repr

/-- A notification with the listeners it found and those it has called. -/
structure NotifyRound (L : Type) where
  key : SlotKey
  /-- How many moves were made before it began. -/
  began : Nat
  listeners : List L
  called : List L := []
  deriving DecidableEq, Repr

/-- A registry in the middle of its use. -/
structure RegistryUse (L : Type) where
  registry : Registry L := {}
  /-- The number of moves made. -/
  made : Nat := 0
  /-- The notifications that are going on, innermost first. -/
  rounds : List (NotifyRound L) := []
  /-- The notifications that returned, each with the number it returned. -/
  returned : List (NotifyRound L × Nat) := []
  /-- All listeners called, in order. -/
  log : List L := []
  deriving DecidableEq, Repr

variable {L : Type}

namespace RegistryMove

def isClear : RegistryMove L → Bool
  | .clear _ => true
  | _ => false

variable [DecidableEq L]

/-- What a move does to the registry itself. -/
def change : RegistryMove L → Registry L → Registry L
  | .subscribe key listener, registry => registry.subscribe key listener
  | .release number, registry => registry.release number
  | .clear key, registry => registry.clear key
  | _, registry => registry

end RegistryMove

namespace RegistryUse

/-- Lets the innermost notification go on. -/
def proceed (use : RegistryUse L) : RegistryUse L :=
  match use.rounds with
  | [] => use
  | round :: outer =>
      match round.listeners[round.called.length]? with
      | some listener =>
          { use with
            rounds := { round with
              called := round.called ++ [listener] } :: outer
            log := use.log ++ [listener] }
      | none =>
          { use with
            rounds := outer
            returned := use.returned ++ [(round, round.listeners.length)] }

/-- What a move does to the notifications. -/
def turn (use : RegistryUse L) : RegistryMove L → RegistryUse L
  | .notify key =>
      { use with
        rounds := ⟨key, use.made, use.registry.listenersAt key, []⟩ ::
          use.rounds }
  | .proceed => use.proceed
  | .raise => { use with rounds := use.rounds.tail }
  | _ => use

variable [DecidableEq L]

def next (use : RegistryUse L) (move : RegistryMove L) : RegistryUse L :=
  { use.turn move with
    registry := move.change use.registry, made := use.made + 1 }

def play (use : RegistryUse L) (moves : List (RegistryMove L)) :
    RegistryUse L :=
  moves.foldl next use

/-- A new registry after a history. -/
def played (moves : List (RegistryMove L)) : RegistryUse L :=
  play {} moves

theorem play_append (use : RegistryUse L) (moves more : List (RegistryMove L)) :
    use.play (moves ++ more) = (use.play moves).play more :=
  List.foldl_append

theorem played_append (moves more : List (RegistryMove L)) :
    played (moves ++ more) = (played moves).play more :=
  play_append _ moves more

theorem played_concat (moves : List (RegistryMove L)) (move : RegistryMove L) :
    played (moves ++ [move]) = (played moves).next move :=
  played_append moves [move]

@[simp]
theorem registry_next (use : RegistryUse L) (move : RegistryMove L) :
    (use.next move).registry = move.change use.registry :=
  rfl

theorem made_played (moves : List (RegistryMove L)) :
    (played moves).made = moves.length := by
  induction moves using List.reverseRecOn with
  | nil => rfl
  | append_singleton moves move induction =>
      rw [played_concat, List.length_append, ← induction]
      rfl

end RegistryUse

namespace Registry

variable {registry : Registry L} {number : Nat}

/-- No key is kept without listeners. -/
def Filled (registry : Registry L) : Prop :=
  ∀ key listed, registry.listeners.get? key = some listed → listed ≠ []

theorem Filled.subscribe (filled : registry.Filled) (key : SlotKey)
    (listener : L) :
    (registry.subscribe key listener).Filled := by
  intro other listed found
  rw [TypeFlow.Registry.subscribe, OrderedMap.get?_insert] at found
  split at found
  · cases found
    exact List.concat_ne_nil _ _
  · exact filled other listed found

variable [DecidableEq L]

theorem Filled.release (filled : registry.Filled) (number : Nat) :
    (registry.release number).Filled := by
  intro other listed found
  unfold TypeFlow.Registry.release at found
  split at found
  · exact filled other listed found
  · split at found
    · unfold detach at found
      split at found
      · exact filled other listed found
      · split at found
        · rw [OrderedMap.get?_erase] at found
          split at found
          · cases found
          · exact filled other listed found
        · rename_i nonempty
          rw [OrderedMap.get?_insert] at found
          split at found
          · cases found
            exact nonempty
          · exact filled other listed found
    · exact filled other listed found

/-- Releasing keeps the order of subscriptions if no listener is there twice. -/
theorem listenersAt_release_eq_served {key : SlotKey}
    (inOrder : registry.listenersAt key = registry.served key)
    (single : (registry.served key).Nodup) (number : Nat) :
    (registry.release number).listenersAt key = (registry.release number).served
      key := by
  by_cases isActive : ∃ subscription,
      registry.subscription? number = some subscription ∧
        subscription.active = true
  · obtain ⟨subscription, found, active⟩ := isActive
    obtain ⟨earlier, later, before, after⟩ := served_release found active key
    rw [before] at inOrder single
    rw [listenersAt_release, found, after]
    dsimp only
    by_cases serves : subscription.serves key
    · rw [if_pos serves] at inOrder single ⊢
      have notEarlier : subscription.listener ∉ earlier := by
        intro member
        exact List.disjoint_of_nodup_append single member (by simp)
      rw [inOrder, List.erase_append_right _ notEarlier]
      exact congrArg (earlier ++ ·) (List.erase_cons_head _ _)
    · rw [if_neg serves] at inOrder ⊢
      exact inOrder
  · rw [release_eq_self fun subscription found =>
      Bool.eq_false_iff.mpr fun active =>
        isActive ⟨subscription, found, active⟩]
    exact inOrder

/-- What holds as long as no key is cleared. -/
structure Kept (registry : Registry L) : Prop where
  exact : registry.Exact
  filled : registry.Filled
  distinct : registry.listeners.keys.Nodup

omit [DecidableEq L] in
theorem kept_empty : Kept ({} : Registry L) where
  exact := exact_empty
  filled := by
    intro key listed found
    cases found
  distinct := List.nodup_nil

theorem Kept.change (kept : registry.Kept) {move : RegistryMove L}
    (uncleared : move.isClear = false) : (move.change registry).Kept := by
  obtain ⟨exact, filled, distinct⟩ := kept
  cases move with
  | subscribe key listener =>
      exact ⟨exact.subscribe key listener, filled.subscribe key listener,
        OrderedMap.nodup_keys_insert key _ distinct⟩
  | release number =>
      exact ⟨exact.release number, filled.release number,
        nodup_keys_release distinct number⟩
  | clear key => cases uncleared
  | notify key => exact ⟨exact, filled, distinct⟩
  | proceed => exact ⟨exact, filled, distinct⟩
  | raise => exact ⟨exact, filled, distinct⟩

/-- The subscription was released. -/
def Ended (registry : Registry L) (number : Nat) : Prop :=
  ∃ subscription, registry.subscription? number = some subscription ∧
    subscription.active = false

theorem ended_release (issued : number < registry.nextNumber) :
    (registry.release number).Ended number := by
  obtain ⟨subscription, found⟩ : ∃ subscription, registry.subscription? number =
      some subscription :=
    ⟨_, List.getElem?_eq_getElem issued⟩
  refine ⟨subscription.ended, ?_, rfl⟩
  rw [subscription?_release, if_pos rfl, found]
  rfl

/-- What was released stays released. -/
theorem Ended.change (ended : registry.Ended number) (move : RegistryMove L) :
    (move.change registry).Ended number := by
  obtain ⟨subscription, found, inactive⟩ := ended
  cases move with
  | subscribe key listener =>
      refine ⟨subscription, ?_, inactive⟩
      have issued : number ≠ registry.nextNumber := by
        rintro rfl
        rw [subscription?_nextNumber] at found
        cases found
      simp only [RegistryMove.change, subscription?_subscribe, if_neg issued,
        found]
  | release other =>
      simp only [RegistryMove.change, Ended, subscription?_release, found]
      by_cases same : other = number
      · exact ⟨subscription.ended, by simp [same], rfl⟩
      · exact ⟨subscription, by simp [same], inactive⟩
  | clear key => exact ⟨subscription, found, inactive⟩
  | notify key => exact ⟨subscription, found, inactive⟩
  | proceed => exact ⟨subscription, found, inactive⟩
  | raise => exact ⟨subscription, found, inactive⟩

theorem Ended.release_eq_self (ended : registry.Ended number) :
    registry.release number = registry := by
  obtain ⟨subscription, found, inactive⟩ := ended
  apply TypeFlow.Registry.release_eq_self
  intro other isOther
  rw [found] at isOther
  cases isOther
  exact inactive

/-- A listener gets to a key by being subscribed there. -/
theorem mem_listenersAt_change {move : RegistryMove L} {key : SlotKey}
    {listener : L} (listed : listener ∈ (move.change registry).listenersAt
      key) :
    listener ∈ registry.listenersAt key ∨ move = .subscribe key listener := by
  cases move with
  | subscribe other new =>
      simp only [RegistryMove.change, listenersAt_subscribe] at listed
      split at listed
      · rename_i same
        subst same
        rcases List.mem_append.mp listed with earlier | isNew
        · exact Or.inl earlier
        · rw [List.mem_singleton.mp isNew]
          exact Or.inr rfl
      · exact Or.inl listed
  | release number =>
      simp only [RegistryMove.change, listenersAt_release] at listed
      split at listed
      · split at listed
        · exact Or.inl (List.mem_of_mem_erase listed)
        · exact Or.inl listed
      · exact Or.inl listed
  | clear other =>
      simp only [RegistryMove.change, listenersAt_clear] at listed
      split at listed
      · cases listed
      · exact Or.inl listed
  | notify other => exact Or.inl listed
  | proceed => exact Or.inl listed
  | raise => exact Or.inl listed

/-- Releasing takes a listener away exactly if the subscription is active and
its listener is there. -/
theorem listenersAt_release_eq_iff {subscription : Subscription L}
    (found : registry.subscription? number = some subscription) :
    (∀ key, (registry.release number).listenersAt key =
      registry.listenersAt key) ↔
      ¬ (subscription.active = true ∧
        subscription.listener ∈ registry.listenersAt subscription.key) := by
  constructor
  · rintro same ⟨active, listed⟩
    have here := same subscription.key
    rw [listenersAt_release, found] at here
    simp only [Subscription.serves, active, Bool.true_and, decide_true,
      if_true] at here
    have shorter := List.length_erase_of_mem listed
    have present := List.length_pos_of_mem listed
    rw [here] at shorter
    omega
  · intro away key
    rw [listenersAt_release, found]
    dsimp only
    split
    · rename_i serves
      rw [Subscription.serves, Bool.and_eq_true, decide_eq_true_eq] at serves
      apply List.erase_of_not_mem
      intro listed
      rw [← serves.2] at listed
      exact away ⟨serves.1, listed⟩
    · rfl

end Registry

namespace NotifyRound

variable [DecidableEq L] {round : NotifyRound L}

open RegistryUse (played)

/-- The notification began in this history and found the listeners of its key.
-/
structure Begun (moves : List (RegistryMove L)) (round : NotifyRound L) :
    Prop where
  asked : moves[round.began]? = some (.notify round.key)
  found : round.listeners =
    (played (moves.take round.began)).registry.listenersAt round.key

theorem Begun.concat {moves : List (RegistryMove L)} (begun : round.Begun moves)
    (move : RegistryMove L) : round.Begun (moves ++ [move]) := by
  obtain ⟨earlier, _⟩ := List.getElem?_eq_some_iff.mp begun.asked
  constructor
  · rw [List.getElem?_append_left earlier]
    exact begun.asked
  · rw [List.take_append_of_le_length (Nat.le_of_lt earlier)]
    exact begun.found

/-- The listeners called so far are the first ones. -/
def Ordered (round : NotifyRound L) : Prop :=
  round.called = round.listeners.take round.called.length

omit [DecidableEq L] in
theorem Ordered.call (ordered : round.Ordered) {listener : L}
    (isNext : round.listeners[round.called.length]? = some listener) :
    NotifyRound.Ordered { round with
      called := round.called ++ [listener] } := by
  unfold Ordered
  rw [List.length_append, List.length_singleton, List.take_add_one, isNext,
    ← ordered]
  rfl

omit [DecidableEq L] in
theorem Ordered.all (ordered : round.Ordered)
    (noNext : round.listeners[round.called.length]? = none) :
    round.called = round.listeners := by
  rw [ordered]
  exact List.take_of_length_le (List.getElem?_eq_none_iff.mp noNext)

end NotifyRound

namespace RegistryUse

variable [DecidableEq L] {moves : List (RegistryMove L)} {use : RegistryUse L}

/-- What holds of the notifications that are going on and of those that
returned. -/
structure Called (moves : List (RegistryMove L)) (use : RegistryUse L) :
    Prop where
  rounds : ∀ round ∈ use.rounds, round.Begun moves ∧ round.Ordered
  returned : ∀ round count, (round, count) ∈ use.returned →
    round.Begun moves ∧ round.called = round.listeners ∧
      count = round.listeners.length

theorem Called.proceed (called : use.Called moves) :
    use.proceed.Called moves := by
  unfold RegistryUse.proceed
  split
  · exact called
  · rename_i round outer isRounds
    have inner := called.rounds round (by simp [isRounds])
    have others : ∀ other ∈ outer, other.Begun moves ∧ other.Ordered := by
      intro other member
      exact called.rounds other (by simp [isRounds, member])
    split
    · rename_i listener isNext
      refine ⟨?_, called.returned⟩
      intro other member
      rcases List.mem_cons.mp member with rfl | isOuter
      · exact ⟨⟨inner.1.asked, inner.1.found⟩, inner.2.call isNext⟩
      · exact others other isOuter
    · rename_i noNext
      refine ⟨others, ?_⟩
      intro other count member
      rcases List.mem_append.mp member with earlier | isLast
      · exact called.returned other count earlier
      · cases List.mem_singleton.mp isLast
        exact ⟨inner.1, inner.2.all noNext, rfl⟩

theorem called_played (moves : List (RegistryMove L)) :
    (played moves).Called moves := by
  induction moves using List.reverseRecOn with
  | nil =>
      constructor
      · intro round member
        cases member
      · intro round count member
        cases member
  | append_singleton moves move called =>
      have grown : (played moves).Called (moves ++ [move]) := by
        constructor
        · intro round member
          exact ⟨(called.rounds round member).1.concat move,
            (called.rounds round member).2⟩
        · intro round count member
          obtain ⟨begun, isReturned⟩ := called.returned round count member
          exact ⟨begun.concat move, isReturned⟩
      rw [played_concat]
      cases move with
      | subscribe key listener => exact ⟨grown.rounds, grown.returned⟩
      | release number => exact ⟨grown.rounds, grown.returned⟩
      | clear key => exact ⟨grown.rounds, grown.returned⟩
      | notify key =>
          refine ⟨?_, grown.returned⟩
          intro round member
          rcases List.mem_cons.mp member with rfl | earlier
          · refine ⟨⟨?_, ?_⟩, rfl⟩
            · simp [made_played]
            · simp [made_played]
          · exact grown.rounds round earlier
      | proceed => exact ⟨grown.proceed.rounds, grown.proceed.returned⟩
      | raise =>
          refine ⟨?_, grown.returned⟩
          intro round member
          exact grown.rounds round (List.mem_of_mem_tail member)

theorem kept_played (uncleared : ∀ move ∈ moves, move.isClear = false) :
    (played moves).registry.Kept := by
  induction moves using List.reverseRecOn with
  | nil => exact Registry.kept_empty
  | append_singleton moves move induction =>
      rw [played_concat, registry_next]
      exact (induction fun earlier member =>
        uncleared earlier (by simp [member])).change (uncleared move (by simp))

/-- If no listener ever had two active subscriptions for a key at once, its
listeners stand in the order of the subscriptions. -/
theorem listenersAt_eq_served (uncleared : ∀ move ∈ moves, move.isClear = false)
    (key : SlotKey) (single : ∀ earlier, earlier <+: moves →
      ((played earlier).registry.served key).Nodup) :
    (played moves).registry.listenersAt key = (played moves).registry.served
      key := by
  induction moves using List.reverseRecOn with
  | nil => rfl
  | append_singleton moves move induction =>
      have before :=
        induction (fun earlier member => uncleared earlier (by simp [member]))
        fun earlier leads =>
          single earlier (leads.trans (List.prefix_append _ _))
      have distinct := single moves (List.prefix_append _ _)
      rw [played_concat, registry_next]
      cases move with
      | subscribe other listener =>
          change (Registry.subscribe _ other listener).listenersAt key =
            (Registry.subscribe _ other listener).served key
          rw [Registry.listenersAt_subscribe, Registry.served_subscribe]
          by_cases same : other = key
          · subst same
            simp [before]
          · simp [same, before]
      | release number =>
          exact Registry.listenersAt_release_eq_served before distinct number
      | clear other => cases uncleared (.clear other) (by simp)
      | notify other => exact before
      | proceed => exact before
      | raise => exact before

theorem ended_play {number : Nat} (ended : use.registry.Ended number)
    (moves : List (RegistryMove L)) :
    (use.play moves).registry.Ended number := by
  induction moves generalizing use with
  | nil => exact ended
  | cons move rest induction => exact induction (ended.change move)

theorem mem_listenersAt_play {key : SlotKey} {listener : L}
    (listed : listener ∈ (use.play moves).registry.listenersAt key) :
    listener ∈ use.registry.listenersAt key ∨
      .subscribe key listener ∈ moves := by
  induction moves generalizing use with
  | nil => exact Or.inl listed
  | cons move rest induction =>
      rcases induction listed with before | later
      · rcases Registry.mem_listenersAt_change before with earlier | isMove
        · exact Or.inl earlier
        · exact Or.inr (by simp [isMove])
      · exact Or.inr (List.mem_cons_of_mem move later)

/-- The registry holds what is subscribed, and notifications call what it
holds. -/
structure Faithful (moves : List (RegistryMove L)) : Prop where
  listeners : ∀ key,
    ((played moves).registry.listenersAt key).Perm
      ((played moves).registry.served key)
  inOrder : ∀ key,
    (∀ earlier, earlier <+: moves →
      ((played earlier).registry.served key).Nodup) →
      (played moves).registry.listenersAt key =
        (played moves).registry.served key
  filled : (played moves).registry.Filled
  counted : (played moves).registry.count =
    (played moves).registry.activeNumbers.length
  onceReleased : ∀ before number after,
    moves = before ++ .release number :: after →
    number < (played before).registry.nextNumber →
      (played moves).registry.release number = (played moves).registry
  returned : ∀ round count, (round, count) ∈ (played moves).returned →
    moves[round.began]? = some (.notify round.key) ∧
      round.called = (played (moves.take round.began)).registry.listenersAt
        round.key ∧
      count = round.called.length

theorem faithful_of_uncleared
    (uncleared : ∀ move ∈ moves, move.isClear = false) :
    Faithful moves := by
  have kept := kept_played uncleared
  refine ⟨kept.exact, fun key => listenersAt_eq_served uncleared key,
    kept.filled, kept.exact.count_eq kept.distinct, ?_, ?_⟩
  · intro before number after isMoves issued
    have ended : ((played before).next (.release number)).registry.Ended
        number :=
      Registry.ended_release issued
    rw [isMoves, played_append]
    exact (ended_play ended after).release_eq_self
  · intro round count member
    obtain ⟨begun, all, isCount⟩ :=
      (called_played moves).returned round count member
    rw [all]
    exact ⟨begun.asked, begun.found, isCount⟩

/-- After a key was cleared, releasing one of its subscriptions changes no list
of listeners, at whatever later moment, unless its listener was subscribed there
again.  It does take that listener away if it is there. -/
theorem cleared_subscription_silent (before after : List (RegistryMove L))
    {key : SlotKey} {number : Nat} {subscription : Subscription L}
    (found : (played (before ++ .clear key :: after)).registry.subscription?
      number = some subscription) (onKey : subscription.key = key) :
    let registry := (played (before ++ .clear key :: after)).registry
    (.subscribe key subscription.listener ∉ after →
      ∀ other, (registry.release number).listenersAt other =
        registry.listenersAt other) ∧
    ((∀ other, (registry.release number).listenersAt other =
      registry.listenersAt other) ↔
      ¬ (subscription.active = true ∧
        subscription.listener ∈ registry.listenersAt key)) := by
  intro registry
  subst onKey
  have exactly := Registry.listenersAt_release_eq_iff found
  refine ⟨?_, exactly⟩
  intro notAgain
  refine exactly.mpr ?_
  rintro ⟨_, listed⟩
  rw [played_append] at listed
  change _ ∈ (((played before).next (.clear subscription.key)).play
    after).registry.listenersAt _ at listed
  rcases mem_listenersAt_play listed with atClear | again
  · simp [next, RegistryMove.change, Registry.listenersAt_clear] at atClear
  · exact notAgain again

/-- Two listeners lose their key, and one of them comes back and goes again. -/
def clearedPair : List (RegistryMove String) :=
  [.subscribe ⟨"adder", .input, "left"⟩ "echo",
    .subscribe ⟨"adder", .input, "left"⟩ "note",
    .clear ⟨"adder", .input, "left"⟩,
    .subscribe ⟨"adder", .input, "left"⟩ "note", .release 2,
    .subscribe ⟨"adder", .input, "left"⟩ "other"]

theorem cleared_subscription_silent_clearedPair :
    let registry := (played clearedPair).registry
    registry.listenersAt ⟨"adder", .input, "left"⟩ = ["other"] ∧
      (∀ other, (registry.release 0).listenersAt other =
        registry.listenersAt other) ∧
      ∀ other, (registry.release 1).listenersAt other =
        registry.listenersAt other := by
  intro registry
  have first := @cleared_subscription_silent String _ (clearedPair.take 2)
    (clearedPair.drop 3)
    ⟨"adder", .input, "left"⟩ 0 ⟨⟨"adder", .input, "left"⟩, "echo", true⟩
      (by decide) rfl
  have second := @cleared_subscription_silent String _ (clearedPair.take 2)
    (clearedPair.drop 3)
    ⟨"adder", .input, "left"⟩ 1 ⟨⟨"adder", .input, "left"⟩, "note", true⟩
      (by decide) rfl
  exact ⟨by decide, first.1 (by decide), second.2.mpr (by decide)⟩

/-- A listener is subscribed again after its key was cleared.  Releasing the
first subscription takes it away. -/
theorem cleared_subscription_heard :
    let registry := (played [.subscribe ⟨"adder", .input, "left"⟩ "echo",
      .clear ⟨"adder", .input, "left"⟩,
      .subscribe ⟨"adder", .input, "left"⟩ "echo"]).registry
    registry.listenersAt ⟨"adder", .input, "left"⟩ = ["echo"] ∧
      (registry.release 0).listenersAt ⟨"adder", .input, "left"⟩ = [] := by
  decide

end RegistryUse

end TypeFlow
