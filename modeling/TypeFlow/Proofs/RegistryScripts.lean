import TypeFlow.Proofs.RegistryHistory
import TypeFlow.Slot.RegistryScript

/-!
# Scripts over a registry are histories

Listeners with scripts are one kind of listeners.  Whatever steps are performed
with them, some history makes the same subscriptions, releases and calls, and
the notifications that return do so in both with the same number.  The bound on
the nesting of scripts is never used up.
-/

namespace TypeFlow

def RegistryStep.isClear : RegistryStep → Bool
  | .clear _ => true
  | _ => false

namespace OrderedMap

variable {κ α : Type} [DecidableEq κ]

/-- Writing exchanges the weight of the old value for that of the new one. -/
theorem sum_write (weight : α → Nat) (key : κ) (value : α)
    (entries : List (κ × α)) :
    ((write key value entries).map fun entry => weight entry.2).sum +
        ((lookup key entries).map weight).getD 0 =
      (entries.map fun entry => weight entry.2).sum + weight value := by
  induction entries with
  | nil => simp [write, lookup]
  | cons entry rest induction =>
      by_cases here : entry.1 = key
      · simp [write, lookup, here]
        omega
      · simp [write, lookup, here]
        omega

end OrderedMap

namespace RegistryRun

variable {α β : Type} {run before after : RegistryRun}
  {use : RegistryUse String} {outer : List (NotifyRound String)}
  {listener : String} {moves : List (RegistryMove String)} {calls : List String}
  {fuel : Nat} {asked : RegistryStep}
  {result : Except Fault RegistryReply × RegistryRun}
  {steps : List RegistryStep}

/-- No script clears a key. -/
def NeverClears (run : RegistryRun) : Prop :=
  ∀ name script, run.scripts.get? name = some script →
    ∀ step ∈ script.steps, step.isClear = false

/-- Made anywhere, the moves do to a registry what happened between the two
runs, make these calls, and leave the notifications around them open. -/
structure Retells (moves : List (RegistryMove String)) (calls : List String)
    (before after : RegistryRun) : Prop where
  uncleared : ∀ move ∈ moves, move.isClear = false
  log : after.log = before.log ++ calls
  registry : ∀ use : RegistryUse String, use.registry = before.registry →
    (use.play moves).registry = after.registry
  rounds : ∀ use : RegistryUse String, use.registry = before.registry →
    (use.play moves).rounds = use.rounds
  called : ∀ use : RegistryUse String, use.registry = before.registry →
    (use.play moves).log = use.log ++ calls

namespace Retells

variable {moves more : List (RegistryMove String)} {calls others : List String}
  {before middle after : RegistryRun}

theorem nothing (registry : after.registry = before.registry)
    (log : after.log = before.log) :
    Retells [] [] before after where
  uncleared := List.forall_mem_nil _
  log := by simp [log]
  registry := fun use same => same.trans registry.symm
  rounds := fun _ _ => rfl
  called := fun use _ => (List.append_nil use.log).symm

theorem append (first : Retells moves calls before middle)
    (second : Retells more others middle after) :
    Retells (moves ++ more) (calls ++ others) before after where
  uncleared := List.forall_mem_append.mpr ⟨first.uncleared, second.uncleared⟩
  log := by rw [second.log, first.log, List.append_assoc]
  registry := by
    intro use same
    rw [RegistryUse.play_append]
    exact second.registry _ (first.registry use same)
  rounds := by
    intro use same
    rw [RegistryUse.play_append, second.rounds _ (first.registry use same)]
    exact first.rounds use same
  called := by
    intro use same
    rw [RegistryUse.play_append, second.called _ (first.registry use same),
      first.called use same, List.append_assoc]

/-- One move that changes only the registry. -/
theorem single {move : RegistryMove String} (uncleared : move.isClear = false)
    (turns : ∀ use : RegistryUse String, use.turn move = use)
    (registry : after.registry = move.change before.registry)
    (log : after.log = before.log) :
    Retells [move] [] before after where
  uncleared := List.forall_mem_singleton.mpr uncleared
  log := by simp [log]
  registry := by
    intro use same
    rw [registry, ← same]
    rfl
  rounds := by
    intro use _
    exact (congrArg RegistryUse.rounds (turns use) :)
  called := by
    intro use _
    rw [List.append_nil]
    exact (congrArg RegistryUse.log (turns use) :)

end Retells

/-- An action went on as some history does, without running out of turns. -/
structure Goes (before : RegistryRun) (result : Except Fault α × RegistryRun) :
    Prop where
  noClear : result.2.NeverClears
  turns : result.2.turns ≤ before.turns
  settled : result.1 ≠ .error .unsettled
  retold : ∃ moves calls, Retells moves calls before result.2

theorem run_bind (first : RegistryM α) (next : α → RegistryM β)
    (run : RegistryRun) :
    (first >>= next) run =
      match first run with
      | (.ok value, after) => next value after
      | (.error fault, after) => (.error fault, after) := by
  change ExceptT.bindCont next (first run).1 (first run).2 = _
  rcases first run with ⟨_ | _, _⟩ <;> rfl

theorem Goes.bind {first : RegistryM α} {next : α → RegistryM β}
    (begun : Goes run (first run))
    (continued : ∀ value after, after.NeverClears → after.turns ≤ run.turns →
      Goes after (next value after)) : Goes run ((first >>= next) run) := by
  rw [run_bind]
  rcases result : first run with ⟨fault | value, after⟩
  · rw [result] at begun
    exact ⟨begun.noClear, begun.turns, fun same =>
      begun.settled (by cases same; rfl), begun.retold⟩
  · rw [result] at begun
    obtain ⟨moves, calls, first⟩ := begun.retold
    have later := continued value after begun.noClear begun.turns
    obtain ⟨more, others, second⟩ := later.retold
    exact ⟨later.noClear, Nat.le_trans later.turns begun.turns,
      later.settled, _, _, first.append second⟩

/-- An answer that leaves the registry, the scripts and the log alone. -/
theorem goes_same {result : Except Fault α × RegistryRun}
    (noClear : before.NeverClears) (same : result.2 = before)
    (settled : result.1 ≠ .error .unsettled) : Goes before result where
  noClear := by rw [same]; exact noClear
  turns := Nat.le_of_eq (congrArg RegistryRun.turns same)
  settled := settled
  retold := ⟨[], [], .nothing (by rw [same]) (by rw [same])⟩

/-- The run with a call noted in its log. -/
def noted (run : RegistryRun) (listener : String) : RegistryRun :=
  { run with log := run.log ++ [listener] }

/-- To call a listener is to note the call and to go on. -/
def Calls (fuel : Nat) (call : String → RegistryM Unit) : Prop :=
  ∀ listener run, run.NeverClears → run.turns < fuel →
    Goes (run.noted listener) (call listener run)

/-- Made while the innermost notification has these listeners left, the moves
call them and do to a registry what happened until the last call. -/
structure RetellsRound (waiting : List String)
    (moves : List (RegistryMove String)) (calls : List String)
    (before : RegistryRun) (result : Except Fault Unit × RegistryRun) :
    Prop where
  uncleared : ∀ move ∈ moves, move.isClear = false
  log : result.2.log = before.log ++ calls
  plays : ∀ (use : RegistryUse String) (round : NotifyRound String) outer,
    use.registry = before.registry → use.rounds = round :: outer →
    round.listeners.drop round.called.length = waiting →
      (use.play moves).registry = result.2.registry ∧
      (use.play moves).log = use.log ++ calls ∧
      ∃ called, (use.play moves).rounds = { round with called } :: outer ∧
        (result.1 = .ok () → called = round.called ++ waiting)

theorem next_proceed_call {round : NotifyRound String}
    (isRounds : use.rounds = round :: outer)
    (isNext : round.listeners[round.called.length]? = some listener) :
    use.next .proceed =
      { use with
        made := use.made + 1
        rounds := { round with called := round.called ++ [listener] } :: outer
        log := use.log ++ [listener] } := by
  unfold RegistryUse.next RegistryUse.turn RegistryUse.proceed
  simp only [isRounds, isNext]
  rfl

theorem next_proceed_return {round : NotifyRound String}
    (isRounds : use.rounds = round :: outer)
    (noNext : round.listeners[round.called.length]? = none) :
    use.next .proceed =
      { use with
        made := use.made + 1
        rounds := outer
        returned := use.returned ++ [(round, round.listeners.length)] } := by
  unfold RegistryUse.next RegistryUse.turn RegistryUse.proceed
  simp only [isRounds, noNext]
  rfl

/-- The next listener is called, and what it does is retold. -/
theorem Retells.inRound {waiting : List String}
    (retells : Retells moves calls (before.noted listener) after)
    {round : NotifyRound String} (same : use.registry = before.registry)
    (isRounds : use.rounds = round :: outer)
    (isWaiting : round.listeners.drop round.called.length = listener ::
      waiting) :
    (use.play (.proceed :: moves)).registry = after.registry ∧
      (use.play (.proceed :: moves)).log = use.log ++ listener :: calls ∧
      (use.play (.proceed :: moves)).rounds =
        { round with called := round.called ++ [listener] } :: outer := by
  have isNext : round.listeners[round.called.length]? = some listener := by
    have first := congrArg List.head? isWaiting
    rwa [List.head?_drop] at first
  have isCalled := next_proceed_call isRounds isNext
  have sameCalled : (use.next .proceed).registry =
      (before.noted listener).registry := same
  change ((use.next .proceed).play moves).registry = _ ∧
    ((use.next .proceed).play moves).log = _ ∧
    ((use.next .proceed).play moves).rounds = _
  refine ⟨retells.registry _ sameCalled, ?_, ?_⟩
  · rw [retells.called _ sameCalled, isCalled]
    simp
  · rw [retells.rounds _ sameCalled, isCalled]

theorem Calls.round {call : String → RegistryM Unit} (calls : Calls fuel call)
    (waiting : List String) (noClear : run.NeverClears)
    (enough : run.turns < fuel) :
    let result := waiting.forM call run
    result.2.NeverClears ∧ result.2.turns ≤ run.turns ∧
      result.1 ≠ .error .unsettled ∧
      ∃ moves logged, RetellsRound waiting moves logged run result := by
  induction waiting generalizing run with
  | nil =>
      refine ⟨noClear, Nat.le_refl _, ?_, [], [], ?_, ?_, ?_⟩
      · intro unsettled
        cases (unsettled : Except.ok () = Except.error Fault.unsettled)
      · exact List.forall_mem_nil _
      · exact (List.append_nil _).symm
      · intro use round outer same isRounds _
        refine ⟨same, (List.append_nil _).symm, round.called, isRounds, ?_⟩
        intro _
        exact (List.append_nil _).symm
  | cons listener waiting induction =>
      have called := calls listener run noClear enough
      change let result := (call listener >>= fun _ => waiting.forM call) run
        result.2.NeverClears ∧ result.2.turns ≤ run.turns ∧
          result.1 ≠ .error .unsettled ∧
          ∃ moves logged, RetellsRound (listener :: waiting) moves
            logged run result
      rw [run_bind]
      obtain ⟨moves, logged, retells⟩ := called.retold
      have uncleared : ∀ move ∈ RegistryMove.proceed :: moves,
          move.isClear = false :=
        List.forall_mem_cons.mpr ⟨rfl, retells.uncleared⟩
      rcases isResult : call listener run with ⟨fault | value, after⟩
      · rw [isResult] at called retells
        refine ⟨called.noClear, called.turns, called.settled, .proceed :: moves,
          listener :: logged, uncleared, ?_, ?_⟩
        · rw [retells.log]
          simp [noted]
        · intro use round outer same isRounds isWaiting
          obtain ⟨registry, log, rounds⟩ :=
            retells.inRound same isRounds isWaiting
          refine ⟨registry, log, _, rounds, ?_⟩
          intro isOk
          cases isOk
      · rw [isResult] at called retells
        have fewer : after.turns ≤ run.turns := called.turns
        obtain ⟨noClearAfter, turns, settled, more, others, later⟩ :=
          induction called.noClear (Nat.lt_of_le_of_lt fewer enough)
        refine ⟨noClearAfter, Nat.le_trans turns fewer, settled,
          (.proceed :: moves) ++ more, (listener :: logged) ++ others,
          ?_, ?_, ?_⟩
        · exact List.forall_mem_append.mpr ⟨uncleared, later.uncleared⟩
        · rw [later.log, retells.log]
          simp [noted]
        · intro use round outer same isRounds isWaiting
          obtain ⟨registry, log, rounds⟩ :=
            retells.inRound same isRounds isWaiting
          have left : round.listeners.drop (round.called ++ [listener]).length =
              waiting := by
            rw [List.length_append, List.length_singleton, ← List.tail_drop,
              isWaiting]
            rfl
          obtain ⟨finalRegistry, finalLog, allCalled, finalRounds, all⟩ :=
            later.plays _ _ outer registry rounds left
          rw [RegistryUse.play_append]
          refine ⟨finalRegistry, ?_, allCalled, finalRounds, ?_⟩
          · rw [finalLog, log]
            simp
          · intro isOk
            rw [all isOk]
            simp

/-- How a notification ends. -/
def closing : Except Fault Unit → RegistryMove String
  | .ok _ => .proceed
  | .error _ => .raise

/-- A notification began after these moves, had this key and returned this
number. -/
def Returned (key : SlotKey) (began count : Nat) (use : RegistryUse String) :
    Prop :=
  ∃ round, (round, count) ∈ use.returned ∧ round.key = key ∧ round.began = began

/-- The whole notification, from its first move to its last. -/
theorem RetellsRound.closed {key : SlotKey}
    {result : Except Fault Unit × RegistryRun}
    (retells : RetellsRound (before.registry.listenersAt key) moves calls before
      result) (same : use.registry = before.registry) :
    let finish := use.play (.notify key :: (moves ++ [closing result.1]))
    finish.registry = result.2.registry ∧ finish.rounds = use.rounds ∧
      finish.log = use.log ++ calls ∧
      (result.1 = .ok () →
        Returned key use.made (before.registry.listenersAt key).length
          finish) := by
  intro finish
  have isFinish : finish =
      ((use.next (.notify key)).play moves).next (closing result.1) :=
    RegistryUse.play_append _ moves [closing result.1]
  have isOpen : (use.next (.notify key)).rounds =
      ⟨key, use.made, before.registry.listenersAt key, []⟩ :: use.rounds := by
    rw [← same]
    rfl
  obtain ⟨registry, log, called, rounds, all⟩ :=
    retells.plays (use.next (.notify key)) _ _ same isOpen rfl
  rcases result with ⟨fault | value, after⟩
  · rw [isFinish]
    refine ⟨registry, congrArg List.tail rounds, log, ?_⟩
    intro isOk
    cases isOk
  · have noNext : (before.registry.listenersAt key)[called.length]? = none := by
      rw [all rfl]
      exact List.getElem?_eq_none (Nat.le_refl _)
    rw [isFinish]
    change let last := RegistryUse.next _ .proceed
      last.registry = _ ∧ last.rounds = _ ∧ last.log = _ ∧
        (_ → Returned _ _ _ last)
    rw [next_proceed_return rounds noNext]
    refine ⟨registry, rfl, log, ?_⟩
    intro _
    exact ⟨_, List.mem_append_right _ (List.mem_singleton.mpr rfl), rfl, rfl⟩

theorem RetellsRound.notified {key : SlotKey}
    {result : Except Fault Unit × RegistryRun}
    (retells : RetellsRound (before.registry.listenersAt key) moves calls before
      result) :
    Retells (.notify key :: (moves ++ [closing result.1])) calls before result.2
      where
  uncleared := by
    have closes : (closing result.1).isClear = false := by
      rcases result.1 with _ | _ <;> rfl
    exact List.forall_mem_cons.mpr ⟨rfl, List.forall_mem_append.mpr
      ⟨retells.uncleared, List.forall_mem_singleton.mpr closes⟩⟩
  log := retells.log
  registry := fun _ same => (retells.closed same).1
  rounds := fun _ same => (retells.closed same).2.1
  called := fun _ same => (retells.closed same).2.2.1

/-- A notification that returned a number did so in the history. -/
def Answers (asked : RegistryStep) (outcome : Except Fault RegistryReply)
    (start finish : RegistryUse String) : Prop :=
  ∀ written count, asked = .notify written → outcome = .ok (.count count) →
    ∃ key, written.resolve = .ok key ∧ Returned key start.made count finish

/-- A step was performed as some history does. -/
structure Performs (asked : RegistryStep) (before : RegistryRun)
    (result : Except Fault RegistryReply × RegistryRun) : Prop where
  noClear : result.2.NeverClears
  turns : result.2.turns ≤ before.turns
  settled : result.1 ≠ .error .unsettled
  retold : ∃ moves calls, Retells moves calls before result.2 ∧
    ∀ use : RegistryUse String, use.registry = before.registry →
      Answers asked result.1 use (use.play moves)

theorem Performs.goes (performs : Performs asked before result) :
    Goes before result := by
  obtain ⟨moves, calls, retells, _⟩ := performs.retold
  exact ⟨performs.noClear, performs.turns, performs.settled, moves,
    calls, retells⟩

theorem Goes.performs (goes : Goes before result)
    (other : ∀ written, asked ≠ .notify written) :
    Performs asked before result := by
  obtain ⟨moves, calls, retells⟩ := goes.retold
  refine ⟨goes.noClear, goes.turns, goes.settled, moves, calls, retells, ?_⟩
  intro use _ written count isNotify
  exact (other written isNotify).elim

theorem step_notify {written : KeyText} {key : SlotKey}
    (isKey : written.resolve = .ok key) (call : String → RegistryM Unit)
    (run : RegistryRun) :
    step call (.notify written) run =
      match (run.registry.listenersAt key).forM call run with
      | (.ok _, after) =>
          (.ok (.count (run.registry.listenersAt key).length), after)
      | (.error fault, after) => (.error fault, after) := by
  simp only [step, isKey]
  rw [run_bind]
  change ((run.registry.listenersAt key).forM call >>= fun _ => pure _) run = _
  rw [run_bind]
  rcases (run.registry.listenersAt key).forM call run with ⟨_ | _, _⟩ <;> rfl

theorem goes_get {next : RegistryRun → RegistryM α}
    (goes : Goes run (next run run)) :
    Goes run ((get >>= next) run) :=
  goes

section Goes

variable (noClear : run.NeverClears)

include noClear

theorem goes_pure (value : α) : Goes run ((pure value : RegistryM α) run) := by
  apply goes_same noClear rfl
  intro failed
  cases failed

theorem goes_throw {fault : Fault} (settled : fault ≠ .unsettled) :
    Goes run ((throw fault : RegistryM α) run) := by
  apply goes_same noClear rfl
  intro failed
  cases failed
  exact settled rfl

theorem goes_resolve (written : KeyText) :
    Goes run ((liftM written.resolve : RegistryM SlotKey) run) := by
  unfold KeyText.resolve
  cases SlotKind.ofText? written.kind with
  | some kind => exact goes_pure noClear _
  | none => exact goes_throw noClear (by simp)

theorem goes_numberOf (handle : String) : Goes run (numberOf handle run) := by
  apply goes_get
  cases run.handles.get? handle with
  | some number => exact goes_pure noClear _
  | none => exact goes_throw noClear (by simp)

theorem goes_subscriptionText (number : Nat) :
    Goes run (subscriptionText number run) := by
  apply goes_get
  cases run.registry.subscription? number with
  | some subscription => exact goes_pure noClear _
  | none => exact goes_pure noClear _

/-- A change of the registry that one move makes. -/
theorem goes_modify {move : RegistryMove String}
    (uncleared : move.isClear = false)
    (turns : ∀ use : RegistryUse String, use.turn move = use)
    (handles : OrderedMap String Nat → OrderedMap String Nat) :
    Goes run ((modify fun run =>
      { run with
        registry := move.change run.registry
        handles := handles run.handles } : RegistryM Unit) run) where
  noClear := noClear
  turns := Nat.le_refl _
  settled := by
    intro failed
    cases failed
  retold := ⟨[move], [], .single uncleared turns rfl rfl⟩

/-- The steps that call no listener. -/
theorem goes_step (call : String → RegistryM Unit)
    (uncleared : asked.isClear = false)
    (other : ∀ written, asked ≠ .notify written) :
    Goes run (step call asked run) := by
  cases asked with
  | subscribe written listener handle =>
      apply Goes.bind (goes_resolve noClear written)
      intro key after noClear _
      apply goes_get
      apply Goes.bind (@goes_modify after noClear (.subscribe key listener) rfl
        (fun _ => rfl) fun handles =>
          handles.insert handle after.registry.nextNumber)
      intro _ after noClear _
      exact goes_subscriptionText noClear _
  | release handle =>
      apply Goes.bind (goes_numberOf noClear handle)
      intro number after noClear _
      apply Goes.bind (@goes_modify after noClear (.release number) rfl
        (fun _ => rfl) id)
      intro _ after noClear _
      exact goes_subscriptionText noClear number
  | query handle =>
      apply Goes.bind (goes_numberOf noClear handle)
      intro number after noClear _
      apply goes_get
      cases after.registry.subscription? number with
      | some subscription => exact goes_pure noClear _
      | none => exact goes_pure noClear _
  | notify written => exact (other written rfl).elim
  | count written =>
      cases written with
      | none =>
          exact goes_get (goes_pure noClear _)
      | some written =>
          apply Goes.bind (goes_resolve noClear written)
          intro key after noClear _
          exact goes_get (goes_pure noClear _)
  | clear written => cases uncleared
  | raise message => exact goes_throw noClear (by simp)

theorem performs_notify {call : String → RegistryM Unit}
    (calls : Calls fuel call) (written : KeyText) (enough : run.turns < fuel) :
    Performs (.notify written) run (step call (.notify written) run) := by
  cases isKey : written.resolve with
  | error fault =>
      have begun := goes_resolve noClear written
      rw [isKey] at begun
      have isRun : step call (.notify written) run = (.error fault, run) := by
        simp only [step, isKey]
        rfl
      obtain ⟨moves, logged, retells⟩ := begun.retold
      rw [isRun]
      refine ⟨begun.noClear, begun.turns, ?_, moves, logged, retells, ?_⟩
      · intro failed
        cases failed
        exact begun.settled rfl
      · intro use _ _ count _ isOk
        cases isOk
  | ok key =>
      obtain ⟨noClearAfter, turns, settled, moves, logged, retells⟩ :=
        calls.round (run.registry.listenersAt key) noClear enough
      have notified := retells.notified
      have closed :=
        fun (use : RegistryUse String) (same : use.registry = run.registry) =>
          (retells.closed same).2.2.2
      rw [step_notify isKey]
      rcases isResult : (run.registry.listenersAt key).forM call run with
        ⟨fault | value, after⟩
      · rw [isResult] at noClearAfter turns settled notified
        refine ⟨noClearAfter, turns, ?_, _, logged, notified, ?_⟩
        · intro failed
          cases failed
          exact settled rfl
        · intro use _ _ count _ isOk
          cases isOk
      · rw [isResult] at noClearAfter turns notified closed
        refine ⟨noClearAfter, turns, by simp, _, logged, notified, ?_⟩
        intro use same _ count isAsked isOk
        cases isAsked
        cases isOk
        exact ⟨key, isKey, closed use same rfl⟩

theorem performs_step {call : String → RegistryM Unit} (calls : Calls fuel call)
    (uncleared : asked.isClear = false) (enough : run.turns < fuel) :
    Performs asked run (step call asked run) := by
  by_cases notifies : ∃ written, asked = .notify written
  · obtain ⟨written, rfl⟩ := notifies
    exact performs_notify noClear calls written enough
  · have other : ∀ written, asked ≠ .notify written := fun written isNotify =>
      notifies ⟨written, isNotify⟩
    exact (goes_step noClear call uncleared other).performs other

end Goes

theorem turns_eq_sum (run : RegistryRun) :
    run.turns = (run.scripts.entries.map fun entry =>
      entry.2.times.toNat).sum := by
  unfold turns OrderedMap.values
  rw [← List.sum_eq_foldl, List.map_map]
  rfl

section Turns

variable (taken : run.takeTurn listener = some (steps, after))

include taken

theorem takeTurn_eq_some :
    ∃ script, script = run.scripts.getD listener {} ∧ 0 < script.times ∧
      steps = script.steps ∧
      after = { run with
        scripts := run.scripts.insert listener { script with
            times := script.times - 1 } } := by
  refine ⟨_, rfl, ?_⟩
  simp only [takeTurn] at taken
  split at taken
  · rename_i positive
    cases taken
    exact ⟨positive, rfl, rfl⟩
  · cases taken

/-- A script that is not empty uses up a turn. -/
theorem turns_takeTurn :
    after.turns ≤ run.turns ∧ (steps = [] ∨ after.turns < run.turns) := by
  obtain ⟨script, isScript, positive, rfl, rfl⟩ := takeTurn_eq_some taken
  have weights := OrderedMap.sum_write
    (fun script : ListenerScript => script.times.toNat)
    listener { script with times := script.times - 1 } run.scripts.entries
  simp only [turns_eq_sum, OrderedMap.insert]
  unfold OrderedMap.getD OrderedMap.get? at isScript
  cases found : OrderedMap.lookup listener run.scripts.entries with
  | none =>
      rw [found, Option.getD_none] at isScript
      rw [found, Option.map_none, Option.getD_none] at weights
      subst isScript
      have unused : (({} : ListenerScript).times - 1).toNat = 0 := rfl
      rw [unused] at weights
      exact ⟨Nat.le_of_eq weights, Or.inl rfl⟩
  | some old =>
      rw [found, Option.getD_some] at isScript
      rw [found, Option.map_some, Option.getD_some] at weights
      subst isScript
      dsimp only at weights
      exact ⟨by omega, Or.inr (by omega)⟩

theorem NeverClears.takeTurn (noClear : run.NeverClears) :
    after.NeverClears ∧ ∀ step ∈ steps, step.isClear = false := by
  obtain ⟨script, isScript, _, rfl, rfl⟩ := takeTurn_eq_some taken
  have uncleared : ∀ step ∈ script.steps, step.isClear = false := by
    rw [isScript, OrderedMap.getD]
    cases found : run.scripts.get? listener with
    | none => simp
    | some old => exact noClear listener old found
  refine ⟨?_, uncleared⟩
  intro name other found
  rw [OrderedMap.get?_insert] at found
  split at found
  · cases found
    exact uncleared
  · exact noClear name other found

end Turns

theorem goes_steps {call : String → RegistryM Unit} (calls : Calls fuel call)
    (uncleared : ∀ step ∈ steps, step.isClear = false)
    (noClear : run.NeverClears) (enough : steps = [] ∨ run.turns < fuel) :
    Goes run ((steps.forM fun next => discard (step call next)) run) := by
  induction steps generalizing run with
  | nil => exact goes_pure noClear ()
  | cons next rest induction =>
      have left : run.turns < fuel := enough.resolve_left (List.cons_ne_nil _ _)
      have performs := performs_step noClear calls
        (uncleared next (by simp)) left
      have first : Goes run
          ((discard (step call next) : RegistryM Unit) run) := by
        apply Goes.bind performs.goes
        intro _ after noClear _
        exact goes_pure noClear ()
      apply Goes.bind first
      intro _ after noClear fewer
      exact induction (fun other member => uncleared other (by simp [member]))
        noClear (Or.inr (Nat.lt_of_le_of_lt fewer left))

theorem call_succ (fuel : Nat) (listener : String) (run : RegistryRun) :
    call (fuel + 1) listener run =
      match (run.noted listener).takeTurn listener with
      | none => (.ok (), run.noted listener)
      | some (steps, after) =>
          (steps.forM fun next => discard (step (call fuel) next)) after := by
  change (match (run.noted listener).takeTurn listener with
    | none => pure ()
    | some (steps, after) => do
        set after
        steps.forM fun next => discard (step (call fuel) next) : RegistryM Unit)
      (run.noted listener) = _
  cases (run.noted listener).takeTurn listener with
  | none => rfl
  | some taken => rfl

/-- The fuel covers every script that can still run. -/
theorem calls_call (fuel : Nat) : Calls fuel (call fuel) := by
  induction fuel with
  | zero =>
      intro listener run _ enough
      cases enough
  | succ fuel induction =>
      intro listener run noClear enough
      rw [call_succ]
      have noClearNoted : (run.noted listener).NeverClears := noClear
      cases taken : (run.noted listener).takeTurn listener with
      | none => exact goes_pure noClearNoted ()
      | some result =>
          obtain ⟨steps, after⟩ := result
          have enoughNoted : (run.noted listener).turns < fuel + 1 := enough
          obtain ⟨noClearAfter, uncleared⟩ := noClearNoted.takeTurn taken
          obtain ⟨fewer, used⟩ := turns_takeTurn taken
          have left : steps = [] ∨ after.turns < fuel :=
            used.imp_right fun isLess => by omega
          have goes := goes_steps induction uncleared noClearAfter left
          obtain ⟨moves, calls, retells⟩ := goes.retold
          have taking : Retells [] [] (run.noted listener) after := by
            obtain ⟨script, _, _, _, rfl⟩ := takeTurn_eq_some taken
            exact .nothing rfl rfl
          exact ⟨goes.noClear, Nat.le_trans goes.turns fewer,
            goes.settled, _, _, taking.append retells⟩

theorem performs_perform (uncleared : asked.isClear = false)
    (noClear : run.NeverClears) :
    Performs asked { run with log := [] } (perform asked run) :=
  have noClearHere : NeverClears { run with log := [] } := noClear
  performs_step noClearHere (calls_call (run.turns + 1)) uncleared
    (Nat.lt_succ_self run.turns)

/-- The outcome of a step, told by the history up to the step and the moves of
the step. -/
structure Told (asked : RegistryStep)
    (result : Except Fault RegistryReply × RegistryRun)
    (earlier moves : List (RegistryMove String)) : Prop where
  uncleared : ∀ move ∈ earlier ++ moves, move.isClear = false
  settled : result.1 ≠ .error .unsettled
  registry : (RegistryUse.played (earlier ++ moves)).registry =
    result.2.registry
  rounds : (RegistryUse.played (earlier ++ moves)).rounds = []
  log : (RegistryUse.played (earlier ++ moves)).log =
    (RegistryUse.played earlier).log ++ result.2.log
  answers : Answers asked result.1 (RegistryUse.played earlier)
    (RegistryUse.played (earlier ++ moves))

/-- The outcomes of all steps, told by one history. -/
inductive ToldAll : List RegistryStep →
    List (Except Fault RegistryReply × RegistryRun) →
    List (RegistryMove String) → Prop
  | nil (earlier) : ToldAll [] [] earlier
  | cons {asked steps result results earlier moves} :
      Told asked result earlier moves →
        ToldAll steps results (earlier ++ moves) →
      ToldAll (asked :: steps) (result :: results) earlier

theorem Performs.told (performs : Performs asked { run with log := [] } result)
    {earlier : List (RegistryMove String)}
    (uncleared : ∀ move ∈ earlier, move.isClear = false)
    (registry : (RegistryUse.played earlier).registry = run.registry)
    (rounds : (RegistryUse.played earlier).rounds = []) :
    ∃ moves, Told asked result earlier moves := by
  obtain ⟨moves, calls, retells, answers⟩ := performs.retold
  have isLog : result.2.log = calls := retells.log
  refine ⟨moves, ?_, performs.settled, ?_, ?_, ?_, ?_⟩
  · intro move member
    rcases List.mem_append.mp member with before | inside
    · exact uncleared move before
    · exact retells.uncleared move inside
  · rw [RegistryUse.played_append]
    exact retells.registry _ registry
  · rw [RegistryUse.played_append, retells.rounds _ registry, rounds]
  · rw [RegistryUse.played_append, retells.called _ registry, isLog]
  · rw [RegistryUse.played_append]
    exact answers _ registry

theorem toldAll_performAll (uncleared : ∀ step ∈ steps, step.isClear = false)
    (noClear : run.NeverClears) {earlier : List (RegistryMove String)}
    (unclearedEarlier : ∀ move ∈ earlier, move.isClear = false)
    (registry : (RegistryUse.played earlier).registry = run.registry)
    (rounds : (RegistryUse.played earlier).rounds = []) :
    ToldAll steps (performAll steps run) earlier := by
  induction steps generalizing run earlier with
  | nil => exact .nil earlier
  | cons asked steps induction =>
      have performs := performs_perform (uncleared asked (by simp)) noClear
      obtain ⟨moves, told⟩ := performs.told unclearedEarlier registry rounds
      apply ToldAll.cons told
      apply induction
      · intro other isLater
        exact uncleared other (by simp [isLater])
      · exact performs.noClear
      · exact told.uncleared
      · exact told.registry
      · exact told.rounds

/-- As long as no key is cleared, the registry holds exactly the active
subscriptions and notifications call what it holds, whatever listeners do.
Scripted listeners make such histories. -/
theorem registry_holds_active (L : Type) [DecidableEq L] :
    (∀ moves : List (RegistryMove L), (∀ move ∈ moves, move.isClear = false) →
      RegistryUse.Faithful moves) ∧
    ∀ (scripts : OrderedMap String ListenerScript) (steps : List RegistryStep),
      NeverClears { scripts } → (∀ step ∈ steps, step.isClear = false) →
        ToldAll steps (performAll steps { scripts }) [] := by
  constructor
  · intro moves uncleared
    exact RegistryUse.faithful_of_uncleared uncleared
  · intro scripts steps noClear uncleared
    apply toldAll_performAll uncleared noClear
    · intro move member
      cases member
    · rfl
    · rfl

/-- One listener subscribes another, gives up a subscription of its own and
notifies its own key.  A third one raises when it is called first. -/
def crossingScripts : OrderedMap String ListenerScript :=
  ⟨[("echo",
    ⟨[.subscribe ⟨"adder", "input", "left"⟩ "note" "third", .release "first",
      .notify ⟨"adder", "input", "left"⟩], 1⟩),
    ("cross", ⟨[.raise "stop"], 1⟩)]⟩

def crossingSteps : List RegistryStep :=
  [.subscribe ⟨"adder", "input", "left"⟩ "echo" "first",
    .subscribe ⟨"adder", "input", "left"⟩ "cross" "second",
    .subscribe ⟨"adder", "input", "left"⟩ "echo" "again",
    .notify ⟨"adder", "input", "left"⟩, .notify ⟨"adder", "input", "left"⟩]

/-- The same as a history. -/
def crossingMoves : List (RegistryMove String) :=
  [.subscribe ⟨"adder", .input, "left"⟩ "echo",
    .subscribe ⟨"adder", .input, "left"⟩ "cross",
    .subscribe ⟨"adder", .input, "left"⟩ "echo",
    .notify ⟨"adder", .input, "left"⟩, .proceed,
    .subscribe ⟨"adder", .input, "left"⟩ "note", .release 0,
    .notify ⟨"adder", .input, "left"⟩, .proceed, .raise, .raise,
    .notify ⟨"adder", .input, "left"⟩, .proceed, .proceed, .proceed, .proceed]

theorem registry_holds_active_crossing :
    let results := performAll crossingSteps { scripts := crossingScripts }
    results.map (fun result => result.2.log) =
        [[], [], [], ["echo", "cross"], ["cross", "echo", "note"]] ∧
      (RegistryUse.played crossingMoves).log =
        ["echo", "cross", "cross", "echo", "note"] ∧
      (RegistryUse.played crossingMoves).returned.map Prod.snd = [3] ∧
      RegistryUse.Faithful crossingMoves ∧
      ToldAll crossingSteps results [] := by
  have noClear : NeverClears { scripts := crossingScripts } := by
    have all : ∀ script ∈ crossingScripts.values, ∀ step ∈ script.steps,
        step.isClear = false := by
      decide
    intro name script found
    exact all script (OrderedMap.mem_values_of_get? found)
  obtain ⟨faithful, told⟩ := registry_holds_active String
  exact ⟨by decide +kernel, by decide, by
    decide, faithful crossingMoves (by decide),
    told crossingScripts crossingSteps noClear (by decide)⟩

end RegistryRun

end TypeFlow
