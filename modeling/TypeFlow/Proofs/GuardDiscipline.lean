import Mathlib.Data.List.Nodup
import Mathlib.Logic.Function.Iterate
import Mathlib.Order.Bounds.Basic
import TypeFlow.Cascade.GuardProgram

/-!
# The guard is a disciplined stack

`GuardRun.steps` runs a program of guarded blocks as a whole.  `GuardMachine`
runs the same programs move by move and keeps the blocks that are open as
frames, so that every state the guard goes through is met after some move.  The
two agree.  At every moment the stack holds the slots of the open blocks, each
once and not more than allowed, and the guard remembers how many there were at
most.
-/

namespace TypeFlow

namespace Guard

/-- No slot is on the stack twice, the active slots are those on the stack, and
there are not more of them than allowed. -/
structure Disciplined (guard : Guard) : Prop where
  distinct : guard.stack.Nodup
  active : ∀ key, key ∈ guard.active ↔ key ∈ guard.stack
  bounded : (guard.depth : Int) ≤ max guard.maxDepth 0

/-- A slot is refused because it is on the stack or else because the stack is
full, and otherwise let in. -/
structure Judges (guard : Guard) (key : SlotKey) : Prop where
  again : guard.enter key = .error (.cyclicPropagation key guard.stack) ↔
    key ∈ guard.stack
  full : guard.enter key = .error (.cascadeTooDeep key guard.maxDepth) ↔
    key ∉ guard.stack ∧ guard.maxDepth ≤ guard.depth
  enters : (∃ entered, guard.enter key = .ok entered) ↔
    key ∉ guard.stack ∧ (guard.depth : Int) < guard.maxDepth

theorem Disciplined.judges {guard : Guard} (disciplined : guard.Disciplined)
    (key : SlotKey) :
    guard.Judges key := by
  have isActive_iff : guard.isActive key = true ↔ key ∈ guard.stack := by
    rw [isActive, List.contains_iff_mem, disciplined.active]
  by_cases there : key ∈ guard.stack
  · have refused : guard.enter key =
        .error (.cyclicPropagation key guard.stack) :=
      if_pos (isActive_iff.mpr there)
    constructor <;> simp [refused, there]
  · have notActive : ¬ guard.isActive key = true :=
      fun active => there (isActive_iff.mp active)
    by_cases isFull : guard.maxDepth ≤ guard.depth
    · have refused : guard.enter key =
          .error (.cascadeTooDeep key guard.maxDepth) := by
        rw [enter, if_neg notActive, if_pos isFull]
      constructor <;> simp [refused, there, isFull]
    · have room : (guard.depth : Int) < guard.maxDepth := Int.not_le.mp isFull
      have entered : ∃ entered, guard.enter key = .ok entered := by
        rw [enter, if_neg notActive, if_neg isFull]
        exact ⟨_, rfl⟩
      obtain ⟨after, isAfter⟩ := entered
      constructor <;> simp [isAfter, there, isFull, room]

/-- The guard stays, lets a slot in or lets its innermost slot out. -/
inductive Shifts : Guard → Guard → Prop
  | stays {guard : Guard} : Shifts guard guard
  | enters {guard entered : Guard} {key : SlotKey} :
      guard.enter key = .ok entered → Shifts guard entered
  | leaves {guard : Guard} {front : List SlotKey} {key : SlotKey} :
      guard.stack = front ++ [key] → Shifts guard (guard.leave key)

section Shifts

variable {before after : Guard} (shifts : Shifts before after)

include shifts

theorem Shifts.maxDepth : after.maxDepth = before.maxDepth := by
  cases shifts with
  | stays => rfl
  | enters entered =>
      obtain ⟨_, _, rfl⟩ := of_enter entered
      rfl
  | leaves => rfl

theorem Shifts.disciplined (disciplined : before.Disciplined) :
    after.Disciplined := by
  obtain ⟨distinct, active, bounded⟩ := disciplined
  cases shifts with
  | stays => exact ⟨distinct, active, bounded⟩
  | @enters _ key entered =>
      obtain ⟨notActive, room, rfl⟩ := of_enter entered
      have absent : key ∉ before.stack :=
        fun there => notActive ((active key).mpr there)
      refine ⟨?_, ?_, ?_⟩
      · rw [← List.concat_eq_append, List.nodup_concat]
        exact ⟨absent, distinct⟩
      · intro other
        simp only [List.mem_cons, List.mem_append, List.not_mem_nil, or_false,
          active]
        exact or_comm
      · simp only [depth, List.length_append, List.length_singleton] at room ⊢
        omega
  | @leaves front key isStack =>
      rw [isStack, ← List.concat_eq_append, List.nodup_concat] at distinct
      refine ⟨?_, ?_, ?_⟩
      · simpa [leave, isStack] using distinct.2
      · intro other
        simp only [leave, List.mem_filter, active, isStack,
          List.dropLast_concat, List.mem_append, List.mem_singleton, ne_eq,
          decide_eq_true_eq]
        constructor
        · rintro ⟨inFront | isKey, differs⟩
          · exact inFront
          · exact absurd isKey differs
        · intro inFront
          refine ⟨Or.inl inFront, ?_⟩
          rintro rfl
          exact distinct.1 inFront
      · simp only [depth, leave, isStack, List.dropLast_concat,
          List.length_append, List.length_singleton] at bounded ⊢
        omega

/-- The greatest depth takes each new depth into account. -/
theorem Shifts.deepest (reached : before.depth ≤ before.deepest) :
    after.deepest = max before.deepest after.depth := by
  cases shifts with
  | stays => exact (Nat.max_eq_left reached).symm
  | enters entered =>
      obtain ⟨_, _, rfl⟩ := of_enter entered
      simp [depth]
  | leaves isStack =>
      refine (Nat.max_eq_left ?_).symm
      refine Nat.le_trans ?_ reached
      simp [depth, leave]

end Shifts

end Guard

/-- A body that is being run, with what comes after it. -/
inductive GuardFrame where
  | block (key : SlotKey) (catches : Bool) (rest : List GuardStep)
  | attempt (rest : List GuardStep)

def GuardFrame.key? : GuardFrame → Option SlotKey
  | .block key _ _ => some key
  | .attempt _ => none

/-- A program in the middle of its run. -/
structure GuardMachine where
  /-- What is to be run in the innermost frame, or the fault that ends it. -/
  control : Except Fault (List GuardStep)
  /-- The bodies that are being run, innermost first. -/
  frames : List GuardFrame
  run : GuardRun

namespace GuardMachine

/-- The slots of the open blocks, innermost last. -/
def openKeys (frames : List GuardFrame) : List SlotKey :=
  (frames.filterMap GuardFrame.key?).reverse

/-- Goes on after a step that ended in this way. -/
def resume (rest : List GuardStep) (frames : List GuardFrame)
    (result : Except Fault Unit × GuardRun) : GuardMachine :=
  ⟨result.1.map fun _ => rest, frames, result.2⟩

/-- Begins a step.  A step without a body is done at once. -/
def begin (rest : List GuardStep) (frames : List GuardFrame) (run : GuardRun) :
    GuardStep → GuardMachine
  | .enter written body catches =>
      match written.resolve with
      | .error fault =>
          resume rest frames (GuardRun.handle catches (.error fault) run)
      | .ok key =>
          match run.enter key with
          | .error fault =>
              resume rest frames (GuardRun.handle catches (.error fault) run)
          | .ok inside => ⟨.ok body, .block key catches rest :: frames, inside⟩
  | .attempt body => ⟨.ok body, .attempt rest :: frames, run⟩
  | step => resume rest frames (GuardRun.step step run)

/-- Ends the innermost body.  Without one, all is done. -/
def finish (outcome : Except Fault Unit) (run : GuardRun) : List GuardFrame →
    GuardMachine
  | [] => resume [] [] (outcome, run)
  | .block key catches rest :: frames =>
      resume rest frames
        (GuardRun.handle catches outcome { run with
          guard := run.guard.leave key })
  | .attempt rest :: frames => resume rest frames (GuardRun.recover outcome run)

/-- One move. -/
def next (machine : GuardMachine) : GuardMachine :=
  match machine.control with
  | .ok (step :: rest) => begin rest machine.frames machine.run step
  | .ok [] => finish (.ok ()) machine.run machine.frames
  | .error fault => finish (.error fault) machine.run machine.frames

/-- A program that is about to be run on a new guard. -/
def start (maxDepth : Int) (program : List GuardStep) : GuardMachine :=
  ⟨.ok program, [], { guard := { maxDepth } }⟩

/-- Some number of moves leads from one machine to the other. -/
def Reaches (machine later : GuardMachine) : Prop :=
  ∃ moves, next^[moves] machine = later

theorem Reaches.refl (machine : GuardMachine) : machine.Reaches machine :=
  ⟨0, rfl⟩

theorem Reaches.trans {first second third : GuardMachine}
    (toSecond : first.Reaches second) (toThird : second.Reaches third) :
    first.Reaches third := by
  obtain ⟨moves, rfl⟩ := toSecond
  obtain ⟨more, rfl⟩ := toThird
  exact ⟨more + moves, Function.iterate_add_apply next more moves first⟩

theorem reaches_next (machine : GuardMachine) : machine.Reaches machine.next :=
  ⟨1, rfl⟩

end GuardMachine

namespace GuardRun

@[simp]
theorem guard_handle (catches : Bool) (outcome : Except Fault Unit)
    (run : GuardRun) :
    (handle catches outcome run).2.guard = run.guard := by
  unfold handle
  split
  · rfl
  · split <;> rfl

@[simp]
theorem guard_recover (outcome : Except Fault Unit) (run : GuardRun) :
    (recover outcome run).2.guard = run.guard := by
  unfold recover
  split <;> rfl

/-- A run goes into a block when the guard lets the slot in. -/
theorem guard_of_enter {run inside : GuardRun} {key : SlotKey}
    (enters : run.enter key = .ok inside) :
    run.guard.enter key = .ok inside.guard := by
  unfold enter at enters
  split at enters
  · cases enters
  · rename_i isEntered
    cases enters
    exact isEntered

theorem enter_eq_error {run : GuardRun} {key : SlotKey} {fault : Fault}
    (refused : run.guard.enter key = .error fault) :
    run.enter key = .error fault := by
  simp only [enter, refused]

/-- The same slots are on the stack and the same ones are active. -/
structure Restores (before after : GuardRun) : Prop where
  stack : after.guard.stack = before.guard.stack
  active : after.guard.active = before.guard.active

theorem Restores.of_guard_eq {before after : GuardRun}
    (same : after.guard = before.guard) :
    Restores before after :=
  ⟨congrArg Guard.stack same, congrArg Guard.active same⟩

/-- Leaving a slot undoes what entering it did, if the body restored the rest.
-/
theorem Restores.leave {run inside after : GuardRun} {key : SlotKey}
    (enters : run.enter key = .ok inside) (restores : Restores inside after) :
    Restores run { after with guard := after.guard.leave key } := by
  obtain ⟨stack, active⟩ :=
    Guard.leave_restores (guard_of_enter enters) restores.stack restores.active
  exact ⟨stack, active⟩

mutual

/-- A step leaves the stack and the active slots as it found them, whether it
ends with a fault or not. -/
theorem restores_step (run : GuardRun) : (one : GuardStep) → Restores run
    (step one run).2
  | .enter written body catches => by
      unfold step
      split
      · exact .of_guard_eq (guard_handle _ _ _)
      · split
        · exact .of_guard_eq (guard_handle _ _ _)
        · rename_i inside isInside
          have restored := Restores.leave isInside (restores_steps inside body)
          exact ⟨by rw [guard_handle]; exact restored.stack,
            by rw [guard_handle]; exact restored.active⟩
  | .attempt body => by
      have restored := restores_steps run body
      unfold step
      exact ⟨by rw [guard_recover]; exact restored.stack,
        by rw [guard_recover]; exact restored.active⟩
  | .query written => by
      unfold step
      split <;> exact .of_guard_eq rfl
  | .raise message => by
      unfold step
      exact .of_guard_eq rfl

theorem restores_steps (run : GuardRun) :
    (program : List GuardStep) → Restores run (steps program run).2
  | [] => by
      unfold steps
      exact .of_guard_eq rfl
  | first :: rest => by
      have restored := restores_step run first
      unfold steps
      split
      · rename_i after isAfter
        rw [isAfter] at restored
        have continued := restores_steps after rest
        exact ⟨continued.stack.trans restored.stack,
          continued.active.trans restored.active⟩
      · rename_i isAfter
        rw [isAfter] at restored
        exact restored

end

end GuardRun

namespace GuardMachine

theorem next_resume_nil (frames : List GuardFrame)
    (result : Except Fault Unit × GuardRun) :
    next (resume [] frames result) = finish result.1 result.2 frames := by
  obtain ⟨outcome, run⟩ := result
  cases outcome <;> rfl

mutual

/-- The machine comes to the end of a step with the result that the step has. -/
theorem reaches_step (rest : List GuardStep) (frames : List GuardFrame)
    (run : GuardRun) :
    (step : GuardStep) →
      (begin rest frames run step).Reaches
        (resume rest frames (GuardRun.step step run))
  | .enter written body catches => by
      cases isKey : written.resolve with
      | error fault =>
          simp only [begin, GuardRun.step, isKey]
          exact .refl _
      | ok key =>
          cases isInside : run.enter key with
          | error fault =>
              simp only [begin, GuardRun.step, isKey, isInside]
              exact .refl _
          | ok inside =>
              have inBody :=
                reaches_steps (.block key catches rest :: frames) inside body
              have left := reaches_next
                (resume [] (.block key catches rest :: frames)
                  (GuardRun.steps body inside))
              rw [next_resume_nil] at left
              simp only [begin, GuardRun.step, isKey, isInside]
              exact inBody.trans left
  | .attempt body => by
      have inBody := reaches_steps (.attempt rest :: frames) run body
      have left :=
        reaches_next (resume [] (.attempt rest :: frames)
          (GuardRun.steps body run))
      rw [next_resume_nil] at left
      simp only [begin, GuardRun.step]
      exact inBody.trans left
  | .query written => .refl _
  | .raise message => .refl _

theorem reaches_steps (frames : List GuardFrame) (run : GuardRun) :
    (program : List GuardStep) →
      Reaches ⟨.ok program, frames, run⟩
        (resume [] frames (GuardRun.steps program run))
  | [] => by
      unfold GuardRun.steps
      exact .refl _
  | first :: rest => by
      have begun := reaches_next ⟨.ok (first :: rest), frames, run⟩
      have done := begun.trans (reaches_step rest frames run first)
      unfold GuardRun.steps
      split
      · rename_i after isAfter
        rw [isAfter] at done
        exact done.trans (reaches_steps frames after rest)
      · rename_i isAfter
        rw [isAfter] at done
        exact done

end

/-- The stack holds the slots of the open blocks. -/
def InStep (machine : GuardMachine) : Prop :=
  machine.run.guard.stack = openKeys machine.frames

@[simp]
theorem openKeys_block (key : SlotKey) (catches : Bool) (rest : List GuardStep)
    (frames : List GuardFrame) :
    openKeys (.block key catches rest :: frames) = openKeys frames ++
      [key] := by
  simp [openKeys, GuardFrame.key?]

@[simp]
theorem openKeys_attempt (rest : List GuardStep) (frames : List GuardFrame) :
    openKeys (.attempt rest :: frames) = openKeys frames := by
  rw [openKeys, List.filterMap_cons_none rfl, openKeys]

/-- What a move may do to the guard, and that it keeps to the open blocks. -/
structure Moves (run : GuardRun) (machine : GuardMachine) : Prop where
  shifts : Guard.Shifts run.guard machine.run.guard
  inStep : machine.InStep

section Moves

variable {frames : List GuardFrame} {run : GuardRun}

theorem moves_resume (rest : List GuardStep)
    (result : Except Fault Unit × GuardRun)
    (inStep : run.guard.stack = openKeys frames)
    (same : result.2.guard = run.guard) :
    Moves run (resume rest frames result) := by
  constructor
  · change Guard.Shifts run.guard result.2.guard
    rw [same]
    exact .stays
  · change result.2.guard.stack = openKeys frames
    rw [same]
    exact inStep

theorem moves_begin (rest : List GuardStep) (step : GuardStep)
    (inStep : run.guard.stack = openKeys frames) : Moves run
      (begin rest frames run step) := by
  cases step with
  | enter written body catches =>
      simp only [begin]
      split
      · exact moves_resume rest _ inStep (GuardRun.guard_handle _ _ _)
      · split
        · exact moves_resume rest _ inStep (GuardRun.guard_handle _ _ _)
        · rename_i isInside
          have enters := GuardRun.guard_of_enter isInside
          obtain ⟨_, _, isGuard⟩ := Guard.of_enter enters
          refine ⟨.enters enters, ?_⟩
          simp [InStep, isGuard, inStep]
  | attempt body =>
      refine ⟨.stays, ?_⟩
      simp [begin, InStep, inStep]
  | query written =>
      refine moves_resume rest _ inStep ?_
      simp only [GuardRun.step]
      split <;> rfl
  | raise message => exact moves_resume rest _ inStep rfl

theorem moves_finish (outcome : Except Fault Unit)
    (inStep : run.guard.stack = openKeys frames) :
    Moves run (finish outcome run frames) := by
  cases frames with
  | nil => exact moves_resume [] _ inStep rfl
  | cons frame frames =>
      cases frame with
      | block key catches rest =>
          rw [openKeys_block] at inStep
          constructor
          · simp only [finish, resume, GuardRun.guard_handle]
            exact .leaves inStep
          · simp [finish, resume, InStep, Guard.leave, inStep]
      | attempt rest =>
          rw [openKeys_attempt] at inStep
          exact moves_resume rest _ inStep (GuardRun.guard_recover _ _)

end Moves

/-- One move shifts the guard and keeps it in step with the frames. -/
theorem moves_next {machine : GuardMachine} (inStep : machine.InStep) :
    Moves machine.run machine.next := by
  unfold next
  split
  · exact moves_begin _ _ inStep
  · exact moves_finish _ inStep
  · exact moves_finish _ inStep

/-- The machine after some moves of a program on a new guard. -/
def moment (maxDepth : Int) (program : List GuardStep) (moves : Nat) :
    GuardMachine :=
  next^[moves] (start maxDepth program)

/-- The lengths that the stack had up to a moment. -/
def depthsUpTo (maxDepth : Int) (program : List GuardStep)
    (moves : Nat) : Set Nat :=
  { depth | ∃ earlier ≤ moves,
    (moment maxDepth program earlier).run.guard.depth = depth }

section Moments

variable (maxDepth : Int) (program : List GuardStep)

theorem moment_succ (moves : Nat) :
    moment maxDepth program
      (moves + 1) = (moment maxDepth program moves).next :=
  Function.iterate_succ_apply' next moves (start maxDepth program)

theorem depth_mem_depthsUpTo (moves : Nat) :
    (moment maxDepth program moves).run.guard.depth ∈ depthsUpTo maxDepth
      program moves :=
  ⟨moves, Nat.le_refl moves, rfl⟩

theorem depthsUpTo_succ (moves : Nat) :
    depthsUpTo maxDepth program (moves + 1) =
      insert (moment maxDepth program (moves + 1)).run.guard.depth
        (depthsUpTo maxDepth program moves) := by
  ext depth
  constructor
  · rintro ⟨earlier, le, isDepth⟩
    obtain rfl | lt := Nat.eq_or_lt_of_le le
    · exact Or.inl isDepth.symm
    · exact Or.inr ⟨earlier, Nat.lt_succ_iff.mp lt, isDepth⟩
  · rintro (isDepth | ⟨earlier, le, isDepth⟩)
    · exact ⟨moves + 1, Nat.le_refl _, isDepth.symm⟩
    · exact ⟨earlier, Nat.le_succ_of_le le, isDepth⟩

/-- What every move keeps. -/
structure Ordered (moves : Nat) : Prop where
  inStep : (moment maxDepth program moves).InStep
  limit : (moment maxDepth program moves).run.guard.maxDepth = maxDepth
  disciplined : (moment maxDepth program moves).run.guard.Disciplined
  deepest : IsGreatest (depthsUpTo maxDepth program moves)
    (moment maxDepth program moves).run.guard.deepest

theorem ordered_start : Ordered maxDepth program 0 where
  inStep := rfl
  limit := rfl
  disciplined := ⟨List.nodup_nil, fun _ => Iff.rfl, Int.le_max_right _ _⟩
  deepest := by
    refine ⟨⟨0, Nat.le_refl 0, rfl⟩, ?_⟩
    rintro depth ⟨earlier, le, rfl⟩
    obtain rfl := Nat.le_zero.mp le
    exact Nat.le_refl _

variable {maxDepth program}

theorem Ordered.succ {moves : Nat} (ordered : Ordered maxDepth program moves) :
    Ordered maxDepth program (moves + 1) := by
  have moved := moves_next ordered.inStep
  rw [← moment_succ] at moved
  obtain ⟨shifts, inStep⟩ := moved
  refine ⟨inStep, shifts.maxDepth.trans ordered.limit,
    shifts.disciplined ordered.disciplined, ?_⟩
  rw [shifts.deepest
    (ordered.deepest.2 (depth_mem_depthsUpTo maxDepth program moves)),
    depthsUpTo_succ, max_comm]
  exact ordered.deepest.insert _

variable (maxDepth program)

theorem ordered_moment (moves : Nat) : Ordered maxDepth program moves := by
  induction moves with
  | zero => exact ordered_start maxDepth program
  | succ moves ordered => exact ordered.succ

end Moments

/-- An entry that the guard refuses raises the fault, or has it caught at once,
and leaves the guard and the open blocks alone. -/
def RefusesCleanly (machine : GuardMachine) : Prop :=
  ∀ {written body catches rest key fault},
    machine.control = .ok (.enter written body catches :: rest) →
      written.resolve = .ok key →
      machine.run.guard.enter key = .error fault →
        machine.next.control = (if catches then .ok rest else .error fault) ∧
          machine.next.frames = machine.frames ∧
          machine.next.run.guard = machine.run.guard

/-- A step that is begun ends, in some way, and the stack and the active slots
are then as they were. -/
def ClosesAgain (machine : GuardMachine) : Prop :=
  ∀ {step rest}, machine.control = .ok (step :: rest) →
    machine.Reaches (resume rest machine.frames
      (GuardRun.step step machine.run)) ∧
      GuardRun.Restores machine.run (GuardRun.step step machine.run).2

theorem refusesCleanly (machine : GuardMachine) : machine.RefusesCleanly := by
  intro written body catches rest key fault isControl isKey refused
  have isNext : machine.next =
      resume rest machine.frames
        (GuardRun.handle catches (.error fault) machine.run) := by
    simp only [next, isControl, begin, isKey, GuardRun.enter_eq_error refused]
  rw [isNext]
  refine ⟨?_, rfl, GuardRun.guard_handle _ _ _⟩
  cases catches <;> rfl

theorem closesAgain (machine : GuardMachine) : machine.ClosesAgain := by
  intro step rest isControl
  have isNext : machine.next = begin rest machine.frames machine.run step := by
    simp only [next, isControl]
  have begun := machine.reaches_next
  rw [isNext] at begun
  exact ⟨begun.trans (reaches_step rest machine.frames machine.run step),
    GuardRun.restores_step machine.run step⟩

/-- A program comes to its end, and at every moment the guard is a stack of
distinct slots within its limit that judges each slot by what is on it.  Its
greatest depth is the greatest there was.  A refused entry changes nothing, and
what is begun leaves the stack as it was. -/
theorem guard_always_disciplined (maxDepth : Int) (program : List GuardStep) :
    (start maxDepth program).Reaches
      (resume [] [] (GuardRun.ofProgram maxDepth program)) ∧
      ∀ moves,
        let machine := moment maxDepth program moves
        machine.run.guard.maxDepth = maxDepth ∧ machine.run.guard.Disciplined ∧
          (∀ key, machine.run.guard.Judges key) ∧
          IsGreatest (depthsUpTo maxDepth program moves)
            machine.run.guard.deepest ∧
          machine.RefusesCleanly ∧ machine.ClosesAgain := by
  refine ⟨reaches_steps [] _ program, ?_⟩
  intro moves machine
  have ordered := ordered_moment maxDepth program moves
  exact ⟨ordered.limit, ordered.disciplined, ordered.disciplined.judges,
    ordered.deepest, machine.refusesCleanly, machine.closesAgain⟩

/-- A slot that is entered again inside its own block, under a handler. -/
def reentering : List GuardStep :=
  [.attempt [.enter ⟨"adder", "input", "left"⟩
    [.enter ⟨"adder", "input", "left"⟩ [] false] false], .raise "late"]

theorem guard_always_disciplined_reentering :
    let machine := moment 2 reentering 2
    machine.run.guard.enter ⟨"adder", .input, "left"⟩ =
        .error
          (.cyclicPropagation ⟨"adder", .input, "left"⟩
            [⟨"adder", .input, "left"⟩]) ∧
      machine.next.run.guard = machine.run.guard ∧
      machine.run.guard.deepest = 1 ∧
      (GuardRun.ofProgram 2 reentering).1 = .error (.raised "late") := by
  intro machine
  have refused : machine.run.guard.enter ⟨"adder", .input, "left"⟩ =
      .error (.cyclicPropagation ⟨"adder", .input, "left"⟩
        [⟨"adder", .input, "left"⟩]) := by
    decide +kernel
  have always := (guard_always_disciplined 2 reentering).2 2
  obtain ⟨_, _, _, _, refuses, _⟩ := always
  exact ⟨refused, (refuses rfl rfl refused).2.2, by decide +kernel, by
    decide +kernel⟩

end GuardMachine

end TypeFlow
