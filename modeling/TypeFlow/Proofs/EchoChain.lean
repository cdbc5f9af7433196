import TypeFlow.Proofs.Alarm
import TypeFlow.Proofs.CascadeDepth
import TypeFlow.Proofs.DerivedCheck

/-!
# Chains of blocks that hand on types

An echo is a block whose output follows its only input.  In a chain of echoes
each output is plugged into the next input.  Types that are fed to the first
input run down the chain, one recomputation inside the other, until the chain
ends or the guard is full.
-/

namespace TypeFlow

theorem Guard.enter_of_room {guard : Guard} {key : SlotKey}
    (inactive : key ∉ guard.active)
    (room : (guard.depth : Int) < guard.maxDepth) :
    guard.enter key = .ok { guard with
      stack := guard.stack ++ [key]
      active := key :: guard.active
      deepest := max guard.deepest (guard.depth + 1) } := by
  have notActive : ¬ guard.isActive key = true := by
    simpa [isActive] using inactive
  rw [enter, if_neg notActive, if_neg (Int.not_le.mpr room)]

theorem Guard.enter_of_full {guard : Guard} {key : SlotKey}
    (inactive : key ∉ guard.active) (full : guard.maxDepth ≤ guard.depth) :
    guard.enter key = .error (.cascadeTooDeep key guard.maxDepth) := by
  have notActive : ¬ guard.isActive key = true := by
    simpa [isActive] using inactive
  rw [enter, if_neg notActive, if_pos full]

theorem TypeList.distinct_distinct (types : TypeList) :
    distinct (distinct types) = distinct types :=
  distinct_of_nodup (nodup_distinct types)

theorem TypeList.distinct_ne_nil {types : TypeList} (nonempty : types ≠ []) :
    distinct types ≠ [] := by
  cases types with
  | nil => exact absurd rfl nonempty
  | cons tag rest => exact List.cons_ne_nil _ _

theorem Check.ofTypes_of_ne_nil {types : TypeList} (nonempty : types ≠ []) :
    ofTypes types = some (TypeList.distinct types) := by
  cases isCheck : ofTypes types with
  | none => exact absurd ((ofTypes_eq_none_iff types).mp isCheck) nonempty
  | some unique => rw [eq_distinct_of_ofTypes isCheck]

/-- A block with an input and an output, and its wiring. -/
structure Echo where
  block : BlockId
  input : ConnectionId
  output : ConnectionId
  wiring : WiringId
  deriving DecidableEq, Repr

/-- The output takes over what the input provides. -/
def Echo.binding (echo : Echo) (label : String) : Binding :=
  ⟨.connection echo.output, [], [⟨⟨"IN", none, none⟩, .connection echo.input⟩],
    label⟩

namespace Editor

variable {σ : Type} {echo far : Echo} {echoes : List Echo} {before : Editor σ}
  {react : Reaction σ} {raised : Fault → Editor σ → Prop}
  {types : TypeList} {count : Nat}

/-- What a cascade meets at an echo. -/
structure Relays (workspace : WorkspaceId) (engine : EngineId)
    (editor : Editor σ) (echo : Echo) : Prop where
  home : editor.connectionWorkspace echo.output = workspace
  serves : (editor.wiring echo.wiring).engine = engine
  bound : ∃ label, (editor.wiring echo.wiring).bindings.get?
    (editor.connection echo.output).key = some (echo.binding label)
  heard : (editor.workspace workspace).registry.listenersAt
    (editor.connection echo.input).key =
    [.recompute echo.wiring (editor.connection echo.output).key]

/-- Each output is plugged into the next input, and the last one is free. -/
structure Line (workspace : WorkspaceId) (engine : EngineId)
    (echoes : List Echo) (editor : Editor σ) : Prop where
  relays : ∀ echo ∈ echoes, editor.Relays workspace engine echo
  keys : (echoes.map fun echo => (editor.connection echo.output).key).Nodup
  plugged : echoes.IsChain fun near far =>
    (editor.connection near.output).target = some far.input ∧
      (editor.connection far.input).target = some near.output
  ends : ∀ echo, echoes.getLast? = some echo →
    (editor.connection echo.output).target = none

section Line

variable {workspace : WorkspaceId} {engine : EngineId} {rest : List Echo}
  {after editor : Editor σ}

theorem Line.tail (line : Line workspace engine (echo :: far :: rest) editor) :
    Line workspace engine (far :: rest) editor where
  relays := fun other member =>
    line.relays other (List.mem_cons_of_mem echo member)
  keys := (List.nodup_cons.mp line.keys).2
  plugged := (List.isChain_cons_cons.mp line.plugged).2
  ends := fun other isLast =>
    line.ends other (by rw [List.getLast?_cons_cons]; exact isLast)

section Congr

variable (key : ∀ id, (after.connection id).key = (before.connection id).key)
  (home : ∀ id, after.connectionWorkspace id = before.connectionWorkspace id)
  (wirings : after.wirings = before.wirings)
  (registry : (after.workspace workspace).registry =
    (before.workspace workspace).registry)

include key home wirings registry

/-- Types and links do not matter to an echo. -/
theorem Relays.congr (relays : before.Relays workspace engine echo) :
    after.Relays workspace engine echo := by
  have wiring : ∀ id, after.wiring id = before.wiring id := by
    intro id
    rw [Editor.wiring, wirings, Editor.wiring]
  constructor
  · rw [home, relays.home]
  · rw [wiring, relays.serves]
  · rw [wiring, key]
    exact relays.bound
  · rw [registry, key, key]
    exact relays.heard

theorem Line.congr (line : Line workspace engine echoes before)
    (target : ∀ id, (after.connection id).target =
      (before.connection id).target) :
    Line workspace engine echoes after := by
  constructor
  · intro echo member
    exact (line.relays echo member).congr key home wirings registry
  · simp only [key]
    exact line.keys
  · simp only [target]
    exact line.plugged
  · simp only [target]
    exact line.ends

end Congr

/-- The outputs of a line are different connections. -/
theorem Line.output_ne (line : Line workspace engine (echo :: rest) editor)
    {other : Echo} (member : other ∈ rest) : other.output ≠ echo.output := by
  intro same
  apply (List.nodup_cons.mp line.keys).1
  rw [List.mem_map]
  exact ⟨other, member, by rw [same]⟩

end Line

/-- The first outputs have got these types, and no other check has changed. -/
structure Carried (echoes : List Echo) (count : Nat) (types : TypeList)
    (before after : Editor σ) : Prop where
  carried : ∀ echo ∈ echoes.take count,
    (after.connection echo.output).check = some types
  kept : ∀ connection, (∀ echo ∈ echoes.take count, echo.output ≠ connection) →
    (after.connection connection).check = (before.connection connection).check

theorem Carried.none (echoes : List Echo) (types : TypeList)
    (editor : Editor σ) :
    Carried echoes 0 types editor editor where
  carried := by
    intro echo member
    rw [List.take_zero] at member
    cases member
  kept := fun _ _ => rfl

/-- Types are offered to the first input of a line with blank outputs, none of
which is being recomputed. -/
structure Fed (workspace : WorkspaceId) (engine : EngineId)
    (limit : Nat) (echo : Echo) (rest : List Echo) (given : TypeList)
    (editor : Editor σ) : Prop where
  line : Line workspace engine (echo :: rest) editor
  maxDepth : (editor.engine engine).guard.maxDepth = limit
  inactive : ∀ other ∈ echo :: rest,
    (editor.connection other.output).key ∉ (editor.engine engine).guard.active
  shallow : (editor.engine engine).guard.depth ≤ limit
  offered : ∃ source, (editor.connection echo.input).target = some source ∧
    (editor.connection source).check = some given
  nonempty : given ≠ []
  blank : ∀ other ∈ echo :: rest, (editor.connection other.output).check = none

section Cascade

variable {workspace : WorkspaceId} {engine : EngineId} {limit : Nat}
  {rest : List Echo} {given : TypeList} {editor : Editor σ}

theorem computed_echo
    (provided : editor.provides (.connection echo.input) = .ok given)
    (label : String) : editor.computed (echo.binding label) = .ok
      (Check.ofTypes given) := by
  have derives : editor.linkTypes ⟨⟨"IN", none, none⟩, .connection echo.input⟩ =
      .ok given :=
    (congrArg (Except.map (Directive.derive ⟨"IN", none, none⟩)) provided :)
  have isDerived : Check.derived [] [given] = Check.ofTypes given := by
    rw [Check.derived, List.nil_append, List.flatten_singleton]
  unfold Editor.computed Echo.binding
  simp only [List.mapM_cons, List.mapM_nil, derives]
  exact congrArg Except.ok isDerived

theorem Fed.provided (fed : Fed workspace engine limit echo rest given editor) :
    editor.provides (.connection echo.input) = .ok given := by
  obtain ⟨source, linked, offers⟩ := fed.offered
  simp only [provides, linked, offers, Check.types, Option.getD_some]

/-- An echo that gets past the guard writes what its input provides.  What
engines note down on the way does not matter. -/
theorem leads_recompute_echo
    (serves : (editor.wiring echo.wiring).engine = engine)
    (bound : ∃ label, (editor.wiring echo.wiring).bindings.get?
      (editor.connection echo.output).key = some (echo.binding label))
    (provided : editor.provides (.connection echo.input) = .ok given)
    {returned : Editor σ → Prop}
    (returnedAside : ∀ current engines, returned current →
      returned { current with engines := engines })
    (raisedAside : ∀ fault current engines, raised fault current →
      raised fault { current with engines := engines })
    (passed : ∀ entered, (editor.engine engine).guard.enter
      (editor.connection echo.output).key =
        .ok entered →
      Leads (setConnectionTypes react echo.output (Check.ofTypes given))
        ((editor.setGuard engine entered).updateStats engine
          (·.countRecompute entered.depth))
        (fun _ after => returned after) raised)
    (refused : ∀ fault, (editor.engine engine).guard.enter
      (editor.connection echo.output).key =
        .error fault → raised fault editor) :
    Leads (recompute react echo.wiring (editor.connection echo.output).key)
      editor (fun _ after => returned after) raised := by
  obtain ⟨label, bound⟩ := bound
  simp only [recompute, leads_bind, leads_look, bound, serves, recomputeBinding,
    leads_lookup]
  refine ⟨?_, by simp [Echo.binding, slotKey]⟩
  intro key isKey
  cases isKey
  rw [leads_guarded]
  refine ⟨?_, refused⟩
  intro entered enters
  simp only [leads_bind, leads_modify, leads_lookup]
  -- Neither the guard nor the counters are read here.
  have computes : ((editor.setGuard engine entered).updateStats engine
      (·.countRecompute entered.depth)).computed (echo.binding label) =
        .ok (Check.ofTypes given) :=
    computed_echo provided label
  rw [computes]
  refine ⟨?_, by simp⟩
  intro check isCheck
  cases isCheck
  apply Leads.mono (passed entered enters)
  · intro changed after holds
    cases changed with
    | false => exact returnedAside after _ holds
    | true => exact returnedAside after _ holds
  · intro fault after holds
    exact raisedAside fault after _ holds

/-- The state when an output hands on its new types: the output is on the
stack, the recomputation is counted and the types are written. -/
def handingOn (editor : Editor σ) (engine : EngineId) (entered : Guard)
    (output : ConnectionId) (types : TypeList) : Editor σ :=
  ((editor.setGuard engine entered).updateStats engine
    (·.countRecompute entered.depth)).setCheck output (some types)

theorem connection_handingOn (editor : Editor σ) (engine : EngineId)
    (entered : Guard) (output id : ConnectionId) (types : TypeList) :
    (editor.handingOn engine entered output types).connection id =
      if output = id then { editor.connection output with check := some types }
      else editor.connection id :=
  connection_updateConnection _ output id _

theorem guard_handingOn (editor : Editor σ) (engine : EngineId)
    (entered : Guard) (output : ConnectionId) (types : TypeList) :
    ((editor.handingOn engine entered output types).engine engine).guard =
      entered := by
  have isEngine : (editor.handingOn engine entered output types).engine engine =
      ((editor.setGuard engine entered).updateStats engine
        (·.countRecompute entered.depth)).engine engine :=
    rfl
  rw [isEngine, updateStats, engine_updateEngine, if_pos rfl, engine_setGuard,
    if_pos rfl]

section HandingOn

variable (editor : Editor σ) (engine : EngineId) (entered : Guard)
  (output id : ConnectionId) (types : TypeList)

theorem key_handingOn :
    ((editor.handingOn engine entered output types).connection id).key =
    (editor.connection id).key :=
  OrderedMap.read_getD_insert Connection.key rfl

theorem target_handingOn :
    ((editor.handingOn engine entered output types).connection id).target =
    (editor.connection id).target :=
  OrderedMap.read_getD_insert Connection.target rfl

theorem connectionWorkspace_handingOn :
    (editor.handingOn engine entered output types).connectionWorkspace id =
      editor.connectionWorkspace id :=
  OrderedMap.read_getD_insert
    (fun entry : Connection => (editor.block entry.block).workspace) rfl

end HandingOn

/-- The next echo is fed in turn. -/
theorem Fed.handOn
    (fed : Fed workspace engine limit echo (far :: rest) given editor)
    {entered : Guard} (enters : (editor.engine engine).guard.enter
      (editor.connection echo.output).key =
      .ok entered) :
    Fed workspace engine limit far rest (TypeList.distinct given)
      (editor.handingOn engine entered echo.output
        (TypeList.distinct given)) := by
  obtain ⟨_, room, isEntered⟩ := Guard.of_enter enters
  constructor
  case line =>
    exact fed.line.tail.congr
      (fun id => key_handingOn editor engine entered echo.output id _)
      (fun id => connectionWorkspace_handingOn editor engine entered
        echo.output id _) rfl rfl
      (fun id => target_handingOn editor engine entered echo.output id _)
  case maxDepth =>
    rw [guard_handingOn, isEntered]
    exact fed.maxDepth
  case inactive =>
    intro other member active
    rw [guard_handingOn, key_handingOn, isEntered] at active
    rcases List.mem_cons.mp active with isEcho | earlier
    · apply (List.nodup_cons.mp fed.line.keys).1
      exact List.mem_map.mpr ⟨other, member, isEcho⟩
    · exact fed.inactive other (List.mem_cons_of_mem echo member) earlier
  case shallow =>
    rw [guard_handingOn, isEntered, Guard.depth, List.length_append,
      List.length_singleton]
    rw [fed.maxDepth, Guard.depth] at room
    omega
  case offered =>
    refine ⟨echo.output, ?_, ?_⟩
    · rw [target_handingOn]
      exact (List.isChain_cons_cons.mp fed.line.plugged).1.2
    · rw [connection_handingOn, if_pos rfl]
  case nonempty => exact TypeList.distinct_ne_nil fed.nonempty
  case blank =>
    intro other member
    rw [connection_handingOn, if_neg (fed.line.output_ne member).symm]
    exact fed.blank other (List.mem_cons_of_mem echo member)

/-- Writing a blank connection calls whoever listens at the other end. -/
theorem leads_setConnectionTypes_blank {connection : ConnectionId}
    (nodup : types.Nodup)
    (isBlank : (editor.connection connection).check = none)
    {returned : Bool → Editor σ → Prop}
    (free : (editor.connection connection).target = none →
      returned true (editor.setCheck connection (some types)))
    (linked : ∀ far, (editor.connection connection).target = some far →
      let written := editor.setCheck connection (some types)
      Leads (notify react (written.connectionWorkspace connection)
        (written.connection far).key)
        written (fun _ after => returned true after) raised) :
    Leads (setConnectionTypes react connection (some types)) editor returned
      raised := by
  have unrepeated : Check.distinct (some types) = some types :=
    congrArg some (TypeList.distinct_of_nodup nodup)
  simp only [setConnectionTypes, leads_bind, leads_look, leads_modify,
    unrepeated, isBlank, Check.same, Bool.false_eq_true, if_false]
  cases isTarget : (editor.connection connection).target with
  | none => exact free isTarget
  | some far =>
      simp only [leads_bind, leads_look, leads_discard, leads_pure]
      exact linked far isTarget

theorem leads_notify_single {key : SlotKey} {listener : Listener}
    (heard : (editor.workspace workspace).registry.listenersAt key = [listener])
    {returned : Nat → Editor σ → Prop} :
    Leads (notify react workspace key) editor returned raised ↔
      Leads (react listener) editor (fun _ after => returned 1 after)
        raised := by
  simp only [notify, leads_bind, leads_look, heard]
  change Leads (react listener >>= fun _ => (pure () : EditM σ Unit))
    editor _ raised ↔ _
  simp only [leads_bind, leads_pure, List.length_singleton]

/-- What is handed on further down has been handed on from here. -/
theorem Carried.cons (line : Line workspace engine (echo :: rest) editor)
    {entered : Guard} {after : Editor σ}
    (carried : Carried rest count types
      (editor.handingOn engine entered echo.output types)
      after) : Carried (echo :: rest) (count + 1) types editor after where
  carried := by
    intro other member
    rw [List.take_succ_cons] at member
    rcases List.mem_cons.mp member with rfl | later
    · rw [carried.kept other.output ?_, connection_handingOn, if_pos rfl]
      intro next isNext
      exact line.output_ne (List.mem_of_mem_take isNext)
    · exact carried.carried other later
  kept := by
    intro connection apart
    rw [List.take_succ_cons] at apart
    rw [carried.kept connection fun other member =>
      apart other (List.mem_cons_of_mem echo member),
      connection_handingOn, if_neg (apart echo List.mem_cons_self)]

/-- Only connections count. -/
theorem Carried.congr {middle after : Editor σ}
    (carried : Carried echoes count types before middle)
    (same : after.connections = middle.connections) :
    Carried echoes count types before after := by
  have connection : ∀ id, after.connection id = middle.connection id := by
    intro id
    rw [Editor.connection, same, Editor.connection]
  constructor
  · simp only [connection]
    exact carried.carried
  · simp only [connection]
    exact carried.kept

/-- An echo that is fed is stopped by a guard that is full.  Otherwise it writes
its output, and whoever listens at the other end is called. -/
theorem Fed.leads_recompute
    (fed : Fed workspace engine limit echo rest given editor)
    {returned : Editor σ → Prop}
    (returnedCongr : ∀ before after : Editor σ,
      after.connections = before.connections →
      returned before → returned after)
    (raisedCongr : ∀ fault, ∀ before after : Editor σ,
      after.connections = before.connections →
      raised fault before → raised fault after)
      (full : limit ≤ (editor.engine engine).guard.depth →
      raised (.cascadeTooDeep (editor.connection echo.output).key limit) editor)
    (ended : ∀ entered, (editor.engine engine).guard.enter
      (editor.connection echo.output).key =
        .ok entered → (editor.connection echo.output).target = none →
      returned (editor.handingOn engine entered echo.output
        (TypeList.distinct given)))
    (handed : ∀ entered input,
      (editor.engine engine).guard.enter
        (editor.connection echo.output).key = .ok entered →
      (editor.connection echo.output).target = some input →
      Leads (notify react workspace (editor.connection input).key)
        (editor.handingOn engine entered echo.output (TypeList.distinct given))
        (fun _ after => returned after) raised) :
    Leads (recompute react echo.wiring (editor.connection echo.output).key)
      editor (fun _ after => returned after) raised := by
  obtain ⟨home, serves, bound, _⟩ := fed.line.relays echo List.mem_cons_self
  have inactive := fed.inactive echo List.mem_cons_self
  apply leads_recompute_echo serves bound fed.provided
  · intro current _ holds
    exact returnedCongr current _ rfl holds
  · intro fault current _ holds
    exact raisedCongr fault current _ rfl holds
  · intro entered enters
    have blank : (((editor.setGuard engine entered).updateStats engine
        (·.countRecompute entered.depth)).connection
        echo.output).check = none :=
      fed.blank echo List.mem_cons_self
    rw [Check.ofTypes_of_ne_nil fed.nonempty]
    apply leads_setConnectionTypes_blank (TypeList.nodup_distinct given) blank
    · exact ended entered enters
    · intro input isLinked
      have called := handed entered input enters isLinked
      rw [← home, ← connectionWorkspace_handingOn editor engine entered
        echo.output echo.output,
        ← key_handingOn editor engine entered echo.output input] at called
      exact called
  · intro fault fails
    have fullGuard : limit ≤ (editor.engine engine).guard.depth := by
      by_contra room
      rw [Guard.enter_of_room inactive (by rw [fed.maxDepth]; omega)] at fails
      cases fails
    rw [Guard.enter_of_full inactive (by rw [fed.maxDepth]; omega)] at fails
    cases fails
    rw [fed.maxDepth]
    exact full fullGuard

/-- All outputs of the line have got the types. -/
def Delivered (engine : EngineId) (limit : Nat) (echoes : List Echo)
    (types : TypeList) (before after : Editor σ) : Prop :=
  (before.engine engine).guard.depth + echoes.length ≤ limit ∧
    Carried echoes echoes.length types before after

/-- The types got as far as there was room on the stack, and the next output was
refused. -/
def Stopped (engine : EngineId) (limit : Nat) (echoes : List Echo)
    (types : TypeList) (before : Editor σ) (fault : Fault) (after : Editor σ) :
    Prop :=
  ∃ stopped, echoes[limit - (before.engine engine).guard.depth]? =
    some stopped ∧
    fault = .cascadeTooDeep (before.connection stopped.output).key limit ∧
    Carried echoes (limit - (before.engine engine).guard.depth)
      types before after

theorem Delivered.congr (middle after : Editor σ)
    (same : after.connections = middle.connections)
    (delivered : Delivered engine limit echoes types before middle) :
    Delivered engine limit echoes types before after :=
  ⟨delivered.1, delivered.2.congr same⟩

theorem Stopped.congr (fault : Fault) (middle after : Editor σ)
    (same : after.connections = middle.connections)
    (isStopped : Stopped engine limit echoes types before fault middle) :
    Stopped engine limit echoes types before fault after := by
  obtain ⟨stopped, isNext, isFault, carried⟩ := isStopped
  exact ⟨stopped, isNext, isFault, carried.congr same⟩

/-- A full guard stops the first echo. -/
theorem stopped_of_full (full : limit ≤ (editor.engine engine).guard.depth) :
    Stopped engine limit (echo :: rest) types editor
      (.cascadeTooDeep (editor.connection echo.output).key limit) editor := by
  have noRoom : limit - (editor.engine engine).guard.depth = 0 :=
    Nat.sub_eq_zero_of_le full
  unfold Stopped
  rw [noRoom]
  exact ⟨echo, rfl, rfl, Carried.none _ _ editor⟩

/-- Types run down the line until it ends or the guard is full. -/
theorem leads_cascade (outside : Callbacks σ) {fuel : Nat}
    (fed : Fed workspace engine limit echo rest given editor)
    (enough : limit < fuel + (editor.engine engine).guard.depth) :
    Leads
      (reaction outside fuel
        (.recompute echo.wiring (editor.connection echo.output).key))
      editor
      (fun _ after =>
        Delivered engine limit (echo :: rest) (TypeList.distinct given)
          editor after)
      (Stopped engine limit (echo :: rest) (TypeList.distinct given)
          editor) := by
  induction rest generalizing echo given editor fuel with
  | nil =>
      have shallow := fed.shallow
      obtain ⟨left, rfl⟩ : ∃ left, fuel = left + 1 :=
        Nat.exists_eq_add_one.mpr (by omega)
      simp only [reaction, leads_discard]
      apply fed.leads_recompute Delivered.congr Stopped.congr stopped_of_full
      · intro entered enters _
        obtain ⟨_, room, _⟩ := Guard.of_enter enters
        rw [fed.maxDepth] at room
        exact ⟨by simp only [List.length_singleton]; omega,
          (Carried.none [] _ _).cons fed.line⟩
      · intro entered input _ isLinked
        rw [fed.line.ends echo rfl] at isLinked
        cases isLinked
  | cons far rest induction =>
      have shallow := fed.shallow
      obtain ⟨left, rfl⟩ : ∃ left, fuel = left + 1 :=
        Nat.exists_eq_add_one.mpr (by omega)
      simp only [reaction, leads_discard]
      apply fed.leads_recompute Delivered.congr Stopped.congr stopped_of_full
      · intro entered _ isFree
        rw [(List.isChain_cons_cons.mp fed.line.plugged).1.1] at isFree
        cases isFree
      · intro entered input enters isLinked
        rw [(List.isChain_cons_cons.mp fed.line.plugged).1.1] at isLinked
        cases isLinked
        have next := fed.handOn enters
        have heard := (next.line.relays far List.mem_cons_self).heard
        have deeper : entered.depth =
            (editor.engine engine).guard.depth + 1 := by
          obtain ⟨_, _, rfl⟩ := Guard.of_enter enters
          simp [Guard.depth]
        have isDepth : ((editor.handingOn engine entered echo.output
            (TypeList.distinct given)).engine engine).guard.depth =
              (editor.engine engine).guard.depth + 1 := by
          rw [guard_handingOn, deeper]
        rw [key_handingOn] at heard
        rw [leads_notify_single heard]
        apply Leads.mono (induction next (by rw [isDepth]; omega))
        · rintro _ after ⟨fits, carried⟩
          rw [isDepth] at fits
          rw [TypeList.distinct_distinct] at carried
          exact ⟨by
            simp only [List.length_cons] at fits ⊢; omega,
              carried.cons fed.line⟩
        · rintro fault after ⟨stopped, isNext, isFault, carried⟩
          have room := next.shallow
          rw [isDepth] at isNext carried room
          rw [TypeList.distinct_distinct] at carried
          rw [key_handingOn] at isFault
          have isCount : limit - (editor.engine engine).guard.depth =
              limit - ((editor.engine engine).guard.depth + 1) + 1 := by
            omega
          unfold Stopped
          rw [isCount]
          exact ⟨stopped, isNext, isFault, carried.cons fed.line⟩

end Cascade

end Editor

end TypeFlow
