import Mathlib.Data.Finset.Card
import TypeFlow.Proofs.Reporting
import TypeFlow.Proofs.Upkeep

/-!
# How deep cascades get

The slots that are being recomputed, one inside the other, are targets of
bindings, no slot is among them twice, and the guard lets in no more of them
than its limit.  So a cascade ends for every wiring and every way of plugging,
circular ones included: fuel beyond the limit is never used up.  After an
operation nothing is being recomputed, whether it returned or raised.
-/

namespace TypeFlow

theorem Fault.IsOfCascade.settled {fault : Fault}
    (ofCascade : fault.IsOfCascade) :
    fault ≠ .unsettled := by
  rintro rfl
  exact ofCascade

namespace Editor

variable {σ τ : Type} {editor : Editor σ} {fuel : Nat}

/-- The keys of the targets of all bindings made so far. -/
def targetKeys (editor : Editor σ) : Finset SlotKey :=
  (editor.wirings.values.flatMap fun wiring => wiring.bindings.values.filterMap
    fun binding => (editor.slotKey binding.target).toOption).toFinset

theorem mem_targetKeys {wiring : WiringId} {target key : SlotKey}
    {binding : Binding}
    (bound : (editor.wiring wiring).bindings.get? target = some binding)
    (hasKey : editor.slotKey binding.target = .ok key) :
    key ∈ editor.targetKeys := by
  have known : editor.wiring wiring ∈ editor.wirings.values := by
    unfold Editor.wiring at bound ⊢
    unfold OrderedMap.getD at bound ⊢
    cases found : editor.wirings.get? wiring with
    | none =>
        rw [found] at bound
        cases bound
    | some entry => exact OrderedMap.mem_values_of_get? found
  unfold targetKeys
  rw [List.mem_toFinset, List.mem_flatMap]
  refine ⟨_, known, List.mem_filterMap.mpr
    ⟨binding, OrderedMap.mem_values_of_get? bound, ?_⟩⟩
  rw [hasKey]
  rfl

theorem targetKeys_congr {before : Editor σ} {after : Editor τ}
    (wirings : after.wirings = before.wirings)
    (slotKey : ∀ slot, after.slotKey slot = before.slotKey slot) :
    after.targetKeys = before.targetKeys := by
  unfold targetKeys
  simp only [wirings, slotKey]

/-- No more slots are being recomputed than the limit allows and than there are
targets, and this stays so with any target that the guard would let in. -/
structure Shallow (engine : EngineId) (limit : Int) (editor : Editor σ) :
    Prop where
  depth : ((editor.engine engine).guard.depth : Int) ≤ min limit
    editor.targetKeys.card
  next : ∀ wiring target binding key entered,
    (editor.wiring wiring).bindings.get? target = some binding →
    editor.slotKey binding.target = .ok key →
    (editor.engine engine).guard.enter key = .ok entered →
      (entered.depth : Int) ≤ min limit editor.targetKeys.card

/-- The guard of the only engine holds this chain of slots. -/
structure Climbing (engine : EngineId) (limit : Int) (chain : List SlotKey)
    (editor : Editor σ) : Prop where
  wiring : ∀ id, (editor.wiring id).engine = engine
  workspace : ∀ id, (editor.workspace id).engine = engine
  maxDepth : (editor.engine engine).guard.maxDepth = limit
  stack : (editor.engine engine).guard.stack = chain
  active : ∀ key ∈ chain, key ∈ (editor.engine engine).guard.active
  nodup : chain.Nodup
  targets : ∀ key ∈ chain, key ∈ editor.targetKeys
  short : (chain.length : Int) ≤ limit
  counted : ((editor.engine engine).guard.deepest : Int) =
    (editor.engine engine).stats.maxCascadeDepth
  deepest : ((editor.engine engine).guard.deepest : Int) ≤ limit

namespace Climbing

variable {engine : EngineId} {limit : Int} {chain : List SlotKey}
  {key : SlotKey} {editor after : Editor σ}

section Climbing

variable (climbing : Climbing engine limit chain editor)

include climbing

theorem length_le_card :
    chain.length ≤ editor.targetKeys.card := by
  rw [← List.toFinset_card_of_nodup climbing.nodup]
  apply Finset.card_le_card
  intro key member
  exact climbing.targets key (List.mem_toFinset.mp member)

theorem depth_le :
    ((editor.engine engine).guard.depth : Int) ≤ min limit
      editor.targetKeys.card := by
  rw [Guard.depth, climbing.stack]
  exact le_min climbing.short (Int.ofNat_le.mpr climbing.length_le_card)

/-- A target that the guard lets in comes on top of the chain. -/
theorem enter {wiring : WiringId}
    {target : SlotKey} {binding : Binding} {entered : Guard}
    (bound : (editor.wiring wiring).bindings.get? target = some binding)
    (hasKey : editor.slotKey binding.target = .ok key)
    (enters : (editor.engine engine).guard.enter key = .ok entered) :
    Climbing engine limit (chain ++ [key])
      ((editor.setGuard engine entered).updateStats engine
        (·.countRecompute entered.depth)) := by
  have entry : (((editor.setGuard engine entered).updateStats engine
      (·.countRecompute entered.depth)).engine engine) =
        { editor.engine engine with
          guard := entered
          stats := (editor.engine engine).stats.countRecompute
              entered.depth } := by
    rw [updateStats, engine_updateEngine, if_pos rfl, engine_setGuard,
      if_pos rfl]
  have sameKeys : ((editor.setGuard engine entered).updateStats engine
      (·.countRecompute entered.depth)).targetKeys = editor.targetKeys :=
    targetKeys_congr rfl fun slot => by cases slot <;> rfl
  obtain ⟨inactive, room, isEntered⟩ := Guard.of_enter enters
  have isDepth : (editor.engine engine).guard.depth = chain.length := by
    rw [Guard.depth, climbing.stack]
  have isEnteredDepth : entered.depth = chain.length + 1 := by
    rw [isEntered, Guard.depth, List.length_append, climbing.stack]
    rfl
  have isDeepest : entered.deepest =
      max (editor.engine engine).guard.deepest (chain.length + 1) := by
    rw [isEntered, isDepth]
  rw [isDepth, climbing.maxDepth] at room
  constructor
  case wiring => exact climbing.wiring
  case workspace => exact climbing.workspace
  case maxDepth =>
    rw [entry, isEntered]
    exact climbing.maxDepth
  case stack =>
    rw [entry, isEntered, climbing.stack]
  case active =>
    rw [entry, isEntered]
    intro other member
    rcases List.mem_append.mp member with earlier | last
    · exact List.mem_cons_of_mem key (climbing.active other earlier)
    · rw [List.mem_singleton.mp last]
      exact List.mem_cons_self
  case nodup =>
    apply List.nodup_append.mpr
    refine ⟨climbing.nodup, List.nodup_singleton key, ?_⟩
    intro other member last isLast same
    rw [List.mem_singleton.mp isLast] at same
    rw [same] at member
    exact inactive (climbing.active key member)
  case targets =>
    rw [sameKeys]
    intro other member
    rcases List.mem_append.mp member with earlier | last
    · exact climbing.targets other earlier
    · rw [List.mem_singleton.mp last]
      exact mem_targetKeys bound hasKey
  case short =>
    rw [List.length_append, List.length_singleton]
    omega
  case counted =>
    rw [entry]
    simp only [Stats.countRecompute, ← climbing.counted, isEnteredDepth,
      isDeepest]
    omega
  case deepest =>
    have shallow := climbing.deepest
    rw [entry]
    simp only [isDeepest]
    omega

end Climbing

/-- Taking off the last slot leaves the chain before it. -/
theorem leave (climbing : Climbing engine limit (chain ++ [key]) editor) :
    Climbing engine limit chain
      (editor.setGuard engine ((editor.engine engine).guard.leave key)) := by
  have entry :
      (editor.setGuard engine ((editor.engine engine).guard.leave key)).engine
        engine =
      { editor.engine engine with
        guard := (editor.engine engine).guard.leave key } := by
    rw [engine_setGuard, if_pos rfl]
  have sameKeys : (editor.setGuard engine
      ((editor.engine engine).guard.leave key)).targetKeys =
      editor.targetKeys :=
    targetKeys_congr rfl fun slot => by cases slot <;> rfl
  obtain ⟨nodup, _, apart⟩ := List.nodup_append.mp climbing.nodup
  constructor
  case wiring => exact climbing.wiring
  case workspace => exact climbing.workspace
  case maxDepth =>
    rw [entry]
    exact climbing.maxDepth
  case stack =>
    rw [entry, Guard.leave, climbing.stack, List.dropLast_concat]
  case active =>
    rw [entry]
    intro other member
    have different := apart other member key (List.mem_singleton_self key)
    apply List.mem_filter.mpr
    exact ⟨climbing.active other (List.mem_append_left _ member),
      decide_eq_true different⟩
  case nodup => exact nodup
  case targets =>
    rw [sameKeys]
    intro other member
    exact climbing.targets other (List.mem_append_left _ member)
  case short =>
    have short := climbing.short
    rw [List.length_append] at short
    omega
  case counted =>
    rw [entry]
    exact climbing.counted
  case deepest =>
    rw [entry]
    exact climbing.deepest

theorem shallow (climbing : Climbing engine limit chain editor) :
    Shallow engine limit editor where
  depth := climbing.depth_le
  next := by
    intro wiring target binding key entered bound hasKey enters
    have entering := climbing.enter bound hasKey enters
    have inside := entering.depth_le
    have sameKeys : ((editor.setGuard engine entered).updateStats engine
        (·.countRecompute entered.depth)).targetKeys = editor.targetKeys :=
      targetKeys_congr rfl fun slot => by cases slot <;> rfl
    rw [sameKeys, updateStats, engine_updateEngine, if_pos rfl, engine_setGuard,
      if_pos rfl] at inside
    exact inside

/-- At rest, or as long as keys and bindings stay, the chain is what it was. -/
theorem aside (climbing : Climbing engine limit chain editor)
    (aside : Aside editor after)
    (targets : ∀ key ∈ chain, key ∈ after.targetKeys) :
    Climbing engine limit chain after := by
  constructor
  case wiring => exact fun id => (aside.wiring id).trans (climbing.wiring id)
  case workspace =>
    exact fun id => (aside.workspace id).trans (climbing.workspace id)
  case nodup => exact climbing.nodup
  case targets => exact targets
  case short => exact climbing.short
  all_goals simp only [aside.guard, aside.depth]
  case maxDepth => exact climbing.maxDepth
  case stack => exact climbing.stack
  case active => exact climbing.active
  case counted => exact climbing.counted
  case deepest => exact climbing.deepest

end Climbing

/-- What the guard holds can be followed through all operations, and so can
what the outside holds. -/
theorem upholds_climbing (engine : EngineId) (limit : Int) (noted : σ → Prop) :
    Upholds (· = engine) fun chain (editor : Editor σ) =>
      Climbing engine limit chain editor ∧ noted editor.outer := by
  constructor
  case engine =>
    intro chain editor held wiring
    exact held.1.wiring wiring
  case write =>
    intro chain before after rewritten held
    refine ⟨held.1.aside rewritten.toAside ?_, by
      rw [rewritten.outer]; exact held.2⟩
    rw [targetKeys_congr rewritten.wirings rewritten.slotKey]
    exact held.1.targets
  case enter =>
    intro chain editor _ wiring target binding key entered serves held
      bound hasKey enters
    subst serves
    exact ⟨held.1.enter bound hasKey enters, held.2⟩
  case leave =>
    intro chain editor _ key serves held
    subst serves
    exact ⟨held.1.leave, held.2⟩
  case aside =>
    intro before after aside held
    refine ⟨held.1.aside aside ?_, by rw [aside.outer]; exact held.2⟩
    intro key member
    cases member
  case begin =>
    intro editor id wiring entry held isEngine
    have serves : ∀ id, (Editor.wiring { editor with
        wirings := editor.wirings.insert wiring entry }
            id).engine = engine := by
      intro id
      unfold Editor.wiring
      rw [OrderedMap.getD_insert]
      split
      · exact isEngine.trans (held.1.workspace _)
      · exact held.1.wiring id
    refine ⟨{ held.1 with wiring := serves, targets := ?_ }, held.2⟩
    intro key member
    cases member

section Journaling

variable {engine : EngineId} {limit : Int}

/-- Nothing of the chain belongs to the outside. -/
theorem Climbing.withOuter {chain : List SlotKey}
    (climbing : Climbing engine limit chain editor) (outer : τ) :
    Climbing engine limit chain ({ editor with outer } : Editor τ) := by
  have sameKeys : ({ editor with outer } : Editor τ).targetKeys =
      editor.targetKeys :=
    targetKeys_congr rfl fun slot => by cases slot <;> rfl
  exact { climbing with
    targets := by
      rw [sameKeys]
      exact climbing.targets }

/-- Every call in the journal met a shallow state. -/
def AllShallow (engine : EngineId) (limit : Int) (journaled : Journaled σ) :
    Prop :=
  ∀ call ∈ journaled.calls, call.seen.Shallow engine limit

/-- With fuel for the rest of the chain, fuel is not used up. -/
def Lasts (limit : Int) (fuel : Nat) (chain : List SlotKey) (fault : Fault) :
    Prop :=
  limit < fuel + chain.length → fault ≠ .unsettled

theorem Lasts.of_cascade (fuel : Nat) (chain : List SlotKey) (fault : Fault)
    (ofCascade : fault.IsOfCascade) : Lasts limit fuel chain fault :=
  fun _ => ofCascade.settled

/-- A cascade from here needs no more fuel than there is one level up. -/
theorem Lasts.of_deeper {chain : List SlotKey} {key : SlotKey} {fault : Fault}
    (lasts : Lasts limit fuel (chain ++ [key]) fault) : Lasts limit
      (fuel + 1) chain fault := by
  intro enough
  apply lasts
  rw [List.length_append, List.length_singleton]
  omega

variable {outside : Callbacks σ}

/-- However deep a cascade gets, its calls meet shallow states, and it ends
before the fuel does. -/
theorem maintains_journaling (keepsOut : KeepsOut outside)
    (settles : ∀ callback, Raises (· ≠ .unsettled) (outside callback))
    (fuel : Nat) :
    ∀ chain listener, Maintains
      (fun editor => Climbing engine limit chain editor ∧
        AllShallow engine limit editor.outer)
      (Lasts limit fuel chain)
      (journaling (fun callback => unjournaled (outside callback)) fuel
        listener) := by
  induction fuel with
  | zero =>
      intro chain listener editor held
      refine ⟨?_, held⟩
      intro used
      have short := held.1.short
      omega
  | succ fuel induction =>
      intro chain listener
      apply maintains_bind
      · apply maintains_modify
        intro editor held
        refine ⟨held.1.withOuter _, ?_⟩
        intro call member
        rcases List.mem_append.mp member with earlier | last
        · exact held.2 call earlier
        · rw [List.mem_singleton.mp last]
          exact (held.1.withOuter editor.outer.outer).shallow
      · intro _
        cases listener with
        | callback callback =>
            intro editor held
            rw [leads_unjournaled]
            apply Leads.mono (Leads.and (keepsOut callback editor.forget)
              ((settles callback).leads editor.forget))
            · rintro _ _ ⟨⟨outer, rfl⟩, _⟩
              exact ⟨held.1.withOuter _, held.2⟩
            · rintro fault _ ⟨⟨outer, rfl⟩, settled⟩
              exact ⟨fun _ => settled, held.1.withOuter _, held.2⟩
        | recompute wiring target =>
            exact maintains_discard
              (maintains_recompute (upholds_climbing engine limit _)
              (Lasts.of_cascade fuel) induction chain (Lasts.of_cascade _ chain)
              (fun _ _ => Lasts.of_deeper) wiring target)

/-- An operation that starts at rest ends at rest. -/
theorem Climbing.perform (keepsOut : KeepsOut outside)
    (settles : ∀ callback, Raises (· ≠ .unsettled) (outside callback))
    {after : Editor σ} (climbing : Climbing engine limit [] editor)
    {operation : HostOperation} {rows : Nat} {workspace : WorkspaceId}
    {outcome : Except Fault Unit}
    (run : operation.perform (reaction outside fuel) rows workspace editor =
      (outcome, after)) :
    Climbing engine limit [] after ∧
      (limit < fuel → outcome ≠ .error .unsettled) ∧
      ∃ calls, operation.perform
          (journaling (fun callback => unjournaled (outside callback)) fuel)
          rows workspace (editor.journal []) = (outcome, after.journal calls) ∧
        ∀ call ∈ calls, call.seen.Shallow engine limit := by
  have mirrors : Mirrors (operation.perform
      (journaling (fun callback => unjournaled (outside callback)) fuel)
        rows workspace)
      (operation.perform (reaction outside fuel) rows workspace)
      (editor.journal []) :=
    mirrors_iff_follows.mpr
      (HostOperation.follows_perform (mirrorsCalls_journaling
      (fun callback _ => mirrors_unjournaled (outside callback)) fuel).follows
      rows workspace
      operation)
  obtain ⟨calls, journaled⟩ := mirrors.run run
  have deeper : ∀ key fault, Lasts limit fuel [key] fault →
      Lasts limit fuel [] fault := by
    intro key fault lasts enough
    apply lasts
    simp only [List.length_nil, List.length_singleton] at enough ⊢
    omega
  have maintains := HostOperation.maintains_perform
    (upholds_climbing engine limit (AllShallow engine limit))
    (Lasts.of_cascade fuel) deeper
    (maintains_journaling keepsOut settles fuel)
    (fun _ settled _ => settled) rows workspace
    operation (editor.journal []) ⟨climbing.withOuter _, nofun⟩
  cases outcome with
  | ok value =>
      obtain ⟨climbs, shallow⟩ := maintains.returns journaled
      exact ⟨climbs.withOuter after.outer, fun _ => nofun, calls,
        journaled, shallow⟩
  | error fault =>
      obtain ⟨lasts, climbs, shallow⟩ := maintains.raises journaled
      refine ⟨climbs.withOuter after.outer, ?_, calls, journaled, shallow⟩
      intro enough isUnsettled
      cases isUnsettled
      exact lasts (by simpa using enough) rfl

end Journaling

/-- Nothing has been recomputed in a workspace that was just opened. -/
theorem climbing_openWorkspace {settings : Settings}
    {isTemplate : Bool} {outer : σ} :
    Leads (openWorkspace settings isTemplate) { outer }
      (fun _ after => Climbing ⟨0⟩ settings.maxDepth [] after)
      (fun _ _ => True) := by
  simp only [openWorkspace, newEngine, newChecker, newCache, newWorkspace,
    leads_bind, leads_look, leads_lookup, leads_modify, leads_pure]
  refine ⟨?_, fun _ _ => True.intro⟩
  intro config valid
  have sameDepth : config.maxDepth = settings.maxDepth := by
    rw [← Settings.toSettings_of_validate valid]
  have room : 0 ≤ settings.maxDepth := by
    have one := config.one_le_maxDepth
    omega
  constructor
  case wiring => exact fun id => rfl
  case workspace =>
    intro id
    refine (congrArg Workspace.engine (OrderedMap.getD_insert _ _ _ _ _)).trans
      ?_
    split
    · rfl
    · rfl
  case maxDepth => exact sameDepth
  case stack => rfl
  case active =>
    intro key member
    cases member
  case nodup => exact List.nodup_nil
  case targets =>
    intro key member
    cases member
  case short => exact room
  case counted => rfl
  case deepest => exact room

section Reached

variable {outside : Callbacks σ} {settings : Settings} {workspace : WorkspaceId}
  {editor : Editor σ}

theorem Reached.climbing (keepsOut : KeepsOut outside)
    (settles : ∀ callback, Raises (· ≠ .unsettled) (outside callback))
    {admits : Editor σ → HostOperation → Except Fault Unit → Editor σ → Prop}
    (reached : Reached outside admits settings workspace editor) :
    Climbing ⟨0⟩ settings.maxDepth [] editor := by
  induction reached with
  | opened run => exact climbing_openWorkspace.returns run
  | performed _ _ run _ climbing =>
      exact (climbing.perform keepsOut settles run).1

/-- Cascades stay within the limit and the number of targets, and they end.
Given fuel beyond the limit, how an operation ends does not depend on the
fuel, and each of its calls meets a chain within those bounds.  Callbacks may
do anything outside and raise anything but the sign of used up fuel. -/
theorem cascades_bounded (keepsOut : KeepsOut outside)
    (settles : ∀ callback, Raises (· ≠ .unsettled) (outside callback))
    (reached : Reached outside (fun _ _ _ _ => True) settings workspace editor)
    (operation : HostOperation) (rows : Nat) :
    ∃ outcome after, outcome ≠ .error .unsettled ∧
      (∀ fuel : Nat, settings.maxDepth < fuel →
        operation.perform (reaction outside fuel) rows workspace editor =
          (outcome, after) ∧
        ∃ calls, operation.perform
            (journaling (fun callback => unjournaled (outside callback)) fuel)
            rows workspace (editor.journal []) =
              (outcome, after.journal calls) ∧
          ∀ call ∈ calls,
            call.seen.Shallow (editor.workspace workspace).engine
              settings.maxDepth) ∧
      (after.engine (editor.workspace workspace).engine).guard.depth = 0 ∧
      ((after.engine (editor.workspace workspace).engine).guard.deepest : Int) =
        (after.engine
          (editor.workspace workspace).engine).stats.maxCascadeDepth ∧
      ((after.engine (editor.workspace workspace).engine).guard.deepest : Int) ≤
        settings.maxDepth := by
  have climbing := reached.climbing keepsOut settles
  rw [climbing.workspace workspace]
  have room := climbing.short
  obtain ⟨least, isLeast⟩ : ∃ least : Nat,
      (least : Int) = settings.maxDepth + 1 :=
    ⟨(settings.maxDepth + 1).toNat, by
      simp only [List.length_nil] at room; omega⟩
  rcases run : operation.perform (reaction outside least) rows
    workspace editor with
    ⟨outcome, after⟩
  obtain ⟨climbs, lasts, _⟩ := climbing.perform keepsOut settles run
  have settled := lasts (by omega)
  refine ⟨outcome, after, settled, ?_, ?_, climbs.counted, climbs.deepest⟩
  · intro fuel enough
    have runs : operation.perform (reaction outside fuel) rows
        workspace editor =
        (outcome, after) := by
      obtain ⟨more, rfl⟩ : ∃ more, fuel = least + more :=
        Nat.exists_eq_add_of_le (by omega)
      rcases HostOperation.follows_perform
        (followsCalls_reaction outside least more) rows
        workspace operation with ⟨_, unsettled⟩ | same
      · rw [run] at unsettled
        exact absurd unsettled settled
      · rw [run] at same
        exact same
    exact ⟨runs, (climbing.perform keepsOut settles runs).2.2⟩
  · rw [Guard.depth, climbs.stack]
    rfl

/-- Two blocks whose outputs follow their inputs, wired in a circle. -/
def closedLoop : List HostOperation :=
  [.newBlock "wrap" (some "A") [], .setOutput ⟨0⟩ (some ["From:IN+Many"]),
    .appendInput ⟨0⟩ "IN" none,
    .newBlock "add" (some "B") [], .setOutput ⟨1⟩ (some ["X", "From:IN"]),
    .appendInput ⟨1⟩ "IN" none,
    .wire ⟨0⟩ .live, .wire ⟨1⟩ .live, .connect ⟨0⟩ ⟨3⟩]

/-- Closing the circle is stopped by the guard, two slots deep. -/
theorem cascades_bounded_closedLoop :
    ∃ editor after : Editor Unit,
      Reached idle (fun _ _ _ _ => True) {} ⟨0⟩ editor ∧
      (∀ fuel : Nat, 64 < (fuel : Int) →
        HostOperation.perform (reaction idle fuel) 20 ⟨0⟩
          (.connect ⟨2⟩ ⟨1⟩) editor =
          (.error (.cyclicPropagation ⟨"A", .output, "output"⟩
            [⟨"A", .output, "output"⟩, ⟨"B", .output, "output"⟩]), after) ∧
        ∃ calls, HostOperation.perform
            (journaling (fun callback => unjournaled (idle callback)) fuel) 20
            ⟨0⟩ (.connect ⟨2⟩ ⟨1⟩) (editor.journal []) =
              (.error (.cyclicPropagation ⟨"A", .output, "output"⟩
                [⟨"A", .output, "output"⟩, ⟨"B", .output, "output"⟩]),
                after.journal calls) ∧
          ∀ call ∈ calls, call.seen.Shallow (editor.workspace ⟨0⟩).engine 64) ∧
      (after.engine (editor.workspace ⟨0⟩).engine).guard.depth = 0 ∧
      (after.engine (editor.workspace ⟨0⟩).engine).guard.deepest = 2 ∧
      (after.engine (editor.workspace ⟨0⟩).engine).stats.maxCascadeDepth =
        2 := by
  have reached : Reached idle (fun _ _ _ _ => True) {} ⟨0⟩
      (HostOperation.performAll idle 20 ⟨0⟩ closedLoop freshWorkspace) :=
    reached_freshWorkspace.performAll 20 closedLoop (by decide +kernel)
  generalize isEditor : HostOperation.performAll idle 20 ⟨0⟩ closedLoop
    freshWorkspace = editor at reached
  obtain ⟨outcome, after, _, ends, depth, counted, _⟩ :=
    cascades_bounded keepsOut_idle raises_idle reached (.connect ⟨2⟩ ⟨1⟩) 20
  have run := (ends 65 (by decide)).1
  have stops : outcome = .error (.cyclicPropagation ⟨"A", .output, "output"⟩
      [⟨"A", .output, "output"⟩, ⟨"B", .output, "output"⟩]) := by
    rw [← show _ = outcome from congrArg Prod.fst run, ← isEditor]
    decide +kernel
  have deepest : (after.engine (editor.workspace ⟨0⟩).engine).guard.deepest =
      2 := by
    rw [← show _ = after from congrArg Prod.snd run, ← isEditor]
    decide +kernel
  rw [stops] at ends
  refine ⟨editor, after, reached, ends, depth, deepest, ?_⟩
  rw [← counted, deepest]
  rfl

end Reached

end Editor

end TypeFlow
