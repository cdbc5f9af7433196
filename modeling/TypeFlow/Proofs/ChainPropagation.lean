import TypeFlow.Proofs.ChainBuilding

/-!
# How far types get down a chain

Types that are fed to a chain of echoes reach its end if the chain is no longer
than the limit of the guard.  Otherwise they get as far as the limit, and the
next output is refused.
-/

namespace TypeFlow.Editor

open HostOperation (makeChain makeLeaf perform)

variable {σ : Type} {settings : Settings}

/-- How plugging a leaf into the start of a chain ends. -/
structure FeedsUpTo (limit : Nat) (echoes : List Echo) (leaf : ConnectionId)
    (types : TypeList) (before : Editor σ)
    (result : Except Fault Unit × Editor σ) : Prop where
  returns : result.1 = .ok () ↔ echoes.length ≤ limit
  filled : echoes.length ≤ limit →
    ∀ echo ∈ echoes, (result.2.connection echo.output).check =
      some (TypeList.distinct types)
  stopped : limit < echoes.length →
    (∃ refused, echoes[limit]? = some refused ∧
      result.1 = .error (.cascadeTooDeep (before.connection refused.output).key
        limit)) ∧
    (∀ echo ∈ echoes.take limit,
      (result.2.connection echo.output).check =
        some (TypeList.distinct types)) ∧
    ∀ echo ∈ echoes.drop limit, (result.2.connection echo.output).check = none
  attached : ∃ first, echoes.head? = some first ∧
    (result.2.connection leaf).target = some first.input ∧
    (result.2.connection first.input).target = some leaf
  atRest : (result.2.engine (before.workspace ⟨0⟩).engine).guard.depth = 0

section Fed

variable {limit fuel : Nat} {types : TypeList} {editor after : Editor σ}
  {first : Echo} {rest : List Echo} {leaf : ConnectionId}

/-- What lies beyond the limit has not been reached. -/
theorem EchoChain.blank_beyond (chain : EchoChain ⟨0⟩ (first :: rest) editor)
    (layout : Layout ⟨0⟩ editor) (types : TypeList)
    (carried : Carried (first :: rest) limit types editor after) :
    ∀ echo ∈ (first :: rest).drop limit, (after.connection echo.output).check =
      none := by
  intro echo member
  rw [carried.kept echo.output]
  · exact chain.blank echo (List.mem_of_mem_drop member)
  · intro other isEarlier same
    have keys := chain.keys layout
    rw [← List.take_append_drop limit (first :: rest), List.map_append] at keys
    apply (List.nodup_append.mp keys).2.2
      _ (List.mem_map.mpr ⟨other, isEarlier, rfl⟩) _
      (List.mem_map.mpr ⟨echo, member, rfl⟩)
    rw [same]

theorem EchoChain.feedsUpTo (chain : EchoChain ⟨0⟩ (first :: rest) editor)
    (isLeaf : editor.Leaf leaf types) (nonempty : types ≠ [])
    (inUse : InUse settings editor) (maxDepth : settings.maxDepth = limit)
    (enough : limit < fuel) (rows : Nat) :
    FeedsUpTo limit (first :: rest) leaf types editor
      (perform (reaction idle fuel) rows ⟨0⟩ (.connect leaf first.input)
        editor) := by
  have sound := InUse.sound inUse
  have climbing := inUse.climbing keepsOut_idle raises_idle
  have feeds := chain.leads_connect isLeaf nonempty sound (InUse.atHome inUse)
    (InUse.tallied inUse) (climbing.maxDepth.trans maxDepth) idle enough
  have attached := (ends_iff _ _ _).mp
    (chain.attached isLeaf sound (ripplesOnly_reaction keepsOut_idle fuel))
  rcases run : perform (reaction idle fuel) rows ⟨0⟩ (.connect leaf first.input)
    editor with ⟨outcome, after⟩
  have runs : connect (reaction idle fuel) leaf first.input editor =
      (outcome, after) := run
  have climbs := (climbing.perform keepsOut_idle raises_idle run).1
  rw [runs] at attached
  have atRest : (after.engine (editor.workspace ⟨0⟩).engine).guard.depth =
      0 := by
    rw [sound.desk.engineOf, Guard.depth, climbs.stack]
    rfl
  cases outcome with
  | ok value =>
      obtain ⟨fits, carried⟩ := feeds.returns runs
      refine ⟨⟨fun _ => fits, fun _ => rfl⟩, ?_, ?_,
        ⟨first, rfl, attached⟩, atRest⟩
      · intro _ echo member
        apply carried.carried
        rw [List.take_length]
        exact member
      · intro exceeds
        exact absurd fits (Nat.not_le.mpr exceeds)
  | error fault =>
      obtain ⟨refused, isNext, isFault, carried⟩ := feeds.raises runs
      obtain ⟨exceeds, _⟩ := List.getElem?_eq_some_iff.mp isNext
      refine ⟨⟨?_, ?_⟩, ?_, ?_, ⟨first, rfl, attached⟩, atRest⟩
      · intro impossible
        cases impossible
      · intro fits
        exact absurd exceeds (Nat.not_lt.mpr fits)
      · intro fits
        exact absurd exceeds (Nat.not_lt.mpr fits)
      · intro _
        refine ⟨⟨refused, isNext, ?_⟩, carried.carried,
          chain.blank_beyond sound.layout _ carried⟩
        rw [isFault]

end Fed

/-- A workspace opens if its settings are in order, and nothing is registered
then. -/
theorem openWorkspace_returns (lead : settings.lead ≠ "")
    (room : 1 ≤ settings.maxDepth) (isTemplate : Bool) (outer : σ) :
    ∃ opened, openWorkspace settings isTemplate { outer } = (.ok ⟨0⟩, opened) ∧
      (opened.workspace ⟨0⟩).blocks = {} := by
  have valid : ∃ config, settings.validate = .ok config := by
    rw [Settings.validate, dif_neg lead, dif_neg (Int.not_lt.mpr room)]
    exact ⟨_, rfl⟩
  obtain ⟨config, valid⟩ := valid
  have opens : Leads (openWorkspace settings isTemplate) { outer }
      (fun workspace after => workspace = ⟨0⟩ ∧
        (after.workspace ⟨0⟩).blocks = {})
      (fun _ _ => False) := by
    simp only [openWorkspace, newEngine, newChecker, newCache, newWorkspace,
      leads_bind, leads_look, leads_lookup, leads_modify, leads_pure, valid]
    refine ⟨?_, by simp⟩
    intro _ _
    exact ⟨rfl, rfl⟩
  obtain ⟨workspace, opened, run, rfl, unregistered⟩ := opens.run
  exact ⟨opened, run, unregistered⟩

/-- A workspace that was just opened has a chain of no echoes. -/
theorem Blank.stocked {editor : Editor σ} (blank : Blank ⟨0⟩ editor)
    (inUse : InUse settings editor)
    (unregistered : (editor.workspace ⟨0⟩).blocks = {}) :
    Stocked settings 0 editor where
  inUse := inUse
  labelled := by
    constructor
    · intro id known
      rw [blank.blocks] at known
      cases known
    · intro name taken
      rw [unregistered] at taken
      cases taken
  blocks := by rw [blank.blocks]; rfl
  connections := by rw [blank.connections]; rfl
  wirings := by rw [blank.wirings]; rfl
  chain := by
    constructor
    · intro left right known
      rw [blank.blocks] at known
      cases known
    · intro echo member
      cases member
    · exact List.nodup_nil
    · exact List.isChain_nil
    · intro echo isFirst
      cases isFirst
    · intro echo isLast
      cases isLast
    · intro echo member
      cases member

/-- Types propagate down a chain of echoes up to the limit, and the first echo
beyond it is refused.  This holds of each chain that a host can bring about, and
there is one of each length. -/
theorem chain_propagates_to_limit (count limit fuel : Nat) (types : TypeList)
    (isChain : 1 ≤ count) (room : 1 ≤ limit) (nonempty : types ≠ [])
    (enough : limit < fuel) :
    (∀ (settings : Settings) (editor : Editor σ) (first : Echo)
      (rest : List Echo) (leaf : ConnectionId),
      settings.maxDepth = limit → InUse settings editor →
      EchoChain (editor.workspace ⟨0⟩).engine (first :: rest) editor →
      (first :: rest).length = count → editor.Leaf leaf types →
      FeedsUpTo limit (first :: rest) leaf types editor
        (perform (reaction idle fuel) fuel ⟨0⟩ (.connect leaf first.input)
          editor)) ∧
    ∀ outer : σ, ∃ built : Editor σ,
      (do
        let workspace ← openWorkspace
          { lead := "From:", maxDepth := limit, initialRecompute := true } false
        (makeChain count ++ makeLeaf count types).forM
          (perform (reaction idle fuel) fuel workspace)) { outer } =
        (.ok (), built) ∧
      EchoChain (built.workspace ⟨0⟩).engine
        ((List.range count).map Echo.inPlace) built ∧
      built.Leaf ⟨2 * count⟩ types ∧
      FeedsUpTo limit ((List.range count).map Echo.inPlace) ⟨2 * count⟩ types
        built (perform (reaction idle fuel) fuel ⟨0⟩
          (.connect ⟨2 * count⟩ (Echo.inPlace 0).input) built) := by
  constructor
  · intro settings editor first rest leaf maxDepth inUse chain _ isLeaf
    rw [(InUse.sound inUse).desk.engineOf] at chain
    exact chain.feedsUpTo isLeaf nonempty inUse maxDepth enough fuel
  · intro outer
    obtain ⟨opened, opens, unregistered⟩ := @openWorkspace_returns σ
      { lead := "From:", maxDepth := limit, initialRecompute := true }
      (show "From:" ≠ "" by decide) (Int.ofNat_le.mpr room) false outer
    have inUse :
        InUse { lead := "From:", maxDepth := limit, initialRecompute := true }
          opened :=
      Reached.opened opens
    have stocked := (blank_openWorkspace.returns opens).1.stocked
      inUse unregistered
    obtain ⟨linked, makes, stockedLinked⟩ :=
      stocked.makes_chain rfl rfl (Nat.zero_lt_of_lt enough) count
    obtain ⟨built, adds, chain, isLeaf⟩ := stockedLinked.makes_leaf types fuel
    have completes := makes.append adds
    have builtInUse := completes.inUse inUse
    have feeds : FeedsUpTo limit ((List.range count).map Echo.inPlace)
        ⟨2 * count⟩ types built (perform (reaction idle fuel) fuel ⟨0⟩
          (.connect ⟨2 * count⟩ (Echo.inPlace 0).input) built) := by
      obtain ⟨others, rfl⟩ : ∃ others, count = others + 1 :=
        Nat.exists_eq_add_one.mpr isChain
      rw [List.range_succ_eq_map, List.map_cons] at chain ⊢
      exact chain.feedsUpTo isLeaf nonempty builtInUse rfl enough fuel
    refine ⟨built, ?_, ?_, isLeaf, feeds⟩
    · apply run_of_leads
      simp only [leads_bind, leads_of_run opens, leads_of_run completes.run]
    · rw [(InUse.sound builtInUse).desk.engineOf]
      exact chain

/-- Three echoes are one too many for a limit of two. -/
theorem chain_propagates_to_limit_threeEchoes :
    1 ≤ 3 ∧ 1 ≤ 2 ∧ (["Number", "Text", "Number"] : TypeList) ≠ [] ∧ 2 < 3 ∧
    ∃ built : Editor Unit,
      (do
        let workspace ← openWorkspace
          { lead := "From:", maxDepth := (2 : Nat), initialRecompute := true }
          false
        (makeChain 3 ++ makeLeaf 3 ["Number", "Text", "Number"]).forM
          (perform (reaction idle 3) 3 workspace)) { outer := () } =
        (.ok (), built) ∧
      let result := perform (reaction idle 3) 3 ⟨0⟩ (.connect ⟨6⟩ ⟨1⟩) built
      result.1 = .error (.cascadeTooDeep ⟨"eee", .output, "output"⟩ 2) ∧
      (result.2.connection ⟨0⟩).check = some ["Number", "Text"] ∧
      (result.2.connection ⟨2⟩).check = some ["Number", "Text"] ∧
      (result.2.connection ⟨4⟩).check = none ∧
      (result.2.connection ⟨6⟩).target = some ⟨1⟩ ∧
      (result.2.engine (built.workspace ⟨0⟩).engine).guard.depth = 0 := by
  refine ⟨by decide, by decide, by decide, by decide, ?_⟩
  obtain ⟨built, builds, _, _, feeds⟩ := (@chain_propagates_to_limit Unit 3 2 3
    ["Number", "Text", "Number"] (by decide) (by decide) (by decide)
    (by decide)).2 ()
  obtain ⟨⟨refused, isNext, faults⟩, taken, left⟩ := feeds.stopped (by decide)
  obtain ⟨first, isFirst, isAttached, _⟩ := feeds.attached
  cases isNext
  cases isFirst
  have named : (built.connection ⟨4⟩).key = ⟨"eee", .output, "output"⟩ := by
    rw [← show _ = built from congrArg Prod.snd builds]
    decide +kernel
  refine ⟨built, builds, ?_, ?_, ?_, ?_, isAttached, feeds.atRest⟩
  · rw [← named]
    exact faults
  · exact taken (Echo.inPlace 0) (by decide)
  · exact taken (Echo.inPlace 1) (by decide)
  · exact left (Echo.inPlace 2) (by decide)

end TypeFlow.Editor
