import TypeFlow.Proofs.Balance
import TypeFlow.Proofs.EchoChain
import TypeFlow.Proofs.LinkHistory

/-!
# Feeding a chain

In a reached state each input of a chain of echoes is listened to by its own
echo alone.  So when an output with types is plugged into the first input, the
types get down to the end of the chain if it is no longer than the limit of
the guard, and otherwise as far as the limit.
-/

namespace TypeFlow.Editor

variable {σ : Type} {echo : Echo} {react : Reaction σ}
  {raised : Fault → Editor σ → Prop}

/-- The block has an unrestricted input and an output, and its wiring does
nothing but let the output follow the input. -/
structure Echoing (engine : EngineId) (editor : Editor σ)
    (echo : Echo) : Prop where
  output : (editor.block echo.block).output = some echo.output
  rows : (editor.block echo.block).rows =
    [{ name := "IN", connection := some echo.input }]
  unrestricted : (editor.connection echo.input).check = none
  wired : editor.liveWiringFor? engine echo.block = some echo.wiring
  live : (editor.wiring echo.wiring).mode = .live
  follows : ∃ label, (editor.wiring echo.wiring).bindings =
    ⟨[((editor.connection echo.output).key, echo.binding label)]⟩

/-- Each output is plugged into the next input, both ends are free and nothing
has been fed to the chain yet. -/
structure EchoChain (engine : EngineId) (echoes : List Echo)
    (editor : Editor σ) : Prop where
  ids : editor.UniqueIds
  echoing : ∀ echo ∈ echoes, editor.Echoing engine echo
  distinct : (echoes.map Echo.block).Nodup
  plugged : echoes.IsChain fun near far =>
    (editor.connection near.output).target = some far.input
  begins : ∀ echo, echoes.head? = some echo →
    (editor.connection echo.input).target = none
  ends : ∀ echo, echoes.getLast? = some echo →
    (editor.connection echo.output).target = none
  blank : ∀ echo ∈ echoes, (editor.connection echo.output).check = none

/-- A free output of a block, with these types. -/
structure Leaf (output : ConnectionId) (types : TypeList) (editor : Editor σ) :
    Prop where
  onBlock : ∃ block, (editor.block block).output = some output
  offers : (editor.connection output).check = some types
  free : (editor.connection output).target = none

section Described

variable {settings : Settings} {workspace : WorkspaceId} {engine : EngineId}
  {editor : Editor σ}

section Echoing

variable (echoing : editor.Echoing engine echo)

include echoing

theorem Echoing.outputEntry (layout : Layout workspace editor) :
    editor.connections.contains echo.output ∧
      (editor.connection echo.output).block = echo.block ∧
      (editor.connection echo.output).key.kind = .output :=
  layout.output echo.block echo.output echoing.output

theorem Echoing.inputEntry (layout : Layout workspace editor) :
    editor.connections.contains echo.input ∧
      (editor.connection echo.input).block = echo.block ∧
      (editor.connection echo.input).key.kind = .input := by
  apply layout.row echo.block { name := "IN", connection := some echo.input }
    echo.input _ rfl
  rw [echoing.rows]
  exact List.mem_singleton.mpr rfl

theorem Echoing.known (layout : Layout workspace editor) :
    editor.blocks.contains echo.block := by
  obtain ⟨known, onBlock, _⟩ := echoing.outputEntry layout
  rw [← onBlock]
  exact layout.home echo.output known

theorem Echoing.openBinding :
    ∃ label, editor.OpenBinding echo.wiring (editor.connection echo.output).key
      (echo.binding label) := by
  obtain ⟨label, bindings⟩ := echoing.follows
  obtain ⟨_, isOpen⟩ := Option.filter_eq_some_iff.mp echoing.wired
  refine ⟨label, by simpa using isOpen, ?_⟩
  rw [bindings]
  simp [OrderedMap.get?, OrderedMap.lookup]

/-- Whoever listens to the input of an echo is the echo. -/
theorem Echoing.listener_eq
    (sound : Sound settings workspace engine none editor)
    (home : AtHome workspace engine none editor) (ids : editor.UniqueIds)
    {listener : Listener}
    (listed : listener ∈ (editor.workspace workspace).registry.listenersAt
      (editor.connection echo.input).key) :
    listener = .recompute echo.wiring (editor.connection echo.output).key := by
  obtain ⟨label, isOpen⟩ := echoing.openBinding
  obtain ⟨knownInput, inputHome, isInput⟩ := echoing.inputEntry sound.layout
  obtain ⟨_, outputHome, _⟩ := echoing.outputEntry sound.layout
  cases listener with
  | callback callback => exact absurd listed (home.recomputes _ callback)
  | recompute wiring target =>
      obtain ⟨binding, isOpenToo, heard⟩ := sound.listened home listed
      have sameBlock : (editor.wiring wiring).block =
          (editor.wiring echo.wiring).block := by
        obtain ⟨_, onBlock, _⟩ := sound.wired.target _ _ _ isOpen
        rcases heard with ⟨input, known, sameHome, _, sameKey⟩
          | ⟨_, _, field, _, _, hasKey⟩
        · rw [← sameHome, ids.sameBlock sound.layout known knownInput sameKey,
            inputHome, ← outputHome, onBlock]
        · have isField := (slotKey_field
            (hasKey : editor.slotKey (.field field) = .ok _)).1
          rw [isInput] at isField
          cases isField
      have sameWiring := sound.sameWiring isOpenToo isOpen sameBlock
      subst sameWiring
      obtain ⟨_, bindings⟩ := echoing.follows
      have found := isOpenToo.2
      rw [bindings] at found
      simp only [OrderedMap.get?, OrderedMap.lookup] at found
      split at found
      · rename_i same
        rw [same]
      · cases found

theorem Echoing.relays (sound : Sound settings workspace engine none editor)
    (home : AtHome workspace engine none editor)
    (tallied : Tallied workspace engine editor) (ids : editor.UniqueIds) :
    editor.Relays workspace engine echo := by
  obtain ⟨label, isOpen⟩ := echoing.openBinding
  obtain ⟨knownOutput, outputHome, _⟩ := echoing.outputEntry sound.layout
  constructor
  case home =>
    exact sound.layout.workspaceOf _ (sound.layout.home echo.output knownOutput)
  case serves => exact sound.wired.engineOf _ (contains_of_openBinding isOpen)
  case bound => exact ⟨label, isOpen.2⟩
  case heard =>
    have listed : .recompute echo.wiring (editor.connection echo.output).key ∈
        (editor.workspace workspace).registry.listenersAt
          (editor.connection echo.input).key := by
      apply home.attends _ _ _ isOpen (by simp) _ (List.mem_singleton.mpr rfl)
      rfl
    have once := tallied.single (editor.connection echo.input).key echo.wiring
      (editor.connection echo.output).key
    have alone := List.eq_replicate_of_mem fun listener member =>
      echoing.listener_eq sound home ids member
    rw [alone, List.count_replicate_self] at once
    have present := List.length_pos_of_mem listed
    have single : ((editor.workspace workspace).registry.listenersAt
        (editor.connection echo.input).key).length = 1 := by
      omega
    rw [single] at alone
    exact alone

end Echoing

end Described

section Plugged

variable {settings : Settings} {workspace : WorkspaceId}
  {engine : EngineId} {limit : Nat} {editor : Editor σ} {first : Echo}
  {rest echoes : List Echo} {leaf : ConnectionId} {types : TypeList}

theorem EchoChain.keys (chain : EchoChain engine echoes editor)
    (layout : Layout workspace editor) :
    (echoes.map fun echo => (editor.connection echo.output).key).Nodup := by
  apply List.pairwise_map.mpr
  apply (List.pairwise_map.mp chain.distinct).imp_of_mem
  intro near far isNear isFar differ sameKey
  obtain ⟨knownNear, nearHome, _⟩ :=
    (chain.echoing near isNear).outputEntry layout
  obtain ⟨knownFar, farHome, _⟩ := (chain.echoing far isFar).outputEntry layout
  have sameHome := chain.ids.sameBlock layout knownNear knownFar sameKey
  rw [nearHome, farHome] at sameHome
  exact differ sameHome

theorem EchoChain.output_ne_leaf (chain : EchoChain engine echoes editor)
    (isLeaf : editor.Leaf leaf types) (member : echo ∈ echoes) :
    echo.output ≠ leaf := by
  rintro rfl
  have blank := chain.blank echo member
  rw [isLeaf.offers] at blank
  cases blank

/-- The state after two connections were found to fit and linked. -/
def plug (editor : Editor σ) (caches : OrderedMap CacheId Wildcard.Cache)
    (this other : ConnectionId) : Editor σ :=
  { editor.link this other with caches }

section Plug

variable (editor : Editor σ) (caches : OrderedMap CacheId Wildcard.Cache)
  (this other id : ConnectionId)

theorem target_plug : ((editor.plug caches this other).connection id).target =
    if other = id then some this
    else if this = id then some other
    else (editor.connection id).target :=
  target_link editor this other id

theorem bare_plug :
    ((editor.plug caches this other).connection id).key =
      (editor.connection id).key ∧
      ((editor.plug caches this other).connection id).block =
        (editor.connection id).block ∧
      ((editor.plug caches this other).connection id).check =
        (editor.connection id).check := by
  have isEntry : (editor.plug caches this other).connection id = _ :=
    connection_setTargets editor this other _ _ id
  rw [isEntry]
  split
  · exact ⟨rfl, rfl, rfl⟩
  · split
    · exact ⟨rfl, rfl, rfl⟩
    · exact ⟨rfl, rfl, rfl⟩

theorem connectionWorkspace_plug :
    (editor.plug caches this other).connectionWorkspace id =
      editor.connectionWorkspace id := by
  unfold connectionWorkspace
  rw [(bare_plug editor caches this other id).2.1]
  rfl

end Plug

/-- What is linked stays linked when two free connections are plugged together.
-/
theorem linked_plug (caches : OrderedMap CacheId Wildcard.Cache)
    {this other near far : ConnectionId}
    (thisFree : (editor.connection this).target = none)
    (otherFree : (editor.connection other).target = none)
    (linked : (editor.connection near).target = some far) :
    ((editor.plug caches this other).connection near).target = some far := by
  have notOther : other ≠ near := by
    rintro rfl
    rw [otherFree] at linked
    cases linked
  have notThis : this ≠ near := by
    rintro rfl
    rw [thisFree] at linked
    cases linked
  rw [target_plug, if_neg notOther, if_neg notThis, linked]

/-- Plugging a leaf into the first input feeds the chain. -/
theorem EchoChain.fed (chain : EchoChain engine (first :: rest) editor)
    (isLeaf : editor.Leaf leaf types) (nonempty : types ≠ [])
    (sound : Sound settings workspace engine none editor)
    (home : AtHome workspace engine none editor)
    (tallied : Tallied workspace engine editor)
    (maxDepth : (editor.engine engine).guard.maxDepth = limit)
    (caches : OrderedMap CacheId Wildcard.Cache) :
    Fed workspace engine limit first rest types
      (editor.plug caches leaf first.input) := by
  have firstFree := chain.begins first rfl
  have bare := fun id => bare_plug editor caches leaf first.input id
  have kept : ∀ this other, (editor.connection this).target = some other →
      ((editor.plug caches leaf first.input).connection this).target =
        some other :=
    fun this other linked => linked_plug caches isLeaf.free firstFree linked
  constructor
  case line =>
    constructor
    case relays =>
      intro echo member
      exact ((chain.echoing echo member).relays sound home tallied
        chain.ids).congr
        (fun id => (bare id).1)
        (connectionWorkspace_plug editor caches leaf first.input) rfl rfl
    case keys =>
      simp only [fun id => (bare id).1]
      exact chain.keys sound.layout
    case plugged =>
      apply chain.plugged.imp
      intro near far linked
      exact ⟨kept _ _ linked, kept _ _ (sound.linking.back _ _ linked)⟩
    case ends =>
      intro echo isLast
      have member := List.mem_of_getLast? isLast
      have notFirst : first.input ≠ echo.output := by
        intro same
        have isInput :=
          ((chain.echoing first List.mem_cons_self).inputEntry sound.layout).2.2
        rw [same, ((chain.echoing echo member).outputEntry sound.layout).2.2]
          at isInput
        cases isInput
      rw [target_plug, if_neg notFirst,
        if_neg (chain.output_ne_leaf isLeaf member).symm]
      exact chain.ends echo isLast
  case maxDepth => exact maxDepth
  case inactive =>
    intro other _ active
    change _ ∈ (editor.engine engine).guard.active at active
    rw [sound.desk.active] at active
    cases active
  case shallow =>
    change (editor.engine engine).guard.depth ≤ limit
    rw [Guard.depth, sound.desk.stack]
    exact Nat.zero_le limit
  case offered =>
    refine ⟨leaf, ?_, ?_⟩
    · rw [target_plug, if_pos rfl]
    · rw [(bare leaf).2.2]
      exact isLeaf.offers
  case nonempty => exact nonempty
  case blank =>
    intro other member
    rw [(bare other.output).2.2]
    exact chain.blank other member

/-- Two free connections, one of them unrestricted, are linked, and their
listeners are called. -/
theorem leads_connect_free {this other : ConnectionId}
    (thisFree : (editor.connection this).target = none)
    (otherFree : (editor.connection other).target = none)
    (faces : editor.canFace this other = true)
    (unrestricted : (editor.connection other).check = none)
    {returned : Unit → Editor σ → Prop}
    (plugs : ∀ caches, Leads (notifyEnds react this other)
      (editor.plug caches this other)
      returned raised) : Leads (connect react this other) editor returned
      raised := by
  have accepts : ∀ cache : Wildcard.Cache,
      cache.relax (editor.connection this).check none
        (shareType (editor.connection this).check none) = (true, cache) := by
    intro cache
    cases (editor.connection this).check <;> rfl
  simp only [connect, canConnectWith, canConnect, leads_bind, leads_look,
    leads_get, leads_set, leads_pure, leads_modify, thisFree, reduceCtorEq,
    if_false, faces, if_true, unrestricted, accepts]
  apply leads_disconnect this
  · intro _
    apply leads_disconnect other
    · intro _
      exact plugs _
    · intro far linked
      exact absurd (otherFree.symm.trans linked) (by simp)
  · intro far linked
    exact absurd (thisFree.symm.trans linked) (by simp)

theorem leads_notify_none {key : SlotKey}
    (unheard : (editor.workspace workspace).registry.listenersAt key = [])
    {returned : Nat → Editor σ → Prop} :
    Leads (notify react workspace key) editor returned raised ↔
      returned 0 editor := by
  simp only [notify, leads_bind, leads_look, unheard]
  rfl

theorem Carried.since {echoes : List Echo} {count : Nat}
    {before middle after : Editor σ}
    (carried : Carried echoes count types middle after)
    (same : ∀ id, (middle.connection id).check = (before.connection id).check) :
    Carried echoes count types before after where
  carried := carried.carried
  kept := fun connection apart => (carried.kept connection apart).trans
    (same connection)

theorem Echoing.canFace (echoing : editor.Echoing engine first)
    (layout : Layout workspace editor) {block : BlockId}
    (hasOutput : (editor.block block).output = some leaf)
    (apart : block ≠ first.block) : editor.canFace leaf first.input = true := by
  obtain ⟨_, leafHome, isOutput⟩ := layout.output block leaf hasOutput
  obtain ⟨_, inputHome, isInput⟩ := echoing.inputEntry layout
  have differ : leaf ≠ first.input := by
    rintro rfl
    rw [isOutput] at isInput
    cases isInput
  simp [Editor.canFace, Connection.isOutput, differ, leafHome, inputHome, apart,
    isOutput, isInput]

/-- Plugging an output into a free echo recomputes the echo and does nothing
else. -/
theorem Echoing.leads_connect (echoing : editor.Echoing engine first)
    (inputFree : (editor.connection first.input).target = none)
    {block : BlockId} (hasOutput : (editor.block block).output = some leaf)
    (outputFree : (editor.connection leaf).target = none)
    (apart : block ≠ first.block) (ids : editor.UniqueIds)
    (sound : Sound settings workspace engine none editor)
    (home : AtHome workspace engine none editor)
    (tallied : Tallied workspace engine editor)
    {returned : Unit → Editor σ → Prop} (recomputes : ∀ caches,
      Leads
        (react (.recompute first.wiring (editor.connection first.output).key))
        (editor.plug caches leaf first.input) (fun _ after => returned () after)
          raised) :
    Leads (connect react leaf first.input) editor returned raised := by
  obtain ⟨knownLeaf, _, isOutput⟩ := sound.layout.output block leaf hasOutput
  apply leads_connect_free outputFree inputFree
    (echoing.canFace sound.layout hasOutput apart) echoing.unrestricted
  intro caches
  have inWorkspace :
      (editor.plug caches leaf first.input).connectionWorkspace leaf =
      workspace := by
    rw [connectionWorkspace_plug]
    exact sound.layout.workspaceOf _ (sound.layout.home leaf knownLeaf)
  have unheard :
      ((editor.plug caches leaf first.input).workspace
        workspace).registry.listenersAt
      ((editor.plug caches leaf first.input).connection leaf).key = [] := by
    rw [(bare_plug editor caches leaf first.input leaf).1]
    exact sound.listenersAt_output home isOutput
  have heard :
      ((editor.plug caches leaf first.input).workspace
        workspace).registry.listenersAt
      ((editor.plug caches leaf first.input).connection first.input).key =
        [.recompute first.wiring (editor.connection first.output).key] := by
    rw [(bare_plug editor caches leaf first.input first.input).1]
    exact (echoing.relays sound home tallied ids).heard
  simp only [notifyEnds, leads_bind, leads_look, leads_discard, inWorkspace]
  rw [leads_notify_none unheard, leads_notify_single heard]
  exact recomputes caches

variable (chain : EchoChain engine (first :: rest) editor)
  (isLeaf : editor.Leaf leaf types)

include chain isLeaf

theorem EchoChain.leaf_apart {block : BlockId}
    (hasOutput : (editor.block block).output = some leaf) :
    block ≠ first.block := by
  rintro rfl
  rw [(chain.echoing first List.mem_cons_self).output] at hasOutput
  cases hasOutput
  exact chain.output_ne_leaf isLeaf List.mem_cons_self rfl

/-- However the cascade ends, the leaf stays plugged in. -/
theorem EchoChain.attached (sound : Sound settings workspace engine none editor)
    (ripples : RipplesOnly react) :
    Ends (connect react leaf first.input) editor fun after =>
      (after.connection leaf).target = some first.input ∧
        (after.connection first.input).target = some leaf := by
  have echoing := chain.echoing first List.mem_cons_self
  have inputFree := chain.begins first rfl
  obtain ⟨block, hasOutput⟩ := isLeaf.onBlock
  obtain ⟨knownLeaf, _, isOutput⟩ := sound.layout.output block leaf hasOutput
  obtain ⟨knownInput, _, isInput⟩ := echoing.inputEntry sound.layout
  have faces := echoing.canFace sound.layout hasOutput
    (chain.leaf_apart isLeaf hasOutput)
  apply leads_connect_free isLeaf.free inputFree faces echoing.unrestricted
  intro caches
  have links : Change Liberties.all workspace engine none { editor with
      caches } none (editor.plug caches leaf first.input) :=
    Change.linked knownLeaf knownInput isLeaf.free inputFree faces
  have plugged := links.sound (sound.steady (steady_caches editor caches))
  apply Ends.mono (notifyEnds_echoed ripples plugged.responsive
    leaf first.input)
  intro after echoed
  have differ : first.input ≠ leaf := by
    intro same
    rw [same, isOutput] at isInput
    cases isInput
  rw [echoed.toSteady.connectionTarget, echoed.toSteady.connectionTarget,
    target_plug, target_plug, if_neg differ, if_pos rfl, if_pos rfl]
  exact ⟨rfl, rfl⟩

/-- Feeding a chain fills all its outputs if it is no longer than the limit, and
otherwise as many as the limit allows. -/
theorem EchoChain.leads_connect (nonempty : types ≠ [])
    (sound : Sound settings workspace engine none editor)
    (home : AtHome workspace engine none editor)
    (tallied : Tallied workspace engine editor)
    (maxDepth : (editor.engine engine).guard.maxDepth = limit)
    (outside : Callbacks σ) {fuel : Nat} (enough : limit < fuel) :
    Leads (connect (reaction outside fuel) leaf first.input) editor
      (fun _ after => (first :: rest).length ≤ limit ∧
        Carried (first :: rest) (first :: rest).length
          (TypeList.distinct types) editor after)
      (fun fault after => ∃ stopped, (first :: rest)[limit]? = some stopped ∧
        fault = .cascadeTooDeep (editor.connection stopped.output).key limit ∧
        Carried (first :: rest) limit (TypeList.distinct types) editor
          after) := by
  have echoing := chain.echoing first List.mem_cons_self
  obtain ⟨block, hasOutput⟩ := isLeaf.onBlock
  apply echoing.leads_connect (chain.begins first rfl) hasOutput isLeaf.free
    (chain.leaf_apart isLeaf hasOutput) chain.ids sound home tallied
  intro caches
  have fed := chain.fed isLeaf nonempty sound home tallied maxDepth caches
  have bare := fun id => bare_plug editor caches leaf first.input id
  have idle :
      ((editor.plug caches leaf first.input).engine engine).guard.depth =
        0 := by
    change (editor.engine engine).guard.depth = 0
    rw [Guard.depth, sound.desk.stack]
    rfl
  rw [← (bare first.output).1]
  apply Leads.mono (leads_cascade outside fed (by rw [idle]; exact enough))
  · rintro _ after ⟨fits, carried⟩
    rw [idle, Nat.zero_add] at fits
    exact ⟨fits, carried.since fun id => (bare id).2.2⟩
  · rintro fault after ⟨stopped, isNext, isFault, carried⟩
    rw [idle, Nat.sub_zero] at isNext carried
    refine ⟨stopped, isNext, ?_, carried.since fun id => (bare id).2.2⟩
    rw [isFault]
    exact congrArg (fun key => Fault.cascadeTooDeep key limit)
      (bare stopped.output).1

end Plugged

end TypeFlow.Editor
