import TypeFlow.Proofs.EchoWiring

/-!
# Joining chains

A chain stays one while other things are made.  Two chains become one when the
end of the first is plugged into the start of the second.
-/

namespace TypeFlow.Editor

variable {σ : Type}

/-- What was there is there still, as it was. -/
structure Extended (before after : Editor σ) : Prop where
  block : ∀ id, before.blocks.contains id → after.block id = before.block id
  connection : ∀ id, before.connections.contains id →
    after.connection id = before.connection id
  wiring : ∀ id, before.wirings.contains id →
    (after.wiring id).bare = (before.wiring id).bare

section Kept

variable {settings : Settings} {workspace : WorkspaceId} {engine : EngineId}
  {before editor after : Editor σ} {echo : Echo} {echoes : List Echo}

/-- An open wiring that binds the output to the input makes an echo. -/
theorem Sound.echoing (sound : Sound settings workspace engine none editor)
    (output : (editor.block echo.block).output = some echo.output)
    (rows : (editor.block echo.block).rows =
      [{ name := "IN", connection := some echo.input }])
    (unrestricted : (editor.connection echo.input).check = none)
    (live : (editor.wiring echo.wiring).mode = .live)
    (undisposed : (editor.wiring echo.wiring).disposed = false)
    (follows : ∃ label, (editor.wiring echo.wiring).bindings =
      ⟨[((editor.connection echo.output).key, echo.binding label)]⟩) :
    editor.Echoing engine echo := by
  have wired : editor.liveWiringFor? engine echo.block = some echo.wiring := by
    obtain ⟨label, bindings⟩ := follows
    have isOpen : editor.OpenBinding echo.wiring
        (editor.connection echo.output).key (echo.binding label) := by
      refine ⟨undisposed, ?_⟩
      rw [bindings]
      simp [OrderedMap.get?, OrderedMap.lookup]
    -- The binding tells the block of the wiring, and that is where the record
    -- is.
    obtain ⟨_, onBlock, _⟩ := sound.wired.target _ _ _ isOpen
    obtain ⟨_, outputHome, _⟩ := sound.layout.output _ _ output
    have onRecord := sound.wired.onRecord _ _ _ isOpen (by simp)
    rw [← onBlock, outputHome] at onRecord
    simp [liveWiringFor?, wiringFor?, onRecord, undisposed]
  exact ⟨output, rows, unrestricted, wired, live, follows⟩

/-- An echo stays one as long as its block, its wiring and the check of its
input do. -/
theorem Echoing.kept (echoing : before.Echoing engine echo)
    (sound : Sound settings workspace engine none after)
    (block : after.block echo.block = before.block echo.block)
    (key : (after.connection echo.output).key =
      (before.connection echo.output).key)
    (check : (after.connection echo.input).check =
      (before.connection echo.input).check)
    (wiring : (after.wiring echo.wiring).bare =
      (before.wiring echo.wiring).bare) :
    after.Echoing engine echo := by
  have undisposed : (before.wiring echo.wiring).disposed = false := by
    simpa using (Option.filter_eq_some_iff.mp echoing.wired).2
  apply sound.echoing
  · rw [block]
    exact echoing.output
  · rw [block]
    exact echoing.rows
  · rw [check]
    exact echoing.unrestricted
  · exact (congrArg Wiring.mode wiring :).trans echoing.live
  · exact (congrArg Wiring.disposed wiring :).trans undisposed
  · obtain ⟨label, bindings⟩ := echoing.follows
    refine ⟨label, ?_⟩
    rw [key]
    exact (congrArg Wiring.bindings wiring :).trans bindings

theorem EchoChain.extended (chain : EchoChain engine echoes before)
    (soundBefore : Sound settings workspace engine none before)
    (sound : Sound settings workspace engine none after)
    (extended : Extended before after) (ids : after.UniqueIds) :
    EchoChain engine echoes after := by
  have output : ∀ echo ∈ echoes,
      after.connection echo.output = before.connection echo.output :=
    fun echo member =>
      extended.connection _ ((chain.echoing echo member).outputEntry
        soundBefore.layout).1
  have input : ∀ echo ∈ echoes,
      after.connection echo.input = before.connection echo.input :=
    fun echo member =>
      extended.connection _ ((chain.echoing echo member).inputEntry
        soundBefore.layout).1
  constructor
  case ids => exact ids
  case echoing =>
    intro echo member
    have echoing := chain.echoing echo member
    obtain ⟨_, isOpen⟩ := echoing.openBinding
    apply echoing.kept sound
    · exact extended.block _ (echoing.known soundBefore.layout)
    · rw [output echo member]
    · rw [input echo member]
    · exact extended.wiring _ (contains_of_openBinding isOpen)
  case distinct => exact chain.distinct
  case plugged =>
    apply chain.plugged.imp_of_mem_imp
    intro near far isNear _ linked
    rw [output near isNear]
    exact linked
  case begins =>
    intro echo isFirst
    rw [input echo (List.mem_of_head? isFirst)]
    exact chain.begins echo isFirst
  case ends =>
    intro echo isLast
    rw [output echo (List.mem_of_getLast? isLast)]
    exact chain.ends echo isLast
  case blank =>
    intro echo member
    rw [output echo member]
    exact chain.blank echo member

end Kept

section Joined

variable {settings : Settings} {workspace : WorkspaceId} {engine : EngineId}
  {editor after : Editor σ} {last first : Echo} {near far : List Echo}

/-- The end of one chain is plugged into the start of another one.  There is
nothing to hand on yet. -/
theorem EchoChain.leads_join (left : EchoChain engine near editor)
    (right : EchoChain engine far editor) (isLast : near.getLast? = some last)
    (isFirst : far.head? = some first) (apart : last.block ≠ first.block)
    (sound : Sound settings workspace engine none editor)
    (home : AtHome workspace engine none editor)
    (tallied : Tallied workspace engine editor)
    (room : ((editor.engine engine).guard.depth : Int) <
      (editor.engine engine).guard.maxDepth) (outside : Callbacks σ)
      (fuel : Nat) :
    Leads (connect (reaction outside (fuel + 1)) last.output first.input) editor
      (fun _ after => ∃ caches,
        Blanked first.output (editor.plug caches last.output first.input) after)
      (fun _ _ => False) := by
  have lastEchoing := left.echoing last (List.mem_of_getLast? isLast)
  have echoing := right.echoing first (List.mem_of_head? isFirst)
  apply echoing.leads_connect (right.begins first isFirst) lastEchoing.output
    (left.ends last isLast) apart left.ids sound home tallied
  intro caches
  let plugged := editor.plug caches last.output first.input
  have bare := fun id => bare_plug editor caches last.output first.input id
  have relays : plugged.Relays workspace engine first :=
    (echoing.relays sound home tallied left.ids).congr (fun id => (bare id).1)
      (connectionWorkspace_plug editor caches last.output first.input) rfl rfl
  have unfed : plugged.provides (.connection first.input) = .ok [] := by
    have linked : (plugged.connection first.input).target =
        some last.output := by
      rw [target_plug, if_pos rfl]
    have blank : (plugged.connection last.output).check = none := by
      rw [(bare last.output).2.2]
      exact left.blank last (List.mem_of_getLast? isLast)
    simp only [provides, linked, blank, Check.types, Option.getD_none]
  have blank : (plugged.connection first.output).check = none := by
    rw [(bare first.output).2.2]
    exact right.blank first (List.mem_of_head? isFirst)
  rw [← (bare first.output).1]
  simp only [reaction, leads_discard]
  apply Leads.imp (leads_recompute_unfed relays.serves relays.bound
    sound.desk.active room unfed (Or.inl blank))
  intro _ after blanked
  exact ⟨caches, blanked⟩

/-- The two chains have become one. -/
theorem EchoChain.joined (left : EchoChain engine near editor)
    (right : EchoChain engine far editor) (isLast : near.getLast? = some last)
    (isFirst : far.head? = some first)
    (apart : ∀ echo ∈ near, ∀ other ∈ far, echo.block ≠ other.block)
    (soundBefore : Sound settings workspace engine none editor)
    (sound : Sound settings workspace engine none after)
    {caches : OrderedMap CacheId Wildcard.Cache}
    (blanked : Blanked first.output (editor.plug caches last.output first.input)
      after) :
    EchoChain engine (near ++ far) after := by
  have lastMember := List.mem_of_getLast? isLast
  have firstMember := List.mem_of_head? isFirst
  have layout := soundBefore.layout
  have bare := fun id => bare_plug editor caches last.output first.input id
  -- The output that was recomputed had no types before, so only links are new.
  have connection : ∀ id, after.connection id =
      (editor.plug caches last.output first.input).connection id := by
    apply blanked.connection_eq
    rw [(bare first.output).2.2]
    exact right.blank first firstMember
  have outputHome : ∀ echo, editor.Echoing engine echo →
      (editor.connection echo.output).block = echo.block :=
    fun echo echoing => (echoing.outputEntry layout).2.1
  have inputHome : ∀ echo, editor.Echoing engine echo →
      (editor.connection echo.input).block = echo.block :=
    fun echo echoing => (echoing.inputEntry layout).2.1
  have differ : ∀ echo other, editor.Echoing engine echo →
      editor.Echoing engine other →
      echo.output ≠ other.input := by
    intro echo other echoing otherEchoing same
    have isOutput := (echoing.outputEntry layout).2.2
    rw [same, (otherEchoing.inputEntry layout).2.2] at isOutput
    cases isOutput
  have linked : ∀ this other, (editor.connection this).target = some other →
      (after.connection this).target = some other := by
    intro this other isTarget
    rw [connection]
    exact linked_plug caches (left.ends last isLast)
      (right.begins first isFirst) isTarget
  constructor
  case ids =>
    intro one other knownOne knownOther sameId
    rw [blanked.blocks] at knownOne knownOther
    rw [blanked.block, blanked.block] at sameId
    exact left.ids one other knownOne knownOther sameId
  case echoing =>
    intro echo member
    have echoing : editor.Echoing engine echo := by
      rcases List.mem_append.mp member with isNear | isFar
      · exact left.echoing echo isNear
      · exact right.echoing echo isFar
    apply echoing.kept sound
    · rw [blanked.block]
      rfl
    · rw [connection]
      exact (bare echo.output).1
    · rw [connection]
      exact (bare echo.input).2.2
    · rw [blanked.wiring]
      rfl
  case distinct =>
    rw [List.map_append]
    apply List.Nodup.append left.distinct right.distinct
    intro block isNear isFar
    obtain ⟨echo, member, rfl⟩ := List.mem_map.mp isNear
    obtain ⟨other, otherMember, same⟩ := List.mem_map.mp isFar
    exact apart echo member other otherMember same.symm
  case plugged =>
    apply List.isChain_append.mpr
    refine ⟨left.plugged.imp fun _ _ => linked _ _, right.plugged.imp fun _ _ =>
      linked _ _, ?_⟩
    intro x isX y isY
    cases isLast.symm.trans isX
    cases isFirst.symm.trans isY
    rw [connection, target_plug, if_neg (differ _ _ (left.echoing _ lastMember)
      (right.echoing _ firstMember)).symm, if_pos rfl]
  case begins =>
    intro echo isHead
    have isNear : near.head? = some echo := by
      cases near with
      | nil => cases isLast
      | cons head rest => exact isHead
    have member := List.mem_of_head? isNear
    have notFirst : first.input ≠ echo.input := by
      intro same
      apply apart echo member first firstMember
      rw [← inputHome echo (left.echoing echo member), ← same,
        inputHome first (right.echoing first firstMember)]
    rw [connection, target_plug, if_neg notFirst,
      if_neg (differ last echo (left.echoing last lastMember)
        (left.echoing echo member))]
    exact left.begins echo isNear
  case ends =>
    intro echo isEnd
    have isFar : far.getLast? = some echo := by
      rw [List.getLast?_append] at isEnd
      cases farEnd : far.getLast? with
      | none =>
          rw [List.getLast?_eq_none_iff.mp farEnd] at isFirst
          cases isFirst
      | some farthest =>
          rw [farEnd] at isEnd
          exact isEnd
    have member := List.mem_of_getLast? isFar
    have notLast : last.output ≠ echo.output := by
      intro same
      apply apart last lastMember echo member
      rw [← outputHome last (left.echoing last lastMember), same,
        outputHome echo (right.echoing echo member)]
    rw [connection, target_plug,
      if_neg (differ echo first (right.echoing echo member)
      (right.echoing first firstMember)).symm, if_neg notLast]
    exact right.ends echo isFar
  case blank =>
    intro echo member
    rw [connection, (bare echo.output).2.2]
    rcases List.mem_append.mp member with isNear | isFar
    · exact left.blank echo isNear
    · exact right.blank echo isFar

end Joined

end TypeFlow.Editor
