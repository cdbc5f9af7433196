import Mathlib.Data.List.Chain
import Mathlib.Data.List.Nodup
import Mathlib.Data.List.Perm.Subperm
import Mathlib.Logic.Relation
import Mathlib.Order.RelClasses
import TypeFlow.Directive.Graph
import TypeFlow.Proofs.OrderedMap

/-!
# The search for a cycle is exact

If the search for a cycle returns nothing, no slot leads back to itself.  A
slot is done once every descent from it ends; the fuel is enough because the
slots of a path are different and all have sources.  What the search returns
otherwise is a cycle: it is cut out of the path at the slot that closes it.
`Explores` is the search without fuel; it comes to an end on every graph, with
what the search with fuel returns.
-/

namespace TypeFlow

variable {α : Type} {relation : α → α → Prop}

/-- No item leads back to itself. -/
def Acyclic {α : Type} (relation : α → α → Prop) : Prop :=
  ∀ item, ¬ Relation.TransGen relation item item

theorem Acyclic.mono {small large : α → α → Prop} (acyclic : Acyclic large)
    (included : ∀ left right, small left right → large left right) :
    Acyclic small :=
  fun item circle =>
    acyclic item (Relation.TransGen.mono included item item circle)

/-- The path leads from an item back to it and meets no other item twice. -/
structure IsCycle {α : Type} (relation : α → α → Prop)
    (path : List α) : Prop where
  length : 2 ≤ path.length
  closed : path.head? = path.getLast?
  distinct : path.dropLast.Nodup
  chain : path.IsChain relation

/-- A path that leads to one of its own items contains a cycle. -/
theorem IsCycle.of_path [DecidableEq α] {path : List α} {item : α}
    (distinct : path.Nodup) (chain : path.IsChain relation)
    (member : item ∈ path)
    (closes : ∀ last ∈ path.getLast?, relation last item) :
    IsCycle relation (path.dropWhile (fun other => other ≠ item) ++
      [item]) := by
  obtain ⟨before, rest, rfl, absent⟩ := List.eq_append_cons_of_mem member
  have dropped : (before ++ item :: rest).dropWhile
      (fun other => decide (other ≠ item)) =
      item :: rest := by
    rw [List.dropWhile_append_of_pos, List.dropWhile_cons_of_neg]
    · simp
    · intro other inBefore
      simp only [decide_eq_true_eq]
      rintro rfl
      exact absent inBefore
  rw [dropped]
  constructor
  · simp
  · rw [List.getLast?_concat]
    rfl
  · rw [List.dropLast_concat]
    exact distinct.sublist (List.sublist_append_right before (item :: rest))
  · rw [List.isChain_append]
    refine ⟨chain.right_of_append, List.isChain_singleton item, ?_⟩
    intro last isLast next isNext
    cases isNext
    apply closes
    rw [List.getLast?_append_of_ne_nil _ (List.cons_ne_nil item rest)]
    exact isLast

/-- Whatever lies on a cycle is led to. -/
theorem IsCycle.forall_mem {property : α → Prop} {path : List α}
    (cycle : IsCycle relation path)
    (step : ∀ item next, relation item next → property next) : ∀ item ∈ path,
      property item := by
  have later : ∀ (first : α) (rest : List α), (first :: rest).IsChain relation →
      ∀ item ∈ rest, property item := by
    intro first rest
    induction rest generalizing first with
    | nil =>
        intro _ item member
        cases member
    | cons second rest induction =>
        intro chain item member
        rw [List.isChain_cons_cons] at chain
        rcases List.mem_cons.mp member with rfl | inRest
        · exact step first item chain.1
        · exact induction second chain.2 item inRest
  match path, cycle with
  | [], cycle => exact absurd cycle.length (by simp)
  | [_], cycle => exact absurd cycle.length (by simp)
  | first :: second :: rest, cycle =>
      intro item member
      rcases List.mem_cons.mp member with rfl | inRest
      · have closed := cycle.closed
        rw [List.head?_cons, List.getLast?_cons_cons] at closed
        exact later item _ cycle.chain item (List.mem_of_getLast? closed.symm)
      · exact later first _ cycle.chain item inRest

/-- A cycle leads from an item back to it. -/
theorem IsCycle.transGen {path : List α} (cycle : IsCycle relation path) :
    ∃ item, Relation.TransGen relation item item := by
  match path, cycle with
  | [], cycle => exact absurd cycle.length (by simp)
  | [_], cycle => exact absurd cycle.length (by simp)
  | first :: second :: rest, cycle =>
      have step : relation first second :=
        (List.isChain_cons_cons.mp cycle.chain).1
      have later : Relation.ReflTransGen relation second
          ((second :: rest).getLast (List.cons_ne_nil second rest)) :=
        List.relationReflTransGen_of_exists_isChain (second :: rest)
          cycle.chain.tail (List.cons_ne_nil second rest)
      have closes : (second :: rest).getLast (List.cons_ne_nil second rest) =
          first := by
        have closed := cycle.closed
        rw [List.getLast?_cons_cons,
          List.getLast?_eq_some_getLast (List.cons_ne_nil second rest),
          List.head?_cons] at closed
        exact (Option.some.inj closed).symm
      rw [closes] at later
      exact ⟨first, Relation.TransGen.head' step later⟩

namespace DirectiveGraph

variable {graph : DirectiveGraph} {path cycle : List SlotKey}
  {search : List SlotKey → SlotKey → Search}

/-- `target` takes types from `source`. -/
def Feeds (graph : DirectiveGraph) (source target : SlotKey) : Prop :=
  source ∈ graph.sourcesOf target

theorem sourcesOf_add (graph : DirectiveGraph) (target source other : SlotKey) :
    (graph.add target source).sourcesOf other =
      if target = other then
        if (graph.sourcesOf target).contains source then graph.sourcesOf target
        else graph.sourcesOf target ++ [source]
      else graph.sourcesOf other :=
  OrderedMap.getD_insert _ _ _ _ _

theorem feeds_add_iff (graph : DirectiveGraph)
    (target source other origin : SlotKey) :
    (graph.add target source).Feeds origin other ↔
      (other = target ∧ origin = source) ∨ graph.Feeds origin other := by
  unfold Feeds
  rw [sourcesOf_add]
  by_cases here : target = other
  · subst here
    rw [if_pos rfl]
    split
    · rename_i present
      have known : source ∈ graph.sourcesOf target := by simpa using present
      constructor
      · exact Or.inr
      · rintro (⟨_, rfl⟩ | earlier)
        · exact known
        · exact earlier
    · simp [or_comm]
  · have reversed : ¬ other = target := fun equal => here equal.symm
    simp [here, reversed]

theorem feeds_ofEdges_iff (edges : List (SlotKey × SlotKey))
    (source target : SlotKey) :
    (ofEdges edges).Feeds source target ↔ (target, source) ∈ edges := by
  unfold ofEdges
  suffices general : ∀ graph : DirectiveGraph,
      (edges.foldl (fun graph edge => graph.add edge.1 edge.2) graph).Feeds
        source target ↔
        graph.Feeds source target ∨ (target, source) ∈ edges by
    simpa [Feeds, sourcesOf, OrderedMap.getD] using general {}
  induction edges with
  | nil => simp
  | cons edge rest induction =>
      intro graph
      rw [List.foldl_cons, induction, feeds_add_iff, List.mem_cons,
        Prod.ext_iff]
      grind

/-- Every descent from the listed slots ends. -/
def Finished (graph : DirectiveGraph) (done : List SlotKey) : Prop :=
  ∀ key ∈ done, Acc graph.Feeds key

theorem scan_finished (sources : List SlotKey)
    (step : ∀ done source after, source ∈ sources → source ∉ path →
      search done source = (none, after) → graph.Finished done →
        graph.Finished after ∧ done ⊆ after ∧ source ∈ after) :
    ∀ {done after : List SlotKey}, scan path search done sources =
      (none, after) →
      graph.Finished done →
        graph.Finished after ∧ done ⊆ after ∧ ∀ source ∈ sources,
          source ∈ after := by
  induction sources with
  | nil =>
      intro done after found finished
      cases found
      exact ⟨finished, fun _ => id, by simp⟩
  | cons source rest induction =>
      intro done after found finished
      have later := @induction fun done other after member =>
        step done other after (by simp [member])
      unfold scan at found
      split at found
      · cases found
      · rename_i notOnPath
        have absent : source ∉ path := by simpa using notOnPath
        split at found
        · rename_i isDone
          have known : source ∈ done := by simpa using isDone
          obtain ⟨ended, grown, all⟩ := later found finished
          refine ⟨ended, grown, ?_⟩
          intro other member
          rcases List.mem_cons.mp member with rfl | inRest
          · exact grown known
          · exact all other inRest
        · split at found
          · cases found
          · rename_i middle visited
            obtain ⟨middleFinished, middleGrown, here⟩ :=
              step done source middle (by simp) absent visited finished
            obtain ⟨ended, grown, all⟩ := later found middleFinished
            refine ⟨ended, fun _ member => grown (middleGrown member), ?_⟩
            intro other member
            rcases List.mem_cons.mp member with rfl | inRest
            · exact grown here
            · exact all other inRest

theorem mem_keys_of_feeds {source target : SlotKey}
    (feeds : graph.Feeds source target) :
    target ∈ graph.forward.keys := by
  rw [OrderedMap.mem_keys_iff]
  by_cases known : graph.forward.contains target
  · exact known
  · unfold Feeds sourcesOf at feeds
    rw [OrderedMap.getD_of_not_contains known] at feeds
    cases feeds

theorem nodup_extended {key : SlotKey} (distinct : path.Nodup)
    (absent : key ∉ path) :
    (path ++ [key]).Nodup := by
  rw [← List.concat_eq_append, List.nodup_concat]
  exact ⟨absent, distinct⟩

/-- A path is extended by slots that have sources. -/
theorem known_extended {source key : SlotKey}
    (known : ∀ other ∈ path, other ∈ graph.forward.keys)
    (feeds : graph.Feeds source key) : ∀ other ∈ path ++ [key],
      other ∈ graph.forward.keys := by
  intro other inPath
  rcases List.mem_append.mp inPath with earlier | isKey
  · exact known other earlier
  · rw [List.mem_singleton.mp isKey]
    exact mem_keys_of_feeds feeds

theorem visit_finished (graph : DirectiveGraph) :
    ∀ (fuel : Nat) (path done : List SlotKey) (key : SlotKey)
      (after : List SlotKey), graph.visit fuel path done key = (none, after) →
      graph.forward.size < fuel + path.length → path.Nodup →
      (∀ other ∈ path, other ∈ graph.forward.keys) → key ∉ path →
        graph.Finished done →
        graph.Finished after ∧ done ⊆ after ∧ key ∈ after := by
  intro fuel
  induction fuel with
  | zero =>
      intro path done key after _ enough distinct known _ _
      have bounded := (List.subperm_of_subset distinct known).length_le
      rw [← OrderedMap.size_eq_length_keys] at bounded
      omega
  | succ fuel induction =>
      intro path done key after found enough distinct known absent finished
      unfold visit at found
      split at found
      · cases found
      · rename_i middle scanned
        cases found
        have step : ∀ done source after, source ∈ graph.sourcesOf key →
            source ∉ path ++ [key] →
            graph.visit fuel (path ++ [key]) done source = (none, after) →
            graph.Finished done → graph.Finished after ∧ done ⊆ after ∧
              source ∈ after := by
          intro done source after member notOnPath visited finished
          refine induction (path ++ [key]) done source after visited ?_
            (nodup_extended distinct absent) (known_extended known member)
              notOnPath finished
          rw [List.length_append, List.length_singleton]
          omega
        obtain ⟨ended, grown, all⟩ :=
          scan_finished (graph.sourcesOf key) step scanned finished
        refine ⟨?_, fun _ member =>
          List.mem_cons_of_mem _ (grown member), by simp⟩
        intro other member
        rcases List.mem_cons.mp member with rfl | inMiddle
        · exact Acc.intro other fun source feeds =>
            ended source (all source feeds)
        · exact ended other inMiddle

/-- If no cycle is found, there is none. -/
theorem acyclic_of_findCycle (found : graph.findCycle = none) :
    Acyclic graph.Feeds := by
  have scanned : scan [] (graph.visit (graph.forward.size + 1) [])
      [] graph.forward.keys =
      (none, (scan [] (graph.visit (graph.forward.size + 1) [])
        [] graph.forward.keys).2) :=
    Prod.ext found rfl
  have step : ∀ done source after, source ∈ graph.forward.keys →
      source ∉ ([] : List SlotKey) →
      graph.visit (graph.forward.size + 1) [] done source = (none, after) →
      graph.Finished done → graph.Finished after ∧ done ⊆ after ∧
        source ∈ after := by
    intro done source after _ notOnPath visited finished
    exact visit_finished graph _ [] done source after visited (by simp)
      List.nodup_nil (by simp) notOnPath finished
  obtain ⟨finished, _, all⟩ := scan_finished graph.forward.keys step scanned
    (by simp [Finished])
  have wellFounded : WellFounded graph.Feeds := by
    constructor
    intro key
    by_cases known : key ∈ graph.forward.keys
    · exact finished key (all key known)
    · exact Acc.intro key fun source feeds =>
        absurd (mem_keys_of_feeds feeds) known
  intro key circle
  exact wellFounded.transGen.asymmetric key key circle circle

/-- Edges whose graph has no cycle that can be found lead nowhere back. -/
theorem acyclic_edges {edges : List (SlotKey × SlotKey)}
    (found : (ofEdges edges).findCycle = none) :
    Acyclic fun target source => (target, source) ∈ edges := by
  intro key circle
  refine acyclic_of_findCycle found key (Relation.transGen_swap.mp ?_)
  refine Relation.TransGen.mono ?_ key key circle
  intro target source member
  exact (feeds_ofEdges_iff edges source target).mpr member

/-- `target` takes types from `source`, read from the target. -/
def Draws (graph : DirectiveGraph) (target source : SlotKey) : Prop :=
  graph.Feeds source target

theorem scan_found (sources : List SlotKey) :
    ∀ {done after : List SlotKey}, scan path search done sources =
      (some cycle, after) →
      ∃ source ∈ sources,
        (source ∈ path ∧ cycle = path.dropWhile
          (fun key => key ≠ source) ++ [source]) ∨
          (source ∉ path ∧ ∃ earlier later,
            search earlier source = (some cycle, later)) := by
  induction sources with
  | nil =>
      intro done after found
      cases found
  | cons source rest induction =>
      intro done after found
      unfold scan at found
      split at found
      · rename_i onPath
        cases found
        exact ⟨source, by simp, Or.inl ⟨by simpa using onPath, rfl⟩⟩
      · rename_i notOnPath
        have fromRest : ∀ {done}, scan path search done rest =
            (some cycle, after) → _ :=
          fun later => induction later
        split at found
        · obtain ⟨other, inRest, isFound⟩ := fromRest found
          exact ⟨other, by simp [inRest], isFound⟩
        · split at found
          · rename_i visited
            cases found
            exact ⟨source, by simp, Or.inr ⟨by
              simpa using notOnPath, done, _, visited⟩⟩
          · obtain ⟨other, inRest, isFound⟩ := fromRest found
            exact ⟨other, by simp [inRest], isFound⟩

theorem visit_found (graph : DirectiveGraph) :
    ∀ (fuel : Nat) (path done : List SlotKey) (key : SlotKey)
      (cycle after : List SlotKey),
      graph.visit fuel path done key = (some cycle, after) →
      (path ++ [key]).Nodup → (path ++ [key]).IsChain graph.Draws →
        IsCycle graph.Draws cycle := by
  intro fuel
  induction fuel with
  | zero =>
      intro path done key cycle after found
      cases found
  | succ fuel induction =>
      intro path done key cycle after found distinct chain
      unfold visit at found
      split at found
      · rename_i scanned
        cases found
        obtain ⟨source, isSource,
            ⟨onPath, rfl⟩ | ⟨notOnPath, earlier, later, visited⟩⟩ :=
          scan_found (graph.sourcesOf key) scanned
        · apply IsCycle.of_path distinct chain onPath
          intro last isLast
          rw [List.getLast?_concat] at isLast
          cases isLast
          exact isSource
        · apply induction (path ++ [key]) earlier source cycle later visited
          · exact nodup_extended distinct notOnPath
          · rw [List.isChain_append]
            refine ⟨chain, List.isChain_singleton source, ?_⟩
            intro last isLast next isNext
            rw [List.getLast?_concat] at isLast
            cases isLast
            cases isNext
            exact isSource
      · cases found

/-- What is found is a cycle. -/
theorem isCycle_of_findCycle (found : graph.findCycle = some cycle) :
    IsCycle graph.Draws cycle := by
  have scanned : scan [] (graph.visit (graph.forward.size + 1) [])
      [] graph.forward.keys =
      (some cycle, (scan [] (graph.visit (graph.forward.size + 1) [])
        [] graph.forward.keys).2) :=
    Prod.ext found rfl
  obtain ⟨key, _, ⟨impossible, _⟩ | ⟨_, earlier, later, visited⟩⟩ :=
    scan_found graph.forward.keys scanned
  · cases impossible
  · exact visit_found graph _ [] earlier key cycle later visited
      (by simp) (by simp)

/-- A cycle that is found among edges follows these edges. -/
theorem isCycle_edges {edges : List (SlotKey × SlotKey)}
    (found : (ofEdges edges).findCycle = some cycle) :
    IsCycle (fun target source => (target, source) ∈ edges) cycle where
  length := (isCycle_of_findCycle found).length
  closed := (isCycle_of_findCycle found).closed
  distinct := (isCycle_of_findCycle found).distinct
  chain := (isCycle_of_findCycle found).chain.imp fun target source draws =>
    (feeds_ofEdges_iff edges source target).mp draws

/-- The search without a bound: below a path, the sources are examined in turn
while the slots in `done` are known to lead to no cycle. -/
inductive Explores (graph : DirectiveGraph) :
    (path done sources : List SlotKey) → Search → Prop
  | finished {path done : List SlotKey} :
    Explores graph path done [] (none, done)
  | closed {path done rest : List SlotKey} {source : SlotKey} :
      source ∈ path →
      Explores graph path done (source :: rest)
        (some (path.dropWhile (fun key => key ≠ source) ++ [source]), done)
  | skipped {path done rest : List SlotKey} {source : SlotKey}
      {result : Search} :
      source ∉ path → source ∈ done → Explores graph path done rest result →
      Explores graph path done (source :: rest) result
  | found {path done rest cycle after : List SlotKey} {source : SlotKey} :
      source ∉ path → source ∉ done →
      Explores graph (path ++ [source]) done (graph.sourcesOf source)
        (some cycle, after) →
      Explores graph path done (source :: rest) (some cycle, after)
  | returned {path done rest after : List SlotKey} {source : SlotKey}
      {result : Search} :
      source ∉ path → source ∉ done →
      Explores graph (path ++ [source]) done (graph.sourcesOf source)
        (none, after) →
      Explores graph path (source :: after) rest result →
      Explores graph path done (source :: rest) result

theorem Explores.unique {done sources : List SlotKey} {left right : Search}
    (first : Explores graph path done sources left)
    (second : Explores graph path done sources right) : left = right := by
  induction first generalizing right with
  | finished =>
      cases second
      rfl
  | closed onPath =>
      cases second with
      | closed => rfl
      | skipped notOnPath => exact absurd onPath notOnPath
      | found notOnPath => exact absurd onPath notOnPath
      | returned notOnPath => exact absurd onPath notOnPath
  | skipped notOnPath isDone _ induction =>
      cases second with
      | closed onPath => exact absurd onPath notOnPath
      | skipped _ _ later => exact induction later
      | found _ notDone => exact absurd isDone notDone
      | returned _ notDone => exact absurd isDone notDone
  | found notOnPath notDone _ induction =>
      cases second with
      | closed onPath => exact absurd onPath notOnPath
      | skipped _ isDone => exact absurd isDone notDone
      | found _ _ deeper => exact induction deeper
      | returned _ _ deeper => cases induction deeper
  | returned notOnPath notDone _ _ below induction =>
      cases second with
      | closed onPath => exact absurd onPath notOnPath
      | skipped _ isDone => exact absurd isDone notDone
      | found _ _ deeper => cases below deeper
      | returned _ _ deeper later =>
          cases below deeper
          exact induction later

/-- The fuel lasts: a path has different slots, and a slot below which the
search goes on has sources. -/
theorem explores_scan (graph : DirectiveGraph) (fuel : Nat) :
    ∀ (path done sources : List SlotKey), path.Nodup →
      (∀ key ∈ path, key ∈ graph.forward.keys) →
        graph.forward.size < fuel + path.length →
        Explores graph path done sources
          (scan path (graph.visit fuel path) done sources) := by
  induction fuel with
  | zero =>
      intro path done sources distinct known enough
      have bounded := (List.subperm_of_subset distinct known).length_le
      rw [← OrderedMap.size_eq_length_keys] at bounded
      omega
  | succ fuel deeper =>
      intro path done sources distinct known enough
      -- Below a slot without sources there is nothing to examine.
      have below : ∀ source done, source ∉ path →
          Explores graph (path ++ [source]) done (graph.sourcesOf source)
            (scan (path ++ [source]) (graph.visit fuel (path ++ [source])) done
              (graph.sourcesOf source)) := by
        intro source done notOnPath
        cases isSources : graph.sourcesOf source with
        | nil => exact Explores.finished
        | cons first rest =>
            have feeds : graph.Feeds first source := by
              rw [Feeds, isSources]
              exact List.mem_cons_self
            rw [← isSources]
            refine deeper _ _ _ (nodup_extended distinct notOnPath)
              (known_extended known feeds) ?_
            rw [List.length_append, List.length_singleton]
            omega
      induction sources generalizing done with
      | nil => exact Explores.finished
      | cons source rest later =>
          unfold scan
          split
          · rename_i onPath
            exact Explores.closed (by simpa using onPath)
          · rename_i notOnPath
            rw [List.contains_iff_mem] at notOnPath
            split
            · rename_i isDone
              exact Explores.skipped notOnPath
                (by simpa using isDone) (later done)
            · rename_i notDone
              rw [List.contains_iff_mem] at notDone
              have explores := below source done notOnPath
              unfold visit
              rcases scanned : scan (path ++ [source])
                (graph.visit fuel (path ++ [source])) done
                (graph.sourcesOf source) with ⟨_ | cycle, after⟩
              · rw [scanned] at explores
                exact Explores.returned notOnPath notDone explores
                  (later (source :: after))
              · rw [scanned] at explores
                exact Explores.found notOnPath notDone explores

/-- The search ends with what is found, whichever way it is bounded. -/
theorem explores_findCycle (graph : DirectiveGraph) :
    ∃ done, ∀ result, Explores graph [] [] graph.forward.keys result ↔
      result = (graph.findCycle, done) := by
  have explores := explores_scan graph (graph.forward.size + 1) []
    [] graph.forward.keys
    List.nodup_nil (fun _ absent => absurd absent List.not_mem_nil)
      (Nat.lt_succ_self _)
  refine ⟨(scan [] (graph.visit (graph.forward.size + 1) [])
    [] graph.forward.keys).2, ?_⟩
  intro result
  constructor
  · exact fun other => other.unique explores
  · rintro rfl
    exact explores

/-- The search for a cycle among edges comes to an end.  It finds nothing just
when no slot leads back to itself, and what it finds is a cycle. -/
theorem findCycle_exact (edges : List (SlotKey × SlotKey)) :
    (∃ done, ∀ result,
      Explores (ofEdges edges) [] [] (ofEdges edges).forward.keys result ↔
        result = ((ofEdges edges).findCycle, done)) ∧
      ((ofEdges edges).findCycle = none ↔
        Acyclic fun target source => (target, source) ∈ edges) ∧
      ∀ cycle, (ofEdges edges).findCycle = some cycle →
        IsCycle (fun target source => (target, source) ∈ edges) cycle := by
  refine ⟨explores_findCycle (ofEdges edges), ⟨acyclic_edges, ?_⟩, fun _ =>
    isCycle_edges⟩
  intro acyclic
  cases found : (ofEdges edges).findCycle with
  | none => rfl
  | some cycle =>
      obtain ⟨key, circle⟩ := (isCycle_edges found).transGen
      exact absurd circle (acyclic key)

-- The way into a cycle is not part of it.
example : (ofEdges [(⟨"A", .output, "output"⟩, ⟨"A", .field, "F"⟩),
    (⟨"A", .field, "F"⟩, ⟨"A", .field, "G"⟩),
    (⟨"A", .field, "G"⟩, ⟨"A", .field, "F"⟩)]).findCycle =
      some [⟨"A", .field, "F"⟩, ⟨"A", .field, "G"⟩, ⟨"A", .field, "F"⟩] := by
  decide

end DirectiveGraph

end TypeFlow
