import TypeFlow.Proofs.SameTypes
import TypeFlow.Proofs.Upkeep

/-!
# Compatible checks

Two checks are compatible if one of them accepts all, if they share a tag, or if
a tag of one starts with the name of a wildcard of the other.  Said like this,
compatibility is symmetric, depends on checks as sets, and is kept when checks
are widened.  Connections are compared with the help of caches that any number
of checkers, engines and workspaces may share.  `Equipped` are the states that
can come about, with all their caches; comparing gives in each of them what the
relation says.
-/

namespace TypeFlow

/-- A tag starts with the name that the pattern extracts from a wildcard. -/
def Tag.Under (wild tag : Tag) : Prop :=
  ∃ letters, Wildcard.Extracted wild.toList letters ∧ letters ≠ [] ∧
    letters <+: tag.toList

theorem Tag.under_iff {wild tag : Tag} :
    Tag.Under wild tag ↔
      Wildcard.name wild ≠ "" ∧
        Tag.startsWith (Wildcard.name wild) tag = true := by
  have extracted := (Wildcard.extracted_iff wild (Wildcard.name wild)).mpr rfl
  have isName : Wildcard.name wild = "" ↔ (Wildcard.name wild).toList = [] :=
    String.toList_eq_nil_iff.symm
  rw [Tag.startsWith, List.isPrefixOf_iff_prefix, Ne, isName]
  constructor
  · intro under
    obtain ⟨letters, isExtracted, nonempty, leads⟩ := under
    rw [isExtracted.unique extracted] at nonempty leads
    exact ⟨nonempty, leads⟩
  · intro both
    exact ⟨_, extracted, both.1, both.2⟩

/-- Types are admitted exactly if one is under a wildcard that is offered. -/
theorem Wildcard.admits_iff {types offered : TypeList} :
    admits types offered = true ↔ ∃ wild ∈ offered, ∃ tag ∈ types,
      Tag.Under wild tag := by
  simp only [admits, List.any_map, List.any_filter, List.any_eq_true,
    Function.comp_apply, Bool.and_eq_true, ne_eq, decide_not, Bool.not_eq_true',
    decide_eq_false_iff_not]
  constructor
  · rintro ⟨wild, isOffered, _, named, tag, listed, _, starts⟩
    exact ⟨wild, isOffered, tag, listed, Tag.under_iff.mpr ⟨named, starts⟩⟩
  · rintro ⟨wild, isOffered, tag, listed, under⟩
    obtain ⟨named, starts⟩ := Tag.under_iff.mp under
    refine ⟨wild, isOffered, ?_, named, tag, listed, ?_, starts⟩
    · intro blank
      rw [blank] at named
      exact named rfl
    · -- A name that is not empty starts no empty tag.
      intro blank
      rw [blank, Tag.startsWith, List.isPrefixOf_iff_prefix] at starts
      exact named (String.toList_eq_nil_iff.mp (List.prefix_nil.mp starts))

theorem Wildcard.agree_iff {this other : TypeList} :
    agree this other = true ↔
      ∃ near ∈ this, ∃ far ∈ other, Tag.Under far near ∨
        Tag.Under near far := by
  rw [agree, Bool.or_eq_true, admits_iff, admits_iff]
  constructor
  · rintro (⟨far, isFar, near, isNear, under⟩ | ⟨near, isNear, far,
      isFar, under⟩)
    · exact ⟨near, isNear, far, isFar, Or.inl under⟩
    · exact ⟨near, isNear, far, isFar, Or.inr under⟩
  · rintro ⟨near, isNear, far, isFar, under | under⟩
    · exact Or.inl ⟨far, isFar, near, isNear, under⟩
    · exact Or.inr ⟨near, isNear, far, isFar, under⟩

namespace Check

variable {this other : Check}

open TypeList (Agree)

/-- The tags are equal, or one is under the other. -/
def Fit (this other : Tag) : Prop :=
  this = other ∨ Tag.Under this other ∨ Tag.Under other this

/-- One check accepts all, or a tag of one fits a tag of the other. -/
def Compatible (this other : Check) : Prop :=
  this = none ∨ other = none ∨ ∃ near ∈ this.types,
    ∃ far ∈ other.types, Fit near far

/-- The wider check accepts all, or lists all tags of the other one. -/
def Widens (narrow wide : Check) : Prop :=
  wide = none ∨ ∃ types more, narrow = some types ∧
    wide = some more ∧ types ⊆ more

theorem Fit.symm {this other : Tag} (fit : Fit this other) :
    Fit other this := by
  rcases fit with equal | under | above
  · exact Or.inl equal.symm
  · exact Or.inr (Or.inr under)
  · exact Or.inr (Or.inl above)

theorem Compatible.symm (compatible : Compatible this other) :
    Compatible other this := by
  rcases compatible with acceptsAll | acceptsAll
    | ⟨near, isNear, far, isFar, fit⟩
  · exact Or.inr (Or.inl acceptsAll)
  · exact Or.inl acceptsAll
  · exact Or.inr (Or.inr ⟨far, isFar, near, isNear, fit.symm⟩)

theorem compatible_comm : Compatible this other ↔ Compatible other this :=
  ⟨Compatible.symm, Compatible.symm⟩

/-- Widening one check is enough, since compatibility is symmetric. -/
theorem Compatible.widen_left {wider : Check}
    (compatible : Compatible this other) (widens : Widens this wider) :
    Compatible wider other := by
  rcases widens with acceptsAll | ⟨types, more, isThis, isWider, included⟩
  · exact Or.inl acceptsAll
  · rcases compatible with acceptsAll | acceptsAll
      | ⟨near, isNear, far, isFar, fit⟩
    · cases isThis.symm.trans acceptsAll
    · exact Or.inr (Or.inl acceptsAll)
    · rw [isThis] at isNear
      rw [isWider]
      exact Or.inr (Or.inr ⟨near, included isNear, far, isFar, fit⟩)

theorem Compatible.widen {wider otherWider : Check}
    (compatible : Compatible this other) (widens : Widens this wider)
    (otherWidens : Widens other otherWider) :
    Compatible wider otherWider :=
  ((compatible.widen_left widens).symm.widen_left otherWidens).symm

/-- Equal sets are widened to each other. -/
theorem widens_of_same {left right : Check} (equal : same left right = true) :
    Widens left right := by
  obtain ⟨restriction, agree⟩ := same_iff.mp equal
  cases right with
  | none => exact Or.inl rfl
  | some more =>
      cases left with
      | none => cases restriction.mp rfl
      | some types =>
          exact Or.inr ⟨types, more, rfl, rfl, fun tag => (agree tag).mp⟩

theorem compatible_congr {this' other' : Check} (same : same this this' = true)
    (otherSame : Check.same other other' = true) :
    Compatible this other ↔ Compatible this' other' := by
  constructor
  · intro compatible
    exact compatible.widen (widens_of_same same) (widens_of_same otherSame)
  · intro compatible
    exact compatible.widen (widens_of_same (same_symm same))
      (widens_of_same (same_symm otherSame))

/-- The strict comparison and the one by wildcards make up compatibility. -/
theorem compatible_iff :
    Compatible this other ↔
      (Editor.shareType this other || Wildcard.agree this.types other.types) =
        true := by
  cases this with
  | none => simp [Compatible, Editor.shareType]
  | some this =>
      cases other with
      | none => simp [Compatible, Editor.shareType]
      | some other =>
          simp only [Compatible, Editor.shareType, Bool.or_eq_true,
            Wildcard.agree_iff, List.any_eq_true, List.contains_iff_mem, types,
            Option.getD_some, reduceCtorEq, false_or]
          constructor
          · rintro ⟨near, isNear, far, isFar, rfl | wildcards⟩
            · exact Or.inl ⟨near, isNear, isFar⟩
            · exact Or.inr ⟨near, isNear, far, isFar, wildcards.symm⟩
          · rintro (⟨near, isNear, isFar⟩ | ⟨near, isNear, far,
              isFar, wildcards⟩)
            · exact ⟨near, isNear, near, isFar, Or.inl rfl⟩
            · exact ⟨near, isNear, far, isFar, Or.inr wildcards.symm⟩

end Check

/-- What a host can set up. -/
inductive Equipment where
  | cache
  | checker (shared : Option CacheId)
  | engine (draft : EngineDraft)
  | workspace (shared : Option EngineId) (isTemplate : Bool)

def Equipment.setUp {σ : Type} : Equipment → EditM σ Unit
  | .cache => discard Editor.newCache
  | .checker shared => discard (Editor.newChecker shared)
  | .engine draft => discard (Editor.newEngine draft)
  | .workspace shared isTemplate =>
      discard (Editor.newWorkspace shared isTemplate)

namespace Editor

variable {σ α : Type} {editor : Editor σ}

/-- Every cache stores the names of its tags. -/
def FaithfulCaches (editor : Editor σ) : Prop :=
  ∀ id, (editor.cache id).Faithful

/-- The states with any number of caches, checkers, engines and workspaces, in
which operations were carried out and caches were asked.  Callbacks are run by
`outside`. -/
inductive Equipped (outside : Callbacks σ) : Editor σ → Prop
  | started {outer : σ} : Equipped outside { outer }
  | setUp {editor : Editor σ} (equipment : Equipment) :
      Equipped outside editor → Equipped outside (equipment.setUp editor).2
  | performed {editor : Editor σ} (limit : Nat) (workspace : WorkspaceId)
      (operation : HostOperation) : Equipped outside editor →
        Equipped outside (operation.perform (reaction outside limit) limit
          workspace editor).2
  | compared {editor : Editor σ} (this other : ConnectionId) :
      Equipped outside editor →
        Equipped outside (canConnectWith this other editor).2
  | asked {editor : Editor σ} (id : CacheId) (request : Wildcard.Request) :
      Equipped outside editor →
        Equipped outside (editor.setCache id
          (request.answer (editor.cache id)).2)

/-- Callbacks fill caches with names only. -/
def KeepsCaches (outside : Callbacks σ) : Prop :=
  ∀ callback, Maintains FaithfulCaches (fun _ => True) (outside callback)

theorem keepsCaches_idle : KeepsCaches (idle : Callbacks σ) :=
  fun _ => maintains_pure ()

theorem Aside.faithfulCaches {before after : Editor σ}
    (aside : Aside before after) (faithful : FaithfulCaches before) :
    FaithfulCaches after :=
  fun id => aside.cache id (faithful id)

theorem upholds_faithfulCaches :
    Upholds (fun _ => True) fun _ (editor : Editor σ) =>
      FaithfulCaches editor where
  engine := fun _ _ => True.intro
  write := fun rewritten faithful => rewritten.toAside.faithfulCaches faithful
  enter := fun _ faithful _ _ _ => faithful
  leave := fun _ faithful => faithful
  aside := fun aside faithful => aside.faithfulCaches faithful
  begin := fun faithful _ => faithful

section SetUp

theorem maintains_newCache :
    Maintains FaithfulCaches (fun _ => True) (newCache : EditM σ CacheId) := by
  apply maintains_look
  intro size
  refine maintains_bind (maintains_modify ?_) fun _ => maintains_pure _
  intro editor faithful id
  rw [Editor.cache, OrderedMap.getD_insert]
  split
  · exact Wildcard.Cache.Faithful.empty
  · exact faithful id

/-- What is numbered and filed elsewhere does not touch caches. -/
theorem maintains_file {count : Editor σ → Nat}
    {file : Nat → Editor σ → Editor σ} {name : Nat → α}
    (elsewhere : ∀ number editor, (file number editor).caches = editor.caches) :
    Maintains FaithfulCaches (fun _ => True)
      (do let number ← look count; modify (file number); return name number :
        EditM σ α) := by
  apply maintains_look
  intro number
  refine maintains_bind (maintains_modify ?_) fun _ => maintains_pure _
  intro editor faithful id
  rw [Editor.cache, elsewhere]
  exact faithful id

theorem maintains_newChecker (shared : Option CacheId) :
    Maintains FaithfulCaches (fun _ => True)
      (newChecker shared : EditM σ CheckerId) := by
  cases shared with
  | none =>
      exact maintains_bind maintains_newCache fun _ => maintains_file
        fun _ _ => rfl
  | some cache =>
      exact maintains_bind (maintains_pure cache) fun _ => maintains_file
        fun _ _ => rfl

theorem maintains_newEngine (draft : EngineDraft) :
    Maintains FaithfulCaches (fun _ => True)
      (newEngine draft : EditM σ EngineId) := by
  apply maintains_bind (maintains_lookup fun _ _ _ => True.intro)
  intro config
  cases draft.checker with
  | none =>
      exact maintains_bind (maintains_newChecker draft.cache) fun _ =>
        maintains_file fun _ _ => rfl
  | some checker =>
      exact maintains_bind (maintains_pure checker) fun _ => maintains_file
        fun _ _ => rfl

theorem maintains_newWorkspace (shared : Option EngineId) (isTemplate : Bool) :
    Maintains FaithfulCaches (fun _ => True)
      (newWorkspace shared isTemplate : EditM σ WorkspaceId) := by
  cases shared with
  | none =>
      exact maintains_bind (maintains_newEngine {}) fun _ => maintains_file
        fun _ _ => rfl
  | some engine =>
      exact maintains_bind (maintains_pure engine) fun _ => maintains_file
        fun _ _ => rfl

theorem maintains_setUp (equipment : Equipment) :
    Maintains FaithfulCaches (fun _ => True)
      (equipment.setUp : EditM σ Unit) := by
  cases equipment with
  | cache => exact maintains_discard maintains_newCache
  | checker shared => exact maintains_discard (maintains_newChecker shared)
  | engine draft => exact maintains_discard (maintains_newEngine draft)
  | workspace shared isTemplate =>
      exact maintains_discard (maintains_newWorkspace shared isTemplate)

end SetUp

theorem Maintains.after {holds : Editor σ → Prop} {faults : Fault → Prop}
    {action : EditM σ α} (maintains : Maintains holds faults action)
    (held : holds editor) :
    holds (action editor).2 := by
  have ends : Ends action editor holds :=
    Leads.mono (maintains editor held) (fun _ _ => id) fun _ _ => And.right
  exact (ends_iff action editor holds).mp ends

theorem Equipped.faithfulCaches {outside : Callbacks σ}
    (keeps : KeepsCaches outside) (equipped : Equipped outside editor) :
    FaithfulCaches editor := by
  induction equipped with
  | started => exact fun _ => Wildcard.Cache.Faithful.empty
  | setUp equipment _ faithful =>
      exact (maintains_setUp equipment).after faithful
  | performed limit workspace operation _ faithful =>
      have reacts := maintains_reaction upholds_faithfulCaches
        (fun _ _ => True.intro) True.intro keeps limit
      have performs : Maintains FaithfulCaches (fun _ => True)
          (operation.perform (reaction outside limit) limit workspace) :=
        HostOperation.maintains_perform upholds_faithfulCaches
          (fun _ _ _ => True.intro)
          (fun _ _ => id) (fun _ => reacts) (fun _ _ => True.intro) limit
            workspace operation
      exact performs.after faithful
  | compared this other _ faithful =>
      exact ((ends_iff _ _ _).mp
        (aside_canConnectWith _ this other)).faithfulCaches faithful
  | asked id request _ faithful =>
      exact (aside_setCache _ id fun here =>
        Wildcard.Request.faithful_answer here request).faithfulCaches faithful

theorem Equipped.performAll {outside : Callbacks σ} (limit : Nat)
    (workspace : WorkspaceId) (operations : List HostOperation) :
    ∀ {editor : Editor σ}, Equipped outside editor →
      Equipped outside (HostOperation.performAll outside limit workspace
        operations editor) := by
  induction operations with
  | nil =>
      intro editor equipped
      exact equipped
  | cons operation rest induction =>
      intro editor equipped
      exact induction (equipped.performed limit workspace operation)

theorem canConnectWith_eq (editor : Editor σ) (this other : ConnectionId) :
    canConnectWith this other editor =
      if editor.canFace this other then
        canConnect (editor.connectionWorkspace this) this other editor
      else (.ok false, editor) := by
  unfold canConnectWith
  rw [run_look]
  split
  · rw [run_look]
  · rfl

theorem canFace_comm (editor : Editor σ) (this other : ConnectionId) :
    editor.canFace this other = editor.canFace other this := by
  unfold canFace
  simp only [ne_comm, bne_comm]

/-- Whether connections fit and are compatible is for their records to tell. -/
theorem canFace_congr {editor' : Editor σ}
    (connections : editor'.connections = editor.connections)
    (this other : ConnectionId) :
    editor'.canFace this other = editor.canFace this other := by
  unfold canFace connection
  rw [connections]

/-- The outcome is a verdict on the property. -/
def Decides (outcome : Except Fault Bool) (property : Prop) : Prop :=
  ∃ verdict, outcome = .ok verdict ∧ (verdict = true ↔ property)

namespace Decides

variable {outcome outcome' : Except Fault Bool} {property property' : Prop}

theorem eq_true_iff (decides : Decides outcome property) : outcome = .ok true ↔
    property := by
  obtain ⟨verdict, returns, isVerdict⟩ := decides
  rw [returns, ← isVerdict]
  exact ⟨fun same => Except.ok.inj same, fun same => congrArg Except.ok same⟩

theorem congr (decides : Decides outcome property)
    (decides' : Decides outcome' property') (alike : property ↔ property') :
    ∃ verdict, outcome = .ok verdict ∧ outcome' = .ok verdict := by
  obtain ⟨verdict, returns, isVerdict⟩ := decides
  obtain ⟨verdict', returns', isVerdict'⟩ := decides'
  have same : verdict = verdict' := by
    rw [Bool.eq_iff_iff, isVerdict, isVerdict', alike]
  exact ⟨verdict, returns, same ▸ returns'⟩

end Decides

section Comparing

variable (faithful : FaithfulCaches editor)

include faithful

theorem decides_canConnect (workspace : WorkspaceId)
    (this other : ConnectionId) :
    Decides (canConnect workspace this other editor).1
      (Check.Compatible (editor.connection this).check
        (editor.connection other).check) := by
  refine ⟨_, rfl, ?_⟩
  rw [(faithful _).relax, Check.compatible_iff]

theorem decides_canConnectWith (this other : ConnectionId) :
    Decides (canConnectWith this other editor).1
      (editor.canFace this other = true ∧
      Check.Compatible (editor.connection this).check
        (editor.connection other).check) := by
  rw [canConnectWith_eq]
  split
  · rename_i faces
    rw [and_iff_right faces]
    exact decides_canConnect faithful (editor.connectionWorkspace this)
      this other
  · rename_i apart
    exact ⟨false, rfl, by simp [apart]⟩

end Comparing

/-- Whatever was done before and whatever caches hold, comparing connections
returns a verdict, which is the same in either order.  It depends on the two
checks as sets, and it stays positive when they are widened. -/
theorem compatibility_symmetric_monotone {outside : Callbacks σ}
    (keeps : KeepsCaches outside) {editor editor' : Editor σ}
    (equipped : Equipped outside editor)
    (equipped' : Equipped outside editor') :
    (editor'.connections = editor.connections → ∀ this other, ∃ verdict,
      (canConnectWith this other editor).1 = .ok verdict ∧
      (canConnectWith other this editor').1 = .ok verdict) ∧
    ∀ workspace workspace' this other this' other',
      let near := (editor.connection this).check
      let far := (editor.connection other).check
      let near' := (editor'.connection this').check
      let far' := (editor'.connection other').check
      Decides (canConnect workspace this other editor).1
        (Check.Compatible near far) ∧
      (Check.same near near' = true → Check.same far far' = true → ∃ verdict,
        (canConnect workspace this other editor).1 = .ok verdict ∧
        (canConnect workspace' this' other' editor').1 = .ok verdict) ∧
      (Check.Widens near near' → Check.Widens far far' →
        (canConnect workspace this other editor).1 = .ok true →
          (canConnect workspace' this' other' editor').1 = .ok true) := by
  have faithful := equipped.faithfulCaches keeps
  have faithful' := equipped'.faithfulCaches keeps
  constructor
  · intro connections this other
    have sameRecords : ∀ id, editor'.connection id = editor.connection id := by
      intro id
      unfold connection
      rw [connections]
    apply (decides_canConnectWith faithful this other).congr
      (decides_canConnectWith faithful' other this)
    rw [canFace_congr connections, sameRecords, sameRecords, canFace_comm,
      Check.compatible_comm]
  · intro workspace workspace' this other this' other' near far near' far'
    have decides := decides_canConnect faithful workspace this other
    have decides' := decides_canConnect faithful' workspace' this' other'
    refine ⟨decides, ?_, ?_⟩
    · intro sameNear sameFar
      exact decides.congr decides' (Check.compatible_congr sameNear sameFar)
    · intro widensNear widensFar connects
      exact decides'.eq_true_iff.mpr
        ((decides.eq_true_iff.mp connects).widen widensNear widensFar)

/-- Two workspaces with caches of their own.  The block of the first has had
three outputs, the block of the second has two inputs. -/
def facingWorkspaces : Editor Unit :=
  let opened := ((Equipment.workspace none false).setUp
    ((Equipment.workspace none false).setUp { outer := () }).2).2
  HostOperation.performAll idle 5 ⟨1⟩
    [.newBlock "sink" (some "B") [], .appendInput ⟨1⟩ "FIRST" (some ["Many:*"]),
      .appendInput ⟨1⟩ "SECOND" (some ["Bar", "Many:*"])]
    (HostOperation.performAll idle 5 ⟨0⟩
      [.newBlock "source" (some "A") [],
        .setOutput ⟨0⟩ (some ["Foo", "Many:Foo"]),
        .setOutput ⟨0⟩ (some ["Many:Foo", "Foo", "Foo"]), .setOutput ⟨0⟩ none]
        opened)

theorem equipped_facingWorkspaces : Equipped idle facingWorkspaces :=
  ((Equipped.started.setUp (.workspace none false)).setUp
    (.workspace none false)).performAll 5 ⟨0⟩ _ |>.performAll 5 ⟨1⟩ _

/-- The output of one workspace and an input of the other are compared before
and after a cache has learnt a name, with equal sets and with wider checks. -/
theorem compatibility_symmetric_monotone_facingWorkspaces :
    ∃ editor : Editor Unit, Equipped idle facingWorkspaces ∧
      Equipped idle editor ∧
      editor.caches ≠ facingWorkspaces.caches ∧
      editor.connections = facingWorkspaces.connections ∧
      (canConnectWith ⟨0⟩ ⟨3⟩ facingWorkspaces).1 = .ok true ∧
      (canConnectWith ⟨3⟩ ⟨0⟩ editor).1 = .ok true ∧
      (canConnect ⟨1⟩ ⟨1⟩ ⟨3⟩ editor).1 = .ok true ∧
      (canConnect ⟨1⟩ ⟨2⟩ ⟨4⟩ editor).1 = .ok true := by
  have equipped := equipped_facingWorkspaces
  have equipped' := equipped.compared ⟨0⟩ ⟨3⟩
  have laws := compatibility_symmetric_monotone keepsCaches_idle
    equipped equipped'
  have connects : (canConnectWith ⟨0⟩ ⟨3⟩ facingWorkspaces).1 = .ok true := by
    decide +kernel
  have connectsHere : (canConnect ⟨0⟩ ⟨0⟩ ⟨3⟩ facingWorkspaces).1 =
      .ok true := by decide +kernel
  obtain ⟨verdict, returns, returns'⟩ := laws.1 (by decide +kernel) ⟨0⟩ ⟨3⟩
  obtain ⟨_, congruent, _⟩ := laws.2 ⟨0⟩ ⟨1⟩ ⟨0⟩ ⟨3⟩ ⟨1⟩ ⟨3⟩
  obtain ⟨_, _, monotone⟩ := laws.2 ⟨0⟩ ⟨1⟩ ⟨0⟩ ⟨3⟩ ⟨2⟩ ⟨4⟩
  obtain ⟨verdictHere, returnsHere, returnsThere⟩ :=
    congruent (by decide +kernel) (by decide +kernel)
  refine ⟨_, equipped, equipped', by decide +kernel, by
    decide +kernel, connects, ?_, ?_, ?_⟩
  · rw [returns', ← returns]
    exact connects
  · rw [returnsThere, ← returnsHere]
    exact connectsHere
  · apply monotone
    · exact Or.inl (by decide +kernel)
    · exact Or.inr ⟨["Many:*"], ["Bar", "Many:*"], by decide +kernel, by
        decide +kernel, by decide⟩
    · exact connectsHere

end Editor

end TypeFlow
