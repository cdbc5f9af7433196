import TypeFlow.Proofs.OrderedMap
import TypeFlow.Proofs.WildcardName
import TypeFlow.Wildcard.Request

/-!
# A cache that makes no difference

A cache stores the names of the tags that were looked up, and nothing else.  So
whatever was asked before, an answer is the one that an empty cache gives, and
what a request does to the cache is to look up certain tags, which can be told
without the cache.  The counts follow from that: every lookup is a hit or a
miss, and every miss adds one entry.
-/

namespace TypeFlow.Wildcard

/-- Whether wildcards of one list admit a tag of the other. -/
def agree (this other : TypeList) : Bool :=
  admits this other || admits other this

/-- The tags that are looked up to compare two lists, in order. -/
def comparisons (this other : TypeList) : List Tag :=
  if this.isEmpty || other.isEmpty then []
  else other.filter (· ≠ "") ++ if admits this other then []
    else this.filter (· ≠ "")

theorem admits_nil_left (offered : TypeList) : admits [] offered = false := by
  simp [admits]

theorem admits_nil_right (types : TypeList) : admits types [] = false := rfl

theorem agree_of_isEmpty {this other : TypeList}
    (empty : (this.isEmpty || other.isEmpty) = true) :
    agree this other = false := by
  rcases Bool.or_eq_true_iff.mp empty with isNil | isNil
  · rw [List.isEmpty_iff.mp isNil, agree, admits_nil_left, admits_nil_right,
      Bool.or_self]
  · rw [List.isEmpty_iff.mp isNil, agree, admits_nil_left, admits_nil_right,
      Bool.or_self]

namespace Cache

/-- Every stored name is the name of its tag. -/
def Faithful (cache : Cache) : Prop :=
  ∀ tag text, cache.peek tag = some text → text = name tag

/-- The cache after tags were looked up in turn. -/
def learn (cache : Cache) (tags : List Tag) : Cache :=
  tags.foldl (fun cache tag => (cache.find tag).2) cache

theorem learn_cons (cache : Cache) (tag : Tag) (rest : List Tag) :
    cache.learn (tag :: rest) = (cache.find tag).2.learn rest := rfl

theorem learn_append (cache : Cache) (first second : List Tag) :
    cache.learn (first ++ second) = (cache.learn first).learn second :=
  List.foldl_append

theorem peek_find (cache : Cache) (tag other : Tag) :
    (cache.find tag).2.peek other =
      if tag = other then some (cache.find tag).1 else cache.peek other := by
  unfold find
  cases known : cache.peek tag with
  | none => exact OrderedMap.get?_insert cache.entries tag other (name tag)
  | some text =>
      by_cases same : tag = other
      · rw [if_pos same, ← same]
        exact known
      · rw [if_neg same]
        rfl

/-- A lookup counts once, and as a miss if it adds an entry. -/
theorem find_counts (cache : Cache) (tag : Tag) :
    (cache.find tag).2.counts.total = cache.counts.total + 1 ∧
      (cache.find tag).2.counts.misses + cache.size =
        cache.counts.misses + (cache.find tag).2.size := by
  unfold find
  cases known : cache.peek tag with
  | some text =>
      refine ⟨?_, rfl⟩
      simp only [Hits.total]
      omega
  | none =>
      have absent : ¬ cache.entries.contains tag := by
        rw [OrderedMap.contains_iff_get?]
        intro present
        obtain ⟨text, found⟩ := present
        cases known.symm.trans found
      have grown := OrderedMap.size_insert_of_not_contains (name tag) absent
      simp only [Hits.total, size, grown]
      omega

namespace Faithful

variable {cache : Cache}

theorem empty : Faithful {} := by
  intro tag text found
  cases found

variable (faithful : cache.Faithful)

include faithful

theorem name_find (tag : Tag) : (cache.find tag).1 = name tag := by
  unfold Cache.find
  cases known : cache.peek tag with
  | none => rfl
  | some text => exact faithful tag text known

theorem find (tag : Tag) : (cache.find tag).2.Faithful := by
  intro other text found
  rw [peek_find] at found
  split at found
  · rename_i same
    cases found
    rw [← same]
    exact faithful.name_find tag
  · exact faithful other text found

theorem learn (tags : List Tag) : (cache.learn tags).Faithful := by
  induction tags generalizing cache with
  | nil => exact faithful
  | cons tag rest induction => exact induction (faithful.find tag)

theorem findAll (offered : TypeList) :
    cache.findAll offered =
      ((offered.filter (· ≠ "")).map name,
        cache.learn (offered.filter (· ≠ ""))) := by
  induction offered generalizing cache with
  | nil => rfl
  | cons tag rest induction =>
      rw [Cache.findAll]
      by_cases blank : tag = ""
      · rw [if_pos blank, induction faithful,
          List.filter_cons_of_neg (by simpa using blank)]
      · rw [if_neg blank, List.filter_cons_of_pos (by simpa using blank),
          List.map_cons, learn_cons, ← faithful.name_find tag]
        simp only [induction (faithful.find tag)]

theorem admits (types offered : TypeList) :
    cache.admits types offered =
      (Wildcard.admits types offered,
        cache.learn (offered.filter (· ≠ ""))) := by
  rw [Cache.admits, faithful.findAll]
  rfl

theorem compatible (this other : Check) :
    cache.compatible this other =
      (agree this.types other.types,
        cache.learn (comparisons this.types other.types)) := by
  unfold Cache.compatible
  split
  · rename_i thisTag thisRest otherTag otherRest
    simp only [faithful.admits, (faithful.learn _).admits, Check.types,
      Option.getD_some, comparisons, List.isEmpty_cons, Bool.or_self,
      Bool.false_eq_true, if_false, agree]
    by_cases forward :
      Wildcard.admits (thisTag :: thisRest) (otherTag :: otherRest) = true
    · simp only [forward, if_true, List.append_nil, Bool.true_or]
    · simp only [forward, learn_append, Bool.false_eq_true, if_false,
        Bool.false_or]
  · rename_i unlisted
    have empty : (this.types.isEmpty || other.types.isEmpty) = true := by
      rcases this with _ | _ | ⟨thisTag, thisRest⟩
      · rfl
      · rfl
      · rcases other with _ | _ | ⟨otherTag, otherRest⟩
        · rfl
        · rfl
        · exact (unlisted _ _ _ _ rfl rfl).elim
    rw [agree_of_isEmpty empty, comparisons, if_pos empty]
    rfl

/-- Comparing changes the strict verdict only where wildcards admit. -/
theorem relax (this other : Check) (strict : Bool) :
    cache.relax this other strict =
      (strict || agree this.types other.types,
        cache.learn (if strict then [] else comparisons this.types
          other.types)) := by
  unfold Cache.relax
  cases strict with
  | true => rfl
  | false =>
      simp only [Bool.false_or, Bool.false_eq_true, if_false]
      split
      · rename_i empty
        rw [agree_of_isEmpty empty, comparisons, if_pos empty]
        rfl
      · exact faithful.compatible this other

end Faithful

/-- Entries are kept, lookups are counted one by one, and misses are entries
that came in. -/
structure Counted (before after : Cache) (lookups : Nat) : Prop where
  kept : ∀ tag text, before.peek tag = some text → after.peek tag = some text
  total : after.counts.total = before.counts.total + lookups
  misses : after.counts.misses + before.size = before.counts.misses + after.size

namespace Counted

theorem refl (cache : Cache) : Counted cache cache 0 where
  kept := fun _ _ found => found
  total := (Int.add_zero _).symm
  misses := rfl

theorem trans {before middle after : Cache} {first second : Nat}
    (begins : Counted before middle first)
    (continues : Counted middle after second) :
    Counted before after (first + second) where
  kept := fun tag text found => continues.kept tag text
    (begins.kept tag text found)
  total := by
    rw [continues.total, begins.total]
    omega
  misses := by
    have earlier := begins.misses
    have later := continues.misses
    omega

theorem find (cache : Cache) (tag : Tag) : Counted cache
    (cache.find tag).2 1 where
  kept := by
    intro other text found
    rw [peek_find]
    split
    · rename_i same
      subst same
      unfold Cache.find
      rw [found]
    · exact found
  total := (find_counts cache tag).1
  misses := (find_counts cache tag).2

theorem learn (cache : Cache) (tags : List Tag) :
    Counted cache (cache.learn tags) tags.length := by
  induction tags generalizing cache with
  | nil => exact refl cache
  | cons tag rest induction =>
      rw [List.length_cons, Nat.add_comm]
      exact (find cache tag).trans (induction (cache.find tag).2)

end Counted

end Cache

namespace Request

/-- Questions about tags and checks; other requests are about the cache. -/
def IsQuestion : Request → Prop
  | .find _ | .admits .. | .compatible .. | .relax .. => True
  | .peek _ | .contains _ | .counts | .resetCounts => False

/-- The tags that are looked up for a request, in order. -/
def lookups : Request → List Tag
  | .find tag => [tag]
  | .admits _ offered => offered.filter (· ≠ "")
  | .compatible this other => comparisons this.types other.types
  | .relax this other strict =>
      if strict then [] else comparisons this.types other.types
  | .peek _ | .contains _ | .counts | .resetCounts => []

/-- The cache after requests were answered in turn. -/
def serve : List Request → Cache → Cache
  | [], cache => cache
  | request :: rest, cache => serve rest (request.answer cache).2

theorem serve_append (first second : List Request) :
    ∀ cache, serve (first ++ second) cache = serve second
      (serve first cache) := by
  induction first with
  | nil => exact fun _ => rfl
  | cons request rest induction =>
      exact fun cache => induction (request.answer cache).2

theorem answerAll_append (earlier later : List Request) :
    ∀ cache, answerAll cache (earlier ++ later) =
      answerAll cache earlier ++ answerAll (serve earlier cache) later := by
  induction earlier with
  | nil => exact fun _ => rfl
  | cons request rest induction =>
      intro cache
      exact congrArg (request.answer cache :: ·)
        (induction (request.answer cache).2)

theorem length_answerAll (requests : List Request) :
    ∀ cache, (answerAll cache requests).length = requests.length := by
  induction requests with
  | nil => exact fun _ => rfl
  | cons request rest induction =>
      intro cache
      exact congrArg Nat.succ (induction (request.answer cache).2)

section Step

variable {cache : Cache} (faithful : cache.Faithful)

include faithful

/-- Unless counts are reset, a request comes down to its lookups. -/
theorem answer_learns {request : Request} (counts : request ≠ .resetCounts) :
    (request.answer cache).2 = cache.learn request.lookups := by
  cases request with
  | find tag => rfl
  | peek tag => rfl
  | contains tag => rfl
  | admits types offered =>
      exact congrArg Prod.snd (faithful.admits types offered)
  | compatible this other =>
      exact congrArg Prod.snd (faithful.compatible this other)
  | relax this other strict =>
      exact congrArg Prod.snd (faithful.relax this other strict)
  | counts => rfl
  | resetCounts => exact absurd rfl counts

theorem faithful_answer (request : Request) :
    (request.answer cache).2.Faithful := by
  by_cases resets : request = .resetCounts
  · rw [resets]
    exact faithful
  · rw [answer_learns faithful resets]
    exact faithful.learn request.lookups

/-- All faithful caches give the same answer to a question. -/
theorem answer_question {other : Cache} (otherFaithful : other.Faithful)
    {request : Request} (question : request.IsQuestion) :
    (request.answer cache).1 = (request.answer other).1 := by
  cases request with
  | find tag =>
      simp only [answer, faithful.name_find, otherFaithful.name_find]
  | admits types offered =>
      simp only [answer, faithful.admits, otherFaithful.admits]
  | compatible this other =>
      simp only [answer, faithful.compatible, otherFaithful.compatible]
  | relax this other strict =>
      simp only [answer, faithful.relax, otherFaithful.relax]
  | peek tag => exact question.elim
  | contains tag => exact question.elim
  | counts => exact question.elim
  | resetCounts => exact question.elim

theorem kept_answer (request : Request) (tag : Tag) (text : String)
    (found : cache.peek tag = some text) :
    (request.answer cache).2.peek tag = some text := by
  by_cases resets : request = .resetCounts
  · rw [resets]
    exact found
  · rw [answer_learns faithful resets]
    exact (Cache.Counted.learn cache request.lookups).kept tag text found

end Step

section Run

theorem faithful_serve (requests : List Request) :
    ∀ {cache : Cache}, cache.Faithful → (serve requests cache).Faithful := by
  induction requests with
  | nil =>
      intro cache faithful
      exact faithful
  | cons request rest induction =>
      intro cache faithful
      exact induction (faithful_answer faithful request)

theorem kept_serve (requests : List Request) (tag : Tag) (text : String) :
    ∀ {cache : Cache}, cache.Faithful → cache.peek tag = some text →
      (serve requests cache).peek tag = some text := by
  induction requests with
  | nil =>
      intro cache _ found
      exact found
  | cons request rest induction =>
      intro cache faithful found
      apply induction (faithful_answer faithful request)
      exact kept_answer faithful request tag text found

/-- As long as counts are not reset they tell the lookups of all requests. -/
theorem counted_serve (requests : List Request) :
    ∀ {cache : Cache}, cache.Faithful → .resetCounts ∉ requests →
      Cache.Counted cache (serve requests cache)
        (requests.flatMap lookups).length := by
  induction requests with
  | nil =>
      intro cache _ _
      exact Cache.Counted.refl cache
  | cons request rest induction =>
      intro cache faithful unreset
      rw [List.mem_cons, not_or] at unreset
      have step := Cache.Counted.learn cache request.lookups
      rw [← answer_learns faithful fun resets => unreset.1 resets.symm] at step
      rw [List.flatMap_cons, List.length_append]
      exact step.trans (induction (faithful_answer faithful request) unreset.2)

/-- Counts start from zero with an empty cache and with a reset. -/
theorem counts_serve_of_reset {requests : List Request}
    (start : requests = [] ∨ requests.getLast? = some .resetCounts) :
    (serve requests {}).counts = {} := by
  rcases start with isEmpty | isLast
  · rw [isEmpty]
    rfl
  · obtain ⟨earlier, isRequests⟩ := List.getLast?_eq_some_iff.mp isLast
    rw [isRequests, serve_append]
    rfl

end Run

end Request

/-- A cache that has answered requests since it was empty makes no difference to
answers.  It holds the names that the pattern extracts and keeps them, and its
counts tell the lookups and the new entries since they were last reset. -/
structure Transparent (earlier : List Request) (cache : Cache) : Prop where
  /-- It is the cache with which the next request is answered. -/
  current : ∀ request later,
    (Request.answerAll {} (earlier ++ request :: later))[earlier.length]? =
      some (request.answer cache)
  answers : ∀ request : Request, request.IsQuestion →
    (request.answer cache).1 = (request.answer {}).1
  extracted : ∀ tag text, cache.peek tag = some text →
    Extracted tag.toList text.toList
  kept : ∀ later tag text, cache.peek tag = some text →
    (Request.serve later cache).peek tag = some text
  peek : ∀ tag, ((Request.peek tag).answer cache).2 = cache
  contains : ∀ tag, ((Request.contains tag).answer cache).2 = cache
  /-- Requests change the cache by their lookups alone. -/
  lookups : ∀ request : Request, request ≠ .resetCounts →
    (request.answer cache).2 = request.lookups.foldl
      (fun cache tag => (cache.find tag).2) cache
  counts : ∀ before since, earlier = before ++ since → .resetCounts ∉ since →
    before = [] ∨ before.getLast? = some .resetCounts →
      cache.counts.hits + cache.counts.misses =
        (since.flatMap Request.lookups).length ∧
      cache.counts.misses = cache.size - (Request.serve before {}).size

theorem cache_transparent (earlier : List Request) :
    Transparent earlier (Request.serve earlier {}) := by
  have faithful : (Request.serve earlier {}).Faithful :=
    Request.faithful_serve earlier Cache.Faithful.empty
  constructor
  case current =>
    intro request later
    rw [Request.answerAll_append, List.getElem?_append_right
      (Nat.le_of_eq (Request.length_answerAll earlier {})),
      Request.length_answerAll, Nat.sub_self]
    rfl
  case answers =>
    intro request question
    exact Request.answer_question faithful Cache.Faithful.empty question
  case extracted =>
    intro tag text found
    exact (extracted_iff tag text).mpr (faithful tag text found)
  case kept =>
    intro later tag text found
    exact Request.kept_serve later tag text faithful found
  case peek => exact fun _ => rfl
  case contains => exact fun _ => rfl
  case lookups =>
    intro request unreset
    exact Request.answer_learns faithful unreset
  case counts =>
    intro before since isEarlier unreset start
    have counted := Request.counted_serve since
      (Request.faithful_serve before Cache.Faithful.empty) unreset
    have total := counted.total
    have misses := counted.misses
    rw [← Request.serve_append, ← isEarlier,
      Request.counts_serve_of_reset start] at total misses
    constructor
    · exact total.trans (Int.zero_add _)
    · rw [show (({} : Hits).misses : Int) = 0 from rfl] at misses
      omega

/-- Two of the three lookups after the reset are answered by the cache, one of
them with an empty name. -/
example :
    (Request.serve [.find "Many:*", .find "Foo", .resetCounts,
      .compatible (some ["Foo"]) (some ["", "Many:*"]), .relax (some ["Many"])
        (some ["Bar"]) true,
      .admits ["Foo"] ["Many:Foo"]] {}).counts = ⟨2, 1⟩ := by
  decide

end TypeFlow.Wildcard
