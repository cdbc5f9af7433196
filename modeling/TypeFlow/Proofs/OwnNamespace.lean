import TypeFlow.Proofs.Compatibility

/-!
# Wildcards and their own namespaces

The wildcard of a higher type is made by putting `:*` after any name, but the
name that is read back from it is only the letters right before the `:*`.  So a
wildcard admits the tags that start with the name of its higher type exactly if
these letters are there and the name starts with them.  The same names are those
whose wrapped types can always be linked to a slot that takes the wildcard.
-/

namespace TypeFlow

/-- The name ends in letters and starts with the letters it ends in. -/
def Wildcard.NamesItself (higher : String) : Prop :=
  endLetters higher.toList ≠ [] ∧ endLetters higher.toList <+: higher.toList

instance Wildcard.decidableNamesItself (higher : String) : Decidable
    (NamesItself higher) :=
  inferInstanceAs (Decidable (_ ∧ _))

namespace Tag

variable {tag : Tag}

theorem toList_wildcardOf (higher : String) :
    (wildcardOf higher).toList = higher.toList ++ [':', '*'] := by
  simp [wildcardOf, separator, wildcard]

theorem toList_inside (higher inner : String) :
    (inside higher inner).toList = higher.toList ++ ':' :: inner.toList := by
  simp [inside, separator]

/-- Nothing is under a tag that has no `:*`. -/
theorem not_under_of_unmarked {wild : Tag}
    (unmarked : Wildcard.beforeMark wild.toList = none) (tag : Tag) :
    ¬ Under wild tag := by
  rw [under_iff, Wildcard.name_eq, unmarked]
  exact fun both => both.1 rfl

section WildcardOf

variable {higher : String} (plain : ':' ∉ higher.toList)

include plain

theorem beforeMark_wildcardOf :
    Wildcard.beforeMark (wildcardOf higher).toList = some higher.toList := by
  rw [toList_wildcardOf, Wildcard.beforeMark_append_colon plain, if_pos rfl]

theorem under_wildcardOf_iff (tag : Tag) :
    Under (wildcardOf higher) tag ↔
      Wildcard.endLetters higher.toList ≠ [] ∧
        Wildcard.endLetters higher.toList <+: tag.toList := by
  rw [under_iff, Wildcard.name_eq, beforeMark_wildcardOf plain, startsWith,
    List.isPrefixOf_iff_prefix, String.toList_ofList, Ne,
    ← String.toList_eq_nil_iff, String.toList_ofList]

theorem under_wildcardOf (named : Wildcard.NamesItself higher)
    (starts : startsWith higher tag = true) :
    Under (wildcardOf higher) tag := by
  rw [under_wildcardOf_iff plain]
  exact ⟨named.1, named.2.trans (List.isPrefixOf_iff_prefix.mp starts)⟩

/-- The letters that a wildcard is read as do not reach past the name, so a tag
of the namespace that has no `:*` can fit only through them. -/
theorem namesItself_of_fit (unmarked : Wildcard.beforeMark tag.toList = none)
    (starts : startsWith higher tag = true)
    (fit : Check.Fit tag (wildcardOf higher)) :
    Wildcard.NamesItself higher := by
  rcases fit with equal | under | above
  · rw [equal, beforeMark_wildcardOf plain] at unmarked
    cases unmarked
  · exact absurd under (not_under_of_unmarked unmarked _)
  · rw [under_wildcardOf_iff plain] at above
    refine ⟨above.1, List.prefix_of_prefix_length_le above.2
      (List.isPrefixOf_iff_prefix.mp starts) ?_⟩
    obtain ⟨before, isHigher⟩ := Wildcard.eq_append_endLetters higher.toList
    have lengths := congrArg List.length isHigher
    rw [List.length_append] at lengths
    omega

end WildcardOf

theorem startsWith_self (tag : Tag) : startsWith tag tag = true :=
  List.isPrefixOf_iff_prefix.mpr List.prefix_rfl

theorem startsWith_inside (higher inner : String) :
    startsWith higher (inside higher inner) = true := by
  rw [startsWith, List.isPrefixOf_iff_prefix, toList_inside]
  exact List.prefix_append _ _

end Tag

theorem Wildcard.namesItself_of_alphabetic {higher : String}
    (nonempty : higher ≠ "")
    (alphabetic : ∀ character ∈ higher.toList, character.isAlpha = true) :
    NamesItself higher := by
  rw [NamesItself, endLetters_of_alphabetic alphabetic]
  exact ⟨fun isEmpty => nonempty (String.toList_eq_nil_iff.mp isEmpty),
    List.prefix_rfl⟩

/-- Wrapping leaves a tag that starts with the name of the higher type, unless
there are only tags of other namespaces. -/
theorem TypeList.exists_startsWith_modify {types : TypeList} {higher : String}
    (nonempty : higher ≠ "")
    (wrappable : types = [] ∨ ∃ tag ∈ types, Tag.isNamespaced tag = false) :
    ∃ tag ∈ modify types (some .wrap) (some higher), Tag.startsWith higher tag =
      true := by
  rw [modify, if_neg nonempty, derive]
  rcases wrappable with isEmpty | ⟨tag, listed, simple⟩
  · rw [isEmpty]
    exact ⟨Tag.wildcardOf higher, List.mem_singleton.mpr rfl,
      Tag.startsWith_inside higher "*"⟩
  · have wrapped : Tag.inside higher tag ∈ wrapIn higher types := by
      refine List.mem_map.mpr ⟨tag, listed, ?_⟩
      rw [simple]
      rfl
    refine ⟨Tag.inside higher tag, ?_, Tag.startsWith_inside higher tag⟩
    split
    · rename_i isEmpty
      rw [isEmpty] at wrapped
      cases wrapped
    · exact mem_distinct.mpr wrapped

namespace Editor

variable {σ : Type}

section Facing

variable (react : Reaction σ) (limit : Nat) (workspace : WorkspaceId)
  (block : BlockId)

theorem connections_setOutput (check : Check) (editor : Editor σ) :
    ((HostOperation.setOutput block check).perform react limit workspace
      editor).2.connections =
      editor.connections.insert ⟨editor.connections.size⟩
        { key := ⟨(editor.block block).id, .output, "output"⟩, block, check } :=
  rfl

theorem connections_appendInput (name : String) (check : Check)
    {editor : Editor σ} (free : (editor.block block).row? name = none) :
    ((HostOperation.appendInput block name check).perform react limit workspace
      editor).2.connections =
      editor.connections.insert ⟨editor.connections.size⟩
        { key := ⟨(editor.block block).id, .input, name⟩, block, check } := by
  apply (ends_iff _ editor fun after => after.connections = _).mp
  simp only [Ends, HostOperation.perform, appendInput, refuseTakenInput,
    leads_discard, leads_bind, leads_look, free, Option.isSome_none,
    Bool.false_eq_true, if_false, leads_pure, newConnection, leads_modify]
  rfl

theorem connections_newBlock (type : String) (id : Option String)
    (extensions : List String) (editor : Editor σ) :
    ((HostOperation.newBlock type id extensions).perform react limit workspace
      editor).2.connections = editor.connections := by
  apply (ends_iff _ editor fun after => after.connections = _).mp
  exact (leads_discard _).mpr (leads_newBlock (fun _ _ => rfl) fun _ _ _ => rfl)

end Facing

/-- A block with an input and another one with an output, with any checks. -/
def facingSlots [Inhabited σ] (outside : Callbacks σ) (input output : Check) :
    Editor σ :=
  HostOperation.performAll outside 1 ⟨0⟩
    [.newBlock "sink" (some "A") [], .appendInput ⟨0⟩ "IN" input,
      .newBlock "source" (some "B") [], .setOutput ⟨1⟩ output]
    ((Equipment.workspace none false).setUp { outer := default }).2

theorem equipped_facingSlots [Inhabited σ] (outside : Callbacks σ)
    (input output : Check) : Equipped outside
      (facingSlots outside input output) :=
  (Equipped.started.setUp (.workspace none false)).performAll 1 ⟨0⟩ _

/-- Any two checks are those of connections that could be linked. -/
theorem exists_facing [Inhabited σ] (outside : Callbacks σ) (near far : Check) :
    ∃ editor this other, Equipped outside editor ∧
      editor.canFace this other = true ∧
      (editor.connection this).check = near ∧
      (editor.connection other).check = far := by
  have connections : ∃ source sink, (facingSlots outside far near).connections =
      (({} : OrderedMap ConnectionId Connection).insert ⟨0⟩
        { key := ⟨sink, .input, "IN"⟩, block := ⟨0⟩, check := far }).insert ⟨1⟩
        { key := ⟨source, .output, "output"⟩, block :=
            ⟨1⟩, check := near } := by
    simp only [facingSlots, HostOperation.performAll]
    rw [connections_setOutput, connections_newBlock,
      connections_appendInput _ _ _ _ _ _ rfl, connections_newBlock]
    exact ⟨_, _, rfl⟩
  obtain ⟨source, sink, connections⟩ := connections
  refine ⟨_, ⟨1⟩, ⟨0⟩, equipped_facingSlots outside far near, ?_, ?_, ?_⟩
  · rw [canFace, connection, connection, connections]
    rfl
  · rw [connection, connections]
    rfl
  · rw [connection, connections]
    rfl

end Editor

open Editor

/-- The wildcard of a name admits the tags that start with the name, and takes
what is wrapped in it, exactly if the name starts with the letters it ends in.
Names that consist of letters do. -/
theorem wildcard_admits_namespace {σ : Type} [Inhabited σ]
    {outside : Callbacks σ} (keeps : KeepsCaches outside) {higher : String}
    (nonempty : higher ≠ "") (plain : Tag.separator ∉ higher.toList) :
    (Wildcard.NamesItself higher ↔ ∀ earlier tag this other,
      Tag.startsWith higher tag = true → tag ∈ this →
        Tag.wildcardOf higher ∈ other →
        let cache := Wildcard.Request.serve earlier {}
        (cache.compatible (some this) (some other)).1 = true ∧
          (cache.compatible (some other) (some this)).1 = true) ∧
    (Wildcard.NamesItself higher ↔ ∀ types : TypeList,
      types = [] ∨ (∃ tag ∈ types, Tag.isNamespaced tag = false) →
        ∀ editor this other, Equipped outside editor →
          editor.canFace this other = true →
          (editor.connection this).check =
            some (TypeList.modify types (some .wrap) (some higher)) →
          (editor.connection other).check = some [Tag.wildcardOf higher] →
            (canConnectWith this other editor).1 = .ok true) ∧
    ((∀ character ∈ higher.toList, character.isAlpha = true) →
      Wildcard.NamesItself higher) := by
  refine ⟨⟨?_, ?_⟩, ⟨?_, ?_⟩, Wildcard.namesItself_of_alphabetic nonempty⟩
  · intro named earlier tag this other starts listed offered
    have faithful := Wildcard.Request.faithful_serve earlier
      Wildcard.Cache.Faithful.empty
    have under := Tag.under_wildcardOf plain named starts
    simp only [faithful.compatible, Wildcard.agree_iff]
    exact ⟨⟨tag, listed, _, offered, Or.inl under⟩,
      ⟨_, offered, tag, listed, Or.inr under⟩⟩
  · -- The shortest tag of the namespace is the name itself.
    intro admitted
    have agrees := (admitted [] higher [higher] [Tag.wildcardOf higher]
      (Tag.startsWith_self higher) (List.mem_singleton.mpr rfl)
      (List.mem_singleton.mpr rfl)).1
    simp only [Wildcard.Request.serve, Wildcard.Cache.Faithful.empty.compatible,
      Wildcard.agree_iff, Check.types, Option.getD_some, List.mem_singleton,
      exists_eq_left] at agrees
    exact Tag.namesItself_of_fit plain (Wildcard.beforeMark_of_plain plain)
      (Tag.startsWith_self higher) (Or.inr agrees.symm)
  · intro named types wrappable editor this other equipped faces
      isWrapped isOffered
    obtain ⟨tag, listed, starts⟩ :=
      TypeList.exists_startsWith_modify nonempty wrappable
    have decides := decides_canConnectWith (equipped.faithfulCaches keeps)
      this other
    rw [decides.eq_true_iff, isWrapped, isOffered]
    refine ⟨faces, Or.inr
      (Or.inr ⟨tag, listed, _, List.mem_singleton.mpr rfl, ?_⟩)⟩
    exact Or.inr (Or.inr (Tag.under_wildcardOf plain named starts))
  · intro linkable
    obtain ⟨editor, this, other, equipped, faces, isWrapped, isOffered⟩ :=
      exists_facing outside
        (some (TypeList.modify ["x"] (some .wrap) (some higher)))
        (some [Tag.wildcardOf higher])
    have connects := linkable ["x"]
      (Or.inr ⟨"x", List.mem_singleton.mpr rfl, rfl⟩) editor this
      other equipped faces isWrapped isOffered
    have wraps : TypeList.modify ["x"] (some .wrap) (some higher) =
        [Tag.inside higher "x"] := by
      rw [TypeList.modify, if_neg nonempty]
      rfl
    have unmarked : Wildcard.beforeMark (Tag.inside higher "x").toList =
        none := by
      rw [Tag.toList_inside]
      exact Wildcard.beforeMark_append_colon plain 'x'
    have decides := decides_canConnectWith (equipped.faithfulCaches keeps)
      this other
    rw [decides.eq_true_iff, isWrapped, isOffered, wraps] at connects
    rcases connects.2 with acceptsAll | acceptsAll
      | ⟨near, isNear, far, isFar, fit⟩
    · cases acceptsAll
    · cases acceptsAll
    · rw [List.mem_singleton.mp isNear, List.mem_singleton.mp isFar] at fit
      exact Tag.namesItself_of_fit plain unmarked
        (Tag.startsWith_inside higher "x") fit

/-- A name that is not all letters, and whose wildcard admits its namespace. -/
theorem wildcard_admits_namespace_many2many :
    "Many2Many" ≠ "" ∧ Tag.separator ∉ "Many2Many".toList ∧
      Wildcard.NamesItself "Many2Many" ∧
      (({} : Wildcard.Cache).compatible (some ["Bar", "Many2Many:Foo"])
        (some ["Many2Many:*", "Baz"])).1 = true ∧
      ∃ editor : Editor Unit, ∃ this other, Equipped idle editor ∧
        editor.canFace this other = true ∧
        (editor.connection this).check =
          some (TypeList.modify ["One:Bar", "Foo"] (some .wrap)
            (some "Many2Many")) ∧
        (editor.connection other).check = some [Tag.wildcardOf "Many2Many"] ∧
        (canConnectWith this other editor).1 = .ok true := by
  have nonempty : "Many2Many" ≠ "" := by decide
  have plain : Tag.separator ∉ "Many2Many".toList := by decide
  have named : Wildcard.NamesItself "Many2Many" := by decide
  have keeps : KeepsCaches (idle : Callbacks Unit) := keepsCaches_idle
  obtain ⟨admits, links, _⟩ := wildcard_admits_namespace keeps nonempty plain
  obtain ⟨editor, this, other, equipped, faces, isWrapped, isOffered⟩ :=
    exists_facing (idle : Callbacks Unit)
      (some (TypeList.modify ["One:Bar", "Foo"] (some .wrap)
        (some "Many2Many")))
      (some [Tag.wildcardOf "Many2Many"])
  refine ⟨nonempty, plain, named, ?_, editor, this, other, equipped, faces,
    isWrapped, isOffered, ?_⟩
  · exact (admits.mp named [] "Many2Many:Foo" _ _ (by decide) (by decide)
      (by decide)).1
  · exact links.mp named ["One:Bar", "Foo"]
      (Or.inr ⟨"Foo", by decide, by decide⟩) editor this
      other equipped faces isWrapped isOffered

/-- A digit at the end of a name keeps its wildcard from admitting anything,
also what was wrapped in the same name. -/
theorem own_namespace_refused :
    Tag.separator ∉ "Type2".toList ∧ Tag.startsWith "Type2" "Type2:Foo" = true ∧
      TypeList.modify ["Foo"] (some .wrap) (some "Type2") = ["Type2:Foo"] ∧
      (({} : Wildcard.Cache).compatible (some ["Type2:Foo"])
        (some [Tag.wildcardOf "Type2"])).1 = false ∧
      (({} : Wildcard.Cache).compatible (some [Tag.wildcardOf "Type2"])
        (some ["Type2:Foo"])).1 = false ∧
      ∃ editor : Editor Unit, ∃ this other, Equipped idle editor ∧
        editor.canFace this other = true ∧
        (editor.connection this).check = some ["Type2:Foo"] ∧
        (editor.connection other).check = some [Tag.wildcardOf "Type2"] ∧
        (canConnectWith this other editor).1 = .ok false := by
  refine ⟨by decide, by decide, by decide, by decide, by decide,
    facingSlots idle (some [Tag.wildcardOf "Type2"]) (some ["Type2:Foo"]),
    ⟨1⟩, ⟨0⟩, equipped_facingSlots idle _ _, by decide +kernel, by
    decide +kernel, by decide +kernel, by decide +kernel⟩

end TypeFlow
