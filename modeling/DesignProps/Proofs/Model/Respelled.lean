import DesignProps.Formatting
import DesignProps.Proofs.Document.Respelled

/-!
# Models of documents that embed main components

Let ids tell the occurrences of a document apart.  If some of its instances embed the components they name, every id
leads to a node of the same content as before.  The outermost instances are still the first of their ids, since copies
are made of components and groups, and no outermost instance stands below one.  So they are linked as before, and the
model and the names that ids lead to stay the same.

Main statements: `resolve_respelled`, `registers_respelled`, `model_respelled`, `linkFaults_respelled`.
-/

set_option autoImplicit false

namespace DesignProps

theorem Located.definitionNode_of_bare {l k : Located} (node : l.node.bare = k.node.bare)
    (above : l.parent?.map Node.bare = k.parent?.map Node.bare) : l.definitionNode.bare = k.definitionNode.bare := by
  unfold definitionNode
  cases mine : l.parent? with
  | none =>
      obtain absent : k.parent? = none := by simpa [mine] using above.symm
      simpa only [absent] using node
  | some parent =>
      rw [mine] at above
      obtain ⟨other, found, same⟩ := Option.map_eq_some_iff.1 above.symm
      simp only [found, Node.isGroup_of_bare same]
      split
      · exact same.symm
      · exact node

/-- Embedding a main component keeps the component and its definition node. -/
theorem Located.located?_embedded (l : Located) : ∃ copy, l.embedded.located? = some copy ∧ copy.node = l.node ∧
    copy.definitionNode = l.definitionNode := by
  unfold embedded definitionNode
  cases above : l.parent? with
  | none => exact ⟨_, rfl, rfl, rfl⟩
  | some parent =>
      by_cases group : parent.isGroup = true
      · simp only [group, if_true]
        exact ⟨_, rfl, rfl, by simp [Located.parent?, group]⟩
      · simp only [group, Bool.false_eq_true, if_false]
        exact ⟨_, rfl, rfl, rfl⟩

namespace Index

/-! ## Counterparts -/

section Survey
variable {roots : List Node} {o p : Occurrence}

/-- Two occurrences of the same content, components with the same definition node. -/
structure AlikeAt (o p : Occurrence) : Prop where
  node : o.node.bare = p.node.bare
  definition : o.node.isComponent = true → o.definitionNode.bare = p.definitionNode.bare

theorem alike_of_moved {ix : Index} (moved : Node.Moved ix o p) : AlikeAt o p := by
  have node := Node.bare_of_respelled moved.node
  refine ⟨node, fun _ => Located.definitionNode_of_bare node ?_⟩
  have above := congrArg List.head? moved.above
  simpa only [List.head?_map, Located.parent?] using above

theorem linkFault_congr (main : p.node.main = o.node.main) (mainId : p.node.data.mainId = o.node.data.mainId) :
    linkFault p = linkFault o := by
  unfold linkFault awaitsLink
  rw [main, mainId]

/-- An occurrence in a copy has its original below a component or a group. -/
theorem original_of_copied (copied : Node.Copied (ofRoots roots) p) : ∃ o ∈ surveyed roots, o.node = p.node ∧
    AlikeAt o p ∧ ∃ c ∈ (ofRoots roots).walked, c.node.isInstance = false ∧ c.node.isRelevant = true ∧
      c.place <:+ o.place := by
  obtain ⟨c, walked, kind, place, inside⟩ := copied
  obtain ⟨o, found, same, parents⟩ := Node.exists_of_survey inside c.place c.ancestors
  have among : o ∈ surveyed roots := surveyed_below ((walked_sublist (ofRoots roots)).subset walked) found
  have below : c.place <:+ o.place := Node.suffix_of_mem_survey _ _ _ o found
  have definition : o.node.isComponent = true → o.definitionNode.bare = p.definitionNode.bare := by
    intro component
    rcases parents with equal | ⟨root, alone, above⟩
    · exact Located.definitionNode_of_bare (congrArg Node.bare same) (by rw [equal])
    · -- the root of a copy that is a component is no variant
      have plain : ∀ parent, o.parent? = some parent → parent.isGroup = false := by
        rcases kind with group | ⟨-, plain⟩
        · rw [same, root] at component
          simp [Node.isGroup, Node.isComponent] at group component
          simp [group] at component
        · rwa [Located.parent?, above]
      have top : p.definitionNode = p.node := Located.definitionNode_of_plain (by simp [Located.parent?, alone])
      rw [Located.definitionNode_of_plain plain, top, same]
  have relevant : c.node.isInstance = false ∧ c.node.isRelevant = true := by
    rcases kind with group | ⟨component, -⟩
    · have type : c.node.type = "COMPONENT_SET" := by simpa [Node.isGroup] using group
      simp [Node.isInstance, Node.isRelevant, Node.isGroup, type]
    · have type : c.node.type = "COMPONENT" := by simpa [Node.isComponent] using component
      simp [Node.isInstance, Node.isRelevant, Node.isComponent, type]
  exact ⟨o, among, same, ⟨congrArg Node.bare same, definition⟩, c, walked, relevant.1, relevant.2, below⟩

end Survey

/-! ## What instances name -/

/-- The instance names a walked component by its id, which is not empty, and embeds none. -/
structure NamesComponent (ix : Index) (n : Node) : Prop where
  unembedded : n.main = .none
  named : ∃ c ∈ ix.walked, c.node.isComponent = true ∧ c.node.id ≠ "" ∧ n.data.mainId = .str c.node.id

instance (ix : Index) (n : Node) : Decidable (NamesComponent ix n) :=
  decidable_of_iff (n.main.component?.isNone = true ∧
      ∃ c ∈ ix.walked, c.node.isComponent = true ∧ c.node.id ≠ "" ∧ n.data.mainId = .str c.node.id) <| by
    have embedded : n.main.component?.isNone = true ↔ n.main = .none := by
      cases n.main <;> simp [EmbeddedMain.component?]
    rw [embedded]
    exact ⟨fun ⟨unembedded, named⟩ => ⟨unembedded, named⟩, fun ⟨unembedded, named⟩ => ⟨unembedded, named⟩⟩

section Respelled
variable {roots others : List Node} (respelled : List.Forall₂ (Node.Respelled (ofRoots roots)) roots others)
include respelled

theorem counterpart_of_surveyed {p : Occurrence} (inside : p ∈ surveyed others) :
    (∃ o ∈ surveyed roots, Node.Moved (ofRoots roots) o p) ∨ Node.Copied (ofRoots roots) p := by
  obtain ⟨i, k, at', inside⟩ := Node.mem_forest.1 inside
  obtain ⟨n, at_, same⟩ := (getElem?_of_forall₂ respelled i).2 k at'
  rcases Node.counterpart_of_survey same (List.map_nil : [].map Node.bare = []) inside with ⟨o, found, moved⟩ | copied
  · exact Or.inl ⟨o, Node.mem_forest.2 ⟨i, n, at_, found⟩, moved⟩
  · exact Or.inr copied

theorem alike_of_surveyed {p : Occurrence} (inside : p ∈ surveyed others) : ∃ o ∈ surveyed roots, AlikeAt o p := by
  rcases counterpart_of_surveyed respelled inside with ⟨o, found, moved⟩ | copied
  · exact ⟨o, found, alike_of_moved moved⟩
  · obtain ⟨o, found, -, alike, -⟩ := original_of_copied copied
    exact ⟨o, found, alike⟩

theorem exists_of_surveyed {o : Occurrence} (inside : o ∈ surveyed roots) : ∃ p ∈ surveyed others, p.node.id = o.node.id := by
  obtain ⟨i, n, at_, inside⟩ := Node.mem_forest.1 inside
  obtain ⟨k, at', same⟩ := (getElem?_of_forall₂ respelled i).1 n at_
  obtain ⟨p, found, equal⟩ := Node.exists_of_respelled same _ inside
  exact ⟨p, Node.mem_forest.2 ⟨i, k, at', found⟩, Node.id_of_bare equal⟩

variable (distinct : ((surveyed roots).map fun o => o.node.id).Nodup)
include distinct

/-- Every id leads to the same content, or leads nowhere as before. -/
theorem resolve_respelled (id : String) :
    ((ofRoots roots).resolve id = none ∧ (ofRoots others).resolve id = none) ∨
      ∃ o p, (ofRoots roots).resolve id = some o ∧ (ofRoots others).resolve id = some p ∧ AlikeAt o p := by
  cases found : (ofRoots others).resolve id with
  | none =>
      refine Or.inl ⟨?_, rfl⟩
      cases known : (ofRoots roots).resolve id with
      | none => rfl
      | some o =>
          obtain ⟨among, named⟩ := mem_of_resolve known
          obtain ⟨p, inside, same⟩ := exists_of_surveyed respelled among
          have resolved := (resolve_isSome_iff others id).2 ⟨p, inside, same.trans named⟩
          simp [found] at resolved
  | some p =>
      obtain ⟨among, named⟩ := mem_of_resolve found
      obtain ⟨o, inside, alike⟩ := alike_of_surveyed respelled among
      have first := resolve_of_distinct distinct inside
      rw [Node.id_of_bare alike.node, named] at first
      exact Or.inr ⟨o, p, first, rfl, alike⟩

theorem nameOf?_respelled : (ofRoots others).nameOf? = (ofRoots roots).nameOf? := by
  funext id
  unfold nameOf?
  rcases resolve_respelled respelled distinct id with ⟨before, after⟩ | ⟨o, p, before, after, alike⟩
  · rw [before, after]
  · rw [before, after, Option.map_some, Option.map_some, Node.name_of_bare alike.node]

/-- An outermost instance is still the first node of its id. -/
theorem registers_respelled {o p : Occurrence} (outer : o ∈ (ofRoots roots).outermost) (swaps : o.node.isInstance = true)
    (place : o.place = p.place) (same : o.node.bare = p.node.bare) : (ofRoots others).registers p = true := by
  have inside : o ∈ surveyed roots :=
    ((outermost_sublist (ofRoots roots)).trans (walked_sublist (ofRoots roots))).subset outer
  have unique : ∀ x ∈ surveyed roots, x.node.id = o.node.id → x = o := fun x among named =>
    List.inj_on_of_nodup_map distinct among inside named
  obtain ⟨q, there, named⟩ := exists_of_surveyed respelled inside
  obtain ⟨first, found⟩ := Option.isSome_iff_exists.1 ((resolve_isSome_iff others p.node.id).2
    ⟨q, there, named.trans (Node.id_of_bare same)⟩)
  obtain ⟨among, itsId⟩ := mem_of_resolve found
  have sameId : first.node.id = o.node.id := itsId.trans (Node.id_of_bare same).symm
  unfold registers
  simp only [found, beq_iff_eq]
  rcases counterpart_of_surveyed respelled among with ⟨x, within, moved⟩ | copied
  · have := unique x within ((Node.id_of_bare (Node.bare_of_respelled moved.node)).trans sameId)
    rw [← moved.place, this, place]
  · -- a copy would have the outermost instance below a component or a group
    obtain ⟨x, within, original, alike, c, walked, noInstance, relevant, above⟩ := original_of_copied copied
    have equal := unique x within ((Node.id_of_bare alike.node).trans sameId)
    rw [equal] at above
    have at_ := apart_of_outermost outer walked relevant above
    have identical := eq_of_place ((walked_sublist (ofRoots roots)).subset walked) inside at_
    rw [identical, swaps] at noInstance
    cases noInstance

/-! ## Subjects -/

/-- An outermost instance keeps a main component and a definition node of the same content, linked or embedded. -/
theorem main?_respelled {o p c : Occurrence} (outer : o ∈ (ofRoots roots).outermost) (swaps : o.node.isInstance = true)
    (place : o.place = p.place) (node : o.node.Respelled (ofRoots roots) p.node) (unembedded : o.node.main = .none)
    (walked : c ∈ (ofRoots roots).walked) (component : c.node.isComponent = true) (present : c.node.id ≠ "")
    (named : o.node.data.mainId = .str c.node.id) :
    ∃ l, (ofRoots others).main? p = some l ∧ c.node.bare = l.node.bare ∧
      c.definitionNode.bare = l.definitionNode.bare := by
  have among : c ∈ surveyed roots := (walked_sublist (ofRoots roots)).subset walked
  have first := resolve_of_distinct distinct among
  rcases Node.mains_of_respelled node with ⟨kept, sameId⟩ | embeds
  · obtain ⟨x, q, known, found, alike⟩ := (resolve_respelled respelled distinct c.node.id).resolve_left
      fun absent => by simp [first] at absent
    obtain rfl := Option.some.inj (first.symm.trans known)
    have registered := registers_respelled respelled distinct outer swaps place (Node.bare_of_respelled node)
    refine ⟨q.toLocated, ?_, alike.node, alike.definition component⟩
    simp [main?, kept, unembedded, EmbeddedMain.located?, registered, sameId, named, named?, present, found]
  · obtain ⟨x, met, -, namedToo, copied⟩ := embeds.copied
    have ids : x.node.id = c.node.id := Json.str.inj (namedToo.symm.trans named)
    obtain rfl := List.inj_on_of_nodup_map distinct ((walked_sublist (ofRoots roots)).subset met) among ids
    obtain ⟨copy, located, sameNode, definition⟩ := Located.located?_embedded x.toLocated
    refine ⟨copy, ?_, congrArg Node.bare sameNode.symm, congrArg Node.bare definition.symm⟩
    simp [main?, copied, located]

theorem subject_respelled {o p : Occurrence} (outer : o ∈ (ofRoots roots).outermost) (place : o.place = p.place)
    (node : o.node.Respelled (ofRoots roots) p.node)
    (names : o.node.isInstance = true → NamesComponent (ofRoots roots) o.node) :
    (Subject.ofOccurrence (ofRoots roots) o).Alike (Subject.ofOccurrence (ofRoots others) p) := by
  refine ⟨Node.bare_of_respelled node, fun swaps => ?_⟩
  obtain ⟨unembedded, c, walked, component, present, named⟩ := names swaps
  have inside : o ∈ surveyed roots :=
    ((outermost_sublist (ofRoots roots)).trans (walked_sublist (ofRoots roots))).subset outer
  have target := resolve_of_distinct distinct ((walked_sublist (ofRoots roots)).subset walked)
  have first := (resolve_self_iff roots o).1 (resolve_of_distinct distinct inside)
  have mine := main?_of_names ⟨unembedded, _, named, present, target⟩ inside first
  obtain ⟨l, other, sameNode, definition⟩ :=
    main?_respelled respelled distinct outer swaps place node unembedded walked component present named
  simp only [Subject.ofOccurrence, mine, other, Option.map_some, sameNode, definition, and_self]

theorem model_respelled
    (names : ∀ o ∈ (ofRoots roots).walked, o.node.isInstance = true → NamesComponent (ofRoots roots) o.node) :
    (ofRoots others).model none = (ofRoots roots).model none := by
  have each : ∀ {ns ks : List Node}, List.Forall₂ (Node.Respelled (ofRoots roots)) ns ks → ∀ position,
      List.Forall₂ (fun o p => o.place = p.place ∧ o.node.Respelled (ofRoots roots) p.node)
        (Node.forest (fun place => Node.outermost place []) position ns)
        (Node.forest (fun place => Node.outermost place []) position ks) := by
    intro ns ks related
    induction related with
    | nil => exact fun _ => .nil
    | cons first _ ih => exact fun position => List.rel_append (Node.outermost_respelled _ [] [] first) (ih (position + 1))
  have outer : List.Forall₂ (fun o p => o ∈ (ofRoots roots).outermost ∧
      o.place = p.place ∧ o.node.Respelled (ofRoots roots) p.node) (ofRoots roots).outermost (ofRoots others).outermost :=
    (List.forall₂_and_left _ _).2 ⟨fun _ inside => inside, each respelled 0⟩
  refine (Model.ofSubjects_congr ?_).symm
  rw [subjects, subjects, relevant, relevant, List.forall₂_map_left_iff, List.forall₂_map_right_iff]
  refine outer.imp fun o p ⟨inside, place, node⟩ => ?_
  exact subject_respelled respelled distinct inside place node
    (names o ((outermost_sublist (ofRoots roots)).subset inside))

/-! ## Links -/

omit distinct in
theorem linkFaults_respelled (linked : ∀ o ∈ surveyed roots, linkFault o = none) :
    ∀ p ∈ surveyed others, linkFault p = none := by
  intro p inside
  rcases counterpart_of_surveyed respelled inside with ⟨o, found, moved⟩ | copied
  · rcases Node.mains_of_respelled moved.node with ⟨kept, sameId⟩ | embeds
    · rw [linkFault_congr kept sameId, linked o found]
    · obtain ⟨c, -, -, -, copied⟩ := embeds.copied
      obtain ⟨copy, located, -, -⟩ := Located.located?_embedded c.toLocated
      unfold linkFault awaitsLink
      split <;> simp [copied, located]
  · obtain ⟨o, found, same, -, -⟩ := original_of_copied copied
    rw [← linkFault_congr (congrArg Node.main same) (congrArg (fun n => n.data.mainId) same), linked o found]

end Respelled

end Index

end DesignProps
