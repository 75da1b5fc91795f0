import DesignProps.Proofs.Reference.Present

/-!
# What an addition reads of a node

A model says nothing of how nodes name their main components.  `bare` forgets it, together with the embedded main
components, in a whole tree; nodes that are the same without it are worked into a model alike.

Main statements: `Node.bare_walk`, `Model.ofSubjects_congr` (subjects that are read alike make the same model).
-/

set_option autoImplicit false

namespace DesignProps

namespace Node

mutual

/-- The node without main components, embedded or named, here and below. -/
def bare : Node → Node
  | .mk data _ children => .mk { data with mainId := .null } .none (bareAll children)

def bareAll : List Node → List Node
  | [] => []
  | n :: rest => bare n :: bareAll rest

end

theorem bareAll_eq_map (nodes : List Node) : bareAll nodes = nodes.map bare := by
  induction nodes with
  | nil => rfl
  | cons n rest ih => rw [bareAll, ih, List.map_cons]

@[simp] theorem data_bare (n : Node) : n.bare.data = { n.data with mainId := .null } := by
  cases n
  simp only [bare, data]

@[simp] theorem children_bare (n : Node) : n.bare.children = n.children.map bare := by
  cases n
  simp only [bare, children, bareAll_eq_map]

mutual

theorem bare_walk : ∀ n : Node, n.bare.walk = n.walk.map bare
  | .mk data main children => by
      rw [bare, walk, walk, List.map_cons, bare, bare_walkAll children]

theorem bare_walkAll : ∀ nodes : List Node, walkAll (bareAll nodes) = (walkAll nodes).map bare
  | [] => by simp only [bareAll, walkAll, List.map_nil]
  | n :: rest => by
      rw [bareAll, walkAll, walkAll, List.map_append, bare_walk n, bare_walkAll rest]

end

/-! ## Nodes that are the same without main components -/

section Same
variable {n k : Node} (same : n.bare = k.bare)
include same

/-- Whatever of a node's own data does not tell how the main component is named is the same. -/
theorem field_of_bare {β : Type} (f : NodeData → β) (blind : ∀ d, f { d with mainId := .null } = f d) :
    f n.data = f k.data := by
  have fields := congrArg (fun n : Node => f n.data) same
  simpa only [data_bare, blind] using fields

theorem id_of_bare : n.id = k.id := field_of_bare same NodeData.id fun _ => rfl

theorem name_of_bare : n.name = k.name := field_of_bare same NodeData.name fun _ => rfl

theorem type_of_bare : n.type = k.type := field_of_bare same NodeData.type fun _ => rfl

theorem definitions_of_bare : n.data.definitions = k.data.definitions :=
  field_of_bare same NodeData.definitions fun _ => rfl

theorem properties_of_bare : n.data.properties = k.data.properties :=
  field_of_bare same NodeData.properties fun _ => rfl

theorem isInstance_of_bare : n.isInstance = k.isInstance := by
  simp only [isInstance, type_of_bare same]

theorem isComponent_of_bare : n.isComponent = k.isComponent := by
  simp only [isComponent, type_of_bare same]

theorem isGroup_of_bare : n.isGroup = k.isGroup := by
  simp only [isGroup, type_of_bare same]

theorem ofForest_of_bare : ReferenceMap.ofForest n.children = ReferenceMap.ofForest k.children := by
  have bound : ∀ n : Node, (walkAll n.children).map (fun n => n.data.references) =
      (walkAll n.bare.children).map fun n => n.data.references := by
    intro n
    rw [children_bare, ← bareAll_eq_map, bare_walkAll, List.map_map]
    simp [Function.comp_def]
  refine ReferenceMap.ofForest_congr ?_
  rw [bound n, bound k, same]

end Same

theorem references_of_bare {n k : Node} (same : n.bare = k.bare) {main other : Option Node}
    (mains : n.isInstance = true → main.map bare = other.map bare) : n.references main = k.references other := by
  unfold references bindingRoot
  rw [← isComponent_of_bare same, ← isGroup_of_bare same, ← isInstance_of_bare same]
  by_cases definition : (n.isComponent || n.isGroup) = true
  · simp only [if_pos definition]
    exact ofForest_of_bare same
  · simp only [if_neg definition]
    by_cases swaps : n.isInstance = true
    · have roots := mains swaps
      simp only [if_pos swaps]
      cases main with
      | none =>
          obtain rfl : other = none := by simpa using roots.symm
          rfl
      | some root =>
          obtain ⟨peer, rfl, equal⟩ := Option.map_eq_some_iff.1 roots.symm
          exact ofForest_of_bare equal.symm
    · simp only [if_neg swaps]

end Node

/-! ## Subjects -/

/-- Two subjects that are read alike: the same nodes and, for an instance, the same main component and definition node,
but for how they name theirs. -/
structure Subject.Alike (s t : Subject) : Prop where
  node : s.node.bare = t.node.bare
  main : s.node.isInstance = true →
    s.main.map (fun l => l.node.bare) = t.main.map (fun l => l.node.bare) ∧
    s.main.map (fun l => l.definitionNode.bare) = t.main.map fun l => l.definitionNode.bare

namespace Subject

variable {s t : Subject} (alike : s.Alike t)
include alike

theorem source_of_alike : s.source.map Node.bare = t.source.map Node.bare := by
  rw [source_eq, source_eq, ← Node.isInstance_of_bare alike.node]
  by_cases swaps : s.node.isInstance = true
  · obtain ⟨-, sources⟩ := alike.main swaps
    simpa [if_pos swaps, Option.map_map, Function.comp_def] using sources
  · simp [if_neg swaps, alike.node]

theorem source_cases : (s.source = none ∧ t.source = none) ∨
    ∃ n k, s.source = some n ∧ t.source = some k ∧ n.bare = k.bare := by
  have sources := source_of_alike alike
  cases mine : s.source with
  | none =>
      rw [mine] at sources
      exact Or.inl ⟨rfl, by simpa using sources.symm⟩
  | some n =>
      rw [mine] at sources
      obtain ⟨k, found, same⟩ := Option.map_eq_some_iff.1 sources.symm
      exact Or.inr ⟨n, k, rfl, found, same.symm⟩

theorem definitionId_of_alike : s.definitionId = t.definitionId := by
  unfold definitionId
  rcases source_cases alike with ⟨mine, other⟩ | ⟨n, k, mine, other, same⟩
  · rw [mine, other]
  · rw [mine, other]
    exact Node.id_of_bare same

theorem displayName_of_alike : s.displayName = t.displayName := by
  unfold displayName
  rcases source_cases alike with ⟨mine, other⟩ | ⟨n, k, mine, other, same⟩
  · rw [mine, other]
  · simp only [mine, other, Node.name_of_bare same]

theorem rawDefinitions_of_alike : s.rawDefinitions = t.rawDefinitions := by
  unfold rawDefinitions
  rcases source_cases alike with ⟨mine, other⟩ | ⟨n, k, mine, other, same⟩
  · rw [mine, other]
  · simp only [mine, other, Node.definitions_of_bare same]

theorem rawValues_of_alike : s.rawValues = t.rawValues := by
  unfold rawValues
  rw [Node.isInstance_of_bare alike.node, Node.properties_of_bare alike.node, Node.definitions_of_bare alike.node]

theorem references_of_alike : s.references = t.references := by
  refine Node.references_of_bare alike.node fun swaps => ?_
  simpa [Option.map_map, Function.comp_def] using (alike.main swaps).1

end Subject

/-! ## Models -/

namespace Model

theorem add_congr {s t : Subject} (alike : s.Alike t) (m : Model) : m.add s = m.add t := by
  unfold add definitionsFor fileDefinitions
  simp only [Subject.rawValues_of_alike alike, Subject.references_of_alike alike,
    Subject.definitionId_of_alike alike, Subject.displayName_of_alike alike, Subject.rawDefinitions_of_alike alike,
    Node.id_of_bare alike.node]

theorem addAll_congr {xs ys : List Subject} (alike : List.Forall₂ Subject.Alike xs ys) :
    ∀ m : Model, m.addAll xs = m.addAll ys := by
  induction alike with
  | nil => exact fun _ => rfl
  | cons first _ ih =>
      intro m
      simp only [addAll, add_congr first m, ih]

theorem ofSubjects_congr {xs ys : List Subject} (alike : List.Forall₂ Subject.Alike xs ys) :
    ofSubjects xs = ofSubjects ys := by
  rw [ofSubjects, ofSubjects, addAll_congr alike]

end Model

end DesignProps
