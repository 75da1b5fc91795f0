import DesignProps.Proofs.Document.Places

/-!
# What is below an occurrence

An occurrence is the root of its tree, or it stands below one of the children, or in the tree of the embedded main
component.  Whatever is surveyed below an occurrence is surveyed, and the same tree at another place has the same nodes
below it, with the same parents.

Main statements: `Node.tree_induction`, `Index.surveyed_below`, `Index.exists_parent`, `Index.apart_of_outermost`
(no relevant node stands above an outermost one), `Node.exists_of_survey` (a tree is surveyed alike anywhere).
-/

set_option autoImplicit false

namespace DesignProps

/-- The tree that is surveyed for an embedded main component: the group it came with, else its own. -/
def EmbeddedMain.top? : EmbeddedMain → Option Node
  | .none => Option.none
  | .alone component => some component
  | .within _ group => some group

namespace Node

/-! ## Induction over trees -/

mutual

/-- What every node has whose children and whose embedded tree have it. -/
theorem tree_induction {motive : Node → Prop}
    (step : ∀ n : Node, (∀ t, n.main.top? = some t → motive t) → (∀ k ∈ n.children, motive k) → motive n) :
    ∀ n : Node, motive n
  | .mk data main children =>
      step (.mk data main children) (top_induction step main) (children_induction step children)

theorem top_induction {motive : Node → Prop}
    (step : ∀ n : Node, (∀ t, n.main.top? = some t → motive t) → (∀ k ∈ n.children, motive k) → motive n) :
    ∀ main : EmbeddedMain, ∀ t, main.top? = some t → motive t
  | .none => fun _ absent => nomatch absent
  | .alone component => fun _ same => Option.some.inj same ▸ tree_induction step component
  | .within _ group => fun _ same => Option.some.inj same ▸ tree_induction step group

theorem children_induction {motive : Node → Prop}
    (step : ∀ n : Node, (∀ t, n.main.top? = some t → motive t) → (∀ k ∈ n.children, motive k) → motive n) :
    ∀ nodes : List Node, ∀ k ∈ nodes, motive k
  | [] => fun _ inside => nomatch inside
  | n :: rest => List.forall_mem_cons.2 ⟨tree_induction step n, children_induction step rest⟩

end

/-! ## Where an occurrence is listed -/

theorem mem_surveyMain {place : Place} {main : EmbeddedMain} {o : Occurrence} :
    o ∈ surveyMain place main ↔ ∃ t, main.top? = some t ∧ o ∈ survey place [] t := by
  cases main <;> simp [surveyMain, EmbeddedMain.top?]

/-- What is in a list of lists that are made of nodes and their positions. -/
theorem mem_numbered {f : Nat → Node → List Occurrence} {g : Nat → List Node → List Occurrence} (nil : ∀ i, g i [] = [])
    (cons : ∀ i n rest, g i (n :: rest) = f i n ++ g (i + 1) rest) {o : Occurrence} :
    ∀ (nodes : List Node) (position : Nat),
      o ∈ g position nodes ↔ ∃ i k, nodes[i]? = some k ∧ o ∈ f (position + i) k := by
  intro nodes
  induction nodes with
  | nil => simp [nil]
  | cons n rest ih =>
      intro position
      rw [cons, List.mem_append, ih]
      constructor
      · rintro (first | ⟨i, k, at_, later⟩)
        · exact ⟨0, n, rfl, first⟩
        · exact ⟨i + 1, k, at_, by rwa [← Nat.add_assoc, Nat.add_right_comm]⟩
      · rintro ⟨i, k, at_, inside⟩
        cases i with
        | zero =>
            obtain rfl := Option.some.inj at_
            exact Or.inl inside
        | succ i => exact Or.inr ⟨i, k, at_, by rwa [← Nat.add_assoc, Nat.add_right_comm] at inside⟩

theorem mem_forest {list : Place → Node → List Occurrence} {roots : List Node} {o : Occurrence} :
    o ∈ forest list 0 roots ↔ ∃ i k, roots[i]? = some k ∧ o ∈ list [.root i] k := by
  have each := mem_numbered (f := fun i k => list [.root i] k) (g := forest list) (fun _ => rfl) (fun _ _ _ => rfl)
    (o := o) roots 0
  simpa only [Nat.zero_add] using each

variable {place : Place} {ancestors : List Node} {n : Node} {o : Occurrence}

theorem mem_survey :
    o ∈ survey place ancestors n ↔ o = ⟨⟨n, ancestors⟩, place⟩ ∨
      (∃ t, n.main.top? = some t ∧ o ∈ survey (.main :: place) [] t) ∨
      ∃ i k, n.children[i]? = some k ∧ o ∈ survey (.child i :: place) (n :: ancestors) k := by
  obtain ⟨data, main, children⟩ := n
  have each := mem_numbered (f := fun i => survey (.child i :: place) (.mk data main children :: ancestors))
    (g := fun i => surveyAll place i (.mk data main children :: ancestors)) (fun _ => by rw [surveyAll])
    (fun _ _ _ => by rw [surveyAll]) (o := o) children 0
  simp only [Nat.zero_add] at each
  simp only [survey, List.mem_cons, List.mem_append, mem_surveyMain, each, Node.main, Node.children]

theorem mem_occurrences :
    o ∈ occurrences place ancestors n ↔ o = ⟨⟨n, ancestors⟩, place⟩ ∨
      ∃ i k, n.children[i]? = some k ∧ o ∈ occurrences (.child i :: place) (n :: ancestors) k := by
  obtain ⟨data, main, children⟩ := n
  have each := mem_numbered (f := fun i => occurrences (.child i :: place) (.mk data main children :: ancestors))
    (g := fun i => occurrencesAll place i (.mk data main children :: ancestors)) (fun _ => by rw [occurrencesAll])
    (fun _ _ _ => by rw [occurrencesAll]) (o := o) children 0
  simp only [Nat.zero_add] at each
  simp only [occurrences, List.mem_cons, each, Node.children]

theorem mem_outermost :
    o ∈ outermost place ancestors n ↔ (n.isRelevant = true ∧ o = ⟨⟨n, ancestors⟩, place⟩) ∨
      (n.isRelevant = false ∧
        ∃ i k, n.children[i]? = some k ∧ o ∈ outermost (.child i :: place) (n :: ancestors) k) := by
  obtain ⟨data, main, children⟩ := n
  have each := mem_numbered (f := fun i => outermost (.child i :: place) (.mk data main children :: ancestors))
    (g := fun i => outermostAll place i (.mk data main children :: ancestors)) (fun _ => by rw [outermostAll])
    (fun _ _ _ => by rw [outermostAll]) (o := o) children 0
  simp only [Nat.zero_add] at each
  rw [outermost]
  cases (Node.mk data main children).isRelevant with
  | true => simp
  | false => simp [each, Node.children]

/-! ## What is below -/

theorem survey_below {x : Occurrence} (inside : o ∈ survey place ancestors n)
    (below : x ∈ survey o.place o.ancestors o.node) : x ∈ survey place ancestors n := by
  induction n using tree_induction generalizing place ancestors with
  | step n embedded children =>
      rcases mem_survey.1 inside with rfl | ⟨t, top, inside⟩ | ⟨i, k, at_, inside⟩
      · exact below
      · exact mem_survey.2 (Or.inr (Or.inl ⟨t, top, embedded t top inside⟩))
      · exact mem_survey.2 (Or.inr (Or.inr ⟨i, k, at_, children k (List.mem_of_getElem? at_) inside⟩))

/-- A walk meets the children of what it meets. -/
theorem child_mem_occurrences (inside : o ∈ occurrences place ancestors n) {i : Nat} {k : Node}
    (at_ : o.node.children[i]? = some k) :
    ⟨⟨k, o.node :: o.ancestors⟩, .child i :: o.place⟩ ∈ occurrences place ancestors n := by
  induction n using tree_induction generalizing place ancestors with
  | step n embedded children =>
      rcases mem_occurrences.1 inside with rfl | ⟨j, c, here, inside⟩
      · exact mem_occurrences.2 (Or.inr ⟨i, k, at_, mem_occurrences.2 (Or.inl rfl)⟩)
      · exact mem_occurrences.2 (Or.inr ⟨j, c, here, children c (List.mem_of_getElem? here) inside⟩)

theorem exists_ancestor (inside : o ∈ occurrences place ancestors n) {a : Node} (above : a ∈ o.ancestors) :
    a ∈ ancestors ∨ ∃ g ∈ occurrences place ancestors n, g.node = a := by
  induction n using tree_induction generalizing place ancestors with
  | step n embedded children =>
      rcases mem_occurrences.1 inside with rfl | ⟨i, k, at_, inside⟩
      · exact Or.inl above
      · rcases children k (List.mem_of_getElem? at_) inside with known | ⟨g, found, same⟩
        · rcases List.mem_cons.1 known with rfl | known
          · exact Or.inr ⟨_, mem_occurrences.2 (Or.inl rfl), rfl⟩
          · exact Or.inl known
        · exact Or.inr ⟨g, mem_occurrences.2 (Or.inr ⟨i, k, at_, found⟩), same⟩

/-- A relevant node whose place an outermost one goes on from is that node. -/
theorem apart_of_outermost {c : Occurrence} (outer : o ∈ outermost place ancestors n)
    (inside : c ∈ occurrences place ancestors n) (relevant : c.node.isRelevant = true) (above : c.place <:+ o.place) :
    c.place = o.place := by
  induction n using tree_induction generalizing place ancestors with
  | step n embedded children =>
      have within := fun {p a k} (x : Occurrence) (found : x ∈ occurrences p a k) =>
        suffix_of_mem_survey p a k x ((occurrences_sublist p a k).subset found)
      rcases mem_outermost.1 outer with ⟨-, rfl⟩ | ⟨plain, j, k, at_, outer⟩
      · exact above.eq_of_length (Nat.le_antisymm above.length_le (within c inside).length_le)
      · rcases mem_occurrences.1 inside with rfl | ⟨i, k', at', inside⟩
        · exact absurd relevant (by simp [plain])
        · -- both places go on from the same child
          have outer' := (outermost_sublist _ _ k).subset outer
          have same : Step.child i = .child j := step_eq_of_suffix ((within c inside).trans above) (within o outer')
          obtain rfl := Step.child.inj same
          obtain rfl := Option.some.inj (at_.symm.trans at')
          exact children k (List.mem_of_getElem? at_) outer inside

/-- A tree is surveyed alike wherever it stands: only the nodes above its root differ. -/
theorem exists_of_survey (inside : o ∈ survey place ancestors n) (q : Place) (above : List Node) :
    ∃ p ∈ survey q above n, p.node = o.node ∧
      (p.parent? = o.parent? ∨ o.node = n ∧ o.ancestors = ancestors ∧ p.ancestors = above) := by
  induction n using tree_induction generalizing place ancestors q above with
  | step n embedded children =>
      rcases mem_survey.1 inside with rfl | ⟨t, top, inside⟩ | ⟨i, k, at_, inside⟩
      · exact ⟨_, mem_survey.2 (Or.inl rfl), rfl, Or.inr ⟨rfl, rfl, rfl⟩⟩
      · obtain ⟨p, found, same, parents⟩ := embedded t top inside (.main :: q) []
        refine ⟨p, mem_survey.2 (Or.inr (Or.inl ⟨t, top, found⟩)), same, Or.inl ?_⟩
        rcases parents with equal | ⟨-, mine, other⟩
        · exact equal
        · simp only [Located.parent?, mine, other]
      · obtain ⟨p, found, same, parents⟩ :=
          children k (List.mem_of_getElem? at_) inside (.child i :: q) (n :: above)
        refine ⟨p, mem_survey.2 (Or.inr (Or.inr ⟨i, k, at_, found⟩)), same, Or.inl ?_⟩
        rcases parents with equal | ⟨-, mine, other⟩
        · exact equal
        · simp only [Located.parent?, mine, other, List.head?_cons]

end Node

namespace Index

theorem surveyed_below {roots : List Node} {o x : Occurrence} (inside : o ∈ surveyed roots)
    (below : x ∈ Node.survey o.place o.ancestors o.node) : x ∈ surveyed roots := by
  obtain ⟨i, n, at_, inside⟩ := Node.mem_forest.1 inside
  exact Node.mem_forest.2 ⟨i, n, at_, Node.survey_below inside below⟩

variable {ix : Index} {o : Occurrence}

theorem exists_root {n : Node} (listed : n ∈ ix.roots) : ∃ o ∈ ix.walked, o.node = n ∧ o.ancestors = [] := by
  obtain ⟨i, at_⟩ := List.mem_iff_getElem?.1 listed
  exact ⟨_, Node.mem_forest.2 ⟨i, n, at_, Node.mem_occurrences.2 (Or.inl rfl)⟩, rfl, rfl⟩

theorem child_mem_walked (inside : o ∈ ix.walked) {i : Nat} {k : Node} (at_ : o.node.children[i]? = some k) :
    ⟨⟨k, o.node :: o.ancestors⟩, .child i :: o.place⟩ ∈ ix.walked := by
  obtain ⟨j, n, root, inside⟩ := Node.mem_forest.1 inside
  exact Node.mem_forest.2 ⟨j, n, root, Node.child_mem_occurrences inside at_⟩

theorem exists_child (inside : o ∈ ix.walked) {k : Node} (child : k ∈ o.node.children) :
    ∃ p ∈ ix.walked, p.node = k ∧ p.ancestors = o.node :: o.ancestors := by
  obtain ⟨i, at_⟩ := List.mem_iff_getElem?.1 child
  exact ⟨_, child_mem_walked inside at_, rfl, rfl⟩

theorem exists_parent (inside : o ∈ ix.walked) {parent : Node} (above : o.parent? = some parent) :
    ∃ g ∈ ix.walked, g.node = parent := by
  obtain ⟨i, n, at_, inside⟩ := Node.mem_forest.1 inside
  rcases Node.exists_ancestor inside (List.mem_of_head? above) with absent | ⟨g, found, same⟩
  · simp at absent
  · exact ⟨g, Node.mem_forest.2 ⟨i, n, at_, found⟩, same⟩

theorem apart_of_outermost {c : Occurrence} (outer : o ∈ ix.outermost) (inside : c ∈ ix.walked)
    (relevant : c.node.isRelevant = true) (above : c.place <:+ o.place) : c.place = o.place := by
  obtain ⟨i, n, at_, first⟩ := Node.mem_forest.1 outer
  obtain ⟨j, k, at', second⟩ := Node.mem_forest.1 inside
  have mine : [Step.root i] <:+ o.place :=
    Node.suffix_of_mem_survey _ [] n o
      (((Node.outermost_sublist _ [] n).trans (Node.occurrences_sublist _ [] n)).subset first)
  have other : [Step.root j] <:+ c.place :=
    Node.suffix_of_mem_survey _ [] k c ((Node.occurrences_sublist _ [] k).subset second)
  obtain rfl := Step.root.inj (Node.step_eq_of_suffix (other.trans above) mine)
  obtain rfl := Option.some.inj (at_.symm.trans at')
  exact Node.apart_of_outermost first second relevant above

end Index

end DesignProps
