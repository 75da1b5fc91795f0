import DesignProps.Document.Index

/-!
# Nodes within reach

`Node.reach` lists a node, everything below it, and everything that comes with embedded main components, the component
of a group as well as the group.  An occurrence of the index, the nodes above it, its main component and the nodes
above that one all lie within reach of the roots.

Main statements: `Node.reach_trans`, `Node.walk_subset_reach`, `Index.within_of_resolve`, `Index.reach_of_main`.
-/

set_option autoImplicit false

namespace DesignProps

namespace Node

mutual

def reach : Node → List Node
  | .mk data main children => .mk data main children :: (reachMain main ++ reachAll children)

def reachMain : EmbeddedMain → List Node
  | .none => []
  | .alone component => reach component
  | .within component group => reach component ++ reach group

def reachAll : List Node → List Node
  | [] => []
  | n :: rest => reach n ++ reachAll rest

end

theorem mem_reach_self (n : Node) : n ∈ n.reach := by
  cases n
  simp only [reach]
  exact List.mem_cons_self

theorem reachMain_subset (n : Node) : ∀ x ∈ reachMain n.main, x ∈ n.reach := by
  intro x inside
  obtain ⟨data, main, children⟩ := n
  simp only [reach]
  exact List.mem_cons_of_mem _ (List.mem_append_left _ inside)

mutual

/-- What is within reach of a node within reach is so too. -/
theorem reach_trans : ∀ {n k : Node}, k ∈ reach n → ∀ x ∈ reach k, x ∈ reach n
  | .mk data main children, k => by
      intro within x inside
      simp only [reach, List.mem_cons, List.mem_append] at within
      rcases within with rfl | embedded | below
      · exact inside
      · exact reachMain_subset (.mk data main children) x (reachMain_trans embedded x inside)
      · simp only [reach, List.mem_cons, List.mem_append]
        exact Or.inr (Or.inr (reachAll_trans below x inside))

theorem reachMain_trans : ∀ {main : EmbeddedMain} {k : Node}, k ∈ reachMain main → ∀ x ∈ reach k, x ∈ reachMain main
  | .none, k => by simp [reachMain]
  | .alone component, k => reach_trans
  | .within component group, k => by
      intro within x inside
      simp only [reachMain, List.mem_append] at within ⊢
      exact within.imp (fun own => reach_trans own x inside) fun above => reach_trans above x inside

theorem reachAll_trans : ∀ {nodes : List Node} {k : Node}, k ∈ reachAll nodes → ∀ x ∈ reach k, x ∈ reachAll nodes
  | [], k => by simp [reachAll]
  | n :: rest, k => by
      intro within x inside
      simp only [reachAll, List.mem_append] at within ⊢
      exact within.imp (fun first => reach_trans first x inside) fun later => reachAll_trans later x inside

end

mutual

theorem walk_subset_reach : ∀ n : Node, ∀ k ∈ walk n, k ∈ reach n
  | .mk data main children => by
      intro k walked
      simp only [walk, List.mem_cons] at walked
      simp only [reach, List.mem_cons, List.mem_append]
      exact walked.imp_right fun below => Or.inr (walkAll_subset_reachAll children k below)

theorem walkAll_subset_reachAll : ∀ nodes : List Node, ∀ k ∈ walkAll nodes, k ∈ reachAll nodes
  | [] => by simp [walkAll]
  | n :: rest => by
      intro k walked
      simp only [walkAll, List.mem_append] at walked
      simp only [reachAll, List.mem_append]
      exact walked.imp (walk_subset_reach n k) (walkAll_subset_reachAll rest k)

end

end Node

/-- What an occurrence reaches lies among some nodes; so do the nodes above it, but for those known before. -/
structure Occurrence.Within (nodes above : List Node) (o : Occurrence) : Prop where
  reach : ∀ n ∈ o.node.reach, n ∈ nodes
  ancestors : ∀ n ∈ o.ancestors, n ∈ above ∨ n ∈ nodes

theorem Occurrence.Within.mono {nodes above more wider : List Node} {o : Occurrence} (within : o.Within nodes above)
    (grown : ∀ n ∈ nodes, n ∈ more) (covered : ∀ n ∈ above, n ∈ wider ∨ n ∈ more) : o.Within more wider := by
  refine ⟨fun n inside => grown n (within.reach n inside), fun n inside => ?_⟩
  rcases within.ancestors n inside with known | new
  · exact covered n known
  · exact .inr (grown n new)

namespace Node

mutual

theorem survey_within (place : Place) (ancestors : List Node) :
    ∀ n : Node, ∀ o ∈ survey place ancestors n, o.Within n.reach ancestors
  | .mk data main children => by
      intro o surveyed
      simp only [survey, List.mem_cons, List.mem_append] at surveyed
      rcases surveyed with rfl | embedded | below
      · exact ⟨fun n inside => inside, fun n inside => .inl inside⟩
      · -- the tree of an embedded main component has no nodes above it
        refine (surveyMain_within (.main :: place) main o embedded).mono ?_ (by simp)
        intro n inside
        exact reachMain_subset (.mk data main children) n inside
      · refine (surveyAll_within place 0 (.mk data main children :: ancestors) children o below).mono ?grown ?covered
        case grown =>
          intro n inside
          simp only [reach]
          exact List.mem_cons_of_mem _ (List.mem_append_right _ inside)
        case covered =>
          intro n inside
          rcases List.mem_cons.1 inside with rfl | known
          · exact .inr (mem_reach_self _)
          · exact .inl known

theorem surveyMain_within (place : Place) :
    ∀ main : EmbeddedMain, ∀ o ∈ surveyMain place main, o.Within (reachMain main) []
  | .none => by simp [surveyMain]
  | .alone component => survey_within place [] component
  | .within component group => by
      intro o surveyed
      refine (survey_within place [] group o surveyed).mono ?_ (by simp)
      intro n inside
      exact List.mem_append_right (reach component) inside

theorem surveyAll_within (place : Place) (position : Nat) (ancestors : List Node) :
    ∀ nodes : List Node, ∀ o ∈ surveyAll place position ancestors nodes, o.Within (reachAll nodes) ancestors
  | [] => by simp [surveyAll]
  | n :: rest => by
      intro o surveyed
      simp only [surveyAll, List.mem_append] at surveyed
      rcases surveyed with first | later
      · refine (survey_within (.child position :: place) ancestors n o first).mono ?_ fun a known => .inl known
        intro x inside
        exact List.mem_append_left (reachAll rest) inside
      · refine (surveyAll_within place (position + 1) ancestors rest o later).mono ?_ fun a known => .inl known
        intro x inside
        exact List.mem_append_right (reach n) inside

end

end Node

namespace Index

theorem forest_within (roots : List Node) : ∀ position : Nat,
    ∀ o ∈ Node.forest (fun place => Node.survey place []) position roots, o.Within (Node.reachAll roots) [] := by
  induction roots with
  | nil => simp [Node.forest]
  | cons n rest ih =>
      intro position o surveyed
      simp only [Node.forest, List.mem_append] at surveyed
      rcases surveyed with first | later
      · refine (Node.survey_within [.root position] [] n o first).mono ?_ (by simp)
        intro x inside
        exact List.mem_append_left (Node.reachAll rest) inside
      · refine (ih (position + 1) o later).mono ?_ (by simp)
        intro x inside
        exact List.mem_append_right n.reach inside

/-- What an id leads to lies within reach of the roots, with everything that comes with it. -/
theorem within_of_resolve {roots : List Node} {id : String} {o : Occurrence}
    (found : (ofRoots roots).resolve id = some o) : o.node.id = id ∧ o.Within (Node.reachAll roots) [] := by
  rw [resolve_ofRoots] at found
  have named := List.find?_some found
  exact ⟨eq_of_beq named, forest_within roots 0 o (List.mem_of_find?_eq_some found)⟩

/-- A main component lies within reach of the roots, and so do the nodes above it. -/
theorem reach_of_main {roots : List Node} {o : Occurrence} (within : o.Within (Node.reachAll roots) [])
    {main : Located} (found : (ofRoots roots).main? o = some main) :
    main.node ∈ Node.reachAll roots ∧ ∀ a ∈ main.ancestors, a ∈ Node.reachAll roots := by
  have embedded : ∀ n ∈ Node.reachMain o.node.main, n ∈ Node.reachAll roots :=
    fun n inside => within.reach n (Node.reachMain_subset o.node n inside)
  unfold main? at found
  cases own : o.node.main with
  | none =>
      simp only [own, EmbeddedMain.located?] at found
      split at found
      · unfold named? at found
        split at found
        · next id =>
            split at found
            · simp at found
            · obtain ⟨p, resolved, rfl⟩ := Option.map_eq_some_iff.1 found
              obtain ⟨_, inside⟩ := within_of_resolve resolved
              refine ⟨inside.reach _ (Node.mem_reach_self _), fun a above => ?_⟩
              simpa using inside.ancestors a above
        · simp at found
      · simp at found
  | alone component =>
      simp only [own, EmbeddedMain.located?, Option.some.injEq] at found
      subst found
      rw [own] at embedded
      exact ⟨embedded component (Node.mem_reach_self component), by simp⟩
  | within component group =>
      simp only [own, EmbeddedMain.located?, Option.some.injEq] at found
      subst found
      rw [own] at embedded
      refine ⟨embedded component (List.mem_append_left _ (Node.mem_reach_self component)), ?_⟩
      intro a above
      rw [List.mem_singleton.1 above]
      exact embedded group (List.mem_append_right _ (Node.mem_reach_self group))

end Index

end DesignProps
