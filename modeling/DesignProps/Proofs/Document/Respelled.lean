import DesignProps.Proofs.Document.Links
import DesignProps.Proofs.Document.Trees
import DesignProps.Proofs.Model.Content

/-!
# Main components that are embedded instead of named

An instance may name its main component by id or hold a copy of it, which brings a copy of its group along if it is a
variant.  Such a copy adds occurrences to a survey, all of which have a counterpart in the original one, below a
component or a group; the outermost occurrences stay at their places.

Main statements: `Node.bare_of_respelled`, `Node.counterpart_of_survey`, `Node.outermost_respelled`.
-/

set_option autoImplicit false

namespace DesignProps

/-- A main component as it is embedded: within its group if it is a variant, else alone. -/
def Located.embedded (l : Located) : EmbeddedMain :=
  match l.parent? with
  | some parent => if parent.isGroup then .within l.node parent else .alone l.node
  | none => .alone l.node

/-- An instance that names a walked component has a copy of it embedded. -/
structure NodeData.Embeds (ix : Index) (d : NodeData) (main embedded : EmbeddedMain) : Prop where
  swaps : d.type = "INSTANCE"
  unembedded : main = .none
  copied : ∃ c ∈ ix.walked, c.node.isComponent = true ∧ d.mainId = .str c.node.id ∧ embedded = c.toLocated.embedded

/-- The same node, but some of the instances in it, itself included, embed the main component they name. -/
inductive Node.Respelled (ix : Index) : Node → Node → Prop
  | mk {d e : NodeData} {main embedded : EmbeddedMain} {children others : List Node}
      (data : { d with mainId := e.mainId } = e)
      (mains : embedded = main ∧ e.mainId = d.mainId ∨ d.Embeds ix main embedded)
      (below : List.Forall₂ (Node.Respelled ix) children others) :
      Node.Respelled ix (.mk d main children) (.mk e embedded others)

namespace Node

variable {ix : Index} {n k : Node}

theorem respelled_refl (ix : Index) (n : Node) : n.Respelled ix n := by
  induction n using tree_induction with
  | step n _ children =>
      obtain ⟨data, main, nodes⟩ := n
      exact .mk rfl (Or.inl ⟨rfl, rfl⟩) (List.forall₂_same.2 children)

mutual

theorem bare_of_respelled : ∀ {n k : Node}, n.Respelled ix k → n.bare = k.bare
  | .mk d main children, .mk e embedded others, .mk data mains below => by
      rw [bare, bare, bareAll_of_respelled below, ← data]
termination_by structural n => n

theorem bareAll_of_respelled : ∀ {ns ks : List Node}, List.Forall₂ (Node.Respelled ix) ns ks → bareAll ns = bareAll ks
  | [], _, .nil => rfl
  | _ :: _, _ :: _, .cons first rest => by
      rw [bareAll, bareAll, bare_of_respelled first, bareAll_of_respelled rest]
termination_by structural ns => ns

end

theorem children_of_respelled (respelled : n.Respelled ix k) : List.Forall₂ (Node.Respelled ix) n.children k.children := by
  cases respelled with
  | mk data mains below => exact below

theorem mains_of_respelled (respelled : n.Respelled ix k) :
    k.main = n.main ∧ k.data.mainId = n.data.mainId ∨ n.data.Embeds ix n.main k.main := by
  cases respelled with
  | mk data mains below => exact mains

/-! ## Counterparts -/

/-- An occurrence of a tree that was copied without what is above it: of a group, or of a component that is no
variant. -/
def Copied (ix : Index) (o : Occurrence) : Prop :=
  ∃ c ∈ ix.walked, (c.node.isGroup = true ∨
      c.node.isComponent = true ∧ ∀ parent, c.parent? = some parent → parent.isGroup = false) ∧
    ∃ place, o ∈ survey place [] c.node

/-- Two occurrences at one place, respelled, below nodes of the same content. -/
structure Moved (ix : Index) (o p : Occurrence) : Prop where
  place : o.place = p.place
  node : o.node.Respelled ix p.node
  above : o.ancestors.map bare = p.ancestors.map bare

theorem top_of_embeds {d : NodeData} {main embedded : EmbeddedMain} (embeds : d.Embeds ix main embedded) {t : Node}
    (top : embedded.top? = some t) {place : Place} {p : Occurrence} (inside : p ∈ survey place [] t) : Copied ix p := by
  obtain ⟨c, walked, component, -, rfl⟩ := embeds.copied
  unfold Located.embedded at top
  cases above : c.parent? with
  | none =>
      rw [above] at top
      obtain rfl := Option.some.inj top
      exact ⟨c, walked, Or.inr ⟨component, by simp [above]⟩, place, inside⟩
  | some parent =>
      simp only [above] at top
      split at top
      · next group =>
          obtain rfl := Option.some.inj top
          obtain ⟨g, found, rfl⟩ := Index.exists_parent walked above
          exact ⟨g, found, Or.inl group, place, inside⟩
      · next plain =>
          obtain rfl := Option.some.inj top
          refine ⟨c, walked, Or.inr ⟨component, fun other same => ?_⟩, place, inside⟩
          rw [above] at same
          rw [← Option.some.inj same]
          exact Bool.eq_false_iff.2 plain

/-- What was surveyed before still is, at the same place. -/
theorem exists_of_respelled (respelled : n.Respelled ix k) {place : Place} {above : List Node} (upper : List Node)
    {o : Occurrence} (inside : o ∈ survey place above n) : ∃ p ∈ survey place upper k, p.node.bare = o.node.bare := by
  induction n using tree_induction generalizing k place above upper with
  | step n embeddedTree children =>
      rcases mem_survey.1 inside with rfl | ⟨t, top, within⟩ | ⟨i, c, at_, within⟩
      · exact ⟨_, mem_survey.2 (Or.inl rfl), (bare_of_respelled respelled).symm⟩
      · rcases mains_of_respelled respelled with ⟨kept, -⟩ | embeds
        · exact ⟨o, mem_survey.2 (Or.inr (Or.inl ⟨t, kept ▸ top, within⟩)), rfl⟩
        · rw [embeds.unembedded] at top
          cases top
      · obtain ⟨c', at', same⟩ := (getElem?_of_forall₂ (children_of_respelled respelled) i).1 c at_
        obtain ⟨p, found, equal⟩ := children c (List.mem_of_getElem? at_) same _ within
        exact ⟨p, mem_survey.2 (Or.inr (Or.inr ⟨i, c', at', found⟩)), equal⟩

/-- Whatever is surveyed now was surveyed before at the same place, or belongs to a copy. -/
theorem counterpart_of_survey (respelled : n.Respelled ix k) {place : Place} {above upper : List Node}
    (alike : above.map bare = upper.map bare) {p : Occurrence} (inside : p ∈ survey place upper k) :
    (∃ o ∈ survey place above n, Moved ix o p) ∨ Copied ix p := by
  induction n using tree_induction generalizing k place above upper with
  | step n embeddedTree children =>
      rcases mem_survey.1 inside with rfl | ⟨t, top, within⟩ | ⟨i, c', at', within⟩
      · exact Or.inl ⟨_, mem_survey.2 (Or.inl rfl), rfl, respelled, alike⟩
      · rcases mains_of_respelled respelled with ⟨kept, -⟩ | embeds
        · rw [kept] at top
          exact Or.inl ⟨p, mem_survey.2 (Or.inr (Or.inl ⟨t, top, within⟩)), rfl, respelled_refl ix _, rfl⟩
        · exact Or.inr (top_of_embeds embeds top within)
      · obtain ⟨c, at_, same⟩ := (getElem?_of_forall₂ (children_of_respelled respelled) i).2 c' at'
        have longer : (n :: above).map bare = (k :: upper).map bare := by
          rw [List.map_cons, List.map_cons, bare_of_respelled respelled, alike]
        rcases children c (List.mem_of_getElem? at_) same longer within with ⟨o, found, moved⟩ | copied
        · exact Or.inl ⟨o, mem_survey.2 (Or.inr (Or.inr ⟨i, c, at_, found⟩)), moved⟩
        · exact Or.inr copied

mutual

theorem outermost_respelled (place : Place) (above upper : List Node) : ∀ {n k : Node}, n.Respelled ix k →
    List.Forall₂ (fun o p => o.place = p.place ∧ o.node.Respelled ix p.node) (outermost place above n)
      (outermost place upper k)
  | .mk d main children, .mk e embedded others, .mk data mains below => by
      have respelled : (Node.mk d main children).Respelled ix (.mk e embedded others) := .mk data mains below
      have relevant : (Node.mk d main children).isRelevant = (Node.mk e embedded others).isRelevant := by
        have same := bare_of_respelled respelled
        simp only [isRelevant, isComponent_of_bare same, isGroup_of_bare same, isInstance_of_bare same]
      rw [outermost, outermost, relevant]
      split
      · exact .cons ⟨rfl, respelled⟩ .nil
      · exact outermostAll_respelled place 0 _ _ below
termination_by structural n => n

theorem outermostAll_respelled (place : Place) (position : Nat) (above upper : List Node) : ∀ {ns ks : List Node},
    List.Forall₂ (Node.Respelled ix) ns ks →
      List.Forall₂ (fun o p => o.place = p.place ∧ o.node.Respelled ix p.node) (outermostAll place position above ns)
        (outermostAll place position upper ks)
  | [], _, .nil => .nil
  | _ :: _, _ :: _, .cons first rest => by
      rw [outermostAll, outermostAll]
      exact List.rel_append (outermost_respelled _ above upper first)
        (outermostAll_respelled place (position + 1) above upper rest)
termination_by structural ns => ns

end

end Node

end DesignProps
