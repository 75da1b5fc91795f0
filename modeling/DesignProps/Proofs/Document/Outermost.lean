import DesignProps.Proofs.Document.Links
import DesignProps.Proofs.Document.Trees
import Mathlib.Data.List.Perm.Subperm

/-!
# Outermost nodes

A place leads down to a node from a root, child by child, and a walk meets every node at the place that leads to it.
One node is below another one if its place goes on from the place of the other one; the nodes above it are its
ancestors.  The outermost relevant nodes are, in the order of a walk, the relevant ones without a relevant ancestor.
None of them is below another one, and every relevant node is one of them or below exactly one of them.

Main statements: `Index.mem_walked_iff`, `Index.mem_ancestors_iff`, `Index.outermost_eq_filter`,
`Index.existsUnique_outermost`, `Index.relevant_outermost`.
-/

set_option autoImplicit false

namespace DesignProps

/-- A part of a list without repetitions is what it picks out. -/
theorem eq_filter_of_sublist {α : Type} {few many : List α} {p : α → Bool} (part : few.Sublist many)
    (nodup : many.Nodup) (picked : ∀ x ∈ many, x ∈ few ↔ p x = true) : few = many.filter p := by
  have kept : few.filter p = few := List.filter_eq_self.2 fun x inside => (picked x (part.subset inside)).1 inside
  have inner : few.Sublist (many.filter p) := kept ▸ part.filter p
  have outer : (many.filter p).Subperm few := by
    refine List.subperm_of_subset (nodup.filter p) fun x inside => ?_
    obtain ⟨listed, holds⟩ := List.mem_filter.1 inside
    exact (picked x listed).2 holds
  exact inner.eq_of_length_le outer.length_le

namespace Occurrence

/-- The place of a node is that of another one or goes on from it. -/
def AtOrBelow (o top : Occurrence) : Prop := top.place <:+ o.place

/-- A node stands below another one. -/
def Below (o top : Occurrence) : Prop := o.AtOrBelow top ∧ o.place ≠ top.place

/-- A relevant node that has no relevant node above it. -/
def isOutermost (o : Occurrence) : Bool := o.node.isRelevant && !o.ancestors.any Node.isRelevant

end Occurrence

namespace Node

variable {place : Place} {ancestors : List Node} {n : Node} {o : Occurrence}

theorem isRelevant_of_outermost (outer : o ∈ outermost place ancestors n) : o.node.isRelevant = true := by
  induction n using tree_induction generalizing place ancestors with
  | step n embedded children =>
      rcases mem_outermost.1 outer with ⟨relevant, rfl⟩ | ⟨-, i, k, at_, outer⟩
      · exact relevant
      · exact children k (List.mem_of_getElem? at_) outer

/-- Every relevant node is outermost or below an outermost one. -/
theorem exists_outermost (inside : o ∈ occurrences place ancestors n) (relevant : o.node.isRelevant = true) :
    ∃ top ∈ outermost place ancestors n, o.AtOrBelow top := by
  induction n using tree_induction generalizing place ancestors with
  | step n embedded children =>
      cases own : n.isRelevant with
      | true =>
          have surveyed := (occurrences_sublist place ancestors n).subset inside
          exact ⟨_, mem_outermost.2 (Or.inl ⟨own, rfl⟩), suffix_of_mem_survey place ancestors n o surveyed⟩
      | false =>
          rcases mem_occurrences.1 inside with rfl | ⟨i, k, at_, inside⟩
          · exact absurd relevant (by simp [own])
          · obtain ⟨top, outer, below⟩ := children k (List.mem_of_getElem? at_) inside
            exact ⟨top, mem_outermost.2 (Or.inr ⟨own, i, k, at_, outer⟩), below⟩

end Node

namespace Index

variable {ix : Index} {o p : Occurrence}

/-! ## Places -/

/-- What stands at a place of the trees below the roots. -/
def at? (ix : Index) : Place → Option Located
  | [.root i] => ix.roots[i]?.map fun n => ⟨n, []⟩
  | .child i :: place => (ix.at? place).bind fun l => l.node.children[i]?.map fun k => ⟨k, l.node :: l.ancestors⟩
  | _ => none

theorem at?_of_mem_occurrences {place : Place} {ancestors : List Node} {n : Node}
    (here : ix.at? place = some ⟨n, ancestors⟩) (inside : o ∈ Node.occurrences place ancestors n) :
    ix.at? o.place = some o.toLocated := by
  induction n using Node.tree_induction generalizing place ancestors with
  | step n embedded children =>
      rcases Node.mem_occurrences.1 inside with rfl | ⟨i, k, at_, inside⟩
      · exact here
      · refine children k (List.mem_of_getElem? at_) ?_ inside
        simp only [at?, here, Option.bind_some, at_, Option.map_some]

theorem mem_walked_of_at? : ∀ (place : Place) (l : Located), ix.at? place = some l → ⟨l, place⟩ ∈ ix.walked
  | [], _, found => by simp [at?] at found
  | .main :: _, _, found => by simp [at?] at found
  | .root _ :: _ :: _, _, found => by simp [at?] at found
  | [.root i], l, found => by
      simp only [at?, Option.map_eq_some_iff] at found
      obtain ⟨n, at_, rfl⟩ := found
      exact Node.mem_forest.2 ⟨i, n, at_, Node.mem_occurrences.2 (Or.inl rfl)⟩
  | .child i :: place, l, found => by
      simp only [at?, Option.bind_eq_some_iff, Option.map_eq_some_iff] at found
      obtain ⟨parent, above, k, at_, rfl⟩ := found
      exact child_mem_walked (mem_walked_of_at? place parent above) at_

/-- A walk over the roots meets what their places lead to. -/
theorem mem_walked_iff : o ∈ ix.walked ↔ ix.at? o.place = some o.toLocated := by
  constructor
  · intro met
    obtain ⟨i, n, root, inside⟩ := Node.mem_forest.1 met
    refine at?_of_mem_occurrences ?_ inside
    simp only [at?, root, Option.map_some]
  · intro found
    exact mem_walked_of_at? o.place o.toLocated found

theorem nodup_places_walked (ix : Index) : (ix.walked.map Occurrence.place).Nodup :=
  (nodup_places ix.roots).sublist ((walked_sublist ix).map _)

theorem map_node_walked (ix : Index) : ix.walked.map (fun o => o.node) = Node.walkAll ix.roots := by
  suffices each : ∀ (nodes : List Node) (position : Nat),
      (Node.forest (fun place => Node.occurrences place []) position nodes).map (fun o => o.node) =
        Node.walkAll nodes from each ix.roots 0
  intro nodes
  induction nodes with
  | nil => intro _; rfl
  | cons n rest ih =>
      intro position
      rw [Node.forest, List.map_append, Node.map_node_occurrences, ih, Node.walkAll]

theorem eq_of_place_walked (first : o ∈ ix.walked) (second : p ∈ ix.walked) (same : o.place = p.place) : o = p :=
  List.inj_on_of_nodup_map (nodup_places_walked ix) first second same

/-! ## Ancestors -/

theorem mem_ancestors_of_at? {a : Node} : ∀ (place : Place) (l : Located), ix.at? place = some l →
    (a ∈ l.ancestors ↔ ∃ q m, ix.at? q = some m ∧ q <:+ place ∧ q ≠ place ∧ m.node = a)
  | [], _, found => by simp [at?] at found
  | .main :: _, _, found => by simp [at?] at found
  | .root _ :: _ :: _, _, found => by simp [at?] at found
  | [.root i], l, found => by
      simp only [at?, Option.map_eq_some_iff] at found
      obtain ⟨n, -, rfl⟩ := found
      refine iff_of_false List.not_mem_nil ?_
      rintro ⟨q, m, there, suffix, shorter, -⟩
      rcases List.suffix_cons_iff.1 suffix with rfl | empty
      · exact shorter rfl
      · obtain rfl := List.suffix_nil.1 empty
        simp [at?] at there
  | .child i :: place, l, found => by
      simp only [at?, Option.bind_eq_some_iff, Option.map_eq_some_iff] at found
      obtain ⟨parent, above, k, -, rfl⟩ := found
      rw [List.mem_cons, mem_ancestors_of_at? place parent above]
      constructor
      · rintro (rfl | ⟨q, m, there, suffix, -, itself⟩)
        · exact ⟨place, parent, above, List.suffix_cons _ _, (List.cons_ne_self _ _).symm, rfl⟩
        · refine ⟨q, m, there, suffix.trans (List.suffix_cons _ _), ?_, itself⟩
          rintro rfl
          exact Node.not_suffix_self _ _ suffix
      · rintro ⟨q, m, there, suffix, shorter, itself⟩
        have rest : q <:+ place := (List.suffix_cons_iff.1 suffix).resolve_left shorter
        by_cases same : q = place
        · -- the next node above is the parent
          obtain rfl := same
          obtain rfl := Option.some.inj (above.symm.trans there)
          exact Or.inl itself.symm
        · exact Or.inr ⟨q, m, there, rest, same, itself⟩

/-- The ancestors of a node are the nodes it is below. -/
theorem mem_ancestors_iff (met : o ∈ ix.walked) {a : Node} :
    a ∈ o.ancestors ↔ ∃ p ∈ ix.walked, o.Below p ∧ p.node = a := by
  rw [mem_ancestors_of_at? o.place o.toLocated (mem_walked_iff.1 met)]
  constructor
  · rintro ⟨q, m, there, suffix, shorter, itself⟩
    exact ⟨⟨m, q⟩, mem_walked_iff.2 there, ⟨suffix, shorter.symm⟩, itself⟩
  · rintro ⟨p, other, ⟨suffix, shorter⟩, itself⟩
    exact ⟨p.place, p.toLocated, mem_walked_iff.1 other, suffix, shorter.symm, itself⟩

/-! ## Outermost nodes -/

theorem isRelevant_of_outermost (outer : o ∈ ix.outermost) : o.node.isRelevant = true := by
  obtain ⟨i, n, -, outer⟩ := Node.mem_forest.1 outer
  exact Node.isRelevant_of_outermost outer

theorem exists_outermost (met : o ∈ ix.walked) (relevant : o.node.isRelevant = true) :
    ∃ top ∈ ix.outermost, o.AtOrBelow top := by
  obtain ⟨i, n, root, inside⟩ := Node.mem_forest.1 met
  obtain ⟨top, outer, below⟩ := Node.exists_outermost inside relevant
  exact ⟨top, Node.mem_forest.2 ⟨i, n, root, outer⟩, below⟩

/-- No relevant node is above an outermost one. -/
theorem not_below_of_outermost (outer : o ∈ ix.outermost) (met : p ∈ ix.walked) (relevant : p.node.isRelevant = true) :
    ¬ o.Below p := by
  rintro ⟨below, apart⟩
  exact apart (apart_of_outermost outer met relevant below).symm

theorem mem_outermost_iff (met : o ∈ ix.walked) : o ∈ ix.outermost ↔ o.isOutermost = true := by
  rw [Occurrence.isOutermost, Bool.and_eq_true, Bool.not_eq_true', List.any_eq_false]
  constructor
  · intro outer
    refine ⟨isRelevant_of_outermost outer, fun a above relevant => ?_⟩
    obtain ⟨p, other, below, rfl⟩ := (mem_ancestors_iff met).1 above
    exact not_below_of_outermost outer other relevant below
  · rintro ⟨relevant, plain⟩
    obtain ⟨top, outer, below⟩ := exists_outermost met relevant
    have other : top ∈ ix.walked := (outermost_sublist ix).subset outer
    by_cases same : o.place = top.place
    · exact eq_of_place_walked met other same ▸ outer
    · -- the outermost node above would be a relevant ancestor
      have above : top.node ∈ o.ancestors := (mem_ancestors_iff met).2 ⟨top, other, ⟨below, same⟩, rfl⟩
      exact absurd (isRelevant_of_outermost outer) (plain top.node above)

theorem outermost_eq_filter (ix : Index) : ix.outermost = ix.walked.filter Occurrence.isOutermost :=
  eq_filter_of_sublist (outermost_sublist ix) (nodup_places_walked ix).of_map fun _ met => mem_outermost_iff met

/-- Every relevant node is at or below exactly one outermost one. -/
theorem existsUnique_outermost (met : o ∈ ix.walked) (relevant : o.node.isRelevant = true) :
    ∃! top, top ∈ ix.outermost ∧ o.AtOrBelow top := by
  obtain ⟨top, outer, below⟩ := exists_outermost met relevant
  refine ⟨top, ⟨outer, below⟩, ?_⟩
  rintro other ⟨outer', below'⟩
  have first : top ∈ ix.walked := (outermost_sublist ix).subset outer
  have second : other ∈ ix.walked := (outermost_sublist ix).subset outer'
  -- two places that the same place goes on from: one of them goes on from the other one
  rcases List.suffix_or_suffix_of_suffix below' below with above | above
  · exact eq_of_place_walked second first (apart_of_outermost outer second (isRelevant_of_outermost outer') above)
  · exact (eq_of_place_walked first second
      (apart_of_outermost outer' first (isRelevant_of_outermost outer) above)).symm

/-- In every document that is accepted, the nodes selected without ids are the outermost relevant ones, in the order of
a walk over the roots, each as often as it stands in a tree. -/
theorem relevant_outermost {data : Json} {ix : Index} (accepted : ofData data = .ok ix) :
    List.Forall₂ (fun v n => Node.ofJson v = .ok n) (rootObjects data) ix.roots ∧
    (ix.walked.map (fun o => o.node) = Node.walkAll ix.roots ∧ (ix.walked.map Occurrence.place).Nodup ∧
      ∀ o, o ∈ ix.walked ↔ ix.at? o.place = some o.toLocated) ∧
    (∀ o ∈ ix.walked, ∀ a, a ∈ o.ancestors ↔ ∃ p ∈ ix.walked, o.Below p ∧ p.node = a) ∧
    ix.relevant none = ix.walked.filter Occurrence.isOutermost ∧
    (∀ o ∈ ix.relevant none, ∀ p ∈ ix.relevant none, ¬ o.Below p) ∧
    ∀ o ∈ ix.walked, o.node.isRelevant = true → ∃! top, top ∈ ix.relevant none ∧ o.AtOrBelow top := by
  refine ⟨?roots, ⟨map_node_walked ix, nodup_places_walked ix, fun _ => mem_walked_iff⟩, ?ancestors,
    outermost_eq_filter ix, ?apart, ?covered⟩
  case roots =>
    obtain ⟨roots, read, rfl, -⟩ := ofData_eq_ok_iff.1 accepted
    exact mapM_eq_ok_iff.1 read
  case ancestors => exact fun o met a => mem_ancestors_iff met
  case apart =>
    intro o outer p other
    exact not_below_of_outermost outer ((outermost_sublist ix).subset other) (isRelevant_of_outermost other)
  case covered => exact fun o met relevant => existsUnique_outermost met relevant

/-! A frame with an instance that holds a component, beside a component set. -/

def typed (type id : String) (children : List Json) : Json :=
  .obj [("id", .str id), ("type", .str type), ("children", .arr children)]

def framed : Json :=
  .arr [ typed "FRAME" "1:1" [typed "INSTANCE" "1:2" [typed "COMPONENT" "1:3" []], typed "TEXT" "1:4" []],
    typed "COMPONENT_SET" "2:1" [typed "COMPONENT" "2:2" []] ]

theorem relevant_outermost_framed : ∃ ix, ofData framed = .ok ix ∧
    (ix.relevant none).map (fun o => o.node.id) = ["1:2", "2:1"] ∧
    ix.relevant none = ix.walked.filter Occurrence.isOutermost ∧
    ∃ o ∈ ix.walked, o.node.id = "1:3" ∧ ∃! top, top ∈ ix.relevant none ∧ o.AtOrBelow top := by
  have accepted : ofData framed = .ok _ := rfl
  obtain ⟨-, -, -, selected, -, covered⟩ := relevant_outermost accepted
  refine ⟨_, accepted, rfl, selected, _, .tail _ (.tail _ (.head _)), rfl, ?_⟩
  exact covered _ (.tail _ (.tail _ (.head _))) rfl

end Index

end DesignProps
