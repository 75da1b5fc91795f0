import DesignProps.Proofs.OrderedMap
import DesignProps.Proofs.Traversal
import DesignProps.Reference.Bindings
import Mathlib.Logic.Relation

/-!
# Reading bindings

The bindings of a node can be read unless one that counts is a list or an object, and a forest is read node by node in
the order of a walk.  The nodes below the root of a definition are those that a walk over its children meets, so the
root is none of them.

Main statements: `Binding.read_eq_ok_iff`, `Node.mem_descendants_iff`, `Node.notMem_descendants`,
`Node.references_eq_ok_iff` (the references of a node are put together from the bindings of the nodes below its root).
-/

set_option autoImplicit false

namespace DesignProps

/-! ## One node -/

namespace Json

/-- The key that a value names, if it counts. -/
def key? (v : Json) : Option Key := if v.truthy then Key.ofJson? v else none

/-- A value that is a key, or that does not count. -/
def IsKeyIfAny (v : Json) : Prop := v.truthy = true → (Key.ofJson? v).isSome = true

end Json

theorem Binding.keyOf_eq_ok_iff {v : Json} {key : Option Key} : keyOf v = .ok key ↔ v.IsKeyIfAny ∧ key = v.key? := by
  unfold keyOf Json.IsKeyIfAny Json.key? Json.toKey
  by_cases counts : v.truthy = true
  · rw [if_pos counts, if_pos counts]
    cases Key.ofJson? v with
    | none => simp [Except.map, counts]
    | some found => simpa [Except.map, counts] using eq_comm
  · rw [if_neg counts, if_neg counts]
    simpa [counts] using eq_comm

namespace Node

/-- What a node gives for a binding. -/
def given (n : Node) (name : String) : Json := (n.data.references.get? (.text name)).getD .null

/-- The keys that a node names. -/
def binding (n : Node) : Binding where
  visible := (n.given "visible").key?
  characters := (n.given "characters").key?
  target := (n.given "mainComponent").key?

/-- Every binding of the node that counts is a key. -/
structure NamesKeys (n : Node) : Prop where
  visible : (n.given "visible").IsKeyIfAny
  characters : (n.given "characters").IsKeyIfAny
  target : (n.given "mainComponent").IsKeyIfAny

end Node

theorem Binding.read_eq_ok_iff {n : Node} {b : Binding} :
    read n.data.references = .ok b ↔ n.NamesKeys ∧ b = n.binding := by
  simp only [read, bind_eq_ok_iff, keyOf_eq_ok_iff, Except.ok.injEq]
  constructor
  · rintro ⟨_, ⟨target, rfl⟩, _, ⟨characters, rfl⟩, _, ⟨visible, rfl⟩, rfl⟩
    exact ⟨⟨visible, characters, target⟩, rfl⟩
  · rintro ⟨⟨visible, characters, target⟩, rfl⟩
    exact ⟨_, ⟨target, rfl⟩, _, ⟨characters, rfl⟩, _, ⟨visible, rfl⟩, rfl⟩

/-! ## The nodes below a root -/

namespace Node

/-- All nodes below a node, each before its own children. -/
def descendants (n : Node) : List Node := walkAll n.children

/-- From a node to one of its children. -/
def Child (n k : Node) : Prop := k ∈ n.children

theorem mem_walkAll {x : Node} {nodes : List Node} : x ∈ walkAll nodes ↔ ∃ n ∈ nodes, x ∈ n.walk := by
  induction nodes with
  | nil => simp [walkAll]
  | cons n rest ih => simp [walkAll, ih]

theorem mem_descendants {n x : Node} : x ∈ n.descendants ↔ ∃ k, Child n k ∧ (x = k ∨ x ∈ k.descendants) := by
  rw [descendants, mem_walkAll]
  refine exists_congr fun k => and_congr_right fun _ => ?_
  rw [walk_eq, List.mem_cons, descendants]

theorem sizeOf_lt_of_child {n k : Node} (child : Child n k) : sizeOf k < sizeOf n := by
  obtain ⟨data, main, listed⟩ := n
  have inside : sizeOf k < sizeOf listed := List.sizeOf_lt_of_mem child
  rw [Node.mk.sizeOf_spec]
  omega

/-- A walk over the children of a node meets what is below it. -/
theorem mem_descendants_iff {n x : Node} : x ∈ n.descendants ↔ Relation.TransGen Child n x := by
  constructor
  · intro inside
    induction size : sizeOf n using Nat.strongRecOn generalizing n with
    | ind s ih =>
        obtain ⟨k, child, same | below⟩ := mem_descendants.1 inside
        · exact .single (same ▸ child)
        · exact .head child (ih (sizeOf k) (size ▸ sizeOf_lt_of_child child) below rfl)
  · intro below
    induction below using Relation.TransGen.head_induction_on with
    | single child => exact mem_descendants.2 ⟨x, child, Or.inl rfl⟩
    | head child _ ih => exact mem_descendants.2 ⟨_, child, Or.inr ih⟩

theorem sizeOf_lt_of_below {n x : Node} (below : Relation.TransGen Child n x) : sizeOf x < sizeOf n := by
  induction below with
  | single child => exact sizeOf_lt_of_child child
  | tail _ child ih => exact Nat.lt_trans (sizeOf_lt_of_child child) ih

/-- No node is below itself. -/
theorem notMem_descendants (n : Node) : n ∉ n.descendants := by
  intro inside
  exact Nat.lt_irrefl _ (sizeOf_lt_of_below (mem_descendants_iff.1 inside))

/-! ## All nodes below a root -/

/-- The nodes whose bindings make the references of a node: those below the root, none if there is no root. -/
def boundNodes (n : Node) (main : Option Node) : List Node :=
  match n.bindingRoot main with
  | some root => root.descendants
  | none => []

end Node

theorem Binding.ofForest_eq_ok_iff {nodes : List Node} {bindings : List Binding} :
    ofForest nodes = .ok bindings ↔
      (∀ n ∈ Node.walkAll nodes, n.NamesKeys) ∧ bindings = (Node.walkAll nodes).map Node.binding := by
  rw [ofForest, mapM_eq_ok_iff]
  simp only [read_eq_ok_iff]
  generalize Node.walkAll nodes = walked
  induction walked generalizing bindings with
  | nil => simp
  | cons n rest ih =>
      simp only [List.forall₂_cons_left_iff, ih, List.forall_mem_cons, List.map_cons]
      constructor
      · rintro ⟨_, _, ⟨now, rfl⟩, ⟨later, rfl⟩, rfl⟩
        exact ⟨⟨now, later⟩, rfl⟩
      · rintro ⟨⟨now, later⟩, rfl⟩
        exact ⟨_, _, ⟨now, rfl⟩, ⟨later, rfl⟩, rfl⟩

theorem Node.references_eq_ok_iff {n : Node} {main : Option Node} {r : ReferenceMap} :
    n.references main = .ok r ↔ (∀ d ∈ n.boundNodes main, d.NamesKeys) ∧
      r = .ofBindings ((n.boundNodes main).map Node.binding) := by
  unfold references boundNodes
  cases n.bindingRoot main with
  | none => simp [ReferenceMap.ofBindings, eq_comm]
  | some root =>
      simp only [ReferenceMap.ofForest, map_eq_ok_iff, Binding.ofForest_eq_ok_iff]
      constructor
      · rintro ⟨_, ⟨each, rfl⟩, rfl⟩
        exact ⟨each, rfl⟩
      · rintro ⟨each, rfl⟩
        exact ⟨_, ⟨each, rfl⟩, rfl⟩

end DesignProps
