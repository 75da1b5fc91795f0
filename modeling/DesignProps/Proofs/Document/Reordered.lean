import DesignProps.Proofs.Reference.Present
import Mathlib.Data.Option.Defs

/-!
# Nodes whose raw definitions are in another order

Two nodes are the same up to order if the raw definitions of both, and of every node below them or embedded in them,
have the same entries, and nothing else differs.  The properties that nodes are bound to are then the same.

Main statement: `Node.references_reordered` (the references of a node do not depend on the order of definitions).
-/

set_option autoImplicit false

namespace DesignProps

/-- The same data but for the order of raw definitions. -/
structure NodeData.Reordered (d e : NodeData) : Prop where
  id : d.id = e.id
  name : d.name = e.name
  type : d.type = e.type
  definitions : d.definitions.Reordered e.definitions
  properties : d.properties = e.properties
  references : d.references = e.references
  mainId : d.mainId = e.mainId

mutual

inductive Node.Reordered : Node → Node → Prop
  | mk {d e : NodeData} {main embedded : EmbeddedMain} {children others : List Node} (data : d.Reordered e)
      (mains : EmbeddedMain.Reordered main embedded) (below : List.Forall₂ Node.Reordered children others) :
      Node.Reordered (.mk d main children) (.mk e embedded others)

inductive EmbeddedMain.Reordered : EmbeddedMain → EmbeddedMain → Prop
  | none : EmbeddedMain.Reordered .none .none
  | alone {component other : Node} (components : Node.Reordered component other) :
      EmbeddedMain.Reordered (.alone component) (.alone other)
  | within {component group other holder : Node} (components : Node.Reordered component other)
      (groups : Node.Reordered group holder) : EmbeddedMain.Reordered (.within component group) (.within other holder)

end

structure Located.Reordered (l k : Located) : Prop where
  node : l.node.Reordered k.node
  ancestors : List.Forall₂ Node.Reordered l.ancestors k.ancestors

structure Subject.Reordered (s t : Subject) : Prop where
  node : s.node.Reordered t.node
  main : Option.Rel Located.Reordered s.main t.main

namespace Node

variable {n k : Node}

namespace Reordered

theorem data (reordered : n.Reordered k) : n.data.Reordered k.data := by
  cases reordered with
  | mk data mains below => exact data

theorem children (reordered : n.Reordered k) : List.Forall₂ Node.Reordered n.children k.children := by
  cases reordered with
  | mk data mains below => exact below

theorem id (reordered : n.Reordered k) : n.id = k.id := reordered.data.id

theorem name (reordered : n.Reordered k) : n.name = k.name := reordered.data.name

theorem type (reordered : n.Reordered k) : n.type = k.type := reordered.data.type

theorem isInstance (reordered : n.Reordered k) : n.isInstance = k.isInstance := by
  simp only [Node.isInstance, reordered.type]

theorem isGroup (reordered : n.Reordered k) : n.isGroup = k.isGroup := by
  simp only [Node.isGroup, reordered.type]

end Reordered

/-! ## References -/

mutual

theorem references_walk : ∀ {n k : Node}, n.Reordered k →
    n.walk.map (fun n => n.data.references) = k.walk.map fun n => n.data.references
  | .mk d main children, .mk e embedded others, .mk data mains below => by
      have later := references_walkAll below
      rw [walk, walk, List.map_cons, List.map_cons, later]
      exact congrArg (· :: _) data.references

theorem references_walkAll : ∀ {ns ks : List Node}, List.Forall₂ Node.Reordered ns ks →
    (walkAll ns).map (fun n => n.data.references) = (walkAll ks).map fun n => n.data.references
  | [], _, .nil => rfl
  | _ :: _, _ :: _, .cons first rest => by
      simp only [walkAll, List.map_append, references_walk first, references_walkAll rest]

end

theorem bindingRoot_reordered (reordered : n.Reordered k) {main other : Option Node}
    (mains : Option.Rel Node.Reordered main other) :
    Option.Rel Node.Reordered (n.bindingRoot main) (k.bindingRoot other) := by
  have component : n.isComponent = k.isComponent := by simp only [isComponent, reordered.type]
  unfold bindingRoot
  rw [component, reordered.isGroup, reordered.isInstance]
  split
  · exact .some reordered
  · split
    · exact mains
    · exact .none

theorem references_reordered (reordered : n.Reordered k) {main other : Option Node}
    (mains : Option.Rel Node.Reordered main other) : n.references main = k.references other := by
  have roots := bindingRoot_reordered reordered mains
  unfold references
  generalize n.bindingRoot main = root at roots ⊢
  generalize k.bindingRoot other = peer at roots ⊢
  cases roots with
  | none => rfl
  | some same => exact ReferenceMap.ofForest_congr (references_walkAll same.children)

end Node

end DesignProps
