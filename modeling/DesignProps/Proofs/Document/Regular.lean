import DesignProps.Proofs.Document.Links
import DesignProps.Proofs.Document.Reach
import DesignProps.Proofs.Document.Reading
import DesignProps.Proofs.Property.Regular

/-!
# Documents that can always be indexed

An object is read as a node if its children are a list of such objects, its maps are objects, what names its main
component is a text, and an object that is embedded as its main component, or as the parent of that, is such an object
itself.  Nothing is asked of ids, names and types, and none of the references has to lead anywhere.  Every node within
reach of what is read then has data that the model can be built from.

Main statements: `Json.IsNode.ofJson` (such objects are read), `Index.ofData_isOk` (such documents are indexed).
-/

set_option autoImplicit false

namespace DesignProps

namespace Json

/-! ## Shapes -/

/-- Nothing, or an object with members of one kind. -/
def IsMapOf (P : Json → Prop) (v : Json) : Prop := v = .null ∨ ∃ members, v = .obj members ∧ ∀ m ∈ members, P m.2

def IsText (v : Json) : Prop := ∃ s, v = .str s

def IsTextIfAny (v : Json) : Prop := v = .null ∨ v.IsText

/-- What an object says of itself as a node. -/
structure HasNodeData (v : Json) : Prop where
  definitions : IsMapOf IsDefinition (v.member "componentPropertyDefinitions")
  properties : IsMapOf (fun raw => raw.isObject = true) (v.member "componentProperties")
  references : IsMapOf IsText (v.member "componentPropertyReferences")
  componentId : IsTextIfAny (v.member "componentId")
  mainComponentId : IsTextIfAny (v.member "mainComponentId")

inductive IsNode : Json → Prop
  | obj {members : List (String × Json)} {items : List Json} (data : HasNodeData (.obj members))
      (children : (Json.obj members).member "children" = .arr items ∨
        (Json.obj members).member "children" = .null ∧ items = [])
      (below : ∀ v ∈ items, IsNode v)
      (main : ((Json.obj members).member "mainComponent").isObject = true →
        IsNode ((Json.obj members).member "mainComponent"))
      (group : (((Json.obj members).member "mainComponent").member "parent").isObject = true →
        IsNode (((Json.obj members).member "mainComponent").member "parent")) : IsNode (.obj members)

theorem IsMapOf.bounded {P : Json → Prop} {v : Json} (map : v.IsMapOf P) (bounded : v.isBounded = true) :
    v.IsMapOf fun raw => P raw ∧ raw.isBounded = true := by
  rcases map with absent | ⟨members, rfl, each⟩
  · exact Or.inl absent
  · refine Or.inr ⟨members, rfl, fun m inside => ⟨each m inside, ?_⟩⟩
    exact bounded_of_mem_members bounded inside

/-- Such a map is read with texts for keys and with values of its kind. -/
theorem IsMapOf.toMapIfAny {P : Json → Prop} {v : Json} (map : v.IsMapOf P) :
    ∃ m, v.toMapIfAny = .ok m ∧ ∀ e ∈ m.entries, (∃ s, e.1 = Key.text s) ∧ P e.2 := by
  rcases map with rfl | ⟨members, rfl, each⟩
  · exact ⟨.empty, rfl, by simp⟩
  · unfold Json.toMapIfAny
    split
    · have listed : ∀ e ∈ keyed members, (∃ s, e.1 = Key.text s) ∧ P e.2 := by
        intro e inside
        obtain ⟨m, given, rfl⟩ := List.mem_map.1 inside
        exact ⟨⟨m.1, rfl⟩, each m given⟩
      have entries := OrderedMap.forall_mem_ofList (P := fun key => ∃ s, key = Key.text s) (Q := P) listed
      exact ⟨_, toMap_obj members, entries⟩
    · exact ⟨.empty, rfl, by simp⟩

end Json

/-! ## Data that a model can be built from -/

structure NodeData.Regular (d : NodeData) : Prop where
  keys : ∀ key ∈ d.definitions.keys, ∃ s, key = Key.text s
  definitions : ∀ e ∈ d.definitions.entries, e.2.IsDefinition ∧ e.2.isBounded = true
  properties : ∀ e ∈ d.properties.entries, e.2.isObject = true ∧ e.2.isBounded = true
  references : ∀ e ∈ d.references.entries, e.2.IsText
  mainId : d.mainId.IsTextIfAny

namespace Node

theorem mem_reachAll {n : Node} {nodes : List Node} : n ∈ reachAll nodes ↔ ∃ k ∈ nodes, n ∈ k.reach := by
  induction nodes with
  | nil => simp [reachAll]
  | cons k rest ih => simp [reachAll, ih]

/-- Everything that comes with a node has regular data. -/
def Regular (n : Node) : Prop := ∀ k ∈ n.reach, k.data.Regular

theorem regular_iff (n : Node) :
    n.Regular ↔ n.data.Regular ∧ (∀ k ∈ reachMain n.main, k.data.Regular) ∧ ∀ k ∈ n.children, k.Regular := by
  obtain ⟨data, main, children⟩ := n
  simp only [Regular, reach, Node.data, Node.main, Node.children, List.forall_mem_cons, List.forall_mem_append,
    mem_reachAll]
  constructor
  · rintro ⟨own, embedded, below⟩
    exact ⟨own, embedded, fun k child x inside => below x ⟨k, child, inside⟩⟩
  · rintro ⟨own, embedded, below⟩
    refine ⟨own, embedded, ?_⟩
    rintro x ⟨k, child, inside⟩
    exact below k child x inside

theorem regular_withChildren {n : Node} (regular : n.Regular) {children : List Node}
    (below : ∀ k ∈ children, k.Regular) : (n.withChildren children).Regular := by
  obtain ⟨own, embedded, -⟩ := (regular_iff n).1 regular
  exact (regular_iff _).2 ⟨own, embedded, below⟩

theorem regular_ofParts {component : Node} (regular : component.Regular) {group : Option Node}
    (above : ∀ g, group = some g → g.Regular) : ∀ k ∈ reachMain (.ofParts component group), k.data.Regular := by
  cases group with
  | none => exact regular
  | some g =>
      have brought : (if g.children.isEmpty then g.withChildren [component] else g).Regular := by
        split
        · exact regular_withChildren (above g rfl) (by simpa using regular)
        · exact above g rfl
      simp only [EmbeddedMain.ofParts, reachMain, List.forall_mem_append]
      exact ⟨regular, brought⟩

theorem mainIdOf_isText {v : Json} (one : (v.member "componentId").IsTextIfAny)
    (other : (v.member "mainComponentId").IsTextIfAny) : (mainIdOf v).IsTextIfAny := by
  unfold mainIdOf
  split
  · exact Or.inr ⟨_, rfl⟩
  · split
    · exact one
    · exact other

theorem dataOf_isOk {members : List (String × Json)} (data : (Json.obj members).HasNodeData)
    (bounded : (Json.obj members).isBounded = true) : ∃ d, dataOf members = .ok d ∧ d.Regular := by
  obtain ⟨definitions, first, eachDefinition⟩ := (data.definitions.bounded (Json.bounded_member bounded _)).toMapIfAny
  obtain ⟨properties, second, eachProperty⟩ := (data.properties.bounded (Json.bounded_member bounded _)).toMapIfAny
  obtain ⟨references, third, eachReference⟩ := data.references.toMapIfAny
  refine ⟨_, dataOf_eq_ok_iff.2 ⟨definitions, properties, references, first, second, third, rfl⟩, ?_⟩
  constructor
  case keys =>
    intro key inside
    obtain ⟨e, listed, rfl⟩ := List.mem_map.1 inside
    exact (eachDefinition e listed).1
  case definitions => exact fun e inside => (eachDefinition e inside).2
  case properties => exact fun e inside => (eachProperty e inside).2
  case references => exact fun e inside => (eachReference e inside).2
  case mainId => exact mainIdOf_isText data.componentId data.mainComponentId

/-- An object as main component is read with its parent, if that is an object. -/
theorem mainOf_isOk {v : Json} (component : v.isObject = true → ∃ n, ofJson v = .ok n ∧ n.Regular)
    (group : (v.member "parent").isObject = true → ∃ n, ofJson (v.member "parent") = .ok n ∧ n.Regular) :
    ∃ main, mainOf ofJson v = .ok main ∧ ∀ k ∈ reachMain main, k.data.Regular := by
  cases v with
  | obj members =>
      obtain ⟨n, read, regular⟩ := component rfl
      cases parent : (Json.obj members).member "parent" with
      | obj above =>
          rw [parent] at group
          obtain ⟨g, readToo, regularToo⟩ := group rfl
          refine ⟨.ofParts n (some g), by simp only [mainOf, parent, readToo, read, bind, Except.bind], ?_⟩
          exact regular_ofParts regular fun k same => Option.some.inj same ▸ regularToo
      | _ =>
          refine ⟨.ofParts n none, by simp only [mainOf, parent, read, bind, Except.bind], ?_⟩
          exact regular_ofParts regular fun k same => absurd same (Option.some_ne_none k).symm
  | _ => exact ⟨.none, rfl, by simp [reachMain]⟩

end Node

/-- A node is read whatever it says, and so is everything that comes with it. -/
theorem Json.IsNode.ofJson {v : Json} (node : v.IsNode) (bounded : v.isBounded = true) :
    ∃ n, Node.ofJson v = .ok n ∧ n.Regular := by
  induction node with
  | @obj members items data children below main group nodes component parent =>
      obtain ⟨d, own, regular⟩ := Node.dataOf_isOk data bounded
      have part := Json.bounded_member bounded
      obtain ⟨embedded, read, regularToo⟩ := Node.mainOf_isOk (fun object => component object (part _))
        fun object => parent object (Json.bounded_member (part _) _)
      have parts : ((Json.obj members).member "children").partsIfAny = .ok items := by
        rcases children with list | ⟨absent, rfl⟩
        · rw [list]
          cases items <;> rfl
        · rw [absent]
          rfl
      have each : ∀ w ∈ items, ∃ n, Node.ofJson w = .ok n ∧ n.Regular := by
        intro w inside
        refine nodes w inside ?_
        rcases children with list | ⟨-, rfl⟩
        · have bounds := part "children"
          rw [list] at bounds
          exact Json.bounded_of_mem_items bounds inside
        · simp at inside
      obtain ⟨kids, done, all⟩ := mapM_isOk_of_forall each
      refine ⟨.mk d embedded kids, ?read, (Node.regular_iff _).2 ⟨regular, regularToo, all⟩⟩
      case read =>
        exact Node.ofJson_eq_ok_iff.2 ⟨d, embedded, items, kids, own, read, parts, mapM_eq_ok_iff.1 done, rfl⟩

namespace Index

theorem linkFault_of_regular {o : Occurrence} (regular : o.node.data.Regular) : linkFault o = none := by
  unfold linkFault
  rcases regular.mainId with absent | ⟨s, named⟩
  · rw [absent]
  · rw [named]

/-- A document of such nodes is indexed, and everything within reach of its roots has regular data. -/
theorem ofData_isOk {data : Json} (nodes : ∀ v ∈ rootObjects data, v.IsNode ∧ v.isBounded = true) :
    ∃ roots, ofData data = .ok (ofRoots roots) ∧ ∀ n ∈ Node.reachAll roots, n.data.Regular := by
  have each : ∀ v ∈ rootObjects data, ∃ n, Node.ofJson v = .ok n ∧ n.Regular :=
    fun v inside => (nodes v inside).1.ofJson (nodes v inside).2
  obtain ⟨roots, done, all⟩ := mapM_isOk_of_forall each
  have regular : ∀ n ∈ Node.reachAll roots, n.data.Regular := by
    intro n within
    obtain ⟨root, listed, inside⟩ := Node.mem_reachAll.1 within
    exact all root listed n inside
  refine ⟨roots, ofData_eq_ok_iff.2 ⟨roots, done, rfl, fun o inside => ?_⟩, regular⟩
  obtain ⟨-, within⟩ := within_of_resolve ((mem_nodes_iff roots o).1 inside)
  exact linkFault_of_regular (regular o.node (within.reach o.node (Node.mem_reach_self o.node)))

end Index

end DesignProps
