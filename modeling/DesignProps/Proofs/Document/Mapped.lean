import DesignProps.Formatting
import DesignProps.Proofs.OrderedMap.Mapped
import DesignProps.Proofs.Reference.Present

/-!
# Documents with other raw maps

`mapRaw` changes the raw definitions and the raw values of a node, of everything below it and of everything embedded in
it, and nothing else.  It changes every occurrence where it stands, so ids lead to the same places, links lead to the
same nodes, and the same nodes are selected.

Main statements: `Node.survey_mapRaw`, `Index.ofRoots_mapRaw`, `Index.main?_mapRaw`, `Index.subjects_mapRaw`.
-/

set_option autoImplicit false

namespace DesignProps

variable (f g : Json → Json)

/-- The same keys with other raw definitions and other raw values. -/
def NodeData.mapRaw (d : NodeData) : NodeData :=
  { d with
    definitions := d.definitions.mapValues fun _ => f
    properties := d.properties.mapValues fun _ => g }

mutual

def Node.mapRaw : Node → Node
  | .mk data main children => .mk (data.mapRaw f g) main.mapRaw (Node.mapRawAll children)

def EmbeddedMain.mapRaw : EmbeddedMain → EmbeddedMain
  | .none => .none
  | .alone component => .alone component.mapRaw
  | .within component group => .within component.mapRaw group.mapRaw

def Node.mapRawAll : List Node → List Node
  | [] => []
  | n :: rest => n.mapRaw :: Node.mapRawAll rest

end

def Located.mapRaw (l : Located) : Located := ⟨l.node.mapRaw f g, l.ancestors.map (Node.mapRaw f g)⟩

def Occurrence.mapRaw (o : Occurrence) : Occurrence := ⟨o.toLocated.mapRaw f g, o.place⟩

theorem EmbeddedMain.located?_mapRaw (main : EmbeddedMain) :
    (main.mapRaw f g).located? = main.located?.map (Located.mapRaw f g) := by
  cases main <;> simp only [mapRaw, located?] <;> rfl

namespace Node

/-! ## Nodes -/

theorem mapRawAll_eq_map (nodes : List Node) : mapRawAll f g nodes = nodes.map (mapRaw f g) := by
  induction nodes with
  | nil => simp only [mapRawAll, List.map_nil]
  | cons n rest ih => rw [mapRawAll, ih, List.map_cons]

section Fields
variable (n : Node)

@[simp] theorem data_mapRaw : (n.mapRaw f g).data = n.data.mapRaw f g := by
  cases n
  simp only [mapRaw, data]

@[simp] theorem main_mapRaw : (n.mapRaw f g).main = n.main.mapRaw f g := by
  cases n
  simp only [mapRaw, main]

@[simp] theorem children_mapRaw : (n.mapRaw f g).children = n.children.map (mapRaw f g) := by
  cases n
  simp only [mapRaw, children, mapRawAll_eq_map]

@[simp] theorem id_mapRaw : (n.mapRaw f g).id = n.id := by
  simp only [id, data_mapRaw, NodeData.mapRaw]

@[simp] theorem name_mapRaw : (n.mapRaw f g).name = n.name := by
  simp only [name, data_mapRaw, NodeData.mapRaw]

@[simp] theorem type_mapRaw : (n.mapRaw f g).type = n.type := by
  simp only [type, data_mapRaw, NodeData.mapRaw]

@[simp] theorem mainId_mapRaw : (n.mapRaw f g).data.mainId = n.data.mainId := by
  simp only [data_mapRaw, NodeData.mapRaw]

@[simp] theorem isInstance_mapRaw : (n.mapRaw f g).isInstance = n.isInstance := by
  simp only [isInstance, type_mapRaw]

@[simp] theorem isComponent_mapRaw : (n.mapRaw f g).isComponent = n.isComponent := by
  simp only [isComponent, type_mapRaw]

@[simp] theorem isGroup_mapRaw : (n.mapRaw f g).isGroup = n.isGroup := by
  simp only [isGroup, type_mapRaw]

@[simp] theorem isRelevant_mapRaw : (n.mapRaw f g).isRelevant = n.isRelevant := by
  simp only [isRelevant, isComponent_mapRaw, isGroup_mapRaw, isInstance_mapRaw]

end Fields

/-! ## Lists of occurrences -/

mutual

theorem walk_mapRaw : ∀ n : Node, (n.mapRaw f g).walk = n.walk.map (mapRaw f g)
  | .mk data main children => by
      rw [mapRaw, walk, walk, List.map_cons, mapRaw, walkAll_mapRaw children]

theorem walkAll_mapRaw : ∀ nodes : List Node, walkAll (mapRawAll f g nodes) = (walkAll nodes).map (mapRaw f g)
  | [] => by simp only [mapRawAll, walkAll, List.map_nil]
  | n :: rest => by
      rw [mapRawAll, walkAll, walkAll, List.map_append, walk_mapRaw n, walkAll_mapRaw rest]

end

mutual

theorem survey_mapRaw (place : Place) (ancestors : List Node) : ∀ n : Node,
    survey place (ancestors.map (mapRaw f g)) (n.mapRaw f g) = (survey place ancestors n).map (Occurrence.mapRaw f g)
  | .mk data main children => by
      have below := surveyAll_mapRaw place 0 (.mk data main children :: ancestors) children
      rw [List.map_cons, mapRaw] at below
      rw [mapRaw, survey, survey, List.map_cons, List.map_append, surveyMain_mapRaw (.main :: place) main, below]
      rfl

theorem surveyMain_mapRaw (place : Place) : ∀ main : EmbeddedMain,
    surveyMain place (main.mapRaw f g) = (surveyMain place main).map (Occurrence.mapRaw f g)
  | .none => by simp only [EmbeddedMain.mapRaw, surveyMain, List.map_nil]
  | .alone component => by
      rw [EmbeddedMain.mapRaw, surveyMain, surveyMain, ← survey_mapRaw place [] component, List.map_nil]
  | .within component group => by
      rw [EmbeddedMain.mapRaw, surveyMain, surveyMain, ← survey_mapRaw place [] group, List.map_nil]

theorem surveyAll_mapRaw (place : Place) (position : Nat) (ancestors : List Node) : ∀ nodes : List Node,
    surveyAll place position (ancestors.map (mapRaw f g)) (mapRawAll f g nodes) =
      (surveyAll place position ancestors nodes).map (Occurrence.mapRaw f g)
  | [] => by simp only [mapRawAll, surveyAll, List.map_nil]
  | n :: rest => by
      rw [mapRawAll, surveyAll, surveyAll, List.map_append, survey_mapRaw _ ancestors n,
        surveyAll_mapRaw place (position + 1) ancestors rest]

end

mutual

theorem outermost_mapRaw (place : Place) (ancestors : List Node) : ∀ n : Node,
    outermost place (ancestors.map (mapRaw f g)) (n.mapRaw f g) =
      (outermost place ancestors n).map (Occurrence.mapRaw f g)
  | .mk data main children => by
      have below := outermostAll_mapRaw place 0 (.mk data main children :: ancestors) children
      have relevant := isRelevant_mapRaw f g (.mk data main children)
      rw [List.map_cons, mapRaw] at below
      rw [mapRaw] at relevant
      rw [mapRaw, outermost, outermost, relevant, below]
      split
      · rw [List.map_singleton, Occurrence.mapRaw, Located.mapRaw, mapRaw]
      · rfl

theorem outermostAll_mapRaw (place : Place) (position : Nat) (ancestors : List Node) : ∀ nodes : List Node,
    outermostAll place position (ancestors.map (mapRaw f g)) (mapRawAll f g nodes) =
      (outermostAll place position ancestors nodes).map (Occurrence.mapRaw f g)
  | [] => by simp only [mapRawAll, outermostAll, List.map_nil]
  | n :: rest => by
      rw [mapRawAll, outermostAll, outermostAll, List.map_append, outermost_mapRaw _ ancestors n,
        outermostAll_mapRaw place (position + 1) ancestors rest]

end

theorem forest_mapRaw {list : Place → Node → List Occurrence}
    (each : ∀ place n, list place (n.mapRaw f g) = (list place n).map (Occurrence.mapRaw f g)) :
    ∀ (roots : List Node) (position : Nat),
      forest list position (roots.map (mapRaw f g)) = (forest list position roots).map (Occurrence.mapRaw f g) := by
  intro roots
  induction roots with
  | nil => exact fun _ => rfl
  | cons n rest ih =>
      intro position
      rw [List.map_cons, forest, forest, List.map_append, each, ih]

/-! ## References -/

theorem ofForest_mapRaw (n : Node) :
    ReferenceMap.ofForest (n.mapRaw f g).children = ReferenceMap.ofForest n.children := by
  refine ReferenceMap.ofForest_congr ?_
  rw [children_mapRaw, ← mapRawAll_eq_map, walkAll_mapRaw, List.map_map]
  exact List.map_congr_left fun k _ => by simp only [Function.comp_apply, data_mapRaw, NodeData.mapRaw]

theorem references_mapRaw (n : Node) (main : Option Node) :
    (n.mapRaw f g).references (main.map (mapRaw f g)) = n.references main := by
  have root : (n.mapRaw f g).bindingRoot (main.map (mapRaw f g)) = (n.bindingRoot main).map (mapRaw f g) := by
    simp only [bindingRoot, isComponent_mapRaw, isGroup_mapRaw, isInstance_mapRaw]
    split
    · rfl
    · split <;> rfl
  unfold references
  rw [root]
  cases n.bindingRoot main with
  | none => rfl
  | some k => exact ofForest_mapRaw f g k

end Node

namespace Index

variable (ix : Index) (o : Occurrence)

def mapRaw : Index := ⟨ix.roots.map (Node.mapRaw f g), ix.nodes.mapValues fun _ => Occurrence.mapRaw f g⟩

theorem surveyed_mapRaw (roots : List Node) :
    surveyed (roots.map (Node.mapRaw f g)) = (surveyed roots).map (Occurrence.mapRaw f g) :=
  Node.forest_mapRaw f g (fun place n => Node.survey_mapRaw f g place [] n) roots 0

theorem register_mapRaw (nodes : OrderedMap String Occurrence) :
    register (nodes.mapValues fun _ => Occurrence.mapRaw f g) (o.mapRaw f g) =
      (register nodes o).mapValues fun _ => Occurrence.mapRaw f g := by
  rw [register, register, OrderedMap.mapValues_insertNew]
  exact congrArg (fun id => OrderedMap.insertNew _ id _) (Node.id_mapRaw f g o.node)

theorem foldl_register_mapRaw : ∀ (os : List Occurrence) (nodes : OrderedMap String Occurrence),
    (os.map (Occurrence.mapRaw f g)).foldl register (nodes.mapValues fun _ => Occurrence.mapRaw f g) =
      (os.foldl register nodes).mapValues fun _ => Occurrence.mapRaw f g := by
  intro os
  induction os with
  | nil => exact fun _ => rfl
  | cons o rest ih =>
      intro nodes
      rw [List.map_cons, List.foldl_cons, List.foldl_cons, register_mapRaw, ih]

theorem ofRoots_mapRaw (roots : List Node) : ofRoots (roots.map (Node.mapRaw f g)) = (ofRoots roots).mapRaw f g := by
  have nodes := foldl_register_mapRaw f g (surveyed roots) .empty
  rw [← surveyed_mapRaw] at nodes
  exact congrArg (Index.mk _) nodes

theorem resolve_mapRaw (id : String) : (ix.mapRaw f g).resolve id = (ix.resolve id).map (Occurrence.mapRaw f g) :=
  OrderedMap.get?_mapValues _ ix.nodes id

theorem nameOf?_mapRaw : (ix.mapRaw f g).nameOf? = ix.nameOf? := by
  funext id
  rw [nameOf?, nameOf?, resolve_mapRaw, Option.map_map]
  exact congrArg (fun name => (ix.resolve id).map name) (funext fun o => Node.name_mapRaw f g o.node)

/-! ## Links -/

theorem registers_mapRaw : (ix.mapRaw f g).registers (o.mapRaw f g) = ix.registers o := by
  have id : (o.mapRaw f g).node.id = o.node.id := Node.id_mapRaw f g o.node
  unfold registers
  rw [id, resolve_mapRaw]
  cases ix.resolve o.node.id <;> rfl

theorem named?_mapRaw (v : Json) : (ix.mapRaw f g).named? v = (ix.named? v).map (Located.mapRaw f g) := by
  cases v with
  | str id =>
      simp only [named?, resolve_mapRaw]
      split
      · rfl
      · simp only [Option.map_map]
        rfl
  | _ => rfl

theorem main?_mapRaw : (ix.mapRaw f g).main? (o.mapRaw f g) = (ix.main? o).map (Located.mapRaw f g) := by
  have main : (o.mapRaw f g).node.main = o.node.main.mapRaw f g := Node.main_mapRaw f g o.node
  have mainId : (o.mapRaw f g).node.data.mainId = o.node.data.mainId := Node.mainId_mapRaw f g o.node
  unfold main?
  rw [main, mainId, EmbeddedMain.located?_mapRaw, registers_mapRaw, named?_mapRaw]
  cases o.node.main.located? with
  | some l => rfl
  | none =>
      simp only [Option.map_none]
      split <;> rfl

theorem linkFault_mapRaw : linkFault (o.mapRaw f g) = linkFault o := by
  have main : (o.mapRaw f g).node.main = o.node.main.mapRaw f g := Node.main_mapRaw f g o.node
  have mainId : (o.mapRaw f g).node.data.mainId = o.node.data.mainId := Node.mainId_mapRaw f g o.node
  unfold linkFault awaitsLink
  rw [main, mainId, EmbeddedMain.located?_mapRaw, Option.isNone_map]

/-! ## Selected nodes -/

theorem relevant_mapRaw (ids : Option (List String)) :
    (ix.mapRaw f g).relevant ids = (ix.relevant ids).map (Occurrence.mapRaw f g) := by
  cases ids with
  | none => exact Node.forest_mapRaw f g (fun place n => Node.outermost_mapRaw f g place [] n) ix.roots 0
  | some ids =>
      simp only [relevant, List.map_filterMap]
      exact congrArg (fun find => ids.filterMap find) (funext fun id => resolve_mapRaw f g ix id)

end Index

/-! ## Subjects -/

def Subject.mapRaw (s : Subject) : Subject := ⟨s.node.mapRaw f g, s.main.map (Located.mapRaw f g)⟩

theorem Index.subjects_mapRaw (ix : Index) (ids : Option (List String)) :
    (ix.mapRaw f g).subjects ids = (ix.subjects ids).map (Subject.mapRaw f g) := by
  rw [subjects, subjects, relevant_mapRaw, List.map_map, List.map_map]
  refine List.map_congr_left fun o _ => ?_
  exact congrArg (Subject.mk _) (main?_mapRaw f g ix o)

namespace Subject

variable (s : Subject)

theorem references_mapRaw : (s.mapRaw f g).references = s.references := by
  have main : (s.mapRaw f g).main.map Located.node = (s.main.map Located.node).map (Node.mapRaw f g) := by
    simp only [mapRaw, Option.map_map]
    rfl
  rw [references, references, main]
  exact Node.references_mapRaw f g s.node _

theorem source_mapRaw : (s.mapRaw f g).source = s.source.map (Node.mapRaw f g) := by
  have definition : ∀ l : Located, (l.mapRaw f g).definitionNode = l.definitionNode.mapRaw f g := by
    intro l
    unfold Located.definitionNode Located.parent? Located.mapRaw
    rw [List.head?_map]
    cases l.ancestors.head? with
    | none => rfl
    | some parent =>
        simp only [Option.map_some, Node.isGroup_mapRaw]
        split <;> rfl
  have instances : (s.mapRaw f g).node.isInstance = s.node.isInstance := Node.isInstance_mapRaw f g s.node
  rw [source_eq, source_eq, instances]
  split
  · simp only [mapRaw, Option.map_map]
    exact congrArg (fun node => s.main.map node) (funext definition)
  · rfl

theorem definitionId_mapRaw : (s.mapRaw f g).definitionId = s.definitionId := by
  unfold definitionId
  rw [source_mapRaw]
  cases s.source with
  | none => rfl
  | some k => exact Node.id_mapRaw f g k

theorem displayName_mapRaw : (s.mapRaw f g).displayName = s.displayName := by
  unfold displayName
  rw [source_mapRaw]
  cases s.source with
  | none => rfl
  | some k => simp only [Option.map_some, Node.name_mapRaw]

theorem rawDefinitions_mapRaw : (s.mapRaw f g).rawDefinitions = s.rawDefinitions.map fun e => (e.1, f e.2) := by
  unfold rawDefinitions
  rw [source_mapRaw]
  cases s.source with
  | none => rfl
  | some k => exact congrArg (fun d => d.definitions.entries) (Node.data_mapRaw f g k)

end Subject

end DesignProps
