import DesignProps.Json.Map

/-!
# Nodes of a design document

A node has raw property maps, children, and possibly an embedded copy of its main component, which may bring its
variant group along.  `Node.ofJson` reads a node with everything below it; it needs no more steps than the value is
deep.

Main statement: `walk_eq` (a walk begins at the node and goes on in its children).
-/

set_option autoImplicit false

namespace DesignProps

/-! ## Nodes -/

/-- What a node says of itself.  `mainId` names the main component; it is raw, since anything may stand there. -/
structure NodeData where
  id : String
  name : String
  type : String
  definitions : OrderedMap Key Json
  properties : OrderedMap Key Json
  references : OrderedMap Key Json
  mainId : Json
  deriving DecidableEq

mutual

inductive Node
  | mk (data : NodeData) (main : EmbeddedMain) (children : List Node)

/-- A main component that stands inside a node, alone or within the group it names as its parent. -/
inductive EmbeddedMain
  | none
  | alone (component : Node)
  | within (component group : Node)

end

instance : Inhabited Node := ⟨.mk ⟨"", "", "", .empty, .empty, .empty, .null⟩ .none []⟩

namespace Node

def data : Node → NodeData
  | .mk data _ _ => data

def main : Node → EmbeddedMain
  | .mk _ main _ => main

def children : Node → List Node
  | .mk _ _ children => children

def id (n : Node) : String := n.data.id

def name (n : Node) : String := n.data.name

def type (n : Node) : String := n.data.type

def withChildren (n : Node) (children : List Node) : Node := .mk n.data n.main children

def isInstance (n : Node) : Bool := n.type == "INSTANCE"

def isComponent (n : Node) : Bool := n.type == "COMPONENT"

def isGroup (n : Node) : Bool := n.type == "COMPONENT_SET"

/-- Components, groups and instances are what is formatted. -/
def isRelevant (n : Node) : Bool := n.isComponent || n.isGroup || n.isInstance

mutual

/-- The node and everything below it, each node before its children. -/
def walk : Node → List Node
  | .mk data main children => .mk data main children :: walkAll children

def walkAll : List Node → List Node
  | [] => []
  | n :: rest => walk n ++ walkAll rest

end

theorem walk_eq (n : Node) : n.walk = n :: walkAll n.children := by
  cases n
  simp only [walk, children]

end Node

namespace EmbeddedMain

/-- A group that comes without children of its own holds the component. -/
def ofParts (component : Node) : Option Node → EmbeddedMain
  | Option.none => .alone component
  | some group =>
      .within component (if group.children.isEmpty then group.withChildren [component] else group)

def component? : EmbeddedMain → Option Node
  | .none => Option.none
  | .alone component => some component
  | .within component _ => some component

end EmbeddedMain

/-! ## Reading -/

namespace Node

/-- A member as text, the empty text if there is none. -/
def textMember (members : List (String × Json)) (key : String) : String :=
  match Assoc.get? key members with
  | some v => v.asText
  | none => ""

/-- The name of the main component: the text given for it, else the first of two members that counts. -/
def mainIdOf (v : Json) : Json :=
  match v.member "mainComponent" with
  | .str s => .str s
  | _ => if (v.member "componentId").truthy then v.member "componentId" else v.member "mainComponentId"

def dataOf (members : List (String × Json)) : Except Fault NodeData := do
  let v := Json.obj members
  let definitions ← (v.member "componentPropertyDefinitions").toMapIfAny
  let properties ← (v.member "componentProperties").toMapIfAny
  let references ← (v.member "componentPropertyReferences").toMapIfAny
  .ok {
    id := textMember members "id"
    name := textMember members "name"
    type := textMember members "type"
    definitions := definitions
    properties := properties
    references := references
    mainId := mainIdOf v }

/-- Reads an embedded main component; a value that is no object is none. -/
def mainOf (read : Json → Except Fault Node) (v : Json) : Except Fault EmbeddedMain :=
  match v with
  | .obj _ =>
      match v.member "parent" with
      | .obj parent => do
          let group ← read (.obj parent)
          let component ← read v
          .ok (.ofParts component (some group))
      | _ => do
          let component ← read v
          .ok (.ofParts component none)
  | _ => .ok .none

/-- Reads a node of at most the given depth. -/
def read : Nat → Json → Except Fault Node
  | 0, v => .error (.notAnObject v)
  | depth + 1, v =>
      match v with
      | .obj members => do
          let data ← dataOf members
          let main ← mainOf (read depth) (v.member "mainComponent")
          let items ← (v.member "children").partsIfAny
          let children ← items.mapM (read depth)
          .ok (.mk data main children)
      | v => .error (.notAnObject v)

def ofJson (v : Json) : Except Fault Node := read v.depth v

end Node

end DesignProps
