import DesignProps.Document.Index
import DesignProps.Reference.Map

/-!
# References of a document

`bindings` lists what the nodes of a forest are bound to, in the order of a walk, and `ReferenceMap.ofBindings` turns
the list into a map.  The bindings of a definition are those of the nodes below it, not its own.

Main statement: `ofBindings_append` (a longer list adds to the map of its beginning).
-/

set_option autoImplicit false

namespace DesignProps

/-- The properties one node is bound to. -/
structure Binding where
  visible : Option Key
  characters : Option Key
  target : Option Key
  deriving DecidableEq, Repr

namespace Binding

/-- The key a binding names, none if nothing is there; a list or an object is no key. -/
def keyOf (v : Json) : Except Fault (Option Key) := if v.truthy then v.toKey.map some else .ok none

def read (references : OrderedMap Key Json) : Except Fault Binding := do
  let at_ (name : String) := keyOf ((references.get? (.text name)).getD .null)
  let target ← at_ "mainComponent"
  let characters ← at_ "characters"
  let visible ← at_ "visible"
  .ok ⟨visible, characters, target⟩

/-- The bindings of all nodes of a forest. -/
def ofForest (nodes : List Node) : Except Fault (List Binding) :=
  (Node.walkAll nodes).mapM fun n => read n.data.references

end Binding

namespace ReferenceMap

def addBinding (m : ReferenceMap) (b : Binding) : ReferenceMap where
  instances :=
    match b.target with
    | some target => m.instances.insert target ⟨b.visible, b.characters⟩
    | none => m.instances
  properties :=
    let withText := match b.characters with
      | some key => addFlags m.properties key ⟨false, true⟩
      | none => m.properties
    match b.visible with
    | some key => addFlags withText key ⟨true, false⟩
    | none => withText

def ofBindings (bindings : List Binding) : ReferenceMap := bindings.foldl addBinding empty

theorem ofBindings_append (first rest : List Binding) :
    ofBindings (first ++ rest) = rest.foldl addBinding (ofBindings first) := by
  simp [ofBindings]

/-- The references of the nodes below a definition. -/
def ofForest (nodes : List Node) : Except Fault ReferenceMap := (Binding.ofForest nodes).map ofBindings

end ReferenceMap

/-! ## Where the bindings of a node are -/

namespace Node

/-- The node whose children carry the bindings: a definition itself, an instance's main component. -/
def bindingRoot (n : Node) (main : Option Node) : Option Node :=
  if n.isComponent || n.isGroup then some n
  else if n.isInstance then main
  else none

/-- The references of a node with the given main component. -/
def references (n : Node) (main : Option Node) : Except Fault ReferenceMap :=
  match n.bindingRoot main with
  | some root => ReferenceMap.ofForest root.children
  | none => .ok .empty

end Node

end DesignProps
