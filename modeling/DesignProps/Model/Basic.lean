import DesignProps.Property.Basic
import DesignProps.Reference.Map

/-!
# Models

A model is what every target is generated from: components with their property values, the property definitions they
share, the display name of each definition, and the references found below the definitions.
-/

set_option autoImplicit false

namespace DesignProps

/-- One formatted node; `definition` is the id its property definitions are filed under. -/
structure Component where
  id : String
  name : String
  definition : String
  properties : PropertyValues
  deriving DecidableEq

structure Model where
  components : OrderedMap String Component
  definitions : OrderedMap String PropertyDefinitions
  names : OrderedMap String String
  references : ReferenceMap
  deriving DecidableEq

namespace Model

def empty : Model := ⟨.empty, .empty, .empty, .empty⟩

instance : Inhabited Model := ⟨empty⟩

def definitionsOf (m : Model) (id : String) : PropertyDefinitions := (m.definitions.get? id).getD .empty

/-- The display name of a definition. -/
def nameOf (m : Model) (id : String) : String := (m.names.get? id).getD "Unnamed"

/-- Every definition, with the id and key it is filed under. -/
def allDefinitions (m : Model) : List (String × Key × PropertyDefinition) :=
  m.definitions.entries.flatMap fun (id, definitions) =>
    definitions.entries.map fun (key, definition) => (id, key, definition)

def hasUnknowns (m : Model) : Bool := m.allDefinitions.any fun (_, _, d) => d.kind == .unknown

end Model

end DesignProps
