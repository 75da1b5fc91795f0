import DesignProps.Key
import DesignProps.OrderedMap
import DesignProps.Primitive

/-!
# Properties

A property has a kind.  Its definition belongs to a component's definition node and holds the default; its value
belongs to one component.

Main statement: `ofTag?_tag` (a kind is read back from its tag).
-/

set_option autoImplicit false

namespace DesignProps

/-- `explicit` is a variant with a single option, a pinned value; `unknown` stands for a type that is not recognized. -/
inductive PropertyKind
  | boolean
  | number
  | text
  | variant
  | explicit
  | instanceSwap
  | unknown
  deriving DecidableEq, Repr

namespace PropertyKind

def tag : PropertyKind → String
  | .boolean => "BOOLEAN"
  | .number => "NUMBER"
  | .text => "TEXT"
  | .variant => "VARIANT"
  | .explicit => "EXPLICIT"
  | .instanceSwap => "INSTANCE_SWAP"
  | .unknown => "UNKNOWN"

def all : List PropertyKind := [.boolean, .number, .text, .variant, .explicit, .instanceSwap, .unknown]

def ofTag? (s : String) : Option PropertyKind := all.find? fun k => k.tag == s

/-- The kind a document names; pinned and unknown kinds only come from refining. -/
def ofRaw (s : String) : PropertyKind :=
  match ofTag? s with
  | some .explicit => .unknown
  | some kind => kind
  | none => .unknown

theorem ofTag?_tag (kind : PropertyKind) : ofTag? kind.tag = some kind := by
  cases kind <;> decide

end PropertyKind

structure PropertyDefinition where
  name : String
  kind : PropertyKind
  default : Primitive
  options : Option (List String)
  hidden : Bool
  optional : Bool
  rawType : Option String
  deriving DecidableEq, Repr

namespace PropertyDefinition

/-- The type as the document names it, else the kind's own tag. -/
def typeText (d : PropertyDefinition) : String :=
  match d.rawType with
  | some t => if t = "" then d.kind.tag else t
  | none => d.kind.tag

/-- The whole definition, for kinds that no declaration has a type for. -/
def toJson (d : PropertyDefinition) : Json :=
  .obj ([("name", .str d.name), ("type", .str d.typeText), ("defaultValue", d.default.toJson)]
    ++ match d.options with
      | some options => [("variantOptions", .arr (options.map .str))]
      | none => [])

end PropertyDefinition

structure PropertyValue where
  name : String
  kind : PropertyKind
  value : Primitive
  isDefault : Bool
  undefined : Bool
  deriving DecidableEq, Repr

def PropertyValue.toJson (p : PropertyValue) : Json :=
  .obj [("name", .str p.name), ("type", .str p.kind.tag), ("value", p.value.toJson)]

abbrev PropertyDefinitions := OrderedMap Key PropertyDefinition

abbrev PropertyValues := OrderedMap Key PropertyValue

end DesignProps
