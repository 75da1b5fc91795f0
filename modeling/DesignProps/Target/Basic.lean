import DesignProps.Config.Basic
import DesignProps.Naming.Labels

/-!
# Targets

Code is generated for two frameworks.  A generator is a target with a configuration and a lookup, which gives the name
of the node a swapped instance points to.

Main statement: `ofName?_name` (a target is found by its name).
-/

set_option autoImplicit false

namespace DesignProps

inductive Target
  | react
  | vue
  deriving DecidableEq, Repr

namespace Target

def name : Target → String
  | .react => "react"
  | .vue => "vue"

def label : Target → String
  | .react => "React"
  | .vue => "Vue"

/-- The extension of a file with the generated definitions. -/
def fileExtension : Target → String
  | .react => ".tsx"
  | .vue => ".ts"

/-- Whether several text slots are told apart by name; without names they go into attributes. -/
def namedSlots : Target → Bool
  | .react => false
  | .vue => true

/-- The declared type of a property that takes an instance. -/
def swapType : Target → String
  | .react => "ReactNode"
  | .vue => "Component"

def ofName? (s : String) : Option Target := [Target.react, .vue].find? fun t => t.name == s

theorem ofName?_name (t : Target) : ofName? t.name = some t := by
  cases t <;> decide

end Target

structure Generator where
  target : Target
  config : Config
  lookup : String → Option String

namespace Generator

/-- The name of the node an id points to; the empty id points nowhere. -/
def resolve (g : Generator) (id : String) : Option String :=
  if id = "" then none else g.lookup id

/-- The display name of the node an id points to. -/
def resolvedName (g : Generator) (id : String) : Option String := (g.resolve id).map Naming.displayName

/-- The element that wraps slot content. -/
def slotTag (g : Generator) : String := g.config.slotTag.asText

end Generator

end DesignProps
