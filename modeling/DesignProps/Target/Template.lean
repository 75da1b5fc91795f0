import DesignProps.Fault
import DesignProps.Target.Block

/-!
# Filling in a block from a context

A context is an object whose members fill in a block.  Any value is accepted where a text stands; a member that the
block needs and the context lacks is refused, and so is a value without parts where a list is needed.  One name is
reserved for the block itself.

Main statement: `fill_missing` (without the comment's switch no block is filled in).
-/

set_option autoImplicit false

namespace DesignProps

inductive TemplateRefusal
  | missing (name : String)
  | reserved (name : String)
  | notAList (v : Json)
  | noSuchTemplate (name : String)
  deriving DecidableEq, Repr

namespace Template

def member (context : Json) (name : String) : Except TemplateRefusal Json :=
  match context with
  | .obj members =>
      match Assoc.get? name members with
      | some v => .ok v
      | none => .error (.missing name)
  | _ => .error (.missing name)

def text (context : Json) (name : String) : Except TemplateRefusal String :=
  (member context name).map Json.asText

def items (context : Json) (name : String) : Except TemplateRefusal (List Json) := do
  let v ← member context name
  match v.parts with
  | .ok parts => .ok parts
  | .error _ => .error (.notAList v)

def texts (context : Json) (name : String) : Except TemplateRefusal (List String) :=
  (items context name).map fun parts => parts.map Json.asText

def switch (context : Json) (name : String) : Except TemplateRefusal Bool :=
  (member context name).map Json.truthy

def aliasOf (v : Json) : Except TemplateRefusal Alias := do
  let name ← text v "name"
  let value ← text v "value"
  .ok ⟨name, value⟩

def aliases (context : Json) : Except TemplateRefusal (List Alias) := do
  let parts ← items context "types"
  parts.mapM aliasOf

/-- A null default is no default. -/
def propOf (v : Json) : Except TemplateRefusal OptionsProp := do
  let name ← text v "name"
  let type ← text v "type"
  let default ← member v "default"
  .ok ⟨name, type, if default = .null then none else some default.asText⟩

def stub (context : Json) : Except TemplateRefusal StubBlock := do
  let addComments ← switch context "add_comments"
  let componentName ← text context "component_name"
  let interfaceName ← text context "interface_name"
  let aliases ← aliases context
  let fields ← texts context "interface_lines"
  let inputs ← texts context "input_lines"
  .ok ⟨addComments, componentName, interfaceName, aliases, fields, inputs⟩

/-- The component's name stands only in the comment, so it may be missing when there is none. -/
def setup (context : Json) : Except TemplateRefusal SetupBlock := do
  let addComments ← switch context "add_comments"
  let componentName ← if addComments then text context "component_name" else .ok ""
  let interfaceName ← text context "interface_name"
  let aliases ← aliases context
  let fields ← texts context "interface_lines"
  let defaults ← texts context "default_lines"
  .ok ⟨addComments, componentName, interfaceName, aliases, fields, defaults⟩

def options (context : Json) : Except TemplateRefusal OptionsBlock := do
  let addComments ← switch context "add_comments"
  let name ← member context "component_name"
  let aliases ← aliases context
  let parts ← items context "props"
  let props ← parts.mapM propOf
  .ok ⟨addComments, name.asText, name.write, aliases, props⟩

/-- The name by which a block refers to itself. -/
def ownName : String := "self"

/-- Fills in one of a target's templates. -/
def fill (target : Target) (template : String) (context : Json) : Except TemplateRefusal String :=
  if (member context ownName).toBool then .error (.reserved ownName)
  else
    match target, template with
    | .react, "component.tsx.j2" => (stub context).map StubBlock.write
    | .vue, "setup.ts.j2" => (setup context).map SetupBlock.write
    | .vue, "options.ts.j2" => (options context).map OptionsBlock.write
    | _, name => .error (.noSuchTemplate name)

theorem fill_missing (context : Json) (free : (member context ownName).toBool = false)
    (h : member context "add_comments" = .error (.missing "add_comments")) :
    fill .react "component.tsx.j2" context = .error (.missing "add_comments") := by
  simp [fill, free, stub, switch, h, Except.map, bind, Except.bind]

end Template

end DesignProps
