import DesignProps.Target.Declaration

/-!
# Blocks

A definition is written as one block of code: a comment, the aliases, and then for React an interface with a component
stub, for Vue an interface with a setup call or a single options call.  A block holds the texts that are filled in;
nothing is escaped.

Main statement: `header_of_nothing` (without a comment and without aliases nothing stands over a declaration).
-/

set_option autoImplicit false

namespace DesignProps

namespace Block

/-- A comment of its own over the block. -/
def comment (text : String) : String := "/**\n * " ++ text ++ "\n */\n\n"

def aliasLine (a : Alias) : String := "type " ++ a.name ++ " = " ++ a.value ++ ";\n"

/-- What stands over the declaration: the comment, and the aliases followed by an empty line. -/
def header (shown : Bool) (text : String) (aliases : List Alias) : String :=
  (if shown then comment text else "")
    ++ String.join (aliases.map aliasLine)
    ++ (if aliases.isEmpty then "" else "\n")

def interface (name : String) (fields : List String) : String :=
  "interface " ++ name ++ " \x7b " ++ String.intercalate " " fields ++ " \x7d\n\n"

def indentedLines (lines : List String) : String := String.join (lines.map fun line => "  " ++ line ++ "\n")

theorem header_of_nothing (text : String) : header false text [] = "" := rfl

end Block

/-- An interface and a component stub whose parameters are destructured. -/
structure StubBlock where
  addComments : Bool
  componentName : String
  interfaceName : String
  aliases : List Alias
  fields : List String
  inputs : List String
  deriving DecidableEq, Repr

def StubBlock.write (b : StubBlock) : String :=
  Block.header b.addComments (b.componentName ++ " Component") b.aliases
    ++ Block.interface b.interfaceName b.fields
    ++ "const " ++ b.componentName ++ ": FC<" ++ b.interfaceName ++ "> = (\x7b\n"
    ++ Block.indentedLines b.inputs
    ++ "\x7d) => (<></>)"

/-- An interface and a setup call with its defaults. -/
structure SetupBlock where
  addComments : Bool
  componentName : String
  interfaceName : String
  aliases : List Alias
  fields : List String
  defaults : List String
  deriving DecidableEq, Repr

def SetupBlock.write (b : SetupBlock) : String :=
  Block.header b.addComments (b.componentName ++ ".vue setup") b.aliases
    ++ Block.interface b.interfaceName b.fields
    ++ "const props = withDefaults(defineProps<" ++ b.interfaceName ++ ">(), \x7b\n"
    ++ Block.indentedLines b.defaults
    ++ "\x7d)"

/-- A single call that lists the props; `nameLiteral` is the component's name as source text. -/
structure OptionsBlock where
  addComments : Bool
  componentName : String
  nameLiteral : String
  aliases : List Alias
  props : List OptionsProp
  deriving DecidableEq, Repr

def OptionsProp.write (p : OptionsProp) : String :=
  "    " ++ p.name ++ ": \x7b\n      type: " ++ p.type ++ ",\n"
    ++ (match p.default with
      | some value => "      default: " ++ value ++ ",\n"
      | none => "")
    ++ "    \x7d,\n"

def OptionsBlock.write (b : OptionsBlock) : String :=
  Block.header b.addComments (b.componentName ++ " Component") b.aliases
    ++ "defineComponent(\x7b\n  name: " ++ b.nameLiteral ++ ",\n  props: \x7b\n"
    ++ String.join (b.props.map OptionsProp.write)
    ++ "  \x7d,\n\x7d)"

namespace Generator

def interfaceName (name : String) : String := name ++ "Props"

def stubBlock (g : Generator) (name : String) (ps : Declared) : StubBlock where
  addComments := g.config.addComments.truthy
  componentName := name
  interfaceName := interfaceName name
  aliases := aliases (interfaceName name) ps
  fields := fields g.target (interfaceName name) ps
  inputs := g.inputs ps

def setupBlock (g : Generator) (name : String) (ps : Declared) : SetupBlock where
  addComments := g.config.addComments.truthy
  componentName := name
  interfaceName := interfaceName name
  aliases := aliases (interfaceName name) ps
  fields := fields g.target (interfaceName name) ps
  defaults := g.defaultEntries ps

def optionsBlock (g : Generator) (name : String) (ps : Declared) : OptionsBlock where
  addComments := g.config.addComments.truthy
  componentName := name
  nameLiteral := Json.stringLiteral name
  aliases := aliases name ps
  props := g.optionsProps name ps

end Generator

end DesignProps
