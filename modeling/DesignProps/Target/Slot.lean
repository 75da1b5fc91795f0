import DesignProps.Target.Attribute
import DesignProps.Target.Indent

/-!
# Slots

Content that is passed as children.  A single text slot is plain text; of several, a target with named slots gives each
a labelled block, and the other one wraps the text.  A swapped instance may be passed as a labelled block too.

Main statements: `of_single` (a single slot is its text), `write_text`.
-/

set_option autoImplicit false

namespace DesignProps

inductive Slot
  | text (content : String)
  /-- Content in a block with the slot's name. -/
  | named (name content : String)
  deriving DecidableEq, Repr

namespace Slot

def isNamed : Slot → Bool
  | .named .. => true
  | .text _ => false

def write (width : Nat) : Slot → String
  | .text content => content
  | .named name content =>
      "<template v-slot:" ++ name ++ ">\n" ++ Indent.indent width content ++ "\n</template>"

/-- A slot's text in the slot element; an empty one closes itself. -/
def tagged (tag value : String) : String :=
  if value = "" then Attribute.selfClosing tag else Attribute.wrapped tag value

/-- One of `count` text slots; `isDefault` marks the only one where slots have names. -/
def of (target : Target) (tag : String) (key : Key) (count : Int) (isDefault : Bool) (value : String) : Slot :=
  match target with
  | .react => .text (if count = 1 then value else tagged tag value)
  | .vue =>
      if 1 < count ∧ isDefault = false then .named (Naming.identifier key) (tagged tag value)
      else .text (if isDefault then value else tagged tag value)

/-- A swapped instance as slot content, if its node is known. -/
def ofInstance (g : Generator) (key : Key) (id : String) : Option Slot :=
  match g.target with
  | .react => none
  | .vue => (g.resolvedName id).map fun name => .named (Naming.identifier key) (Attribute.selfClosing name)

theorem write_text (width : Nat) (content : String) : write width (.text content) = content := rfl

theorem of_single (target : Target) (tag : String) (key : Key) (value : String) : of target tag key 1 true value = .text value := by
  cases target <;> rfl

end Slot

end DesignProps
