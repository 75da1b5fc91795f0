import DesignProps.Number
import DesignProps.Json.Writer

/-!
# Primitive values

The value of a property: a boolean, a number or a text, or null where a model is put together by hand.

Main statements: `eqv_comm`, `eqv_bool` (a boolean equals only the same boolean).
-/

set_option autoImplicit false

namespace DesignProps

inductive Primitive
  | null
  | bool (b : Bool)
  | number (n : Number)
  | text (s : String)
  deriving DecidableEq, Repr

/-- Stands for a value that is not there. -/
def undefinedMarker : String := "undefined"

namespace Primitive

/-- Equality in which a boolean never equals a number. -/
def eqv : Primitive → Primitive → Bool
  | .null, .null => true
  | .bool a, .bool b => a == b
  | .number a, .number b => a.eqv b
  | .text a, .text b => a == b
  | _, _ => false

def truthy : Primitive → Bool
  | .null => false
  | .bool b => b
  | .number n => !n.isZero
  | .text s => s != ""

def isUndefined (v : Primitive) : Bool := v == .text undefinedMarker

/-- The value in running text, a text as it is. -/
def asText : Primitive → String
  | .null => "None"
  | .bool true => "True"
  | .bool false => "False"
  | .number n => n.exactText
  | .text s => s

def toJson : Primitive → Json
  | .null => .null
  | .bool b => .bool b
  | .number n => .ofNumber n
  | .text s => .str s

/-- The value as a literal of generated code; what is no boolean or number is a text. -/
def literal : Primitive → String
  | .null => Json.stringLiteral "None"
  | .bool true => "true"
  | .bool false => "false"
  | .number n => n.text
  | .text s => Json.stringLiteral s

theorem eqv_comm (a b : Primitive) : a.eqv b = b.eqv a := by
  cases a <;> cases b <;> simp only [eqv, Bool.beq_comm, Number.eqv_comm]

theorem eqv_bool (b : Bool) (v : Primitive) : eqv (.bool b) v = true ↔ v = .bool b := by
  cases v with
  | bool c => simpa [eqv] using eq_comm
  | _ => simp [eqv]

end Primitive

end DesignProps
