import DesignProps.Json.Display
import DesignProps.Number.Literal
import DesignProps.Primitive

/-!
# Coercion

Raw values are loosely typed: a default may be a boolean, a number or a text.  `Json.canonicalText` turns any of
them into one text, and the conversions read that text: as a boolean, as a number, or with the precedence boolean,
number, text.

Main statements: `canonicalText_str`, `explicit_bool` (a boolean comes back from its text).
-/

set_option autoImplicit false

namespace DesignProps

/-- The text form of a raw value; an absent value has the undefined marker. -/
def Json.canonicalText : Json → String
  | .null => undefinedMarker
  | .bool true => "true"
  | .bool false => "false"
  | .int n => (Number.int n).text
  | .float x => (Number.float x).text
  | v => v.asText

namespace Coercion

def isBoolean (s : String) : Bool := s == "true" || s == "false"

def asBoolean (s : String) : Bool := s == "true"

def isNumber (s : String) : Bool := (NumberLiteral.ofText? s).isSome

/-- The number a text denotes, zero for other texts. -/
def asNumber (s : String) : Except TooManyDigits Number :=
  match NumberLiteral.ofText? s with
  | none => .ok (.int 0)
  | some l => l.toNumber

/-- A boolean if the text is one, else a number if it is one, else the text. -/
def explicit (s : String) : Except TooManyDigits Primitive :=
  if isBoolean s then .ok (.bool (asBoolean s))
  else if isNumber s then (asNumber s).map .number
  else .ok (.text s)

theorem canonicalText_str (s : String) : (Json.str s).canonicalText = s := rfl

theorem explicit_bool (b : Bool) : explicit (Json.bool b).canonicalText = .ok (.bool b) := by
  cases b <;> rfl

/-! ## Values that are no text

Only a text is recognised; any other value counts as zero and stays what it is. -/

def isNumberValue : Json → Bool
  | .str s => isNumber s
  | _ => false

def asNumberValue : Json → Except TooManyDigits Number
  | .str s => asNumber s
  | _ => .ok (.int 0)

def explicitValue : Json → Except TooManyDigits Json
  | .str s => (explicit s).map Primitive.toJson
  | v => .ok v

end Coercion

end DesignProps
