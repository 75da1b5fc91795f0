import DesignProps.Json.Basic

/-!
# Writing JSON

`write` puts a value on one line and `writeIndented` breaks lines by nesting.  Only quotes, backslashes and control
characters are escaped.

Main statement: `escape_of_plain` (other characters stand for themselves).
-/

set_option autoImplicit false

namespace DesignProps

namespace Json

def hexDigit (n : Nat) : Char := Nat.digitChar (n % 16)

def escape (c : Char) : List Char :=
  if c = '"' then ['\\', '"']
  else if c = '\\' then ['\\', '\\']
  else if c = '\n' then ['\\', 'n']
  else if c = '\r' then ['\\', 'r']
  else if c = '\t' then ['\\', 't']
  else if c.toNat = 0x08 then ['\\', 'b']
  else if c.toNat = 0x0C then ['\\', 'f']
  else if c.toNat < 0x20 then ['\\', 'u', '0', '0', hexDigit (c.toNat / 16), hexDigit c.toNat]
  else [c]

/-- A text as a JSON string literal. -/
def stringChars (s : String) : List Char := '"' :: s.toList.flatMap escape ++ ['"']

def stringLiteral (s : String) : String := String.ofList (stringChars s)

def floatText : Binary64 → String
  | .nan => "NaN"
  | .infinite false => "Infinity"
  | .infinite true => "-Infinity"
  | x => x.text

mutual

def write : Json → String
  | .null => "null"
  | .bool true => "true"
  | .bool false => "false"
  | .int n => intText n
  | .float x => floatText x
  | .str s => stringLiteral s
  | .arr items => "[" ++ String.intercalate ", " (writeItems items) ++ "]"
  | .obj members => "\x7b" ++ String.intercalate ", " (writeMembers members) ++ "\x7d"

def writeItems : List Json → List String
  | [] => []
  | v :: rest => write v :: writeItems rest

def writeMembers : List (String × Json) → List String
  | [] => []
  | (k, v) :: rest => (stringLiteral k ++ ": " ++ write v) :: writeMembers rest

end

/-! ## Indented form -/

def margin (depth : Nat) : String := String.ofList (List.replicate (2 * depth) ' ')

/-- Brackets around the written parts, each part on a line of its own. -/
def block (opening closing : String) (depth : Nat) (parts : List String) : String :=
  if parts.isEmpty then opening ++ closing
  else
    opening ++ "\n" ++ margin (depth + 1)
      ++ String.intercalate (",\n" ++ margin (depth + 1)) parts
      ++ "\n" ++ margin depth ++ closing

mutual

def indented (depth : Nat) : Json → String
  | .arr items => block "[" "]" depth (indentedItems (depth + 1) items)
  | .obj members => block "\x7b" "\x7d" depth (indentedMembers (depth + 1) members)
  | v => write v

def indentedItems (depth : Nat) : List Json → List String
  | [] => []
  | v :: rest => indented depth v :: indentedItems depth rest

def indentedMembers (depth : Nat) : List (String × Json) → List String
  | [] => []
  | (k, v) :: rest => (stringLiteral k ++ ": " ++ indented depth v) :: indentedMembers depth rest

end

/-- Nested values on lines of their own, two blanks further right for each level. -/
def writeIndented (v : Json) : String := indented 0 v

theorem escape_of_plain {c : Char} (visible : 0x20 ≤ c.toNat) (quote : c ≠ '"') (backslash : c ≠ '\\') :
    escape c = [c] := by
  unfold escape
  have newline : c ≠ '\n' := by rintro rfl; exact absurd visible (by decide)
  have ret : c ≠ '\r' := by rintro rfl; exact absurd visible (by decide)
  have tab : c ≠ '\t' := by rintro rfl; exact absurd visible (by decide)
  have low : ¬ c.toNat = 0x08 := by omega
  have feed : ¬ c.toNat = 0x0C := by omega
  have control : ¬ c.toNat < 0x20 := by omega
  simp only [if_neg quote, if_neg backslash, if_neg newline, if_neg ret, if_neg tab, if_neg low, if_neg feed,
    if_neg control]

end Json

end DesignProps
