import DesignProps.Text.Printable

/-!
# Quoted text

Messages show a text between quotes, with escapes for what would not be seen: single quotes, unless the text holds
a single quote and no double one.

Main statement: `escapeChar_ne_nil` (no character disappears).
-/

set_option autoImplicit false

namespace DesignProps.Text

def hexDigits (width n : Nat) : List Char :=
  let digits := Nat.toDigits 16 n
  List.replicate (width - digits.length) '0' ++ digits

/-- How one character stands inside quotes. -/
def escapeChar (quote c : Char) : List Char :=
  if c = quote ∨ c = '\\' then ['\\', c]
  else if c = '\n' then ['\\', 'n']
  else if c = '\r' then ['\\', 'r']
  else if c = '\t' then ['\\', 't']
  else if isPrintable c then [c]
  else if c.toNat < 0x100 then '\\' :: 'x' :: hexDigits 2 c.toNat
  else if c.toNat < 0x10000 then '\\' :: 'u' :: hexDigits 4 c.toNat
  else '\\' :: 'U' :: hexDigits 8 c.toNat

def quoteFor (cs : List Char) : Char :=
  if cs.contains '\'' && !cs.contains '"' then '"' else '\''

def quoted (s : String) : String :=
  let quote := quoteFor s.toList
  String.ofList (quote :: s.toList.flatMap (escapeChar quote) ++ [quote])

theorem escapeChar_ne_nil (quote c : Char) : escapeChar quote c ≠ [] := by
  unfold escapeChar
  repeat' split
  all_goals simp

end DesignProps.Text
