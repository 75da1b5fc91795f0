/-!
# Decimal digits

The decimal digits of every script: blocks of ten, each given by its zero.  Numbers in property values may be
written with any of them.

Main statement: `digitValue?_lt` (a digit stands for a number below ten).
-/

set_option autoImplicit false

namespace DesignProps.Text

def digitZeros : List Nat := [
  0x30, 0x660, 0x6F0, 0x7C0, 0x966, 0x9E6, 0xA66, 0xAE6, 0xB66, 0xBE6, 0xC66, 0xCE6, 0xD66, 0xDE6, 0xE50,
  0xED0, 0xF20, 0x1040, 0x1090, 0x17E0, 0x1810, 0x1946, 0x19D0, 0x1A80, 0x1A90, 0x1B50, 0x1BB0, 0x1C40, 0x1C50,
  0xA620, 0xA8D0, 0xA900, 0xA9D0, 0xA9F0, 0xAA50, 0xABF0, 0xFF10, 0x104A0, 0x10D30, 0x11066, 0x110F0, 0x11136,
  0x111D0, 0x112F0, 0x11450, 0x114D0, 0x11650, 0x116C0, 0x11730, 0x118E0, 0x11950, 0x11C50, 0x11D50, 0x11DA0,
  0x16A60, 0x16AC0, 0x16B50, 0x1D7CE, 0x1D7D8, 0x1D7E2, 0x1D7EC, 0x1D7F6, 0x1E140, 0x1E2F0, 0x1E950, 0x1FBF0]

/-- The number a character stands for, in the block of ten that holds it. -/
def digitIn (n : Nat) : List Nat → Option Nat
  | [] => none
  | first :: rest => if first ≤ n ∧ n < first + 10 then some (n - first) else digitIn n rest

def digitValue? (c : Char) : Option Nat := digitIn c.toNat digitZeros

def isDigit (c : Char) : Bool := (digitValue? c).isSome

theorem digitIn_lt (n v : Nat) : ∀ zeros : List Nat, digitIn n zeros = some v → v < 10 := by
  intro zeros
  induction zeros with
  | nil => simp [digitIn]
  | cons first rest ih =>
      intro h
      by_cases inside : first ≤ n ∧ n < first + 10
      · simp only [digitIn, if_pos inside, Option.some.injEq] at h
        omega
      · simp only [digitIn, if_neg inside] at h
        exact ih h

theorem digitValue?_lt {c : Char} {v : Nat} (h : digitValue? c = some v) : v < 10 :=
  digitIn_lt c.toNat v digitZeros h

end DesignProps.Text
