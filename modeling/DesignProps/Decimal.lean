/-!
# Decimals and their layout

A `Decimal` is `digits · 10 ^ exponent`.  `Decimal.chars` writes it without superfluous zeros, with a point inside the
positional range of the layout and with one leading digit and a signed exponent outside of it.

Main statement: `dropTrailingZeros_append_zeros` (only zeros are superfluous).
-/

set_option autoImplicit false

namespace DesignProps

/-- The decimal `digits · 10 ^ exponent`. -/
structure Decimal where
  digits : Nat
  exponent : Int
  deriving DecidableEq, Repr

namespace Decimal

/-- Where positional writing begins and ends, and the least width of an exponent. -/
structure Layout where
  leastPositional : Int
  firstExponential : Int
  exponentWidth : Nat

def zeros (n : Nat) : List Char := List.replicate n '0'

def dropTrailingZeros : List Char → List Char
  | [] => []
  | c :: rest =>
      let kept := dropTrailingZeros rest
      if kept.isEmpty && c == '0' then [] else c :: kept

def padLeft (width : Nat) (digits : List Char) : List Char := zeros (width - digits.length) ++ digits

/-- One digit, the other digits after a point, and the exponent with its sign. -/
def exponential (l : Layout) (digits : List Char) (order : Int) : List Char :=
  let fraction := digits.drop 1
  digits.take 1 ++ (if fraction.isEmpty then [] else '.' :: fraction)
    ++ ['e', if order < 0 then '-' else '+']
    ++ padLeft l.exponentWidth (Nat.toDigits 10 order.natAbs)

/-- Digits around a point; a whole number keeps a zero after it. -/
def positional (digits : List Char) (order : Int) : List Char :=
  if order < 0 then
    ['0', '.'] ++ zeros (-order - 1).toNat ++ digits
  else
    let whole := order.toNat + 1
    if digits.length ≤ whole then digits ++ zeros (whole - digits.length) ++ ['.', '0']
    else digits.take whole ++ '.' :: digits.drop whole

/-- The first digit stands for `10 ^ order`. -/
def chars (l : Layout) (d : Decimal) : List Char :=
  let all := Nat.toDigits 10 d.digits
  let order : Int := all.length - 1 + d.exponent
  let digits := dropTrailingZeros all
  if order < l.leastPositional || l.firstExponential ≤ order then exponential l digits order
  else positional digits order

theorem dropTrailingZeros_append_zeros (digits : List Char) : ∃ n, dropTrailingZeros digits ++ zeros n = digits := by
  induction digits with
  | nil => exact ⟨0, rfl⟩
  | cons c rest ih =>
      obtain ⟨n, kept⟩ := ih
      simp only [dropTrailingZeros]
      split
      · next h =>
          simp only [Bool.and_eq_true, List.isEmpty_iff, beq_iff_eq] at h
          rw [h.1, List.nil_append] at kept
          exact ⟨n + 1, by rw [h.2, ← kept]; rfl⟩
      · exact ⟨n, by rw [List.cons_append, kept]⟩

end Decimal

end DesignProps
