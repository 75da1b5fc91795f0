import DesignProps.Binary64.Basic

/-!
# The double nearest to a decimal

`nearest` rounds a positive quotient to 53 bits, a tie going to the even significand; `ofDecimal` applies it to
`digits · 10 ^ exponent`.  Decimals beyond the range of doubles are settled by their size alone, so that a huge
exponent costs nothing.

Main statement: `roundHalfEven_mul` (a whole quotient is kept).
-/

set_option autoImplicit false

namespace DesignProps

namespace Binary64

/-- The quotient to the nearest integer, halves to the even one. -/
def roundHalfEven (num den : Nat) : Nat :=
  let whole := num / den
  let twice := 2 * (num % den)
  if twice < den then whole
  else if den < twice then whole + 1
  else whole + whole % 2

/-- The power `k` with `2 ^ k ≤ num / den < 2 ^ (k + 1)`. -/
def binaryOrder (num den : Nat) : Int :=
  let k : Int := (Nat.log2 num : Int) - (Nat.log2 den : Int)
  if den * Nat.pow 2 k.toNat ≤ num * Nat.pow 2 (-k).toNat then k else k - 1

/-- The double nearest to `num / den`. -/
def nearest (negative : Bool) (num den : Nat) : Binary64 :=
  if num = 0 then zero negative
  else
    let q : Int := max (-1074) (binaryOrder num den - 52)
    let m := roundHalfEven (num * Nat.pow 2 (-q).toNat) (den * Nat.pow 2 q.toNat)
    if m = Nat.pow 2 53 then
      if 971 ≤ q then .infinite negative else .finite negative (Nat.pow 2 52) (q + 1)
    else if 971 < q then .infinite negative
    else .finite negative m q

def digitCount (n : Nat) : Nat := (Nat.toDigits 10 n).length

/-- The double nearest to `digits · 10 ^ exponent`. -/
def ofDecimal (negative : Bool) (digits : Nat) (exponent : Int) : Binary64 :=
  if digits = 0 then zero negative
  else
    let top : Int := digitCount digits + exponent
    if 310 < top then .infinite negative
    else if top < -330 then zero negative
    else nearest negative (digits * Nat.pow 10 exponent.toNat) (Nat.pow 10 (-exponent).toNat)

theorem roundHalfEven_mul (n : Nat) {den : Nat} (pos : 0 < den) : roundHalfEven (n * den) den = n := by
  simp [roundHalfEven, Nat.mul_div_cancel _ pos, pos]

end Binary64

end DesignProps
