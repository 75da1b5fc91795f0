/-!
# Binary floating-point numbers

A double is held exactly: a finite one is `± significand · 2 ^ exponent`.  Values that arithmetic on doubles would
give are not needed here; numbers are only read, compared and written.

Main statements: `eqv_comm` and `eqv_self_iff` (comparison is symmetric, and reflexive but for `nan`).
-/

set_option autoImplicit false

namespace DesignProps

inductive Binary64
  | finite (negative : Bool) (significand : Nat) (exponent : Int)
  | infinite (negative : Bool)
  | nan
  deriving DecidableEq, Repr

namespace Binary64

def zero (negative : Bool) : Binary64 := .finite negative 0 (-1074)

/-- A finite double in its only written form: the significand fills its 53 bits unless the exponent is least. -/
def Canonical : Binary64 → Prop
  | .finite _ m q => m < Nat.pow 2 53 ∧ -1074 ≤ q ∧ q ≤ 971 ∧ (Nat.pow 2 52 ≤ m ∨ q = -1074)
  | _ => True

instance (x : Binary64) : Decidable x.Canonical := by
  cases x <;> unfold Canonical <;> infer_instance

def isFinite : Binary64 → Bool
  | .finite .. => true
  | _ => false

def isZero : Binary64 → Bool
  | .finite _ m _ => m == 0
  | _ => false

def signed (negative : Bool) (magnitude : Nat) : Int :=
  if negative then -(magnitude : Int) else magnitude

/-- The units in one. -/
def unitsPerOne : Int := Nat.pow 2 1074

theorem unitsPerOne_ne_zero : unitsPerOne ≠ 0 := by
  have pos : ∀ k, 0 < Nat.pow 2 k := fun k => Nat.pow_pos (by decide)
  exact Int.ne_of_gt (Int.natCast_pos.2 (pos 1074))

/-- The value in units of `2 ^ -1074`, of which every finite double is a whole number. -/
def units : Binary64 → Int
  | .finite negative m q => signed negative (m * Nat.pow 2 (q + 1074).toNat)
  | _ => 0

/-- The value as an integer, if it is one. -/
def toInt? : Binary64 → Option Int
  | .finite negative m q =>
      if 0 ≤ q then some (signed negative (m * Nat.pow 2 q.toNat))
      else if m % Nat.pow 2 (-q).toNat = 0 then some (signed negative (m / Nat.pow 2 (-q).toNat))
      else none
  | _ => none

/-! ## Comparison by value -/

/-- Equality of values: the two zeros are equal, and `nan` equals nothing. -/
def eqv : Binary64 → Binary64 → Bool
  | .finite a m q, .finite b n r => (finite a m q).units == (finite b n r).units
  | .infinite a, .infinite b => a == b
  | _, _ => false

/-- Equality with an integer, without rounding the integer. -/
def eqvInt (x : Binary64) (n : Int) : Bool :=
  match x with
  | .finite a m q => (finite a m q).units == n * unitsPerOne
  | _ => false

theorem eqv_comm (x y : Binary64) : x.eqv y = y.eqv x := by
  cases x <;> cases y <;> simp only [eqv, Bool.beq_comm]

theorem eqv_self_iff (x : Binary64) : x.eqv x = true ↔ x ≠ .nan := by
  cases x <;> simp [eqv]

end Binary64

end DesignProps
