import DesignProps.Binary64.Shortest

/-!
# Numbers

An integer of any size or a double.  A whole double is written like the integer it equals.

Main statements: `eqv_comm`, `eqv_iff` (numbers are equal when they stand at the same place), `text_int`.
-/

set_option autoImplicit false

namespace DesignProps

inductive Number
  | int (n : Int)
  | float (x : Binary64)
  deriving DecidableEq, Repr

/-- Digits of an integer, with a sign in front if it is negative. -/
def intChars (n : Int) : List Char :=
  (if n < 0 then ['-'] else []) ++ Nat.toDigits 10 n.natAbs

def intText (n : Int) : String := String.ofList (intChars n)

/-- The longest digit string that is turned into an integer. -/
def digitLimit : Nat := 4300

/-- A digit string beyond the limit. -/
structure TooManyDigits where
  count : Nat
  deriving DecidableEq, Repr

def TooManyDigits.message (e : TooManyDigits) : String :=
  "Exceeds the limit (" ++ Nat.repr digitLimit ++ " digits) for integer string conversion: value has "
    ++ Nat.repr e.count ++ " digits; use sys.set_int_max_str_digits() to increase the limit"

namespace Number

/-- Equality of values, without rounding an integer to a double. -/
def eqv : Number → Number → Bool
  | .int a, .int b => a == b
  | .int a, .float x => x.eqvInt a
  | .float x, .int a => x.eqvInt a
  | .float x, .float y => x.eqv y

def isZero : Number → Bool
  | .int n => n == 0
  | .float x => x.isZero

/-- Where a number stands among all numbers, in the order of pairs; `nan` comes last. -/
def standing : Number → Int × Int
  | .float (.infinite true) => (-1, 0)
  | .float (.infinite false) => (1, 0)
  | .float .nan => (2, 0)
  | .float (.finite negative m q) => (0, (Binary64.finite negative m q).units)
  | .int n => (0, n * Binary64.unitsPerOne)

def precedes (a b : Number) : Bool :=
  a.standing.1 < b.standing.1 || (a.standing.1 == b.standing.1 && a.standing.2 < b.standing.2)

/-- The written form in generated code: a whole double loses its point. -/
def text : Number → String
  | .int n => intText n
  | .float x =>
      match x.toInt? with
      | some n => intText n
      | none => x.text

/-- The written form that keeps doubles and integers apart. -/
def exactText : Number → String
  | .int n => intText n
  | .float x => x.text

theorem eqv_comm (a b : Number) : a.eqv b = b.eqv a := by
  cases a <;> cases b <;> simp only [eqv, Bool.beq_comm, Binary64.eqv_comm]

theorem eqv_iff (a b : Number) : a.eqv b = true ↔ a.standing = b.standing ∧ a ≠ .float .nan := by
  have scaled (m n : Int) : m * Binary64.unitsPerOne = n * Binary64.unitsPerOne ↔ m = n :=
    Int.mul_eq_mul_right_iff Binary64.unitsPerOne_ne_zero
  rcases a with m | (x | (_ | _) | _) <;> rcases b with n | (y | (_ | _) | _) <;>
    simp only [eqv, standing, Binary64.eqv, Binary64.eqvInt, beq_iff_eq, scaled, Prod.mk.injEq, true_and] <;>
    simp
  exact eq_comm

@[simp] theorem text_int (n : Int) : text (.int n) = intText n := rfl

end Number

end DesignProps
