import DesignProps.Number
import DesignProps.Text.Digit

/-!
# Number literals

A literal is an optional sign, digits with at most one point and at least one digit beside it, and an optional
exponent; one line feed may end it.  Digits are decimal digits of any script.  `ofChars?` takes a text apart and
`toNumber` gives its value: an integer when it is written with digits alone.

Main statements: `isInteger_iff`, `toNumber_error_iff` (only an integer of too many digits has no value).
-/

set_option autoImplicit false

namespace DesignProps

/-- The parts of a literal; digits are given by their values. -/
structure NumberLiteral where
  negative : Bool
  whole : List Nat
  fraction : Option (List Nat)
  exponent : Option (Bool × List Nat)
  deriving DecidableEq, Repr

namespace NumberLiteral

/-- The leading digits, as values, and the text after them. -/
def digits : List Char → List Nat × List Char
  | [] => ([], [])
  | c :: rest =>
      match Text.digitValue? c with
      | none => ([], c :: rest)
      | some v =>
          let (vs, after) := digits rest
          (v :: vs, after)

def sign : List Char → Bool × List Char
  | '-' :: rest => (true, rest)
  | '+' :: rest => (false, rest)
  | rest => (false, rest)

/-- Digits after a point. -/
def fractionPart : List Char → Option (List Nat) × List Char
  | '.' :: rest =>
      let (vs, after) := digits rest
      (some vs, after)
  | rest => (none, rest)

def isMark (c : Char) : Bool := c == 'e' || c == 'E'

/-- An exponent that fills the text, or nothing; one line feed may end either. -/
def exponentPart : List Char → Option (Option (Bool × List Nat))
  | [] => some none
  | ['\n'] => some none
  | c :: rest =>
      if isMark c then
        let (negative, after) := sign rest
        match digits after with
        | (v :: vs, []) => some (some (negative, v :: vs))
        | (v :: vs, ['\n']) => some (some (negative, v :: vs))
        | _ => none
      else none

def ofChars? (cs : List Char) : Option NumberLiteral :=
  let (negative, unsigned) := sign cs
  let (whole, afterWhole) := digits unsigned
  let (fraction, afterFraction) := fractionPart afterWhole
  if whole.isEmpty && (fraction.getD []).isEmpty then none
  else (exponentPart afterFraction).map fun exponent => ⟨negative, whole, fraction, exponent⟩

def ofText? (s : String) : Option NumberLiteral := ofChars? s.toList

/-! ## Value -/

def digitsValue (vs : List Nat) : Nat := vs.foldl (fun acc v => acc * 10 + v) 0

def isInteger (l : NumberLiteral) : Bool := l.fraction.isNone && l.exponent.isNone

def exponentValue (l : NumberLiteral) : Int :=
  match l.exponent with
  | some (negative, vs) => Binary64.signed negative (digitsValue vs)
  | none => 0

def toDouble (l : NumberLiteral) : Binary64 :=
  let fraction := l.fraction.getD []
  Binary64.ofDecimal l.negative (digitsValue (l.whole ++ fraction)) (l.exponentValue - fraction.length)

def toNumber (l : NumberLiteral) : Except TooManyDigits Number :=
  if l.isInteger then
    if digitLimit < l.whole.length then .error ⟨l.whole.length⟩
    else .ok (.int (Binary64.signed l.negative (digitsValue l.whole)))
  else .ok (.float l.toDouble)

theorem isInteger_iff (l : NumberLiteral) : l.isInteger = true ↔ l.fraction = none ∧ l.exponent = none := by
  simp [isInteger]

theorem toNumber_error_iff (l : NumberLiteral) (e : TooManyDigits) :
    l.toNumber = .error e ↔ l.isInteger = true ∧ digitLimit < l.whole.length ∧ e = ⟨l.whole.length⟩ := by
  unfold toNumber
  by_cases int : l.isInteger = true
  · by_cases long : digitLimit < l.whole.length
    · simp [int, long, eq_comm]
    · simp [int, long]
  · simp [int]

end NumberLiteral

end DesignProps
