import DesignProps.Proofs.Binary64.Decimal
import DesignProps.Proofs.Number.Spelling
import DesignProps.Proofs.Number.Value

/-!
# Written numbers are literals

Integers and decimals are written in proper spellings of their values: where the point stands, whether there is an exponent
and which zeros are left away does not matter.  A finite double is therefore read back from its text.

Main statements: `NumberLiteral.ofChars?_intChars`, `Decimal.denotes_chars`, `Binary64.denotes_chars`.
-/

set_option autoImplicit false

namespace DesignProps

namespace NumberLiteral

/-! ## Values of plain digits -/

/-- The digits that numbers are written with. -/
def Plain (ds : List Char) : Prop := ∀ c ∈ ds, c.isDigit = true

theorem digitValue?_of_plain {c : Char} (plain : c.isDigit = true) : Text.digitValue? c = some (c.toNat - 48) := by
  simp only [Char.isDigit, Bool.and_eq_true, decide_eq_true_eq] at plain
  have low : 48 ≤ c.toNat := plain.1
  have high : c.toNat ≤ 57 := plain.2
  simp only [Text.digitValue?, Text.digitZeros, Text.digitIn]
  rw [if_pos (by omega)]

namespace Plain

theorem allDigits {ds : List Char} (plain : Plain ds) : AllDigits ds := by
  intro c inside
  simp [Text.isDigit, digitValue?_of_plain (plain c inside)]

theorem append {ds es : List Char} (first : Plain ds) (later : Plain es) : Plain (ds ++ es) :=
  List.forall_mem_append.2 ⟨first, later⟩

theorem toDigits (n : Nat) : Plain (Nat.toDigits 10 n) :=
  fun _ => Nat.isDigit_of_mem_toDigits (by decide) (by decide)

theorem zeros (n : Nat) : Plain (Decimal.zeros n) := by
  intro c inside
  rw [List.eq_of_mem_replicate inside]
  rfl

theorem padLeft (width n : Nat) : Plain (Decimal.padLeft width (Nat.toDigits 10 n)) := (zeros _).append (toDigits n)

theorem digitsValue {ds : List Char} (plain : Plain ds) :
    digitsValue (ds.map digitOf) = Nat.ofDigitChars 10 ds 0 := by
  have value : ∀ c ∈ ds, digitOf c = c.toNat - '0'.toNat := by
    intro c inside
    simp [digitOf, digitValue?_of_plain (plain c inside)]
  rw [List.map_congr_left value, NumberLiteral.digitsValue, List.foldl_map, Nat.ofDigitChars_eq_foldl]
  simp only [Nat.mul_comm]

end Plain

theorem ofDigitChars_append (ds es : List Char) :
    Nat.ofDigitChars 10 (ds ++ es) 0 = 10 ^ es.length * Nat.ofDigitChars 10 ds 0 + Nat.ofDigitChars 10 es 0 := by
  rw [Nat.ofDigitChars_append, Nat.ofDigitChars_eq_ofDigitChars_zero]

theorem ofDigitChars_zeros (n : Nat) : Nat.ofDigitChars 10 (Decimal.zeros n) 0 = 0 := by
  rw [Decimal.zeros, Nat.ofDigitChars_replicate_zero, Nat.mul_zero]

theorem ofDigitChars_zeros_append (n : Nat) (ds : List Char) :
    Nat.ofDigitChars 10 (Decimal.zeros n ++ ds) 0 = Nat.ofDigitChars 10 ds 0 := by
  rw [ofDigitChars_append, ofDigitChars_zeros, Nat.mul_zero, Nat.zero_add]

theorem ofDigitChars_append_zeros (ds : List Char) (n : Nat) :
    Nat.ofDigitChars 10 (ds ++ Decimal.zeros n) 0 = 10 ^ n * Nat.ofDigitChars 10 ds 0 := by
  rw [ofDigitChars_append, ofDigitChars_zeros, Nat.add_zero, Decimal.zeros, List.length_replicate]

theorem ofDigitChars_padLeft (width n : Nat) : Nat.ofDigitChars 10 (Decimal.padLeft width (Nat.toDigits 10 n)) 0 = n := by
  rw [Decimal.padLeft, ofDigitChars_zeros_append, Nat.ofDigitChars_ten_toDigits]

/-! ## Values of literals -/

/-- All digits of a literal, and the power of ten they count. -/
def decimal (l : NumberLiteral) : Decimal :=
  ⟨digitsValue (l.whole ++ l.fraction.getD []), l.exponentValue - (l.fraction.getD []).length⟩

theorem toDouble_eq_rounded (l : NumberLiteral) : l.toDouble = Binary64.rounded l.negative l.decimal.value :=
  Binary64.ofDecimal_eq_rounded l.negative _ _

theorem signed_natAbs (n : Int) : Binary64.signed (decide (n < 0)) n.natAbs = n := by
  by_cases negative : n < 0
  · simp only [Binary64.signed, negative, decide_true, if_true]
    omega
  · simp only [Binary64.signed, negative, decide_false, Bool.false_eq_true, if_false]
    omega

/-- A minus or nothing. -/
def minus (negative : Bool) : Option Bool := if negative then some true else none

theorem signChars_minus (negative : Bool) : signChars (minus negative) = if negative then ['-'] else [] := by
  cases negative <;> rfl

theorem signChars_some (negative : Bool) : signChars (some negative) = [if negative then '-' else '+'] := rfl

theorem minus_eq (negative : Bool) : (minus negative == some true) = negative := by
  cases negative <;> rfl

theorem ofChars?_intChars (n : Int) : ∃ l, ofChars? (intChars n) = some l ∧ l.isInteger = true ∧
    l.whole.length = (Nat.toDigits 10 n.natAbs).length ∧ l.value = .int n := by
  have plain := Plain.toDigits n.natAbs
  let s : Spelling := ⟨minus (n < 0), Nat.toDigits 10 n.natAbs, none, none, false⟩
  have proper : s.Proper := ⟨plain.allDigits, by simp [s], .inl Nat.toDigits_ne_nil, by simp [s]⟩
  have chars : s.chars = intChars n := by
    simp [s, Spelling.chars, intChars, signChars_minus, fractionChars, exponentChars, feedChars]
  have integer : s.literal.isInteger = true := rfl
  have sign : s.literal.negative = decide (n < 0) := minus_eq (n < 0)
  have value : digitsValue s.literal.whole = n.natAbs := plain.digitsValue.trans Nat.ofDigitChars_ten_toDigits
  refine ⟨s.literal, by rw [← chars, ofChars?_spelling proper], integer, List.length_map .., ?_⟩
  rw [NumberLiteral.value, if_pos integer, sign, value, signed_natAbs]

/-! ## Decimals -/

/-- A text that is a literal of a sign and a value, with a point or an exponent. -/
def Denotes (cs : List Char) (negative : Bool) (v : ℚ) : Prop :=
  ∃ l, ofChars? cs = some l ∧ l.isInteger = false ∧ l.negative = negative ∧ l.decimal.value = v

/-- Digits around a point. -/
theorem denotes_point (negative : Bool) {whole fraction : List Char} (nonempty : whole ≠ []) (plain : Plain whole)
    (later : Plain fraction) :
    Denotes ((if negative then ['-'] else []) ++ (whole ++ '.' :: fraction)) negative
      (Nat.ofDigitChars 10 (whole ++ fraction) 0 * 10 ^ (-(fraction.length : Int))) := by
  let s : Spelling := ⟨minus negative, whole, some fraction, none, false⟩
  have proper : s.Proper := ⟨plain.allDigits, by simpa [s] using later.allDigits, .inl nonempty, by simp [s]⟩
  have chars : s.chars = (if negative then ['-'] else []) ++ (whole ++ '.' :: fraction) := by
    simp [s, Spelling.chars, signChars_minus, fractionChars, exponentChars, feedChars]
  have value := (plain.append later).digitsValue
  rw [List.map_append] at value
  refine ⟨s.literal, by rw [← chars, ofChars?_spelling proper], rfl, minus_eq negative, ?_⟩
  simp [s, Spelling.literal, decimal, Decimal.value, exponentValue, value]

/-- One digit before the point, and an exponent. -/
theorem denotes_exponent (negative : Bool) {first : Char} {rest exponent : List Char} (plain : Plain (first :: rest))
    (order : Int) (nonempty : exponent ≠ []) (later : Plain exponent)
    (count : Nat.ofDigitChars 10 exponent 0 = order.natAbs) :
    Denotes ((if negative then ['-'] else []) ++
        (first :: (if rest.isEmpty then [] else '.' :: rest) ++ ['e', if order < 0 then '-' else '+'] ++ exponent)) negative
      (Nat.ofDigitChars 10 (first :: rest) 0 * 10 ^ (order - rest.length)) := by
  let fraction : Option (List Char) := if rest.isEmpty then none else some rest
  have digits : fraction.getD [] = rest ∧ ∀ ds ∈ fraction, ds = rest := by
    cases rest <;> simp [fraction]
  let s : Spelling := ⟨minus negative, [first], fraction, some ⟨'e', some (order < 0), exponent⟩, false⟩
  obtain ⟨single, others⟩ := List.forall_mem_cons.1 plain
  have proper : s.Proper :=
    { whole := Plain.allDigits (List.forall_mem_singleton.2 single)
      fraction := fun ds given => digits.2 ds given ▸ Plain.allDigits others
      nonempty := .inl (List.cons_ne_nil first [])
      exponent := by
        rintro e given
        obtain rfl := Option.some.inj given
        exact ⟨rfl, nonempty, later.allDigits⟩ }
  have chars : s.chars = (if negative then ['-'] else []) ++
      (first :: (if rest.isEmpty then [] else '.' :: rest) ++ ['e', if order < 0 then '-' else '+'] ++ exponent) := by
    cases rest <;> simp [s, fraction, Spelling.chars, signChars_minus, signChars_some, fractionChars, exponentChars, feedChars]
  have literalDigits : (s.literal.fraction.getD []) = rest.map digitOf := by
    cases rest <;> simp [s, fraction, Spelling.literal]
  have value := plain.digitsValue
  have order' : s.literal.exponentValue = order := by
    have read := later.digitsValue
    simp [s, Spelling.literal, exponentValue, read, count, signed_natAbs]
  refine ⟨s.literal, by rw [← chars, ofChars?_spelling proper], ?_, minus_eq negative, ?_⟩
  · simp [s, Spelling.literal, isInteger]
  · rw [decimal, Decimal.value, literalDigits, order', List.length_map]
    exact congrArg (fun n : Nat => (n : ℚ) * 10 ^ (order - rest.length)) value

end NumberLiteral

namespace Decimal

open NumberLiteral

theorem denotes_exponential (l : Layout) (negative : Bool) {digits : List Char} (nonempty : digits ≠ []) (plain : Plain digits)
    (order : Int) :
    Denotes ((if negative then ['-'] else []) ++ exponential l digits order) negative
      (Nat.ofDigitChars 10 digits 0 * 10 ^ (order + 1 - digits.length)) := by
  obtain ⟨first, rest, rfl⟩ := List.exists_cons_of_ne_nil nonempty
  have exponent : padLeft l.exponentWidth (Nat.toDigits 10 order.natAbs) ≠ [] := by
    simp [padLeft]
  have law := denotes_exponent negative plain order exponent (.padLeft _ _) (ofDigitChars_padLeft _ _)
  have count : order - rest.length = order + 1 - (first :: rest).length := by
    rw [List.length_cons]
    omega
  rw [← count]
  exact law

section Positional
variable (negative : Bool) {digits : List Char} (nonempty : digits ≠ []) (plain : Plain digits)
include plain

/-- Zeros between the point and the digits. -/
theorem denotes_below_one (k : Nat) :
    Denotes ((if negative then ['-'] else []) ++ (['0', '.'] ++ zeros k ++ digits)) negative
      (Nat.ofDigitChars 10 digits 0 * 10 ^ (-((k + digits.length : Nat) : Int))) := by
  have law := denotes_point negative (List.cons_ne_nil '0' []) (.zeros 1) ((Plain.zeros k).append plain)
  have value : Nat.ofDigitChars 10 (['0'] ++ (zeros k ++ digits)) 0 = Nat.ofDigitChars 10 digits 0 := by
    rw [show ['0'] = zeros 1 from rfl, ofDigitChars_zeros_append, ofDigitChars_zeros_append]
  have length : (zeros k ++ digits).length = k + digits.length := by
    rw [List.length_append, zeros, List.length_replicate]
  rw [value, length] at law
  simpa using law

include nonempty

/-- Zeros between the digits and the point. -/
theorem denotes_whole (k : Nat) :
    Denotes ((if negative then ['-'] else []) ++ (digits ++ zeros k ++ ['.', '0'])) negative
      (Nat.ofDigitChars 10 digits 0 * 10 ^ (k : Int)) := by
  have law := denotes_point negative (by simp [nonempty]) (plain.append (.zeros k)) (.zeros 1)
  have value : (Nat.ofDigitChars 10 (digits ++ zeros k ++ zeros 1) 0 : ℚ) * 10 ^ (-((zeros 1).length : Int)) =
      Nat.ofDigitChars 10 digits 0 * 10 ^ (k : Int) := by
    rw [ofDigitChars_append_zeros, ofDigitChars_append_zeros, zpow_natCast]
    simp [zeros]
    ring
  rw [value] at law
  simpa [zeros] using law

/-- The point between two digits. -/
theorem denotes_between {w : Nat} (positive : 0 < w) :
    Denotes ((if negative then ['-'] else []) ++ (digits.take w ++ '.' :: digits.drop w)) negative
      (Nat.ofDigitChars 10 digits 0 * 10 ^ (-((digits.length - w : Nat) : Int))) := by
  have some : digits.take w ≠ [] := by
    rw [Ne, List.take_eq_nil_iff, not_or]
    exact ⟨positive.ne', nonempty⟩
  have law := denotes_point negative some (fun c inside => plain c (List.mem_of_mem_take inside))
    (fun c inside => plain c (List.mem_of_mem_drop inside) : Plain (digits.drop w))
  rwa [List.take_append_drop, List.length_drop] at law

theorem denotes_positional (order : Int) :
    Denotes ((if negative then ['-'] else []) ++ positional digits order) negative
      (Nat.ofDigitChars 10 digits 0 * 10 ^ (order + 1 - digits.length)) := by
  have size := List.length_pos_iff.2 nonempty
  unfold positional
  dsimp only
  by_cases small : order < 0
  · have count : order + 1 - digits.length = -(((-order - 1).toNat + digits.length : Nat) : Int) := by omega
    rw [if_pos small, count]
    exact denotes_below_one negative plain _
  · rw [if_neg small]
    by_cases short : digits.length ≤ order.toNat + 1
    · have count : order + 1 - digits.length = ((order.toNat + 1 - digits.length : Nat) : Int) := by omega
      rw [if_pos short, count]
      exact denotes_whole negative nonempty plain _
    · have count : order + 1 - digits.length = -((digits.length - (order.toNat + 1) : Nat) : Int) := by omega
      rw [if_neg short, count]
      exact denotes_between negative nonempty plain (Nat.succ_pos _)

end Positional

theorem dropTrailingZeros_ne_nil {n : Nat} (nonzero : n ≠ 0) : dropTrailingZeros (Nat.toDigits 10 n) ≠ [] := by
  intro none
  obtain ⟨k, kept⟩ := dropTrailingZeros_append_zeros (Nat.toDigits 10 n)
  have value : Nat.ofDigitChars 10 (Nat.toDigits 10 n) 0 = n := Nat.ofDigitChars_ten_toDigits
  rw [← kept, none, List.nil_append, ofDigitChars_zeros] at value
  exact nonzero value.symm

/-- However a decimal is laid out, it is a literal of its value. -/
theorem denotes_chars (l : Layout) (negative : Bool) {d : Decimal} (nonzero : d.digits ≠ 0) :
    Denotes ((if negative then ['-'] else []) ++ chars l d) negative d.value := by
  obtain ⟨k, kept⟩ := dropTrailingZeros_append_zeros (Nat.toDigits 10 d.digits)
  have nonempty := dropTrailingZeros_ne_nil nonzero
  have all := Plain.toDigits d.digits
  have number : Nat.ofDigitChars 10 (Nat.toDigits 10 d.digits) 0 = d.digits := Nat.ofDigitChars_ten_toDigits
  unfold chars
  dsimp only
  generalize dropTrailingZeros (Nat.toDigits 10 d.digits) = digits at *
  rw [← kept] at number all ⊢
  have plain : Plain digits := fun c inside => all c (List.mem_append_left _ inside)
  generalize first : ((digits ++ zeros k).length : Int) - 1 + d.exponent = order
  have value : (Nat.ofDigitChars 10 digits 0 : ℚ) * 10 ^ (order + 1 - digits.length) = d.value := by
    have count : order + 1 - digits.length = (k : Int) + d.exponent := by
      rw [List.length_append, zeros, List.length_replicate] at first
      omega
    rw [ofDigitChars_append_zeros] at number
    rw [Decimal.value, ← number, count, zpow_add₀ (by norm_num), zpow_natCast]
    push_cast
    ring
  rw [← value]
  by_cases outside : (order < l.leastPositional || l.firstExponential ≤ order) = true
  · rw [if_pos outside]
    exact denotes_exponential l negative nonempty plain order
  · rw [if_neg outside]
    exact denotes_positional negative nonempty plain order

end Decimal

/-! ## Doubles -/

/-- A double that is not zero is a literal of its value. -/
theorem Binary64.denotes_chars {negative : Bool} {m : Nat} {q : Int} (canonical : (finite negative m q).Canonical)
    (nonzero : m ≠ 0) : ∃ l, NumberLiteral.ofChars? (finite negative m q).chars = some l ∧ l.isInteger = false ∧
      l.value = .float (finite negative m q) := by
  have back := ofDecimal_shortest canonical nonzero
  have digits : (shortest negative m q).digits ≠ 0 := by
    intro none
    rw [none] at back
    simp only [ofDecimal, if_true, zero, finite.injEq] at back
    exact nonzero back.2.1.symm
  obtain ⟨l, read, broken, sign, value⟩ := Decimal.denotes_chars layout negative digits
  refine ⟨l, ?_, broken, ?_⟩
  · rw [chars, if_neg nonzero]
    exact read
  · rw [NumberLiteral.value, if_neg (by simp [broken]), NumberLiteral.toDouble_eq_rounded, sign, value, Decimal.value,
      ← ofDecimal_eq_rounded, back]

end DesignProps
