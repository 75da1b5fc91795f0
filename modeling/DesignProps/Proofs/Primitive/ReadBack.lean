import DesignProps.Proofs.Number.Written

/-!
# Numbers that are read back

Generated code holds the numbers that texts were read as.  The literal of a number is a number again, and an equal one, as
long as the number is finite: integers in any number of digits that can be read, and doubles.  A text with a point or an
exponent that lies beyond the doubles is recognised as a number as well, but its number is infinite, which has no literal.

Main statements: `Coercion.asNumber_text`, `Coercion.literal_read_back`.
-/

set_option autoImplicit false

namespace DesignProps

namespace Binary64

theorem signed_mul (negative : Bool) (a b : Nat) : signed negative (a * b) = signed negative a * b := by
  cases negative <;> simp [signed]

theorem pow_two_add (a b : Nat) : Nat.pow 2 (a + b) = Nat.pow 2 a * Nat.pow 2 b := Nat.pow_add 2 a b

/-- A whole double equals its integer. -/
theorem eqvInt_of_toInt? {x : Binary64} (canonical : x.Canonical) {n : Int} (whole : x.toInt? = some n) :
    x.eqvInt n = true := by
  cases x with
  | finite negative m q =>
      obtain ⟨-, least, -⟩ := canonical
      simp only [toInt?] at whole
      rw [eqvInt, units, beq_iff_eq]
      split at whole
      · next above =>
          obtain rfl := Option.some.inj whole
          have exponent : (q + 1074).toNat = q.toNat + 1074 := by omega
          rw [exponent]
          unfold unitsPerOne
          generalize 1074 = scale
          rw [pow_two_add, ← Nat.mul_assoc, signed_mul]
      · split at whole
        · next below divides =>
            obtain rfl := Option.some.inj whole
            -- the bits behind the point and the units of the last one make a whole
            have exponent : 1074 = (-q).toNat + (q + 1074).toNat := by omega
            have count : m / Nat.pow 2 (-q).toNat * Nat.pow 2 (-q).toNat = m :=
              Nat.div_mul_cancel (Nat.dvd_of_mod_eq_zero divides)
            rw [unitsPerOne, exponent, pow_two_add, ← signed_mul, ← Nat.mul_assoc, count]
        · cases whole
  | _ => simp [toInt?] at whole

end Binary64

/-- A number with a literal: an integer that is not too long, or a finite double. -/
def Number.Fits : Number → Prop
  | .int n => (Nat.toDigits 10 n.natAbs).length ≤ digitLimit
  | .float x => x.Canonical ∧ x.isFinite = true

namespace Coercion

open NumberLiteral

theorem asNumber_of_read {s : String} {l : NumberLiteral} (read : ofText? s = some l)
    (few : l.isInteger = true → l.whole.length ≤ digitLimit) : isNumber s = true ∧ asNumber s = .ok l.value := by
  refine ⟨by simp [isNumber, read], (asNumber_eq_ok_iff read _).2 ⟨(isShort_iff s).2 fun k same => ?_, rfl⟩⟩
  rw [read] at same
  obtain rfl := Option.some.inj same
  exact few

theorem asNumber_intText {n : Int} (few : (Nat.toDigits 10 n.natAbs).length ≤ digitLimit) :
    isNumber (intText n) = true ∧ asNumber (intText n) = .ok (.int n) := by
  obtain ⟨l, read, -, count, value⟩ := ofChars?_intChars n
  have read' : ofText? (intText n) = some l := by rw [ofText?, intText, String.toList_ofList, read]
  rw [← value]
  exact asNumber_of_read read' fun _ => count ▸ few

theorem asNumber_doubleText {negative : Bool} {m : Nat} {q : Int} (canonical : (Binary64.finite negative m q).Canonical)
    (broken : (Binary64.finite negative m q).toInt? = none) :
    isNumber (Binary64.finite negative m q).text = true ∧
      asNumber (Binary64.finite negative m q).text = .ok (.float (.finite negative m q)) := by
  have nonzero : m ≠ 0 := by
    rintro rfl
    simp [Binary64.toInt?] at broken
  obtain ⟨l, read, pointed, value⟩ := Binary64.denotes_chars canonical nonzero
  have read' : ofText? (Binary64.finite negative m q).text = some l := by
    rw [ofText?, Binary64.text, String.toList_ofList, read]
  rw [← value]
  exact asNumber_of_read read' fun integer => by simp [pointed] at integer

/-- Numbers are read back from their texts. -/
theorem asNumber_text {n : Number} (fits : n.Fits) :
    isNumber n.text = true ∧ ∃ k, asNumber n.text = .ok k ∧ k.eqv n = true := by
  cases n with
  | int n =>
      obtain ⟨number, read⟩ := asNumber_intText fits
      exact ⟨number, .int n, read, by simp [Number.eqv]⟩
  | float x =>
      obtain ⟨canonical, finite⟩ := fits
      rw [Number.text]
      cases whole : x.toInt? with
      | some n =>
          obtain ⟨number, read⟩ := asNumber_intText (Binary64.digits_of_toInt? canonical whole)
          exact ⟨number, .int n, read, Binary64.eqvInt_of_toInt? canonical whole⟩
      | none =>
          cases x with
          | finite negative m q =>
              obtain ⟨number, read⟩ := asNumber_doubleText canonical whole
              exact ⟨number, _, read, by simp [Number.eqv, Binary64.eqv]⟩
          | _ => simp [Binary64.isFinite] at finite

end Coercion

/-! ## Numbers of texts -/

namespace NumberLiteral

/-- Integers, and literals with a point or an exponent below the bound of the doubles. -/
def InRange (l : NumberLiteral) : Prop := l.isInteger = true ∨ l.decimal.value < Binary64.overflow

theorem digits_lt (cs : List Char) : ∀ v ∈ (digits cs).1, v < 10 := by
  induction cs with
  | nil => simp [digits]
  | cons c rest ih =>
      cases value : Text.digitValue? c with
      | none => simp [digits, value]
      | some v =>
          simp only [digits, value]
          exact List.forall_mem_cons.2 ⟨Text.digitValue?_lt value, ih⟩

theorem foldl_digits_lt {vs : List Nat} (small : ∀ v ∈ vs, v < 10) : ∀ acc : Nat,
    vs.foldl (fun acc v => acc * 10 + v) acc < (acc + 1) * 10 ^ vs.length := by
  induction vs with
  | nil => simp
  | cons v vs ih =>
      intro acc
      obtain ⟨digit, others⟩ := List.forall_mem_cons.1 small
      calc
        vs.foldl (fun acc v => acc * 10 + v) (acc * 10 + v) < (acc * 10 + v + 1) * 10 ^ vs.length := ih others _
        _ ≤ (acc + 1) * 10 * 10 ^ vs.length := Nat.mul_le_mul_right _ (by omega)
        _ = (acc + 1) * 10 ^ (v :: vs).length := by rw [List.length_cons, pow_succ', Nat.mul_assoc]

theorem digitsValue_lt {vs : List Nat} (small : ∀ v ∈ vs, v < 10) : digitsValue vs < 10 ^ vs.length := by
  simpa [digitsValue] using foldl_digits_lt small 0

theorem whole_lt {cs : List Char} {l : NumberLiteral} (read : ofChars? cs = some l) : ∀ v ∈ l.whole, v < 10 := by
  unfold ofChars? at read
  dsimp only at read
  split at read
  · cases read
  · obtain ⟨exponent, -, rfl⟩ := Option.map_eq_some_iff.1 read
    exact digits_lt _

theorem value_nonneg (l : NumberLiteral) : 0 ≤ l.decimal.value :=
  mul_nonneg (Nat.cast_nonneg _) (Binary64.ten_zpow_pos _).le

theorem fits_value {cs : List Char} {l : NumberLiteral} (read : ofChars? cs = some l)
    (few : l.isInteger = true → l.whole.length ≤ digitLimit) (inRange : l.InRange) : l.value.Fits := by
  unfold value
  split
  · next integer =>
      have small : digitsValue l.whole < 10 ^ digitLimit :=
        (digitsValue_lt (whole_lt read)).trans_le (Nat.pow_le_pow_right (by decide) (few integer))
      rw [Number.Fits, Binary64.natAbs_signed]
      exact (Nat.length_toDigits_le_iff (by decide) (by decide)).2 small
  · next broken =>
      have small := inRange.resolve_left broken
      rw [toDouble_eq_rounded]
      exact ⟨Binary64.canonical_rounded _ l.value_nonneg, (Binary64.isFinite_rounded_iff _ l.value_nonneg).2 small⟩

theorem value_of_not_inRange {l : NumberLiteral} (beyond : ¬ l.InRange) :
    l.value = .float (.infinite l.negative) := by
  rw [InRange, not_or, not_lt] at beyond
  rw [value, if_neg beyond.1, toDouble_eq_rounded, Binary64.rounded_eq_infinite _ beyond.2]

end NumberLiteral

namespace Coercion

open NumberLiteral

/-- The literal of a text's number is a number again, and an equal one, exactly if the text is an integer or lies within the
doubles. -/
theorem literal_read_back {s : String} (number : isNumber s = true) (short : isShort s = true) :
    ∃ l n, ofText? s = some l ∧ asNumber s = .ok n ∧
      (l.InRange → isNumber (Primitive.number n).literal = true ∧
        ∃ k, asNumber (Primitive.number n).literal = .ok k ∧ k.eqv n = true) ∧
      (¬ l.InRange → isNumber (Primitive.number n).literal = false) := by
  obtain ⟨l, read⟩ := Option.isSome_iff_exists.1 number
  have few := (isShort_iff s).1 short l read
  refine ⟨l, l.value, read, (asNumber_of_read read few).2, fun inRange => asNumber_text (fits_value read few inRange),
    fun beyond => ?_⟩
  rw [value_of_not_inRange beyond]
  cases l.negative <;> decide

theorem literal_read_back_quarter : isNumber "2.50" = true ∧ isShort "2.50" = true ∧
    ∃ n, asNumber "2.50" = .ok n ∧ isNumber (Primitive.number n).literal = true ∧
      ∃ k, asNumber (Primitive.number n).literal = .ok k ∧ k.eqv n = true := by
  have number : isNumber "2.50" = true := by decide
  have short : isShort "2.50" = true := by decide
  obtain ⟨l, n, read, counted, back, -⟩ := literal_read_back number short
  have inRange : l.InRange := by
    obtain rfl : (⟨false, [2], some [5, 0], none⟩ : NumberLiteral) = l := by
      have literal : ofText? "2.50" = some ⟨false, [2], some [5, 0], none⟩ := by decide
      rw [literal] at read
      exact Option.some.inj read
    refine .inr (Binary64.lt_overflow_of_unit (q := 0) (by decide) ?_)
    norm_num [decimal, Decimal.value, digitsValue, exponentValue]
  exact ⟨number, short, n, counted, back inRange⟩

/-- A number beyond the doubles has no literal. -/
theorem endless_literal : isNumber "1e999" = true ∧ asNumber "1e999" = .ok (.float (.infinite false)) ∧
    (Primitive.number (.float (.infinite false))).literal = "inf" ∧ isNumber "inf" = false :=
  ⟨by decide, by rfl, by decide, by decide⟩

end Coercion

end DesignProps
