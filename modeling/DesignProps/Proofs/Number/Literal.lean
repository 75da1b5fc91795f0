import DesignProps.Number.Literal
import Mathlib.Data.Nat.Digits.Defs

/-!
# Texts that are integers

An integer literal is a sign, digits, and perhaps one line feed, so a text with any other character is none, and the
literal has no more digits than its text.  The text of a double is an integer literal only if the double is whole, and
then it has far fewer digits than can be read.

Main statements: `NumberLiteral.chars_of_integer`, `Binary64.text_not_integer` (the text of a double that is not whole
is no integer), `Binary64.digits_of_toInt?`.
-/

set_option autoImplicit false

namespace DesignProps

namespace NumberLiteral

/-! ## Parts of an integer literal -/

theorem digits_append : ∀ cs : List Char, ∃ ds, cs = ds ++ (digits cs).2 ∧ (digits cs).1.length = ds.length ∧
    ∀ c ∈ ds, Text.isDigit c = true := by
  intro cs
  induction cs with
  | nil => exact ⟨[], rfl, rfl, by simp⟩
  | cons c rest ih =>
      obtain ⟨ds, parts, count, all⟩ := ih
      cases value : Text.digitValue? c with
      | none => exact ⟨[], by simp [digits, value], by simp [digits, value], by simp⟩
      | some v =>
          refine ⟨c :: ds, ?parts, ?count, List.forall_mem_cons.2 ⟨?first, all⟩⟩
          case parts =>
            simp only [digits, value, List.cons_append]
            exact congrArg (c :: ·) parts
          case count => simp [digits, value, count]
          case first => simp [Text.isDigit, value]

def isSign (c : Char) : Bool := c == '-' || c == '+'

theorem sign_append (cs : List Char) : ∃ front, cs = front ++ (sign cs).2 ∧ ∀ c ∈ front, isSign c = true := by
  unfold sign
  split
  · exact ⟨['-'], rfl, by simp [isSign]⟩
  · exact ⟨['+'], rfl, by simp [isSign]⟩
  · exact ⟨[], rfl, by simp⟩

/-- Without an exponent nothing is left but a line feed. -/
theorem exponentPart_none {cs : List Char} (absent : exponentPart cs = some none) : cs = [] ∨ cs = ['\n'] := by
  unfold exponentPart at absent
  split at absent
  · exact Or.inl rfl
  · exact Or.inr rfl
  · split at absent
    · dsimp only at absent
      split at absent <;> simp at absent
    · simp at absent

theorem fractionPart_none {cs : List Char} (absent : (fractionPart cs).1 = none) : (fractionPart cs).2 = cs := by
  unfold fractionPart at absent ⊢
  split at absent
  · simp at absent
  · next h => rfl

theorem chars_of_integer {cs : List Char} {l : NumberLiteral} (read : ofChars? cs = some l)
    (integer : l.isInteger = true) : ∃ front ds back, cs = front ++ (ds ++ back) ∧ (∀ c ∈ front, isSign c = true) ∧
      l.whole.length = ds.length ∧ (∀ c ∈ ds, Text.isDigit c = true) ∧ (back = [] ∨ back = ['\n']) := by
  obtain ⟨fraction, exponent⟩ := (isInteger_iff l).1 integer
  obtain ⟨front, signed, signs⟩ := sign_append cs
  obtain ⟨ds, parts, count, all⟩ := digits_append (sign cs).2
  unfold ofChars? at read
  dsimp only at read
  split at read
  · simp at read
  · obtain ⟨found, rest, rfl⟩ := Option.map_eq_some_iff.1 read
    dsimp only at fraction exponent
    rw [exponent, fractionPart_none fraction] at rest
    refine ⟨front, ds, (digits (sign cs).2).2, ?_, signs, count, all, exponentPart_none rest⟩
    rw [← parts, ← signed]

/-- The characters that an integer literal is made of. -/
def isIntegral (c : Char) : Bool := isSign c || Text.isDigit c || c == '\n'

theorem isInteger_eq_false_of_mem {cs : List Char} {l : NumberLiteral} (read : ofChars? cs = some l) {c : Char}
    (inside : c ∈ cs) (strange : isIntegral c = false) : l.isInteger = false := by
  refine Bool.eq_false_iff.2 fun integer => ?_
  obtain ⟨front, ds, back, rfl, signs, -, all, feed⟩ := chars_of_integer read integer
  simp only [isIntegral, Bool.or_eq_false_iff] at strange
  obtain ⟨⟨noSign, noDigit⟩, noFeed⟩ := strange
  rcases List.mem_append.1 inside with first | later
  · simp [signs c first] at noSign
  · rcases List.mem_append.1 later with digit | last
    · simp [all c digit] at noDigit
    · rcases feed with rfl | rfl
      · simp at last
      · simp [List.mem_singleton.1 last] at noFeed

theorem whole_length_le {cs : List Char} {l : NumberLiteral} (read : ofChars? cs = some l)
    (integer : l.isInteger = true) : l.whole.length ≤ cs.countP Text.isDigit := by
  obtain ⟨front, ds, back, rfl, -, count, all, -⟩ := chars_of_integer read integer
  have digits : ds.countP Text.isDigit = ds.length := List.countP_eq_length.2 all
  rw [count, List.countP_append, List.countP_append, digits]
  omega

theorem whole_length_le_of_intChars {n : Int} {l : NumberLiteral} (read : ofChars? (intChars n) = some l)
    (integer : l.isInteger = true) : l.whole.length ≤ (Nat.toDigits 10 n.natAbs).length := by
  have sign : (if n < 0 then ['-'] else []).countP Text.isDigit = 0 := by
    split <;> decide
  calc
    l.whole.length ≤ (intChars n).countP Text.isDigit := whole_length_le read integer
    _ = (Nat.toDigits 10 n.natAbs).countP Text.isDigit := by rw [intChars, List.countP_append, sign, Nat.zero_add]
    _ ≤ (Nat.toDigits 10 n.natAbs).length := List.countP_le_length

end NumberLiteral

/-! ## Texts of doubles -/

/-- A decimal is written with a point or with an exponent. -/
theorem Decimal.exists_mark (l : Layout) (d : Decimal) : '.' ∈ chars l d ∨ 'e' ∈ chars l d := by
  unfold chars
  dsimp only
  split
  · exact Or.inr (by simp [exponential])
  · refine Or.inl ?_
    unfold positional
    split
    · simp
    · dsimp only
      split
      · simp
      · simp

namespace Binary64

/-- The text of a double that is not whole has a character that no integer has. -/
theorem exists_strange {x : Binary64} (broken : x.toInt? = none) :
    ∃ c ∈ x.chars, NumberLiteral.isIntegral c = false := by
  cases x with
  | nan => exact ⟨'n', by simp [chars], by decide⟩
  | infinite negative => exact ⟨'n', by simp [chars], by decide⟩
  | finite negative m q =>
      have nonzero : m ≠ 0 := by
        rintro rfl
        simp [toInt?] at broken
      simp only [chars, nonzero, if_false, List.mem_append]
      rcases Decimal.exists_mark layout (shortest negative m q) with point | mark
      · exact ⟨'.', Or.inr point, by decide⟩
      · exact ⟨'e', Or.inr mark, by decide⟩

theorem text_not_integer {x : Binary64} (broken : x.toInt? = none) {l : NumberLiteral}
    (read : NumberLiteral.ofText? x.text = some l) : l.isInteger = false := by
  obtain ⟨c, inside, strange⟩ := exists_strange broken
  rw [NumberLiteral.ofText?, text, String.toList_ofList] at read
  exact NumberLiteral.isInteger_eq_false_of_mem read inside strange

theorem natAbs_signed (negative : Bool) (magnitude : Nat) : (signed negative magnitude).natAbs = magnitude := by
  cases negative <;> simp [signed]

/-- A whole double has at most its significand's bits and those of its exponent. -/
theorem natAbs_lt_of_toInt? {negative : Bool} {m : Nat} {q : Int} {bits top : Nat} (small : m < 2 ^ bits)
    (low : q ≤ top) {n : Int} (whole : (finite negative m q).toInt? = some n) : n.natAbs < 2 ^ (bits + top) := by
  simp only [toInt?] at whole
  split at whole
  · obtain rfl := Option.some.inj whole
    have exponent : q.toNat ≤ top := by omega
    rw [natAbs_signed, Nat.pow_add]
    calc
      m * 2 ^ q.toNat ≤ m * 2 ^ top := Nat.mul_le_mul_left m (Nat.pow_le_pow_right (by decide) exponent)
      _ < 2 ^ bits * 2 ^ top := Nat.mul_lt_mul_of_pos_right small (Nat.pow_pos (by decide))
  · split at whole
    · obtain rfl := Option.some.inj whole
      rw [natAbs_signed]
      calc
        m / 2 ^ (-q).toNat ≤ m := Nat.div_le_self m _
        _ < 2 ^ bits := small
        _ ≤ 2 ^ (bits + top) := Nat.pow_le_pow_right (by decide) (Nat.le_add_right bits top)
    · simp at whole

/-- It has no more digits than bits. -/
theorem length_toDigits_of_toInt? {negative : Bool} {m : Nat} {q : Int} {bits top : Nat} (held : 0 < bits)
    (small : m < 2 ^ bits) (low : q ≤ top) {n : Int} (whole : (finite negative m q).toInt? = some n) :
    (Nat.toDigits 10 n.natAbs).length ≤ bits + top := by
  refine Nat.toDigits_length 10 n.natAbs (bits + top) (by omega) ?_
  calc
    n.natAbs < 2 ^ (bits + top) := natAbs_lt_of_toInt? small low whole
    _ ≤ 10 ^ (bits + top) := Nat.pow_le_pow_left (by decide) (bits + top)

theorem digits_of_toInt? {x : Binary64} (canonical : x.Canonical) {n : Int} (whole : x.toInt? = some n) :
    (Nat.toDigits 10 n.natAbs).length ≤ digitLimit := by
  cases x with
  | finite negative m q =>
      obtain ⟨small, -, low, -⟩ := canonical
      exact Nat.le_trans (length_toDigits_of_toInt? (by decide) small low whole) (by decide)
  | _ => simp [toInt?] at whole

end Binary64

end DesignProps
