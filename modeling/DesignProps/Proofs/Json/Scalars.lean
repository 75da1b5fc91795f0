import DesignProps.Json.Reader
import DesignProps.Json.Writer
import DesignProps.Proofs.Number.Digits
import DesignProps.Proofs.Text.Utf8

/-!
# Reading written scalars

A text is read back from its escapes, and an integer from its digits, as long as the integer is short enough to be read
and what follows it does not go on with it.

Main statements: `Reader.charOfCode_inj`, `Reader.string_escaped`, `Reader.number_intChars`, `Reader.scalar_intChars`.
-/

set_option autoImplicit false

namespace DesignProps.Json.Reader

/-! ## Texts -/

theorem hexCode?_control : ∀ n < 0x20, hexCode? '0' '0' (hexDigit (n / 16)) (hexDigit n) = some n := by decide

theorem charOfCode_toNat (c : Char) : charOfCode c.toNat = c := by
  have valid : c.toNat.isValidChar := c.valid
  rw [charOfCode, if_pos valid, Char.ofNat_toNat]

theorem toNat_charOfCode {n : Nat} (short : n < 0x10000) :
    (charOfCode n).toNat = if n.isValidChar then n else n + 0x102000 := by
  unfold charOfCode
  split
  · next valid => exact Text.Utf8.toNat_ofNat valid
  · next lone =>
      have stands : (n + 0x102000).isValidChar := by
        simp only [Nat.isValidChar] at lone ⊢
        omega
      exact Text.Utf8.toNat_ofNat stands

/-- Codes of four digits are told apart by the characters they are read as, surrogates included. -/
theorem charOfCode_inj {a b : Nat} (first : a < 0x10000) (second : b < 0x10000) (same : charOfCode a = charOfCode b) :
    a = b := by
  have codes := congrArg Char.toNat same
  rw [toNat_charOfCode first, toNat_charOfCode second] at codes
  split at codes <;> split at codes <;> omega

/-- A control character is no surrogate. -/
theorem isHighSurrogate_control {n : Nat} (control : n < 0x20) : isHighSurrogate n = false := by
  simp only [isHighSurrogate, Bool.and_eq_false_iff, decide_eq_false_iff_not]
  omega

/-- An escape that something follows is read as its character. -/
theorem string_escape (opened fuel : Nat) (c next : Char) (tail : List Char) :
    string opened (fuel + 1) (escape c ++ next :: tail) = prepend c (string opened fuel (next :: tail)) := by
  unfold escape
  split
  · next same => subst same; simp [string, simpleEscape?]
  split
  · next same => subst same; simp [string, simpleEscape?]
  split
  · next same => subst same; simp [string, simpleEscape?]
  split
  · next same => subst same; simp [string, simpleEscape?]
  split
  · next same => subst same; simp [string, simpleEscape?]
  split
  · next same =>
      obtain rfl : c = '\x08' := Char.toNat_inj.1 same
      simp [string, simpleEscape?]
  split
  · next same =>
      obtain rfl : c = '\x0c' := Char.toNat_inj.1 same
      simp [string, simpleEscape?]
  split
  · next control =>
      have code := hexCode?_control c.toNat control
      simp [string, code, isHighSurrogate_control control, charOfCode_toNat]
  · next quote backslash _ _ _ _ _ control =>
      have visible : ¬ c.toNat ≤ 0x1F := by omega
      simp [string, quote, backslash, visible]

theorem string_escaped (opened : Nat) (rest : List Char) : ∀ (s : List Char) (fuel : Nat), s.length < fuel →
    string opened fuel (s.flatMap escape ++ '"' :: rest) = .ok (s, rest) := by
  intro s
  induction s with
  | nil =>
      intro fuel enough
      obtain ⟨more, rfl⟩ := Nat.exists_eq_add_one_of_ne_zero (Nat.ne_of_gt enough)
      simp [string]
  | cons c s ih =>
      intro fuel enough
      obtain ⟨more, rfl⟩ := Nat.exists_eq_add_one_of_ne_zero (Nat.ne_zero_of_lt enough)
      have later := ih more (by simpa using enough)
      obtain ⟨next, tail, parts⟩ : ∃ next tail, s.flatMap escape ++ '"' :: rest = next :: tail :=
        List.exists_cons_of_ne_nil (by simp)
      rw [List.flatMap_cons, List.append_assoc, parts, string_escape, ← parts, later]
      rfl

/-! ## Integers -/

/-- What follows a number does not go on with it. -/
def Stops (rest : List Char) : Prop :=
  ∀ c tail, rest = c :: tail → isDigit c = false ∧ c ≠ '.' ∧ c ≠ 'e' ∧ c ≠ 'E'

theorem fraction_of_stops {rest : List Char} (stops : Stops rest) : fraction rest = ([], rest) := by
  cases rest with
  | nil => rfl
  | cons c tail =>
      obtain ⟨-, point, -⟩ := stops c tail rfl
      unfold fraction
      split
      · next same => exact absurd (List.cons.inj same).1 point
      · rfl

theorem exponent_of_stops {rest : List Char} (stops : Stops rest) : exponent rest = (none, rest) := by
  cases rest with
  | nil => rfl
  | cons c tail =>
      obtain ⟨-, -, lower, upper⟩ := stops c tail rfl
      simp [exponent, lower, upper]

theorem span_of_stops {digits rest : List Char} (all : ∀ c ∈ digits, isDigit c = true) (stops : Stops rest) :
    span isDigit (digits ++ rest) = (digits, rest) := by
  have none : rest.takeWhile isDigit = [] ∧ rest.dropWhile isDigit = rest := by
    cases rest with
    | nil => exact ⟨rfl, rfl⟩
    | cons c tail =>
        obtain ⟨other, -⟩ := stops c tail rfl
        simp [other]
  rw [span, List.takeWhile_append_of_pos all, List.dropWhile_append_of_pos all, none.1, none.2, List.append_nil]

theorem isDigit_of_mem_toDigits {n : Nat} {c : Char} (inside : c ∈ Nat.toDigits 10 n) : isDigit c = true := by
  have digit := Nat.isDigit_of_mem_toDigits (by decide) (by decide) inside
  simpa [isDigit, Char.isDigit, Char.le_def] using digit

theorem digitsValue_toDigits (n : Nat) : digitsValue (Nat.toDigits 10 n) = n := by
  have value : Nat.ofDigitChars 10 (Nat.toDigits 10 n) 0 = n := Nat.ofDigitChars_toDigits (by decide) (by decide)
  rw [Nat.ofDigitChars_eq_foldl] at value
  simpa [digitsValue, Nat.mul_comm] using value

theorem wholeDigits_toDigits (n : Nat) {rest : List Char} (stops : Stops rest) :
    wholeDigits (Nat.toDigits 10 n ++ rest) = some (Nat.toDigits 10 n, rest) := by
  by_cases zero : n = 0
  · subst zero
    rfl
  · obtain ⟨c, tail, parts⟩ := List.exists_cons_of_ne_nil (Nat.toDigits_ne_nil (n := n) (b := 10))
    have digit : isDigit c = true := isDigit_of_mem_toDigits (n := n) (parts ▸ List.mem_cons_self)
    have first : c ≠ '0' := by
      have := Digits.head?_toDigits zero
      simpa [parts] using this
    have all : ∀ d ∈ c :: tail, isDigit d = true := fun d inside => isDigit_of_mem_toDigits (n := n) (parts ▸ inside)
    rw [parts]
    unfold wholeDigits
    split
    · next same => exact absurd (List.cons.inj same).1 first
    · next same =>
        obtain ⟨rfl, rfl⟩ := List.cons.inj same
        rw [if_pos digit]
        exact congrArg some (span_of_stops all stops)
    · next same => simp at same

theorem unsigned_toDigits (negative : Bool) {n : Nat} (few : (Nat.toDigits 10 n).length ≤ digitLimit)
    {rest : List Char} (stops : Stops rest) :
    unsigned negative (Nat.toDigits 10 n ++ rest) = some (.ok (.int (Binary64.signed negative n)), rest) := by
  have short : integer negative (Nat.toDigits 10 n) = .ok (.int (Binary64.signed negative n)) := by
    rw [integer, if_neg (Nat.not_lt.2 few), digitsValue_toDigits]
  simp only [unsigned, wholeDigits_toDigits n stops, fraction_of_stops stops, exponent_of_stops stops, short]

/-- The characters of an integer: a digit, perhaps after a sign. -/
theorem exists_digit (n : Int) : ∃ c tail, isDigit c = true ∧
    (intChars n = c :: tail ∨ intChars n = '-' :: c :: tail) ∧ Nat.toDigits 10 n.natAbs = c :: tail := by
  obtain ⟨c, tail, parts⟩ := List.exists_cons_of_ne_nil (Nat.toDigits_ne_nil (n := n.natAbs) (b := 10))
  have digit : isDigit c = true := isDigit_of_mem_toDigits (n := n.natAbs) (parts ▸ List.mem_cons_self)
  refine ⟨c, tail, digit, ?_, parts⟩
  unfold intChars
  split
  · exact .inr (by rw [parts]; rfl)
  · exact .inl (by rw [parts]; rfl)

theorem number_intChars {n : Int} (few : (Nat.toDigits 10 n.natAbs).length ≤ digitLimit) {rest : List Char}
    (stops : Stops rest) : number (intChars n ++ rest) = some (.ok (.int n), rest) := by
  unfold intChars
  split
  · next below =>
      have value : Binary64.signed true n.natAbs = n := by
        simp only [Binary64.signed, if_true]
        omega
      rw [List.append_assoc, List.singleton_append, number, unsigned_toDigits true few stops, value]
  · next above =>
      have value : Binary64.signed false n.natAbs = n := by
        simp only [Binary64.signed, Bool.false_eq_true, if_false]
        omega
      obtain ⟨c, tail, digit, -, parts⟩ := exists_digit n
      rw [List.nil_append]
      unfold number
      split
      · next same =>
          rw [parts, List.cons_append] at same
          obtain ⟨rfl, -⟩ := List.cons.inj same
          exact absurd digit (by decide)
      · rw [unsigned_toDigits false few stops, value]

/-- No word begins with a digit. -/
theorem word_of_digit {c : Char} (digit : isDigit c = true) (tail : List Char) :
    word (c :: tail) = none ∧ word ('-' :: c :: tail) = none := by
  have letters : 'n' ≠ c ∧ 't' ≠ c ∧ 'f' ≠ c ∧ 'N' ≠ c ∧ 'I' ≠ c ∧ '-' ≠ c := by
    refine ⟨?_, ?_, ?_, ?_, ?_, ?_⟩ <;> (rintro rfl; exact absurd digit (by decide))
  obtain ⟨n, t, f, nan, infinity, minus⟩ := letters
  simp [word, words, after?, n, t, f, nan, infinity, minus]

theorem scalar_intChars {n : Int} (few : (Nat.toDigits 10 n.natAbs).length ≤ digitLimit) {rest : List Char}
    (stops : Stops rest) : scalar (intChars n ++ rest) = .ok (.int n, rest) := by
  have noWord : word (intChars n ++ rest) = none := by
    obtain ⟨c, tail, digit, plain | signed, -⟩ := exists_digit n
    · rw [plain]
      exact (word_of_digit digit _).1
    · rw [signed]
      exact (word_of_digit digit _).2
  rw [scalar, noWord, number_intChars few stops]

theorem scalar_null (rest : List Char) : scalar ("null".toList ++ rest) = .ok (.null, rest) := by
  simp [scalar, word, words, after?]

theorem scalar_true (rest : List Char) : scalar ("true".toList ++ rest) = .ok (.bool true, rest) := by
  simp [scalar, word, words, after?]

theorem scalar_false (rest : List Char) : scalar ("false".toList ++ rest) = .ok (.bool false, rest) := by
  simp [scalar, word, words, after?]

end DesignProps.Json.Reader
