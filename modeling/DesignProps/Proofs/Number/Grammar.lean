import DesignProps.Proofs.Number.Written
import Mathlib.Computability.Language

/-!
# The language of number literals

`literals` is the language of number literals, put together from its parts as a grammar puts it.  Its words are the texts that
can be spelled properly, and the reader finds a literal in these texts and in no others.

Main statements: `NumberLiteral.mem_literals_iff`, `NumberLiteral.isSome_ofChars?_iff`, `Coercion.numbers_recognised` (a
literal counts as the number it denotes, and any other text as zero).
-/

set_option autoImplicit false

namespace DesignProps

namespace NumberLiteral

open scoped Computability

/-! ## The language -/

/-- The words of one character. -/
def single (p : Char → Prop) : Language Char := {cs | ∃ c, p c ∧ cs = [c]}

/-- A decimal digit of any script. -/
def digit : Language Char := single fun c => Text.isDigit c = true

def optionalSign : Language Char := 1 + single fun c => c = '-' ∨ c = '+'

def point : Language Char := single (· = '.')

/-- Digits with or without a point, or a point and digits. -/
def significand : Language Char := digit * digit∗ * (1 + point * digit∗) + point * (digit * digit∗)

def optionalExponent : Language Char := 1 + (single fun c => c = 'e' ∨ c = 'E') * (optionalSign * (digit * digit∗))

def optionalFeed : Language Char := 1 + single (· = '\n')

def literals : Language Char := optionalSign * (significand * (optionalExponent * optionalFeed))

/-! ## Its words -/

theorem mem_single_mul_iff {p : Char → Prop} {l : Language Char} {cs : List Char} :
    cs ∈ single p * l ↔ ∃ c rest, p c ∧ rest ∈ l ∧ cs = c :: rest := by
  rw [Language.mem_mul]
  constructor
  · rintro ⟨_, ⟨c, holds, rfl⟩, rest, inside, rfl⟩
    exact ⟨c, rest, holds, inside, rfl⟩
  · rintro ⟨c, rest, holds, inside, rfl⟩
    exact ⟨[c], ⟨c, holds, rfl⟩, rest, inside, rfl⟩

theorem mem_digit_kstar_iff {ds : List Char} : ds ∈ digit∗ ↔ AllDigits ds := by
  rw [Language.mem_kstar]
  constructor
  · rintro ⟨words, rfl, each⟩ c inside
    obtain ⟨word, listed, inside⟩ := List.mem_flatten.1 inside
    obtain ⟨d, isDigit, rfl⟩ := each word listed
    rw [List.mem_singleton.1 inside]
    exact isDigit
  · intro all
    refine ⟨ds.map fun c => [c], by simp [← List.flatMap_def], fun word listed => ?_⟩
    obtain ⟨c, inside, rfl⟩ := List.mem_map.1 listed
    exact ⟨c, all c inside, rfl⟩

/-- One digit and more. -/
theorem mem_digits_iff {ds : List Char} : ds ∈ digit * digit∗ ↔ ds ≠ [] ∧ AllDigits ds := by
  rw [digit, mem_single_mul_iff]
  constructor
  · rintro ⟨c, rest, isDigit, others, rfl⟩
    exact ⟨List.cons_ne_nil c rest, List.forall_mem_cons.2 ⟨isDigit, mem_digit_kstar_iff.1 others⟩⟩
  · rintro ⟨nonempty, all⟩
    obtain ⟨c, rest, rfl⟩ := List.exists_cons_of_ne_nil nonempty
    obtain ⟨isDigit, others⟩ := List.forall_mem_cons.1 all
    exact ⟨c, rest, isDigit, mem_digit_kstar_iff.2 others, rfl⟩

theorem mem_optionalSign_iff {cs : List Char} : cs ∈ optionalSign ↔ ∃ given, cs = signChars given := by
  constructor
  · rintro (rfl | ⟨c, rfl | rfl, rfl⟩)
    · exact ⟨none, rfl⟩
    · exact ⟨some true, rfl⟩
    · exact ⟨some false, rfl⟩
  · rintro ⟨_ | _ | _, rfl⟩
    · exact .inl rfl
    · exact .inr ⟨'+', .inr rfl, rfl⟩
    · exact .inr ⟨'-', .inl rfl, rfl⟩

theorem mem_optionalFeed_iff {cs : List Char} : cs ∈ optionalFeed ↔ ∃ feed, cs = feedChars feed := by
  constructor
  · rintro (rfl | ⟨c, rfl, rfl⟩)
    · exact ⟨false, rfl⟩
    · exact ⟨true, rfl⟩
  · rintro ⟨_ | _, rfl⟩
    · exact .inl rfl
    · exact .inr ⟨'\n', rfl, rfl⟩

theorem mem_optionalExponent_iff {cs : List Char} :
    cs ∈ optionalExponent ↔ ∃ e : Option SpelledExponent, (∀ x ∈ e, x.Proper) ∧ cs = exponentChars e := by
  constructor
  · rintro (rfl | marked)
    · exact ⟨none, by simp, rfl⟩
    · obtain ⟨mark, rest, letter, inside, rfl⟩ := mem_single_mul_iff.1 marked
      obtain ⟨_, signed, ds, counted, rfl⟩ := Language.mem_mul.1 inside
      obtain ⟨given, rfl⟩ := mem_optionalSign_iff.1 signed
      obtain ⟨nonempty, all⟩ := mem_digits_iff.1 counted
      have proper : SpelledExponent.Proper ⟨mark, given, ds⟩ := ⟨by simpa [isMark] using letter, nonempty, all⟩
      exact ⟨some ⟨mark, given, ds⟩, fun e same => Option.some.inj same ▸ proper, rfl⟩
  · rintro ⟨_ | e, proper, rfl⟩
    · exact .inl rfl
    · obtain ⟨marked, nonempty, all⟩ := proper e rfl
      have letter : e.mark = 'e' ∨ e.mark = 'E' := by simpa [isMark] using marked
      have counted := Language.append_mem_mul (mem_optionalSign_iff.2 ⟨e.sign, rfl⟩) (mem_digits_iff.2 ⟨nonempty, all⟩)
      exact .inr (mem_single_mul_iff.2 ⟨e.mark, _, letter, counted, rfl⟩)

theorem mem_significand_iff {cs : List Char} :
    cs ∈ significand ↔ ∃ (whole : List Char) (fraction : Option (List Char)), AllDigits whole ∧
      (∀ ds ∈ fraction, AllDigits ds) ∧ (whole ≠ [] ∨ fraction.getD [] ≠ []) ∧ cs = whole ++ fractionChars fraction := by
  constructor
  · rintro (led | pointed)
    · obtain ⟨whole, counted, _, rest, rfl⟩ := Language.mem_mul.1 led
      obtain ⟨nonempty, all⟩ := mem_digits_iff.1 counted
      rcases rest with rfl | pointed
      · exact ⟨whole, none, all, by simp, .inl nonempty, rfl⟩
      · obtain ⟨_, ds, rfl, later, rfl⟩ := mem_single_mul_iff.1 pointed
        exact ⟨whole, some ds, all, by simpa using mem_digit_kstar_iff.1 later, .inl nonempty, rfl⟩
    · obtain ⟨_, ds, rfl, later, rfl⟩ := mem_single_mul_iff.1 pointed
      obtain ⟨nonempty, all⟩ := mem_digits_iff.1 later
      exact ⟨[], some ds, by simp [AllDigits], by simpa using all, .inr nonempty, rfl⟩
  · rintro ⟨whole, fraction, all, later, counted, rfl⟩
    by_cases bare : whole = []
    · obtain ⟨ds, rfl⟩ : ∃ ds, fraction = some ds := by
        refine Option.ne_none_iff_exists'.1 fun none => ?_
        simp [bare, none] at counted
      have nonempty : ds ≠ [] := counted.resolve_left (not_not_intro bare)
      rw [bare]
      exact .inr (mem_single_mul_iff.2 ⟨'.', ds, rfl, mem_digits_iff.2 ⟨nonempty, later ds rfl⟩, rfl⟩)
    · refine .inl (Language.append_mem_mul (mem_digits_iff.2 ⟨bare, all⟩) ?_)
      rcases fraction with _ | ds
      · exact .inl rfl
      · exact .inr (mem_single_mul_iff.2 ⟨'.', ds, rfl, mem_digit_kstar_iff.2 (later ds rfl), rfl⟩)

/-- The words of the language are the proper spellings. -/
theorem mem_literals_iff {cs : List Char} : cs ∈ literals ↔ ∃ p : Spelling, p.Proper ∧ p.chars = cs := by
  constructor
  · intro inside
    obtain ⟨_, signed, _, unsigned, rfl⟩ := Language.mem_mul.1 inside
    obtain ⟨_, counted, _, closing, rfl⟩ := Language.mem_mul.1 unsigned
    obtain ⟨_, raised, _, ended, rfl⟩ := Language.mem_mul.1 closing
    obtain ⟨given, rfl⟩ := mem_optionalSign_iff.1 signed
    obtain ⟨whole, fraction, all, later, nonempty, rfl⟩ := mem_significand_iff.1 counted
    obtain ⟨exponent, proper, rfl⟩ := mem_optionalExponent_iff.1 raised
    obtain ⟨feed, rfl⟩ := mem_optionalFeed_iff.1 ended
    exact ⟨⟨given, whole, fraction, exponent, feed⟩, ⟨all, later, nonempty, proper⟩, by simp [Spelling.chars]⟩
  · rintro ⟨p, proper, rfl⟩
    have counted := mem_significand_iff.2 ⟨p.whole, p.fraction, proper.whole, proper.fraction, proper.nonempty, rfl⟩
    have raised := mem_optionalExponent_iff.2 ⟨p.exponent, proper.exponent, rfl⟩
    have ended := mem_optionalFeed_iff.2 ⟨p.feed, rfl⟩
    have rest := Language.append_mem_mul counted (Language.append_mem_mul raised ended)
    rw [Spelling.chars, ← List.append_assoc p.whole]
    exact Language.append_mem_mul (mem_optionalSign_iff.2 ⟨p.sign, rfl⟩) rest

/-! ## Reading -/

theorem exists_sign (cs : List Char) : ∃ given, cs = signChars given ++ (sign cs).2 := by
  unfold sign
  split
  · exact ⟨some true, rfl⟩
  · exact ⟨some false, rfl⟩
  · exact ⟨none, rfl⟩

theorem exists_fraction (cs : List Char) : ∃ fraction : Option (List Char), (∀ ds ∈ fraction, AllDigits ds) ∧
    cs = fractionChars fraction ++ (fractionPart cs).2 ∧
      ((fractionPart cs).1.getD []).length = (fraction.getD []).length := by
  unfold fractionPart
  split
  · next rest =>
      obtain ⟨ds, parts, count, all⟩ := digits_append rest
      exact ⟨some ds, fun es same => Option.some.inj same ▸ all, congrArg ('.' :: ·) parts, count⟩
  · exact ⟨none, by simp, rfl, rfl⟩

/-- Behind a mark there is a sign or none, and digits up to the end. -/
theorem exists_spelledExponent {mark : Char} (marked : isMark mark = true) {rest : List Char} {v : Nat} {vs : List Nat}
    (feed : Bool) (read : digits (sign rest).2 = (v :: vs, feedChars feed)) :
    ∃ e : SpelledExponent, e.Proper ∧ mark :: rest = exponentChars (some e) ++ feedChars feed := by
  obtain ⟨given, signed⟩ := exists_sign rest
  obtain ⟨ds, parts, count, all⟩ := digits_append (sign rest).2
  rw [read] at parts count
  refine ⟨⟨mark, given, ds⟩, ⟨marked, List.ne_nil_of_length_eq_add_one count.symm, all⟩, ?_⟩
  rw [signed, parts]
  simp [exponentChars]

theorem exists_exponent {cs : List Char} {read : Option (Bool × List Nat)} (found : exponentPart cs = some read) :
    ∃ (e : Option SpelledExponent) (feed : Bool), (∀ x ∈ e, x.Proper) ∧ cs = exponentChars e ++ feedChars feed := by
  unfold exponentPart at found
  split at found
  · exact ⟨none, false, by simp, rfl⟩
  · exact ⟨none, true, by simp, rfl⟩
  · split at found
    · next marked =>
        dsimp only at found
        split at found
        · next counted =>
            obtain ⟨e, proper, parts⟩ := exists_spelledExponent marked false counted
            exact ⟨some e, false, fun x same => Option.some.inj same ▸ proper, parts⟩
        · next counted =>
            obtain ⟨e, proper, parts⟩ := exists_spelledExponent marked true counted
            exact ⟨some e, true, fun x same => Option.some.inj same ▸ proper, parts⟩
        · cases found
    · cases found

/-- A literal is found in the proper spellings and in no other text. -/
theorem isSome_ofChars?_iff {cs : List Char} : (ofChars? cs).isSome = true ↔ ∃ p : Spelling, p.Proper ∧ p.chars = cs := by
  constructor
  · intro read
    obtain ⟨given, signed⟩ := exists_sign cs
    obtain ⟨whole, parts, count, all⟩ := digits_append (sign cs).2
    obtain ⟨fraction, later, pointed, places⟩ := exists_fraction (digits (sign cs).2).2
    unfold ofChars? at read
    dsimp only at read
    split at read
    · cases read
    · next counted =>
        obtain ⟨_, found⟩ := Option.isSome_iff_exists.1 (by simpa using read)
        obtain ⟨exponent, feed, proper, closing⟩ := exists_exponent found
        have nonempty : whole ≠ [] ∨ fraction.getD [] ≠ [] := by
          rw [← not_and_or]
          rintro ⟨noWhole, noPlaces⟩
          rw [noWhole] at count
          rw [noPlaces] at places
          simp [List.eq_nil_of_length_eq_zero count, List.eq_nil_of_length_eq_zero places] at counted
        refine ⟨⟨given, whole, fraction, exponent, feed⟩, ⟨all, later, nonempty, proper⟩, ?_⟩
        rw [Spelling.chars, ← closing, ← pointed, ← parts, ← signed]
  · rintro ⟨p, proper, rfl⟩
    rw [ofChars?_spelling proper]
    rfl

/-! ## Values -/

/-- The number that a row of digits denotes in base ten. -/
def denoted (ds : List Char) : Nat := Nat.ofDigits 10 (ds.map digitOf).reverse

theorem digitsValue_digits (ds : List Char) : digitsValue (ds.map digitOf) = denoted ds := by
  rw [denoted, Nat.ofDigits_eq_foldr, List.foldr_reverse, digitsValue]
  simp only [Nat.cast_id, Nat.add_comm, Nat.mul_comm]

namespace Spelling

def order (p : Spelling) : Int :=
  match p.exponent with
  | none => 0
  | some e => Binary64.signed (e.sign == some true) (denoted e.digits)

/-- What a spelling denotes but for its sign. -/
def magnitude (p : Spelling) : ℚ :=
  denoted (p.whole ++ p.fraction.getD []) * 10 ^ (p.order - (p.fraction.getD []).length)

theorem toNumber_integer {p : Spelling} (integer : p.fraction = none ∧ p.exponent = none) :
    p.literal.toNumber =
      if digitLimit < p.whole.length then .error ⟨p.whole.length⟩
      else .ok (.int (Binary64.signed (p.sign == some true) (denoted p.whole))) := by
  have plain : p.literal.isInteger = true := by simp [isInteger, literal, integer]
  rw [toNumber, if_pos plain]
  simp only [literal, List.length_map, digitsValue_digits]

theorem value_decimal_literal (p : Spelling) : p.literal.decimal.value = p.magnitude := by
  have places : p.literal.fraction.getD [] = (p.fraction.getD []).map digitOf := by
    cases fraction : p.fraction <;> simp [literal, fraction]
  have order : p.literal.exponentValue = p.order := by
    cases exponent : p.exponent <;> simp [exponentValue, Spelling.order, literal, exponent, digitsValue_digits]
  have whole : p.literal.whole = p.whole.map digitOf := rfl
  simp only [decimal, Decimal.value, magnitude, places, order, whole, ← List.map_append, digitsValue_digits, List.length_map]

theorem toNumber_double {p : Spelling} (broken : ¬ (p.fraction = none ∧ p.exponent = none)) :
    p.literal.toNumber = .ok (.float (Binary64.rounded (p.sign == some true) p.magnitude)) := by
  have pointed : ¬ p.literal.isInteger = true := by
    rw [isInteger_iff]
    simpa [literal] using broken
  rw [toNumber, if_neg pointed, toDouble_eq_rounded, value_decimal_literal]
  rfl

end Spelling

end NumberLiteral

namespace Coercion

open NumberLiteral

theorem isNumber_iff_mem_literals (s : String) : isNumber s = true ↔ s.toList ∈ literals := by
  rw [mem_literals_iff, isNumber, ofText?, isSome_ofChars?_iff]

theorem asNumber_spelled {s : String} {p : Spelling} (proper : p.Proper) (spelled : p.chars = s.toList) :
    asNumber s = p.literal.toNumber := by
  rw [asNumber, ofText?, ← spelled, ofChars?_spelling proper]

theorem explicit_of_asNumber {s : String} {n : Number} (number : isNumber s = true) (read : asNumber s = .ok n) :
    explicit s = .ok (.number n) := by
  have plain : ¬ isBoolean s = true := by
    intro boolean
    rw [isNumber_of_isBoolean boolean] at number
    cases number
  rw [explicit, if_neg plain, if_pos number, read]
  rfl

theorem asNumber_of_not_isNumber {s : String} (other : isNumber s = false) : asNumber s = .ok (.int 0) := by
  simp only [isNumber, Option.isSome_eq_false_iff, Option.isNone_iff_eq_none] at other
  rw [asNumber, other]

theorem explicit_of_not_isNumber {s : String} (other : isNumber s = false) :
    explicit s = .ok (if s = "true" then .bool true else if s = "false" then .bool false else .text s) := by
  by_cases yes : s = "true"
  · rw [yes]; rfl
  · by_cases no : s = "false"
    · rw [no]; rfl
    · have plain : ¬ isBoolean s = true := by simp [isBoolean_iff, yes, no]
      rw [explicit, if_neg plain, if_neg (by simp [other]), if_neg yes, if_neg no]

/-- The texts that are recognised are the literals.  A literal of digits alone counts as the integer they denote if they are
not too many to be read, and any other one as the double nearest to what it denotes.  A text that is no literal counts as
zero, and is a boolean or stays a text. -/
theorem numbers_recognised (s : String) :
    (isNumber s = true ↔ s.toList ∈ literals) ∧
    (s.toList ∈ literals ↔ ∃ p : Spelling, p.Proper ∧ p.chars = s.toList) ∧
    (∀ p : Spelling, p.Proper → p.chars = s.toList →
      (p.fraction = none ∧ p.exponent = none → asNumber s =
        if digitLimit < p.whole.length then .error ⟨p.whole.length⟩
        else .ok (.int (Binary64.signed (p.sign == some true) (denoted p.whole)))) ∧
      (¬ (p.fraction = none ∧ p.exponent = none) →
        asNumber s = .ok (.float (Binary64.rounded (p.sign == some true) p.magnitude)))) ∧
    (s.toList ∉ literals → asNumber s = .ok (.int 0) ∧
      explicit s = .ok (if s = "true" then .bool true else if s = "false" then .bool false else .text s)) := by
  refine ⟨isNumber_iff_mem_literals s, mem_literals_iff, ?counted, ?other⟩
  case counted =>
    intro p proper spelled
    rw [asNumber_spelled proper spelled]
    exact ⟨Spelling.toNumber_integer, Spelling.toNumber_double⟩
  case other =>
    intro outside
    rw [← isNumber_iff_mem_literals, Bool.not_eq_true] at outside
    exact ⟨asNumber_of_not_isNumber outside, explicit_of_not_isNumber outside⟩

/-- Digits of another script behind a minus, and a line feed. -/
def minusFortyTwo : Spelling := ⟨some true, ['४', '२'], none, none, true⟩

theorem numbers_recognised_devanagari :
    minusFortyTwo.Proper ∧ minusFortyTwo.chars = "-४२\n".toList ∧ minusFortyTwo.fraction = none ∧ minusFortyTwo.exponent = none ∧
      asNumber "-४२\n" = .ok (.int (-42)) ∧ "1e".toList ∉ literals ∧ explicit "1e" = .ok (.text "1e") := by
  have proper : minusFortyTwo.Proper :=
    { whole := List.forall_mem_cons.2 ⟨rfl, List.forall_mem_singleton.2 rfl⟩
      fraction := fun ds none => by cases none
      nonempty := .inl (List.cons_ne_nil _ _)
      exponent := fun e none => by cases none }
  obtain ⟨-, -, counted, -⟩ := numbers_recognised "-४२\n"
  obtain ⟨recognised, -, -, other⟩ := numbers_recognised "1e"
  have unmarked : "1e".toList ∉ literals := fun inside => absurd (recognised.2 inside) (by decide)
  exact ⟨proper, rfl, rfl, rfl, (counted minusFortyTwo proper rfl).1 ⟨rfl, rfl⟩, unmarked, (other unmarked).2⟩

end Coercion

end DesignProps
