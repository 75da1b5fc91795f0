import DesignProps.Proofs.Number.Digits
import DesignProps.Proofs.Number.Grammar

/-!
# Primitives and their texts

A boolean and an integer come back from their texts.  An integer may be spelled with a plus sign, with zeros in front and with
a minus before zero; it is written without them, and only one of its spellings is written so.  The values of a boolean text and
of a numeric text never equal each other.

Main statements: `IntegerSpelling.eq_ofInt` (the canonical spelling of an integer), `IntegerSpelling.explicit_text`,
`Coercion.primitives_round_trip`.
-/

set_option autoImplicit false

namespace DesignProps

/-! ## Spellings of integers -/

/-- An integer as it may be spelled: plain digits, behind a sign or none. -/
structure IntegerSpelling where
  sign : Option Bool
  digits : List Char
  plain : NumberLiteral.Plain digits
  nonempty : digits ≠ []

namespace IntegerSpelling

open NumberLiteral

def chars (l : IntegerSpelling) : List Char := signChars l.sign ++ l.digits

def text (l : IntegerSpelling) : String := String.ofList l.chars

def value (l : IntegerSpelling) : Int := Binary64.signed (l.sign == some true) (Nat.ofDigitChars 10 l.digits 0)

/-- Neither a plus sign, nor zeros in front, nor a minus before zero. -/
structure Canonical (l : IntegerSpelling) : Prop where
  plusless : l.sign ≠ some false
  zeroless : l.digits.head? = some '0' → l.digits = ['0']
  minusless : l.digits = ['0'] → l.sign ≠ some true

def ofInt (n : Int) : IntegerSpelling := ⟨minus (n < 0), Nat.toDigits 10 n.natAbs, .toDigits _, Nat.toDigits_ne_nil⟩

theorem text_ofInt (n : Int) : (ofInt n).text = intText n := by
  rw [text, chars, ofInt, signChars_minus, intText, intChars]
  simp

theorem value_ofInt (n : Int) : (ofInt n).value = n := by
  rw [value, ofInt, minus_eq, Nat.ofDigitChars_ten_toDigits, signed_natAbs]

theorem canonical_ofInt (n : Int) : (ofInt n).Canonical where
  plusless := by cases negative : decide (n < 0) <;> simp [ofInt, minus, negative]
  zeroless first := by
    by_cases zero : n.natAbs = 0
    · show Nat.toDigits 10 n.natAbs = ['0']
      rw [zero]
      rfl
    · exact absurd first (Digits.head?_toDigits zero)
  minusless zero := by
    have none : n.natAbs = 0 := by
      have count : Nat.ofDigitChars 10 (ofInt n).digits 0 = n.natAbs := Nat.ofDigitChars_ten_toDigits
      rw [zero] at count
      exact count.symm
    simp [ofInt, minus, Int.natAbs_eq_zero.1 none]

/-- An integer has one canonical spelling. -/
theorem eq_ofInt {l : IntegerSpelling} (canonical : l.Canonical) : l = ofInt l.value := by
  obtain ⟨plusless, zeroless, minusless⟩ := canonical
  have digits : Nat.toDigits 10 l.value.natAbs = l.digits := by
    rw [value, Binary64.natAbs_signed, Digits.toDigits_ofDigitChars l.plain l.nonempty zeroless]
  have sign : minus (l.value < 0) = l.sign := by
    rcases given : l.sign with _ | _ | _
    · simp [value, given, Binary64.signed, minus]
    · exact absurd given plusless
    · have positive : Nat.ofDigitChars 10 l.digits 0 ≠ 0 := by
        intro none
        rw [value, Binary64.natAbs_signed, none, Nat.toDigits_zero] at digits
        exact minusless digits.symm given
      have below : l.value < 0 := by
        rw [value, given]
        simp only [Binary64.signed, beq_self_eq_true, if_true]
        omega
      simp [minus, below]
  obtain ⟨_, _, _, _⟩ := l
  simp only [ofInt, digits, sign]

/-! ## Their values -/

theorem denoted_plain {ds : List Char} (plain : Plain ds) : denoted ds = Nat.ofDigitChars 10 ds 0 := by
  rw [← digitsValue_digits, plain.digitsValue]

/-- Whatever its spelling, an integer of not too many digits is read. -/
theorem explicit_text {l : IntegerSpelling} (few : l.digits.length ≤ digitLimit) :
    Coercion.explicit l.text = .ok (.number (.int l.value)) := by
  let p : Spelling := ⟨l.sign, l.digits, none, none, false⟩
  have proper : p.Proper := ⟨l.plain.allDigits, by simp [p], .inl l.nonempty, by simp [p]⟩
  have spelled : p.chars = l.text.toList := by
    simp [p, Spelling.chars, text, chars, fractionChars, exponentChars, feedChars]
  have number : Coercion.isNumber l.text = true :=
    (Coercion.isNumber_iff_mem_literals _).2 (mem_literals_iff.2 ⟨p, proper, spelled⟩)
  have read : Coercion.asNumber l.text = .ok (.int l.value) := by
    rw [Coercion.asNumber_spelled proper spelled, Spelling.toNumber_integer ⟨rfl, rfl⟩, if_neg (Nat.not_lt.2 few),
      denoted_plain l.plain]
    rfl
  exact Coercion.explicit_of_asNumber number read

/-- What an integer is read as is written canonically. -/
theorem canonicalText_value (l : IntegerSpelling) :
    (Primitive.number (.int l.value)).toJson.canonicalText = (ofInt l.value).text := (text_ofInt l.value).symm

theorem text_ofInt_inj {m n : Int} : (ofInt m).text = (ofInt n).text ↔ m = n := by
  refine ⟨fun same => ?_, fun same => same ▸ rfl⟩
  rw [text_ofInt, text_ofInt, intText, intText, String.ofList_inj] at same
  obtain ⟨l, readFirst, -, -, first⟩ := ofChars?_intChars m
  obtain ⟨k, readSecond, -, -, second⟩ := ofChars?_intChars n
  rw [same, readSecond, Option.some.injEq] at readFirst
  rw [← readFirst, second] at first
  exact (Number.int.inj first).symm

end IntegerSpelling

namespace Coercion

open NumberLiteral

theorem explicit_int {n : Int} (few : (Nat.toDigits 10 n.natAbs).length ≤ digitLimit) :
    explicit (Json.int n).canonicalText = .ok (.number (.int n)) := by
  have read := IntegerSpelling.explicit_text (l := .ofInt n) few
  rw [IntegerSpelling.text_ofInt, IntegerSpelling.value_ofInt] at read
  exact read

theorem eqv_of_isBoolean {b t : String} (boolean : isBoolean b = true) (number : isNumber t = true) {v w : Primitive}
    (first : explicit b = .ok v) (second : explicit t = .ok w) : v.eqv w = false ∧ w.eqv v = false := by
  have plain : ¬ isBoolean t = true := fun other => by simp [isNumber_of_isBoolean other] at number
  rw [explicit, if_pos boolean] at first
  rw [explicit, if_neg plain, if_pos number] at second
  obtain rfl := Except.ok.inj first
  obtain ⟨n, -, rfl⟩ := map_eq_ok_iff.1 second
  exact ⟨rfl, rfl⟩

/-- Booleans and integers come back from their texts.  A spelled integer is written in the only canonical spelling of what it
denotes, so two of them are written alike exactly if they denote the same.  The values of a boolean text and of a numeric
text, where it has one, do not equal each other. -/
theorem primitives_round_trip :
    (∀ b : Bool, explicit (Json.bool b).canonicalText = .ok (.bool b)) ∧
    (∀ n : Int, (Nat.toDigits 10 n.natAbs).length ≤ digitLimit →
      explicit (Json.int n).canonicalText = .ok (.number (.int n))) ∧
    (∀ l : IntegerSpelling, l.digits.length ≤ digitLimit → ∃ v c, explicit l.text = .ok v ∧
      v.toJson.canonicalText = c.text ∧ c.Canonical ∧ c.value = l.value ∧
        ∀ d : IntegerSpelling, d.Canonical → d.value = l.value → d = c) ∧
    (∀ l k : IntegerSpelling, l.digits.length ≤ digitLimit → k.digits.length ≤ digitLimit →
      ∃ v w, explicit l.text = .ok v ∧ explicit k.text = .ok w ∧
        (v.toJson.canonicalText = w.toJson.canonicalText ↔ l.value = k.value)) ∧
    ∀ b t : String, isBoolean b = true → isNumber t = true →
      (∃ v, explicit b = .ok v) ∧ ((∃ w, explicit t = .ok w) ↔ isShort t = true) ∧
        ∀ v w, explicit b = .ok v → explicit t = .ok w → v.eqv w = false ∧ w.eqv v = false := by
  refine ⟨explicit_bool, fun n few => explicit_int few, ?canonical, ?alike, ?apart⟩
  case canonical =>
    intro l few
    refine ⟨_, .ofInt l.value, IntegerSpelling.explicit_text few, IntegerSpelling.canonicalText_value l,
      IntegerSpelling.canonical_ofInt l.value, IntegerSpelling.value_ofInt l.value, fun d canonical same => ?_⟩
    rw [← same]
    exact IntegerSpelling.eq_ofInt canonical
  case alike =>
    intro l k fewFirst fewSecond
    refine ⟨_, _, IntegerSpelling.explicit_text fewFirst, IntegerSpelling.explicit_text fewSecond, ?_⟩
    rw [IntegerSpelling.canonicalText_value, IntegerSpelling.canonicalText_value, IntegerSpelling.text_ofInt_inj]
  case apart =>
    intro b t boolean number
    refine ⟨⟨_, if_pos boolean⟩, ?_, fun v w first second => eqv_of_isBoolean boolean number first second⟩
    rw [explicit_isOk_iff]
    simp [number]

def padded : IntegerSpelling := ⟨some true, ['0', '0', '7'], by simp [Plain], by simp⟩

def trimmed : IntegerSpelling := ⟨some true, ['7'], by simp [Plain], by simp⟩

theorem primitives_round_trip_padded :
    (Nat.toDigits 10 (-40 : Int).natAbs).length ≤ digitLimit ∧
    explicit (Json.int (-40)).canonicalText = .ok (.number (.int (-40))) ∧
    padded.text = "-007" ∧ padded.digits.length ≤ digitLimit ∧ trimmed.text = "-7" ∧ trimmed.digits.length ≤ digitLimit ∧
    (∃ v w, explicit "-007" = .ok v ∧ explicit "-7" = .ok w ∧ v.toJson.canonicalText = w.toJson.canonicalText) ∧
    isBoolean "true" = true ∧ isNumber "1" = true ∧
    ∃ v w, explicit "true" = .ok v ∧ explicit "1" = .ok w ∧ v.eqv w = false := by
  obtain ⟨-, integers, -, alike, apart⟩ := primitives_round_trip
  have few : (Nat.toDigits 10 (-40 : Int).natAbs).length ≤ digitLimit := by decide
  obtain ⟨v, w, first, second, same⟩ := alike padded trimmed (by decide) (by decide)
  obtain ⟨⟨b, boolean⟩, ⟨-, short⟩, unlike⟩ := apart "true" "1" (by decide) (by decide)
  obtain ⟨n, number⟩ := short (by decide)
  exact ⟨few, integers (-40) few, rfl, by decide, rfl, by decide, ⟨v, w, first, second, same.2 (by decide)⟩, by decide, by decide,
    b, n, boolean, number, (unlike b n boolean number).1⟩

end Coercion

end DesignProps
