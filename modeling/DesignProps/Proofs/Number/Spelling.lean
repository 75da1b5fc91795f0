import DesignProps.Proofs.Number.Literal

/-!
# Spellings of literals

A literal is spelled with a sign, digits of any script around a point, a marked exponent and a line feed, of which most may
be missing.  A proper spelling is read as the literal it spells.

Main statement: `NumberLiteral.ofChars?_spelling`.
-/

set_option autoImplicit false

namespace DesignProps

namespace NumberLiteral

/-! ## Digits -/

/-- The number a digit stands for. -/
def digitOf (c : Char) : Nat := (Text.digitValue? c).getD 0

def AllDigits (ds : List Char) : Prop := ∀ c ∈ ds, Text.isDigit c = true

/-- No digit comes next. -/
def Stops (rest : List Char) : Prop := ∀ c ∈ rest.head?, Text.isDigit c = false

theorem digits_of_stops {rest : List Char} (stops : Stops rest) : digits rest = ([], rest) := by
  cases rest with
  | nil => rfl
  | cons c tail =>
      have other : Text.digitValue? c = none := by simpa [Text.isDigit] using stops c rfl
      simp [digits, other]

theorem digits_append_of_stops {rest : List Char} (stops : Stops rest) : ∀ {ds : List Char}, AllDigits ds →
    digits (ds ++ rest) = (ds.map digitOf, rest) := by
  intro ds
  induction ds with
  | nil => exact fun _ => digits_of_stops stops
  | cons c ds ih =>
      intro all
      obtain ⟨digit, others⟩ := List.forall_mem_cons.1 all
      obtain ⟨v, value⟩ := Option.isSome_iff_exists.1 digit
      simp [digits, digitOf, value, ih others]

/-! ## Spellings -/

structure SpelledExponent where
  mark : Char
  sign : Option Bool
  digits : List Char

/-- A literal as it is spelled; a sign says whether it is a minus. -/
structure Spelling where
  sign : Option Bool
  whole : List Char
  fraction : Option (List Char)
  exponent : Option SpelledExponent
  feed : Bool

def signChars : Option Bool → List Char
  | none => []
  | some negative => [if negative then '-' else '+']

def fractionChars : Option (List Char) → List Char
  | none => []
  | some ds => '.' :: ds

def exponentChars : Option SpelledExponent → List Char
  | none => []
  | some e => e.mark :: (signChars e.sign ++ e.digits)

def feedChars (feed : Bool) : List Char := if feed then ['\n'] else []

/-- Digits in all places, and at least one after the mark. -/
def SpelledExponent.Proper (e : SpelledExponent) : Prop := isMark e.mark = true ∧ e.digits ≠ [] ∧ AllDigits e.digits

namespace Spelling

def chars (s : Spelling) : List Char :=
  signChars s.sign ++ (s.whole ++ (fractionChars s.fraction ++ (exponentChars s.exponent ++ feedChars s.feed)))

/-- The literal that is spelled. -/
def literal (s : Spelling) : NumberLiteral where
  negative := s.sign == some true
  whole := s.whole.map digitOf
  fraction := s.fraction.map (·.map digitOf)
  exponent := s.exponent.map fun e => (e.sign == some true, e.digits.map digitOf)

/-- Digits in all places, and at least one beside the point. -/
structure Proper (s : Spelling) : Prop where
  whole : AllDigits s.whole
  fraction : ∀ ds ∈ s.fraction, AllDigits ds
  nonempty : s.whole ≠ [] ∨ s.fraction.getD [] ≠ []
  exponent : ∀ e ∈ s.exponent, e.Proper

end Spelling

/-! ## Reading -/

/-- No sign comes next. -/
def Unsigned (rest : List Char) : Prop := ∀ c ∈ rest.head?, c ≠ '-' ∧ c ≠ '+'

theorem sign_signChars (given : Option Bool) {rest : List Char} (unsigned : Unsigned rest) :
    sign (signChars given ++ rest) = (given == some true, rest) := by
  rcases given with _ | _ | _
  · cases rest with
    | nil => rfl
    | cons c tail =>
        obtain ⟨minus, plus⟩ := unsigned c rfl
        unfold signChars sign
        split
        · next same => exact absurd (List.cons.inj same).1 minus
        · next same => exact absurd (List.cons.inj same).1 plus
        · rfl
  · rfl
  · rfl

theorem unsigned_of_digits {ds : List Char} (all : AllDigits ds) (nonempty : ds ≠ []) (rest : List Char) :
    Unsigned (ds ++ rest) := by
  obtain ⟨d, others, rfl⟩ := List.exists_cons_of_ne_nil nonempty
  intro c first
  obtain rfl := Option.some.inj first
  have digit := all d List.mem_cons_self
  constructor <;> (rintro rfl; exact absurd digit (by decide))

theorem unsigned_of_point (ds rest : List Char) : Unsigned (fractionChars (some ds) ++ rest) := by
  intro c first
  obtain rfl := Option.some.inj first
  decide

/-- What may follow the digits of a literal. -/
def Closes (rest : List Char) : Prop := ∀ c ∈ rest.head?, c = 'e' ∨ c = 'E' ∨ c = '\n'

theorem Closes.stops {rest : List Char} (closes : Closes rest) : Stops rest := by
  intro c first
  rcases closes c first with rfl | rfl | rfl <;> decide

theorem closes_feed (feed : Bool) : Closes (feedChars feed) := by
  cases feed <;> simp [Closes, feedChars]

theorem closes_exponent {e : Option SpelledExponent} (proper : ∀ x ∈ e, x.Proper) (feed : Bool) :
    Closes (exponentChars e ++ feedChars feed) := by
  rcases e with _ | e
  · exact closes_feed feed
  · intro c first
    obtain rfl := Option.some.inj first
    obtain ⟨mark, -⟩ := proper e rfl
    simp only [isMark, Bool.or_eq_true, beq_iff_eq] at mark
    exact mark.imp_right Or.inl

theorem stops_fraction (fraction : Option (List Char)) {rest : List Char} (stops : Stops rest) :
    Stops (fractionChars fraction ++ rest) := by
  rcases fraction with _ | ds
  · exact stops
  · intro c first
    obtain rfl := Option.some.inj first
    decide

theorem exponentPart_feed (feed : Bool) : exponentPart (feedChars feed) = some none := by
  cases feed <;> rfl

theorem exponentPart_spelled {e : SpelledExponent} (proper : e.Proper) (feed : Bool) :
    exponentPart (exponentChars (some e) ++ feedChars feed) =
      some (some (e.sign == some true, e.digits.map digitOf)) := by
  obtain ⟨mark, nonempty, all⟩ := proper
  have signed := sign_signChars e.sign (unsigned_of_digits all nonempty (feedChars feed))
  have read := digits_append_of_stops (closes_feed feed).stops all
  obtain ⟨v, vs, values⟩ : ∃ v vs, e.digits.map digitOf = v :: vs :=
    List.exists_cons_of_ne_nil (by simpa using nonempty)
  have line : e.mark ≠ '\n' := by
    rintro same
    rw [same] at mark
    exact absurd mark (by decide)
  have parts : exponentChars (some e) ++ feedChars feed =
      e.mark :: (signChars e.sign ++ (e.digits ++ feedChars feed)) := by
    simp [exponentChars]
  rw [parts]
  unfold exponentPart
  split
  · next same => cases same
  · next same => exact absurd (List.cons.inj same).1 line
  · next c rest other same =>
      obtain ⟨rfl, rfl⟩ := List.cons.inj same
      rw [if_pos mark]
      simp only [signed, read, values]
      cases feed <;> rfl

theorem exponentPart_chars {e : Option SpelledExponent} (proper : ∀ x ∈ e, x.Proper) (feed : Bool) :
    exponentPart (exponentChars e ++ feedChars feed) =
      some (e.map fun x => (x.sign == some true, x.digits.map digitOf)) := by
  rcases e with _ | e
  · exact exponentPart_feed feed
  · exact exponentPart_spelled (proper e rfl) feed

theorem fractionPart_chars {fraction : Option (List Char)} (all : ∀ ds ∈ fraction, AllDigits ds) {rest : List Char}
    (closes : Closes rest) : fractionPart (fractionChars fraction ++ rest) = (fraction.map (·.map digitOf), rest) := by
  rcases fraction with _ | ds
  · unfold fractionPart fractionChars
    split
    · next same =>
        rw [List.nil_append] at same
        have point := closes '.' (by rw [same]; rfl)
        exact absurd point (by decide)
    · rfl
  · simp [fractionChars, fractionPart, digits_append_of_stops closes.stops (all ds rfl)]

theorem ofChars?_spelling {s : Spelling} (proper : s.Proper) : ofChars? s.chars = some s.literal := by
  have closes := closes_exponent proper.exponent s.feed
  have stops := stops_fraction s.fraction closes.stops
  have unsigned : Unsigned (s.whole ++ (fractionChars s.fraction ++ (exponentChars s.exponent ++ feedChars s.feed))) := by
    by_cases bare : s.whole = []
    · obtain ⟨ds, spelled⟩ : ∃ ds, s.fraction = some ds := by
        refine Option.ne_none_iff_exists'.1 fun none => ?_
        simpa [bare, none] using proper.nonempty
      rw [bare, spelled]
      exact unsigned_of_point ds _
    · exact unsigned_of_digits proper.whole bare _
  have some : ¬ ((s.whole.map digitOf).isEmpty && ((s.fraction.map (·.map digitOf)).getD []).isEmpty) = true := by
    intro empty
    have parts := proper.nonempty
    cases fraction : s.fraction <;> simp_all
  simp only [ofChars?, Spelling.chars, sign_signChars s.sign unsigned, digits_append_of_stops stops proper.whole,
    fractionPart_chars proper.fraction closes, exponentPart_chars proper.exponent s.feed]
  rw [if_neg some]
  rfl

end NumberLiteral

end DesignProps
