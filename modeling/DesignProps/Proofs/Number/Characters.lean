import DesignProps.Number

/-!
# The characters of written numbers

A number is written with digits and letters, signs and a point, however large or small it is.

Main statement: `Number.numeric_text`.
-/

set_option autoImplicit false

namespace DesignProps

/-- A character that numbers are written with. -/
def isNumberChar (c : Char) : Bool := c.isAlphanum || c == '-' || c == '+' || c == '.'

/-- A text of such characters alone. -/
def Numeric (cs : List Char) : Prop := ∀ c ∈ cs, isNumberChar c = true

namespace Numeric

instance (cs : List Char) : Decidable (Numeric cs) := decidable_of_iff (cs.all isNumberChar = true) List.all_eq_true

theorem append {s t : List Char} (first : Numeric s) (later : Numeric t) : Numeric (s ++ t) :=
  List.forall_mem_append.2 ⟨first, later⟩

theorem sublist {s t : List Char} (numeric : Numeric t) (part : s.Sublist t) : Numeric s := by
  intro c inside
  exact numeric c (part.subset inside)

theorem toDigits (n : Nat) : Numeric (Nat.toDigits 10 n) := by
  intro c inside
  have digit := Nat.isDigit_of_mem_toDigits (by decide) (by decide) inside
  simp [isNumberChar, Char.isAlphanum, digit]

theorem zeros (n : Nat) : Numeric (Decimal.zeros n) := by
  intro c inside
  rw [List.eq_of_mem_replicate inside]
  rfl

theorem sign (negative : Bool) : Numeric (if negative then ['-'] else []) := by
  cases negative <;> decide

end Numeric

namespace Decimal

theorem numeric_dropTrailingZeros {digits : List Char} (numeric : Numeric digits) :
    Numeric (dropTrailingZeros digits) := by
  obtain ⟨n, kept⟩ := dropTrailingZeros_append_zeros digits
  rw [← kept] at numeric
  exact numeric.sublist (List.sublist_append_left _ _)

theorem numeric_exponential (l : Layout) {digits : List Char} (numeric : Numeric digits) (order : Int) :
    Numeric (exponential l digits order) := by
  have first : Numeric (digits.take 1) := numeric.sublist (List.take_sublist _ _)
  have fraction : Numeric (if (digits.drop 1).isEmpty then [] else '.' :: digits.drop 1) := by
    have others : Numeric (digits.drop 1) := numeric.sublist (List.drop_sublist _ _)
    split
    · simp [Numeric]
    · exact List.forall_mem_cons.2 ⟨rfl, others⟩
  have mark : Numeric ['e', if order < 0 then '-' else '+'] := by
    split <;> decide
  have exponent : Numeric (padLeft l.exponentWidth (Nat.toDigits 10 order.natAbs)) :=
    (Numeric.zeros _).append (Numeric.toDigits _)
  exact ((first.append fraction).append mark).append exponent

theorem numeric_positional {digits : List Char} (numeric : Numeric digits) (order : Int) :
    Numeric (positional digits order) := by
  unfold positional
  split
  · have zero : Numeric ['0', '.'] := by decide
    exact (zero.append (Numeric.zeros _)).append numeric
  · dsimp only
    split
    · have point : Numeric ['.', '0'] := by decide
      exact (numeric.append (Numeric.zeros _)).append point
    · have whole : Numeric (digits.take (order.toNat + 1)) := numeric.sublist (List.take_sublist _ _)
      have fraction : Numeric (digits.drop (order.toNat + 1)) := numeric.sublist (List.drop_sublist _ _)
      exact whole.append (List.forall_mem_cons.2 ⟨rfl, fraction⟩)

theorem numeric_chars (l : Layout) (d : Decimal) : Numeric (chars l d) := by
  have digits := numeric_dropTrailingZeros (Numeric.toDigits d.digits)
  unfold chars
  dsimp only
  split
  · exact numeric_exponential l digits _
  · exact numeric_positional digits _

end Decimal

theorem numeric_intChars (n : Int) : Numeric (intChars n) := by
  have sign : Numeric (if n < 0 then ['-'] else []) := by
    split <;> decide
  exact sign.append (Numeric.toDigits _)

theorem Binary64.numeric_chars (x : Binary64) : Numeric x.chars := by
  cases x with
  | nan => decide
  | infinite negative => cases negative <;> decide
  | finite negative m q =>
      have magnitude : Numeric (if m = 0 then ['0', '.', '0'] else Decimal.chars layout (shortest negative m q)) := by
        split
        · decide
        · exact Decimal.numeric_chars layout _
      exact (Numeric.sign negative).append magnitude

theorem Number.numeric_text (n : Number) : Numeric n.text.toList := by
  cases n with
  | int n =>
      rw [Number.text, intText, String.toList_ofList]
      exact numeric_intChars n
  | float x =>
      rw [Number.text]
      split
      · rw [intText, String.toList_ofList]
        exact numeric_intChars _
      · rw [Binary64.text, String.toList_ofList]
        exact x.numeric_chars

end DesignProps
