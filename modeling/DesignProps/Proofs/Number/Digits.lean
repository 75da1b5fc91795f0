import DesignProps.Number

/-!
# The digits that numbers are written with

A natural number is written without a zero in front, unless it is zero.  Digits without superfluous zeros are therefore those
that their number is written with.

Main statements: `Digits.head?_toDigits`, `Digits.toDigits_ofDigitChars`.
-/

set_option autoImplicit false

namespace DesignProps.Digits

theorem digitChar_of_isDigit {c : Char} (digit : c.isDigit = true) : Nat.digitChar (c.toNat - 48) = c ∧ c.toNat - 48 < 10 := by
  simp only [Char.isDigit, Bool.and_eq_true, decide_eq_true_eq] at digit
  have low : 48 ≤ c.toNat := digit.1
  have high : c.toNat ≤ 57 := digit.2
  refine ⟨Char.toNat_inj.1 ?_, by omega⟩
  rw [Nat.toNat_digitChar_of_lt_ten (by omega)]
  omega

/-- Only zero begins with a zero. -/
theorem head?_toDigits {n : Nat} (positive : n ≠ 0) : (Nat.toDigits 10 n).head? ≠ some '0' := by
  induction n using Nat.strongRecOn with
  | ind n ih =>
      by_cases small : n < 10
      · rw [Nat.toDigits_of_lt_base small, List.head?_cons, Ne, Option.some.injEq, Nat.digitChar_eq_zero]
        exact positive
      · have first := ih (n / 10) (by omega) (by omega)
        obtain ⟨c, tail, parts⟩ := List.exists_cons_of_ne_nil (Nat.toDigits_ne_nil (n := n / 10) (b := 10))
        rw [Nat.toDigits_of_base_le (by decide) (Nat.not_lt.1 small), parts]
        rw [parts] at first
        exact first

/-- Digits behind a number that is not zero are added to those it is written with. -/
theorem toDigits_append_digits {ds : List Char} (digits : ∀ c ∈ ds, c.isDigit = true) : ∀ {n : Nat}, 0 < n →
    Nat.toDigits 10 n ++ ds = Nat.toDigits 10 (Nat.ofDigitChars 10 ds n) := by
  induction ds with
  | nil => simp
  | cons c rest ih =>
      intro n positive
      obtain ⟨digit, others⟩ := List.forall_mem_cons.1 digits
      obtain ⟨written, small⟩ := digitChar_of_isDigit digit
      have joined := Nat.toDigits_append_toDigits (b := 10) (by decide) positive small
      rw [Nat.toDigits_of_lt_base small, written] at joined
      calc
        Nat.toDigits 10 n ++ c :: rest = (Nat.toDigits 10 n ++ [c]) ++ rest := by simp
        _ = Nat.toDigits 10 (10 * n + (c.toNat - 48)) ++ rest := by rw [joined]
        _ = Nat.toDigits 10 (Nat.ofDigitChars 10 (c :: rest) n) := ih others (by omega)

theorem toDigits_ofDigitChars {ds : List Char} (digits : ∀ c ∈ ds, c.isDigit = true) (nonempty : ds ≠ [])
    (zeroless : ds.head? = some '0' → ds = ['0']) : Nat.toDigits 10 (Nat.ofDigitChars 10 ds 0) = ds := by
  obtain ⟨c, rest, rfl⟩ := List.exists_cons_of_ne_nil nonempty
  by_cases zero : c = '0'
  · rw [zeroless (by rw [zero, List.head?_cons])]
    rfl
  · obtain ⟨digit, others⟩ := List.forall_mem_cons.1 digits
    obtain ⟨written, small⟩ := digitChar_of_isDigit digit
    have positive : c.toNat - 48 ≠ 0 := by rwa [Ne, ← Nat.digitChar_eq_zero, written]
    have joined := toDigits_append_digits others (Nat.pos_of_ne_zero positive)
    rw [Nat.toDigits_of_lt_base small, written] at joined
    simpa [Nat.ofDigitChars_cons] using joined.symm

end DesignProps.Digits
