import DesignProps.Binary64.Shortest
import DesignProps.Proofs.Binary64.Nearest

/-!
# Decimals read as doubles

Whatever its size, a decimal is read as its value rounded; the two shortcuts for decimals far out of the range of doubles
give the same.  The decimal a double is written as is therefore read as that double, also where no short one was found.

Main statements: `Binary64.ofDecimal_eq_rounded`, `Binary64.ofDecimal_shortest`.
-/

set_option autoImplicit false

namespace DesignProps

def Decimal.value (d : Decimal) : ℚ := d.digits * 10 ^ d.exponent

namespace Binary64

theorem ten_zpow_pos (k : Int) : (0 : ℚ) < 10 ^ k := zpow_pos (by norm_num) k

/-! ## Sizes -/

theorem digitCount_pos (n : Nat) : 0 < digitCount n := Nat.length_toDigits_pos

theorem lt_pow_digitCount (n : Nat) : n < 10 ^ digitCount n :=
  (Nat.length_toDigits_le_iff (by decide) (digitCount_pos n)).1 le_rfl

theorem pow_digitCount_le {n : Nat} (positive : n ≠ 0) : 10 ^ (digitCount n - 1) ≤ n := by
  by_contra small
  rw [not_le] at small
  rcases Nat.eq_zero_or_pos (digitCount n - 1) with one | more
  · rw [one] at small
    omega
  · have shorter : digitCount n ≤ digitCount n - 1 := (Nat.length_toDigits_le_iff (by decide) more).2 small
    omega

theorem value_lt_ten_zpow (digits : Nat) (exponent : Int) :
    (digits : ℚ) * 10 ^ exponent < 10 ^ (digitCount digits + exponent) := by
  have count : (digits : ℚ) < 10 ^ digitCount digits := by exact_mod_cast lt_pow_digitCount digits
  rw [zpow_add₀ (by norm_num), zpow_natCast]
  exact mul_lt_mul_of_pos_right count (ten_zpow_pos exponent)

theorem ten_zpow_le_value {digits : Nat} (positive : digits ≠ 0) (exponent : Int) :
    10 ^ (digitCount digits + exponent - 1) ≤ (digits : ℚ) * 10 ^ exponent := by
  have count : (10 : ℚ) ^ (digitCount digits - 1) ≤ digits := by exact_mod_cast pow_digitCount_le positive
  have some := digitCount_pos digits
  have order : (digitCount digits : Int) + exponent - 1 = (digitCount digits - 1 : Nat) + exponent := by omega
  rw [order, zpow_add₀ (by norm_num), zpow_natCast]
  exact mul_le_mul_of_nonneg_right count (ten_zpow_pos exponent).le

theorem overflow_le_ten_zpow : overflow ≤ 10 ^ (310 : Int) := by
  have size : (2 : Nat) ^ 1024 ≤ 10 ^ 310 := by decide +kernel
  calc
    overflow ≤ 2 ^ 1024 := sub_le_self _ (pow_nonneg zero_le_two _)
    _ ≤ 10 ^ 310 := by exact_mod_cast size
    _ = 10 ^ (310 : Int) := rfl

theorem ten_zpow_lt_underflow : (10 : ℚ) ^ (-331 : Int) < 2 ^ (-1075 : Int) := by
  have size : (2 : Nat) ^ 1075 < 10 ^ 331 := by decide +kernel
  have size' : (2 : ℚ) ^ 1075 < 10 ^ 331 := by exact_mod_cast size
  have low : (0 : ℚ) < 2 ^ 1075 := pow_pos zero_lt_two _
  rw [zpow_neg, zpow_neg]
  exact inv_strictAnti₀ low size'

/-! ## Reading -/

theorem ofDecimal_eq_rounded (negative : Bool) (digits : Nat) (exponent : Int) :
    ofDecimal negative digits exponent = rounded negative (digits * 10 ^ exponent) := by
  unfold ofDecimal
  by_cases none : digits = 0
  · simp [none, rounded]
  · have positive : (0 : ℚ) ≤ digits * 10 ^ exponent := mul_nonneg (Nat.cast_nonneg digits) (ten_zpow_pos exponent).le
    rw [if_neg none]
    dsimp only
    split
    · next large =>
        have size : overflow ≤ digits * 10 ^ exponent := by
          calc
            overflow ≤ 10 ^ (310 : Int) := overflow_le_ten_zpow
            _ ≤ 10 ^ (digitCount digits + exponent - 1) := zpow_le_zpow_right₀ (by norm_num) (by omega)
            _ ≤ digits * 10 ^ exponent := ten_zpow_le_value none exponent
        exact (rounded_eq_infinite negative size).symm
    · split
      · next small =>
          have size : (digits : ℚ) * 10 ^ exponent < 2 ^ (-1075 : Int) := by
            calc
              (digits : ℚ) * 10 ^ exponent < 10 ^ (digitCount digits + exponent) := value_lt_ten_zpow digits exponent
              _ ≤ 10 ^ (-331 : Int) := zpow_le_zpow_right₀ (by norm_num) (by omega)
              _ < 2 ^ (-1075 : Int) := ten_zpow_lt_underflow
          exact (rounded_eq_zero negative positive size).symm
      · have scaled := scaled_quotient (b := 10) (by decide) digits 1 (-exponent)
        have nonzero : Nat.pow 10 (-exponent).toNat ≠ 0 := pow_ne_zero _ (by decide)
        rw [neg_neg, Nat.one_mul, Nat.cast_one, div_one] at scaled
        rw [nearest_eq_rounded negative _ nonzero, scaled]
        rfl

/-- The decimal that stands behind the short ones is exact. -/
theorem exact_value (m : Nat) (q : Int) :
    (Decimal.mk (m * Nat.pow 2 q.toNat * Nat.pow 5 (-q).toNat) (min q 0)).value = m * 2 ^ q := by
  obtain ⟨n, rfl | rfl⟩ := q.eq_nat_or_neg
  · simp [Decimal.value]
  · have ten : (10 : ℚ) ^ n = 5 ^ n * 2 ^ n := by rw [← mul_pow]; norm_num
    simp [Decimal.value, ten]
    field_simp

theorem ofDecimal_shortest {negative : Bool} {m : Nat} {q : Int} (canonical : (finite negative m q).Canonical)
    (nonzero : m ≠ 0) :
    ofDecimal negative (shortest negative m q).digits (shortest negative m q).exponent = finite negative m q := by
  unfold shortest
  dsimp only
  split
  · next d found => exact ofDecimal_searchGrids _ _ _ _ d _ _ found
  · rw [ofDecimal_eq_rounded, ← rounded_of_canonical canonical nonzero, ← exact_value]
    rfl

end Binary64

end DesignProps
