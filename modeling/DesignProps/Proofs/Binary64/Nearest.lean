import DesignProps.Binary64.Nearest
import Mathlib.Algebra.Order.Field.Power
import Mathlib.Algebra.Order.Floor.Semifield
import Mathlib.Data.Int.Log
import Mathlib.Data.Rat.Floor
import Mathlib.Tactic.FieldSimp
import Mathlib.Tactic.Linarith
import Mathlib.Tactic.NormNum
import Mathlib.Tactic.Positivity
import Mathlib.Tactic.Ring

/-!
# Rounding to doubles

`rounded` is the rounding of exact values: a value is counted in units of its last significant bit, and the count goes to the
nearest integer, halves to the even one.  `nearest` gives the rounded value of its quotient, so it does not matter what the
two numbers of the quotient have in common.  A double is its own rounding, and values are rounded to finite doubles below the
middle between the largest double and the power of two above it.

Main statements: `Binary64.nearest_eq_rounded`, `Binary64.rounded_of_canonical`, `Binary64.canonical_rounded`,
`Binary64.isFinite_rounded_iff`, `Binary64.rounded_eq_zero`.
-/

set_option autoImplicit false

namespace DesignProps

/-! ## Quotients and powers of two -/

/-- Scaling moves a power from one number of a quotient to the other. -/
theorem scaled_quotient {b : Nat} (nonzero : b ≠ 0) (num den : Nat) (q : Int) :
    ((num * Nat.pow b (-q).toNat : Nat) : ℚ) / (den * Nat.pow b q.toNat : Nat) = num / den * (b : ℚ) ^ (-q) := by
  have base : (b : ℚ) ≠ 0 := Nat.cast_ne_zero.2 nonzero
  obtain ⟨n, rfl | rfl⟩ := q.eq_nat_or_neg
  · simp only [Int.toNat_neg_natCast, Int.toNat_natCast, Nat.pow_eq, pow_zero, mul_one, zpow_neg, zpow_natCast]
    push_cast
    rw [div_mul_eq_div_div, div_eq_mul_inv]
  · simp only [neg_neg, Int.toNat_neg_natCast, Int.toNat_natCast, Nat.pow_eq, pow_zero, mul_one, zpow_natCast]
    push_cast
    rw [mul_div_right_comm]

theorem quotient_pos {num den : Nat} (positive : num ≠ 0) (nonzero : den ≠ 0) : 0 < (num : ℚ) / den := by
  have above : 0 < (num : ℚ) := Nat.cast_pos.2 (Nat.pos_of_ne_zero positive)
  have below : 0 < (den : ℚ) := Nat.cast_pos.2 (Nat.pos_of_ne_zero nonzero)
  positivity

theorem log_eq_of_between {v : ℚ} (positive : 0 < v) {k : Int} (low : 2 ^ k ≤ v) (high : v < 2 ^ (k + 1)) :
    Int.log 2 v = k := by
  have above : k ≤ Int.log 2 v := (Int.zpow_le_iff_le_log (by decide) positive).1 (by exact_mod_cast low)
  have below : Int.log 2 v < k + 1 := (Int.lt_zpow_iff_log_lt (by decide) positive).1 (by exact_mod_cast high)
  omega

theorem two_zpow_pos (k : Int) : (0 : ℚ) < 2 ^ k := zpow_pos (by norm_num) k

theorem two_zpow_log_le {v : ℚ} (positive : 0 < v) : 2 ^ Int.log 2 v ≤ v := by
  exact_mod_cast Int.zpow_log_le_self (b := 2) (by decide) positive

theorem lt_two_zpow_log (v : ℚ) : v < 2 ^ (Int.log 2 v + 1) := by
  exact_mod_cast Int.lt_zpow_succ_log_self (b := 2) (by decide) v

/-! ## Nearest integers -/

/-- The nearest integer of a value that is not negative, halves to the even one. -/
def halfEven (v : ℚ) : Nat :=
  if v - ⌊v⌋₊ < 1 / 2 then ⌊v⌋₊
  else if 1 / 2 < v - ⌊v⌋₊ then ⌊v⌋₊ + 1
  else ⌊v⌋₊ + ⌊v⌋₊ % 2

theorem halfEven_natCast (n : Nat) : halfEven n = n := by
  simp [halfEven]

theorem halfEven_floor (v : ℚ) : halfEven v = ⌊v⌋₊ ∨ halfEven v = ⌊v⌋₊ + 1 := by
  unfold halfEven
  split
  · exact .inl rfl
  · split
    · exact .inr rfl
    · rcases Nat.mod_two_eq_zero_or_one ⌊v⌋₊ with even | odd
      · exact .inl (by rw [even, Nat.add_zero])
      · exact .inr (by rw [odd])

theorem halfEven_le {v : ℚ} (positive : 0 ≤ v) {n : Nat} (above : v < n) : halfEven v ≤ n := by
  have floor : ⌊v⌋₊ < n := (Nat.floor_lt positive).2 above
  rcases halfEven_floor v with down | up <;> omega

theorem le_halfEven {v : ℚ} {n : Nat} (below : (n : ℚ) ≤ v) : n ≤ halfEven v := by
  have floor : n ≤ ⌊v⌋₊ := Nat.le_floor below
  rcases halfEven_floor v with down | up <;> omega

/-- An even integer is reached from below at half a unit. -/
theorem halfEven_eq_iff {v : ℚ} (positive : 0 ≤ v) {n : Nat} (even : n % 2 = 0) (above : v < n) :
    halfEven v = n ↔ n - 1 / 2 ≤ v := by
  have floor : ⌊v⌋₊ < n := (Nat.floor_lt positive).2 above
  have low : (⌊v⌋₊ : ℚ) ≤ v := Nat.floor_le positive
  have high : v < ⌊v⌋₊ + 1 := Nat.lt_floor_add_one v
  unfold halfEven
  by_cases next : ⌊v⌋₊ + 1 = n
  · have count : (⌊v⌋₊ : ℚ) = n - 1 := by rw [← next]; push_cast; ring
    have odd : ⌊v⌋₊ % 2 = 1 := by omega
    rw [odd, next, count]
    constructor
    · intro reached
      split at reached
      · omega
      · linarith
    · intro half
      rw [if_neg (by linarith), ite_self]
  · have far : (⌊v⌋₊ : ℚ) + 2 ≤ n := by exact_mod_cast (by omega : ⌊v⌋₊ + 2 ≤ n)
    constructor
    · intro reached
      have : halfEven v ≠ n := by
        rcases halfEven_floor v with down | up <;> omega
      exact absurd reached this
    · intro half
      linarith

namespace Binary64

theorem roundHalfEven_eq_halfEven (num : Nat) {den : Nat} (nonzero : den ≠ 0) :
    roundHalfEven num den = halfEven (num / den) := by
  have positive : (0 : ℚ) < den := Nat.cast_pos.2 (Nat.pos_of_ne_zero nonzero)
  have floor : ⌊(num : ℚ) / den⌋₊ = num / den := Nat.floor_div_eq_div num den
  have rest : (num : ℚ) / den - (num / den : Nat) = (num % den : Nat) / den := by
    have parts : (num : ℚ) = den * (num / den : Nat) + (num % den : Nat) := by
      exact_mod_cast (Nat.div_add_mod num den).symm
    rw [eq_div_iff positive.ne', sub_mul, div_mul_cancel₀ _ positive.ne']
    linarith
  have below : ((num % den : Nat) : ℚ) / den < 1 / 2 ↔ 2 * (num % den) < den := by
    rw [div_lt_div_iff₀ positive two_pos, one_mul, mul_comm, ← Nat.cast_lt (α := ℚ)]
    push_cast
    rfl
  have above : (1 : ℚ) / 2 < (num % den : Nat) / den ↔ den < 2 * (num % den) := by
    rw [div_lt_div_iff₀ two_pos positive, one_mul, mul_comm, ← Nat.cast_lt (α := ℚ)]
    push_cast
    rfl
  simp only [roundHalfEven, halfEven, floor, rest, below, above]

/-! ## Rounding -/

/-- The exponent of the last significant bit of a value. -/
def unitExponent (v : ℚ) : Int := max (-1074) (Int.log 2 v - 52)

/-- The double of a count of at most `2 ^ 53` units, if there is one. -/
def settled (negative : Bool) (m : Nat) (q : Int) : Binary64 :=
  if m = 2 ^ 53 then
    if 971 ≤ q then .infinite negative else .finite negative (2 ^ 52) (q + 1)
  else if 971 < q then .infinite negative
  else .finite negative m q

/-- The double nearest to a value. -/
def rounded (negative : Bool) (v : ℚ) : Binary64 :=
  if v = 0 then zero negative else settled negative (halfEven (v / 2 ^ unitExponent v)) (unitExponent v)

/-- How powers of two are compared with a quotient without dividing. -/
theorem scaled_le_iff (num : Nat) {den : Nat} (nonzero : den ≠ 0) (k : Int) :
    den * Nat.pow 2 k.toNat ≤ num * Nat.pow 2 (-k).toNat ↔ (2 : ℚ) ^ k ≤ num / den := by
  have positive : (0 : ℚ) < (den * Nat.pow 2 k.toNat : Nat) := by
    exact_mod_cast Nat.mul_pos (Nat.pos_of_ne_zero nonzero) (Nat.pow_pos (n := k.toNat) Nat.zero_lt_two)
  rw [← Nat.cast_le (α := ℚ), ← one_le_div positive, scaled_quotient two_ne_zero num den k, Nat.cast_two, zpow_neg,
    ← div_eq_mul_inv, one_le_div (two_zpow_pos k)]

theorem binaryOrder_eq_log {num den : Nat} (positive : num ≠ 0) (nonzero : den ≠ 0) :
    binaryOrder num den = Int.log 2 ((num : ℚ) / den) := by
  have value := quotient_pos positive nonzero
  have denPos : (0 : ℚ) < den := Nat.cast_pos.2 (Nat.pos_of_ne_zero nonzero)
  have numLow : (2 : ℚ) ^ (Nat.log2 num : Int) ≤ num := by exact_mod_cast Nat.log2_self_le positive
  have numHigh : (num : ℚ) < 2 ^ ((Nat.log2 num : Int) + 1) := by exact_mod_cast Nat.lt_log2_self (n := num)
  have denLow : (2 : ℚ) ^ (Nat.log2 den : Int) ≤ den := by exact_mod_cast Nat.log2_self_le nonzero
  have denHigh : (den : ℚ) < 2 ^ ((Nat.log2 den : Int) + 1) := by exact_mod_cast Nat.lt_log2_self (n := den)
  unfold binaryOrder
  dsimp only
  generalize order : (Nat.log2 num : Int) - Nat.log2 den = k
  have low : (2 : ℚ) ^ (k - 1) ≤ num / den := by
    rw [le_div_iff₀ denPos]
    calc
      (2 : ℚ) ^ (k - 1) * den ≤ 2 ^ (k - 1) * 2 ^ ((Nat.log2 den : Int) + 1) := by gcongr
      _ = 2 ^ (Nat.log2 num : Int) := by rw [← zpow_add₀ two_ne_zero]; congr 1; omega
      _ ≤ num := numLow
  have high : (num : ℚ) / den < 2 ^ (k + 1) := by
    rw [div_lt_iff₀ denPos]
    calc
      (num : ℚ) < 2 ^ ((Nat.log2 num : Int) + 1) := numHigh
      _ = 2 ^ (k + 1) * 2 ^ (Nat.log2 den : Int) := by rw [← zpow_add₀ two_ne_zero]; congr 1; omega
      _ ≤ 2 ^ (k + 1) * den := by gcongr
  have fits := scaled_le_iff num nonzero k
  split
  · next reached => exact (log_eq_of_between value (fits.1 reached) high).symm
  · next missed =>
      rw [fits, not_le] at missed
      exact (log_eq_of_between value low (by rwa [sub_add_cancel])).symm

theorem nearest_eq_rounded (negative : Bool) (num : Nat) {den : Nat} (nonzero : den ≠ 0) :
    nearest negative num den = rounded negative (num / den) := by
  unfold nearest rounded
  by_cases none : num = 0
  · simp [none]
  · have value := quotient_pos none nonzero
    have count (q : Int) : roundHalfEven (num * Nat.pow 2 (-q).toNat) (den * Nat.pow 2 q.toNat) =
        halfEven (num / den / 2 ^ q) := by
      have scaled : den * Nat.pow 2 q.toNat ≠ 0 := Nat.mul_ne_zero nonzero (pow_ne_zero _ two_ne_zero)
      rw [roundHalfEven_eq_halfEven _ scaled, scaled_quotient two_ne_zero, Nat.cast_two, zpow_neg, ← div_eq_mul_inv]
    rw [if_neg none, if_neg value.ne', binaryOrder_eq_log none nonzero]
    simp only [count, settled, unitExponent]
    rfl

/-! ## The range of doubles -/

/-- Counted in its unit, a value has at most 53 bits, and exactly as many unless the unit is the least one. -/
theorem unit_count {v : ℚ} (positive : 0 < v) :
    v / 2 ^ unitExponent v < 2 ^ 53 ∧ (2 ^ 52 ≤ v / 2 ^ unitExponent v ∨ unitExponent v = -1074) := by
  have unit := two_zpow_pos (unitExponent v)
  constructor
  · rw [div_lt_iff₀ unit]
    calc
      v < 2 ^ (Int.log 2 v + 1) := lt_two_zpow_log v
      _ ≤ 2 ^ (53 + unitExponent v) := zpow_le_zpow_right₀ one_le_two (by unfold unitExponent; omega)
      _ = 2 ^ 53 * 2 ^ unitExponent v := by rw [zpow_add₀ two_ne_zero]; rfl
  · rcases max_choice (-1074) (Int.log 2 v - 52) with least | order
    · exact .inr least
    · refine .inl ?_
      rw [le_div_iff₀ unit]
      calc
        (2 : ℚ) ^ 52 * 2 ^ unitExponent v = 2 ^ (52 + unitExponent v) := by rw [zpow_add₀ two_ne_zero]; rfl
        _ = 2 ^ Int.log 2 v := by rw [unitExponent, order]; congr 1; omega
        _ ≤ v := two_zpow_log_le positive

/-- Where the unit of a value is. -/
theorem unitExponent_eq {v : ℚ} (positive : 0 < v) {q : Int} (least : -1074 ≤ q) (high : v / 2 ^ q < 2 ^ 53)
    (low : 2 ^ 52 ≤ v / 2 ^ q ∨ q = -1074) : unitExponent v = q := by
  have unit := two_zpow_pos q
  rw [div_lt_iff₀ unit] at high
  have above : Int.log 2 v < 53 + q := by
    refine (Int.lt_zpow_iff_log_lt (by decide) positive).1 ?_
    rw [Nat.cast_two, zpow_add₀ two_ne_zero]
    exact high
  rcases low with full | rfl
  · rw [le_div_iff₀ unit] at full
    have below : 52 + q ≤ Int.log 2 v := by
      refine (Int.zpow_le_iff_le_log (by decide) positive).1 ?_
      rw [Nat.cast_two, zpow_add₀ two_ne_zero]
      exact full
    unfold unitExponent
    omega
  · unfold unitExponent
    omega

/-- A double in its only written form is its own rounding. -/
theorem rounded_of_canonical {negative : Bool} {m : Nat} {q : Int} (canonical : (finite negative m q).Canonical)
    (nonzero : m ≠ 0) : rounded negative (m * 2 ^ q) = finite negative m q := by
  obtain ⟨small, least, greatest, full⟩ := canonical
  have unit := two_zpow_pos q
  have positive : (0 : ℚ) < m * 2 ^ q := mul_pos (Nat.cast_pos.2 (Nat.pos_of_ne_zero nonzero)) unit
  have count : (m : ℚ) * 2 ^ q / 2 ^ q = m := mul_div_cancel_right₀ _ unit.ne'
  have exponent : unitExponent (m * 2 ^ q) = q := by
    refine unitExponent_eq positive least ?high ?low
    case high =>
      rw [count]
      exact_mod_cast small
    case low =>
      rw [count]
      exact full.imp_left fun low => by exact_mod_cast low
  have bits : m ≠ 2 ^ 53 := Nat.ne_of_lt small
  rw [rounded, if_neg positive.ne', exponent, count, halfEven_natCast, settled, if_neg bits,
    if_neg (Int.not_lt.2 greatest)]

theorem canonical_zero (negative : Bool) : (zero negative).Canonical := by
  cases negative <;> decide

theorem canonical_settled (negative : Bool) {m : Nat} {q : Int} (most : m ≤ 2 ^ 53) (least : -1074 ≤ q)
    (full : 2 ^ 52 ≤ m ∨ q = -1074) : (settled negative m q).Canonical := by
  unfold settled
  split
  · split
    · trivial
    · exact ⟨by decide, by omega, by omega, .inl (by decide)⟩
  · next other =>
      split
      · trivial
      · exact ⟨Nat.lt_of_le_of_ne most other, least, by omega, full⟩

theorem canonical_rounded (negative : Bool) {v : ℚ} (positive : 0 ≤ v) : (rounded negative v).Canonical := by
  unfold rounded
  split
  · exact canonical_zero negative
  · next nonzero =>
      have above : 0 < v := lt_of_le_of_ne positive (Ne.symm nonzero)
      obtain ⟨high, low⟩ := unit_count above
      have count : 0 ≤ v / 2 ^ unitExponent v := (div_pos above (two_zpow_pos _)).le
      have most : halfEven (v / 2 ^ unitExponent v) ≤ 2 ^ 53 := halfEven_le count (by exact_mod_cast high)
      exact canonical_settled negative most (le_max_left _ _)
        (low.imp_left fun full => le_halfEven (by exact_mod_cast full))

/-- The middle between the largest double and the power of two above it. -/
def overflow : ℚ := 2 ^ 1024 - 2 ^ 970

theorem overflow_eq : overflow = (2 ^ 53 - 1 / 2) * 2 ^ (971 : Int) := by
  have top : (2 : ℚ) ^ 1024 = 2 ^ 54 * 2 ^ 970 := by rw [← pow_add]
  have unit : (2 : ℚ) ^ (971 : Int) = 2 * 2 ^ 970 := by rw [← pow_succ']; rfl
  rw [overflow, top, unit]
  generalize (2 : ℚ) ^ 970 = u
  ring

theorem isFinite_settled_iff (negative : Bool) (m : Nat) (q : Int) :
    (settled negative m q).isFinite = true ↔ q < 971 ∨ q = 971 ∧ m ≠ 2 ^ 53 := by
  unfold settled
  split
  · next full =>
      split
      · next high => simp only [isFinite, Bool.false_eq_true, false_iff]; omega
      · next low => simp only [isFinite, true_iff]; omega
  · next other =>
      split
      · next high => simp only [isFinite, Bool.false_eq_true, false_iff]; omega
      · next low => simp only [isFinite, true_iff]; omega

theorem settled_eq_infinite {negative : Bool} {m : Nat} {q : Int} (endless : (settled negative m q).isFinite = false) :
    settled negative m q = .infinite negative := by
  rw [← Bool.not_eq_true, isFinite_settled_iff] at endless
  unfold settled
  split
  · rw [if_pos (by omega)]
  · rw [if_pos (by omega)]

theorem overflow_pos : 0 < overflow := by
  have unit := two_zpow_pos 971
  rw [overflow_eq]
  generalize (2 : ℚ) ^ (971 : Int) = u at unit ⊢
  linarith

/-- No count of a small unit reaches the bound. -/
theorem lt_overflow_of_unit {v : ℚ} {q : Int} (low : q < 971) (high : v < 2 ^ 53 * 2 ^ q) : v < overflow := by
  have half : 2 * (2 : ℚ) ^ q ≤ 2 ^ (971 : Int) := by
    rw [← zpow_one_add₀ two_ne_zero]
    exact zpow_le_zpow_right₀ one_le_two (by omega)
  have unit := two_zpow_pos q
  rw [overflow_eq]
  generalize (2 : ℚ) ^ (971 : Int) = u at half ⊢
  generalize (2 : ℚ) ^ q = w at *
  linarith

/-- Every full count of a greater unit does. -/
theorem overflow_le_of_unit {v : ℚ} {q : Int} (high : 971 < q) (full : 2 ^ 52 * 2 ^ q ≤ v) : overflow ≤ v := by
  have twice : 2 * (2 : ℚ) ^ (971 : Int) ≤ 2 ^ q := by
    rw [← zpow_one_add₀ two_ne_zero]
    exact zpow_le_zpow_right₀ one_le_two (by omega)
  have unit := two_zpow_pos 971
  rw [overflow_eq]
  generalize (2 : ℚ) ^ (971 : Int) = u at *
  generalize (2 : ℚ) ^ q = w at *
  linarith

theorem isFinite_rounded_iff (negative : Bool) {v : ℚ} (positive : 0 ≤ v) :
    (rounded negative v).isFinite = true ↔ v < overflow := by
  rcases positive.eq_or_lt with rfl | above
  · simp [rounded, zero, isFinite, overflow_pos]
  obtain ⟨high, low⟩ := unit_count above
  have unit := two_zpow_pos (unitExponent v)
  rw [rounded, if_neg above.ne', isFinite_settled_iff]
  rcases lt_trichotomy (unitExponent v) 971 with lower | top | higher
  · have below : v < overflow := lt_overflow_of_unit lower ((div_lt_iff₀ unit).1 high)
    simp only [lower, below, true_or]
  · -- only the count that is rounded up to the next power is too large
    have count : 0 ≤ v / 2 ^ unitExponent v := (div_pos above unit).le
    have reached : halfEven (v / 2 ^ unitExponent v) = 2 ^ 53 ↔ 2 ^ 53 - 1 / 2 ≤ v / 2 ^ unitExponent v := by
      have law := halfEven_eq_iff (n := 2 ^ 53) count (by decide) (by exact_mod_cast high)
      exact_mod_cast law
    rw [Ne, reached, not_le, overflow_eq, ← top, ← div_lt_iff₀ unit]
    simp
  · have full : (2 : ℚ) ^ 52 ≤ v / 2 ^ unitExponent v := low.resolve_right (by omega)
    have beyond : ¬ v < overflow := not_lt.2 (overflow_le_of_unit higher ((le_div_iff₀ unit).1 full))
    simp only [beyond, iff_false]
    omega

theorem rounded_eq_infinite (negative : Bool) {v : ℚ} (large : overflow ≤ v) :
    rounded negative v = .infinite negative := by
  have above : 0 < v := overflow_pos.trans_le large
  have endless : (rounded negative v).isFinite = false := by
    rw [← Bool.not_eq_true, isFinite_rounded_iff negative above.le, not_lt]
    exact large
  rw [rounded, if_neg above.ne'] at endless ⊢
  exact settled_eq_infinite endless

/-- Values below half the least double are rounded to zero. -/
theorem rounded_eq_zero (negative : Bool) {v : ℚ} (positive : 0 ≤ v) (small : v < 2 ^ (-1075 : Int)) :
    rounded negative v = zero negative := by
  rcases positive.eq_or_lt with rfl | above
  · simp [rounded]
  have order : Int.log 2 v < -1075 := (Int.lt_zpow_iff_log_lt (by decide) above).1 (by exact_mod_cast small)
  have unit : unitExponent v = -1074 := by
    unfold unitExponent
    omega
  have none : halfEven (v / 2 ^ (-1074 : Int)) = 0 := by
    have half : v / 2 ^ (-1074 : Int) < 1 / 2 := by
      rw [div_lt_iff₀ (two_zpow_pos _)]
      calc
        v < 2 ^ (-1075 : Int) := small
        _ = 1 / 2 * 2 ^ (-1074 : Int) := by rw [one_div, ← zpow_neg_one, ← zpow_add₀ two_ne_zero]; rfl
    have floor : ⌊v / 2 ^ (-1074 : Int)⌋₊ = 0 := Nat.floor_eq_zero.2 (by linarith)
    rw [halfEven, floor, Nat.cast_zero, sub_zero, if_pos half]
  rw [rounded, if_neg above.ne', unit, none]
  rfl

end Binary64

end DesignProps
