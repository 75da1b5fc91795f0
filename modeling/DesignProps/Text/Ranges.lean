/-!
# Ranges of code points

Classes of characters are given as ascending lists of closed ranges.
-/

set_option autoImplicit false

namespace DesignProps.Text

/-- Whether a number lies in one of the ascending ranges. -/
def inRanges (n : Nat) : List (Nat × Nat) → Bool
  | [] => false
  | (low, high) :: rest => if n < low then false else n ≤ high || inRanges n rest

theorem inRanges_head {n low high : Nat} (rest : List (Nat × Nat)) (above : low ≤ n) (below : n ≤ high) :
    inRanges n ((low, high) :: rest) = true := by
  simp [inRanges, Nat.not_lt.2 above, below]

theorem inRanges_tail {n low high : Nat} {rest : List (Nat × Nat)} (above : low ≤ n) (h : inRanges n rest = true) :
    inRanges n ((low, high) :: rest) = true := by
  simp [inRanges, Nat.not_lt.2 above, h]

end DesignProps.Text
