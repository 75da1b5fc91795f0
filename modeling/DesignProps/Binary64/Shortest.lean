import DesignProps.Binary64.Nearest
import DesignProps.Decimal

/-!
# The shortest decimal of a double

`shortest` gives the decimal with the fewest digits that reads back as the same double, and of those the nearest
one.  `text` lays it out as `layout` says: with a point while the decimal exponent lies in the positional range,
else with one leading digit and a signed exponent of at least two digits.

Main statement: `ofDecimal_searchGrids` (a decimal that the search gives reads back).
-/

set_option autoImplicit false

namespace DesignProps

namespace Binary64

/-- The power `k` with `10 ^ k ≤ num / den < 10 ^ (k + 1)`, from the lengths of the two numbers. -/
def decimalOrder (num den : Nat) : Int :=
  let k : Int := (digitCount num : Int) - (digitCount den : Int)
  if den * Nat.pow 10 k.toNat ≤ num * Nat.pow 10 (-k).toNat then k else k - 1

/-- Of the two neighbours of `num / den` on the grid of `10 ^ exponent` that read back as `x`, the nearer one; of
two equally near ones, the even one. -/
def gridNeighbour (x : Binary64) (negative : Bool) (num den : Nat) (exponent : Int) : Option Decimal :=
  let scaledNum := num * Nat.pow 10 (-exponent).toNat
  let scaledDen := den * Nat.pow 10 exponent.toNat
  let below := scaledNum / scaledDen
  let near := roundHalfEven scaledNum scaledDen
  let far := if near = below then below + 1 else below
  ([near, far].find? fun digits => ofDecimal negative digits exponent = x).map (⟨·, exponent⟩)

/-- Tries grids of more and more digits. -/
def searchGrids (x : Binary64) (negative : Bool) (num den : Nat) : Nat → Int → Option Decimal
  | 0, _ => none
  | tries + 1, exponent =>
      match gridNeighbour x negative num den exponent with
      | some d => some d
      | none => searchGrids x negative num den tries (exponent - 1)

/-- Seventeen digits always suffice; the exact decimal stands behind them. -/
def shortest (negative : Bool) (m : Nat) (q : Int) : Decimal :=
  let num := m * Nat.pow 2 q.toNat
  let den := Nat.pow 2 (-q).toNat
  match searchGrids (.finite negative m q) negative num den 17 (decimalOrder num den) with
  | some d => d
  | none => ⟨num * Nat.pow 5 (-q).toNat, min q 0⟩

theorem ofDecimal_gridNeighbour (x : Binary64) (negative : Bool) (num den : Nat) (exponent : Int) (d : Decimal)
    (h : gridNeighbour x negative num den exponent = some d) : ofDecimal negative d.digits d.exponent = x := by
  obtain ⟨digits, found, rfl⟩ := Option.map_eq_some_iff.1 h
  simpa using List.find?_some found

theorem ofDecimal_searchGrids (x : Binary64) (negative : Bool) (num den : Nat) (d : Decimal) :
    ∀ (tries : Nat) (exponent : Int), searchGrids x negative num den tries exponent = some d →
      ofDecimal negative d.digits d.exponent = x := by
  intro tries
  induction tries with
  | zero => simp [searchGrids]
  | succ tries ih =>
      intro exponent h
      simp only [searchGrids] at h
      split at h
      · next e he =>
          rw [← Option.some.inj h]
          exact ofDecimal_gridNeighbour x negative num den exponent e he
      · exact ih (exponent - 1) h

/-! ## Text -/

/-- Numbers from `1e-4` up to, and without, `1e16` are written positionally. -/
def layout : Decimal.Layout := ⟨-4, 16, 2⟩

/-- Zeros, infinities and `nan` have fixed texts. -/
def chars : Binary64 → List Char
  | .nan => ['n', 'a', 'n']
  | .infinite negative => (if negative then ['-'] else []) ++ ['i', 'n', 'f']
  | .finite negative m q =>
      (if negative then ['-'] else []) ++
        (if m = 0 then ['0', '.', '0'] else Decimal.chars layout (shortest negative m q))

def text (x : Binary64) : String := String.ofList x.chars

end Binary64

end DesignProps
