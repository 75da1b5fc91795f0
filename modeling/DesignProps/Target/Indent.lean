import DesignProps.Config.Basic
import DesignProps.Text.Blank
import DesignProps.Text.Lines

/-!
# Indentation

`indent` moves every line that is not blank to the right.  The width comes from the configuration, where anything may
stand; `width` says how many blanks it amounts to, if any.

Main statements: `indent_zero` (no blanks change nothing), `width_int`.
-/

set_option autoImplicit false

namespace DesignProps

namespace Indent

/-- Whether a number fits into a signed word. -/
def isCount (n : Int) : Bool := -Int.pow 2 63 ≤ n && n < Int.pow 2 63

/-- More blanks than this are not made. -/
def widthLimit : Int := Int.pow 2 36

/-- So many blanks, or the fault when there are too many; a negative number has none. -/
def blanks (n : Int) : Except Fault Nat :=
  if !isCount n then .error .widthOutOfRange
  else if widthLimit ≤ n then .error .widthTooLarge
  else .ok n.toNat

/-- A sequence is repeated before it is found to be no width. -/
def repeated (v : Json) (length : Nat) (levels : Int) : Except Fault Nat :=
  if isCount levels then (blanks (length * levels)).bind fun _ => .error (.notAWidth v)
  else .error .widthOutOfRange

/-- The blanks of so many levels. -/
def width (size : Json) (levels : Int) : Except Fault Nat :=
  match size with
  | .int n => blanks (n * levels)
  | .bool b => blanks (if b then levels else 0)
  | .float x => .error (.notAWidth (.float x))
  | .str s => repeated (.str s) s.length levels
  | .arr items => repeated (.arr items) items.length levels
  | v => .error (.noProduct v)

def indentLine (width : Nat) (line : List Char) : List Char :=
  if line.all Text.isBlank then line else List.replicate width ' ' ++ line

def indent (width : Nat) (text : String) : String :=
  String.ofList (Text.unlines ((Text.lines text.toList).map (indentLine width)))

theorem blanks_of_lt {n : Nat} (h : n < widthLimit) : blanks n = .ok n := by
  have limit : widthLimit = 68719476736 := rfl
  have word : Int.pow 2 63 = 9223372036854775808 := rfl
  have count : isCount n = true := by
    simp only [isCount, word, Bool.and_eq_true, decide_eq_true_eq]
    omega
  have few : ¬ widthLimit ≤ n := by omega
  simp [blanks, count, few]

theorem width_int {n : Nat} (h : n < widthLimit) : width (.int n) 1 = .ok n := by
  simp [width, blanks_of_lt h]

theorem indent_zero (text : String) : indent 0 text = text := by
  have same : indentLine 0 = id := by
    funext line
    simp [indentLine]
  simp [indent, same, Text.unlines_lines]

end Indent

end DesignProps
