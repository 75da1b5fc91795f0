import DesignProps.Console.Pieces

/-!
# Tables and panels

A table is as wide as its widest cells; a panel is as wide as the console, and longer lines are cut off.

Main statements: `flatten_fittedPieces` (the pieces of a line are fitted as its text is), `Panel.measured_codeRow` (every
line of code fills the console).
-/

set_option autoImplicit false

namespace DesignProps.Console

/-- The characters of one kind of line: at the left, within a cell, between cells, at the right. -/
structure Rule where
  left : Char
  within : Char
  between : Char
  right : Char
  deriving DecidableEq, Repr

def Rule.line (r : Rule) (cells : List (List Char)) : List Char :=
  r.left :: (List.intercalate [r.between] cells ++ [r.right])

def Rule.blank (r : Rule) (widths : List Nat) : List Char :=
  r.line (widths.map fun w => List.replicate (w + 2) r.within)

def Rule.row (r : Rule) (widths : List Nat) (cells : List String) : List Char :=
  r.line (List.zipWith (fun w cell => ' ' :: padded w cell.toList ++ [' ']) widths cells)

structure Frame where
  top : Rule
  row : Rule
  head : Rule
  bottom : Rule
  deriving DecidableEq, Repr

def Frame.rounded : Frame where
  top := ⟨'╭', '─', '┬', '╮'⟩
  row := ⟨'│', ' ', '│', '│'⟩
  head := ⟨'├', '─', '┼', '┤'⟩
  bottom := ⟨'╰', '─', '┴', '╯'⟩

def Frame.simple : Frame where
  top := ⟨' ', ' ', ' ', ' '⟩
  row := ⟨' ', ' ', ' ', ' '⟩
  head := ⟨' ', '─', '─', ' '⟩
  bottom := ⟨' ', ' ', ' ', ' '⟩

structure Table where
  title : String
  frame : Frame
  header : List String
  rows : List (List String)
  deriving DecidableEq, Repr

namespace Table

/-- The width of a column: that of its widest cell. -/
def columnWidth (t : Table) (column : Nat) : Nat :=
  ((t.header :: t.rows).map fun row => cells (row.getD column "").toList).foldl max 0

def widths (t : Table) : List Nat := (List.range t.header.length).map t.columnWidth

def lines (t : Table) : List (List Char) :=
  let widths := t.widths
  let top := t.frame.top.blank widths
  [centered top.length ' ' t.title.toList, top, t.frame.row.row widths t.header, t.frame.head.blank widths]
    ++ t.rows.map (t.frame.row.row widths)
    ++ [t.frame.bottom.blank widths]

end Table

/-- Code under a title, in a frame over the whole width.  Each line of the code is given in pieces of one style. -/
structure Panel where
  title : String
  code : List (List (List Char))
  deriving DecidableEq, Repr

namespace Panel

/-- A line of code brought to a width, in the pieces that it was given in and what it was filled up with. -/
def fittedPieces (width : Nat) (line : List (List Char)) : Except CutError (List (List Char)) :=
  (fit width (trimEnd width line.flatten)).map fun text => Text.filled (Text.cutFrom 0 (Text.stopsFrom 0 line) text)

/-- Code between blanks, as wide as the panel is within. -/
def inner (width : Nat) (code : List (List Char)) : Except CutError (List (List Char)) := do
  let code ← adjusted (width - 2) code >>= adjusted (width - 2)
  adjusted width ([' '] :: (code ++ [[' ']]))

def codeRow (columns : Nat) (code : List (List Char)) : Except CutError (List (List Char)) := do
  let row ← inner (columns - 2) code
  limited columns (['│'] :: (row ++ [['│']]))

def codeLine (columns : Nat) (line : List (List Char)) : Except CutError (List Char) := do
  let row ← fittedPieces (columns - 4) line >>= codeRow columns
  .ok row.flatten

def lines (columns : Nat) (p : Panel) : Except CutError (List (List Char)) := do
  let code ← p.code.mapM (codeLine columns)
  .ok (['╭' :: '─' :: centered (columns - 4) '─' (' ' :: p.title.toList ++ [' ']) ++ ['─', '╮']]
    ++ code
    ++ ['╰' :: List.replicate (columns - 2) '─' ++ ['╯']])

/-! ## Laws -/

theorem flatten_fittedPieces {width : Nat} {line pieces : List (List Char)} (h : fittedPieces width line = .ok pieces) :
    fit width (trimEnd width line.flatten) = .ok pieces.flatten := by
  unfold fittedPieces at h
  cases fitted : fit width (trimEnd width line.flatten) with
  | error e => rw [fitted] at h; cases h
  | ok text =>
      rw [fitted] at h
      rw [← Except.ok.inj h, Text.flatten_filled, Text.flatten_cutFrom]

theorem measured_inner {width : Nat} (wide : 2 ≤ width) {code : List (List Char)} (apart : Apart code) :
    ∃ r, inner width code = .ok r ∧ measured r = width := by
  obtain ⟨r, found, sum⟩ := measured_adjusted (width - 2) apart
  have sum : measured ([' '] :: (r ++ [[' ']])) = width := by
    rw [measured_cons, measured_append, sum]
    have : cells [' '] = 1 ∧ measured [[' ']] = 1 := by decide
    omega
  refine ⟨_, ?_, sum⟩
  rw [inner, found]
  exact adjusted_of_eq sum

theorem measured_codeRow {columns : Nat} (wide : 4 ≤ columns) {code : List (List Char)} (apart : Apart code) :
    ∃ r, codeRow columns code = .ok r ∧ measured r = columns := by
  obtain ⟨r, found, sum⟩ := measured_inner (by omega : 2 ≤ columns - 2) apart
  have sum : measured (['│'] :: (r ++ [['│']])) = columns := by
    rw [measured_cons, measured_append, sum]
    have : cells ['│'] = 1 ∧ measured [['│']] = 1 := by decide +kernel
    omega
  have fits := limited_of_le (Nat.le_of_eq sum)
  exact ⟨_, by simp only [codeRow, found, bind, Except.bind, fits], sum⟩

end Panel

end DesignProps.Console
