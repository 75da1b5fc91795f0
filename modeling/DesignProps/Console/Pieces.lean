import DesignProps.Console.Rows
import DesignProps.Highlight.Message

/-!
# Rows in pieces

A row is drawn in pieces of one style, and each piece is measured on its own: a character that a joiner takes along in
the text is a character of its own at the beginning of a piece.  So pieces can be wider than their row, and are cut off
again; in a panel they are filled up as well.

Main statements: `flatten_pieces` (the pieces of a row are the row), `measured_adjusted` (pieces that are adjusted twice
have the width).
-/

set_option autoImplicit false

namespace DesignProps.Console

/-! ## Pieces of one style -/

/-- Where styles begin and end. -/
def Marked.seams (m : Marked) : List Nat := (m.spans.flatMap fun s => [s.start, s.stop]).mergeSort

def Marked.pieces (m : Marked) : List (List Char) := Text.filled (Text.cutFrom 0 m.seams m.text)

/-- The parts of a message that stand out have a style, too.  Only a joiner can make the pieces of a row wider than the
row, so that without one they need not be looked for. -/
def Marked.highlighted (m : Marked) : Marked :=
  if m.text.contains joiner then
    { m with spans := (Highlight.Message.parts m.text).map (fun (start, stop) => ⟨start, stop, []⟩) ++ m.spans }
  else m

/-! ## Widths -/

def measured (pieces : List (List Char)) : Nat := pieces.foldr (fun piece width => cells piece + width) 0

/-- Pieces up to a width; the one that reaches it is cut off or filled up there. -/
def cropped (width : Nat) : List (List Char) → Except CutError (List (List Char))
  | [] => .ok []
  | piece :: rest =>
      if cells piece < width then (cropped (width - cells piece) rest).map (piece :: ·)
      else (fit width piece).map fun piece => [piece]

/-- Pieces that are no wider than the console. -/
def limited (width : Nat) (pieces : List (List Char)) : Except CutError (List (List Char)) :=
  if width < measured pieces then cropped width pieces else .ok pieces

/-- Pieces brought to a width. -/
def adjusted (width : Nat) (pieces : List (List Char)) : Except CutError (List (List Char)) :=
  if measured pieces < width then .ok (pieces ++ [List.replicate (width - measured pieces) ' '])
  else limited width pieces

/-! ## Laws -/

theorem Marked.flatten_pieces (m : Marked) : m.pieces.flatten = m.text := by
  rw [pieces, Text.flatten_filled, Text.flatten_cutFrom]

theorem measured_cons (piece : List Char) (rest : List (List Char)) :
    measured (piece :: rest) = cells piece + measured rest := rfl

theorem measured_append (xs ys : List (List Char)) : measured (xs ++ ys) = measured xs + measured ys := by
  induction xs with
  | nil => exact (Nat.zero_add _).symm
  | cons x rest ih => rw [List.cons_append, measured_cons, measured_cons, ih, Nat.add_assoc]

theorem cells_replicate_blank (n : Nat) : cells (List.replicate n ' ') = n := Context.start.cells_replicate_blank rfl n

theorem limited_of_le {width : Nat} {pieces : List (List Char)} (h : measured pieces ≤ width) :
    limited width pieces = .ok pieces := if_neg (Nat.not_lt.2 h)

theorem adjusted_of_le {width : Nat} {pieces : List (List Char)} (h : measured pieces ≤ width) :
    ∃ r, adjusted width pieces = .ok r ∧ measured r = width := by
  unfold adjusted
  split
  · refine ⟨_, rfl, ?_⟩
    have none : measured [] = 0 := rfl
    rw [measured_append, measured_cons, cells_replicate_blank, none]
    omega
  · exact ⟨pieces, limited_of_le h, by omega⟩

theorem adjusted_of_eq {width : Nat} {pieces : List (List Char)} (h : measured pieces = width) :
    adjusted width pieces = .ok pieces := by
  rw [adjusted, if_neg (by omega), limited_of_le (by omega)]

/-- No piece begins with a joiner. -/
def Apart (pieces : List (List Char)) : Prop := ∀ piece ∈ pieces, piece.head? ≠ some joiner

theorem measured_cropped_le (width : Nat) {pieces : List (List Char)} (apart : Apart pieces) :
    ∃ r, cropped width pieces = .ok r ∧ measured r ≤ width := by
  induction pieces generalizing width with
  | nil => exact ⟨[], rfl, Nat.zero_le _⟩
  | cons piece rest ih =>
      rw [cropped]
      split
      · obtain ⟨r, found, small⟩ := ih (width - cells piece) fun p mem => apart p (List.mem_cons_of_mem _ mem)
        refine ⟨piece :: r, by rw [found, Except.map], ?_⟩
        rw [measured_cons]
        omega
      · obtain ⟨r, found, small⟩ := cells_fit_le width (apart piece (List.mem_cons_self ..))
        exact ⟨[r], by rw [found, Except.map], by simpa [measured] using small⟩

theorem measured_adjusted_le (width : Nat) {pieces : List (List Char)} (apart : Apart pieces) :
    ∃ r, adjusted width pieces = .ok r ∧ measured r ≤ width := by
  by_cases small : measured pieces ≤ width
  · obtain ⟨r, found, same⟩ := adjusted_of_le small
    exact ⟨r, found, Nat.le_of_eq same⟩
  · rw [adjusted, if_neg (by omega), limited, if_pos (by omega)]
    exact measured_cropped_le width apart

theorem measured_adjusted (width : Nat) {pieces : List (List Char)} (apart : Apart pieces) :
    ∃ r, adjusted width pieces >>= adjusted width = .ok r ∧ measured r = width := by
  obtain ⟨once, found, small⟩ := measured_adjusted_le width apart
  rw [found]
  exact adjusted_of_le small

end DesignProps.Console
