import DesignProps.Text.Split

/-!
# Lines

`lines` cuts a text at its line feeds and `unlines` joins them again.  `unifyNewlines` turns the other line ends into
line feeds, as a text file is read.

Main statements: `unlines_lines` (cutting and joining loses nothing), `map_flatten_linesOf` (a text in pieces has the
lines of the whole text).
-/

set_option autoImplicit false

namespace DesignProps.Text

def lines (cs : List Char) : List (List Char) := splitOn '\n' cs

def unlines (ls : List (List Char)) : List Char := joinWith '\n' ls

def unifyNewlines : List Char → List Char
  | [] => []
  | '\r' :: '\n' :: rest => '\n' :: unifyNewlines rest
  | c :: rest => (if c = '\r' then '\n' else c) :: unifyNewlines rest

/-- The lines of a text that is given in pieces. -/
def linesOf : List (List Char) → List (List (List Char))
  | [] => [[]]
  | piece :: rest =>
      let here := lines piece
      (here.dropLast.map fun line => [line]) ++
        match linesOf rest with
        | [] => [[here.getLastD []]]
        | first :: later => (here.getLastD [] :: first) :: later

theorem unlines_lines (cs : List Char) : unlines (lines cs) = cs := joinWith_splitOn '\n' cs

theorem lines_ne_nil (cs : List Char) : lines cs ≠ [] := splitOn_ne_nil '\n' cs

theorem lines_append (xs ys : List Char) :
    lines (xs ++ ys) = (lines xs).dropLast ++ ((lines xs).getLastD [] ++ (lines ys).headD []) :: (lines ys).tail := by
  induction xs with
  | nil =>
      cases h : lines ys with
      | nil => exact absurd h (lines_ne_nil ys)
      | cons first rest => simp [lines, splitOn] at h ⊢; simp [h]
  | cons c rest ih =>
      simp only [lines, List.cons_append, splitOn] at ih ⊢
      split
      · next found =>
          rw [ih]
          cases h : splitOn '\n' rest with
          | nil => exact absurd h (splitOn_ne_nil _ _)
          | cons first others => simp
      · next other =>
          rw [ih]
          cases h : splitOn '\n' rest with
          | nil => exact absurd h (splitOn_ne_nil _ _)
          | cons first others => cases others <;> simp

theorem linesOf_ne_nil (pieces : List (List Char)) : linesOf pieces ≠ [] := by
  cases pieces with
  | nil => simp [linesOf]
  | cons piece rest =>
      rw [linesOf]
      split <;> simp

/-- The lines of the pieces are the lines of the text. -/
theorem map_flatten_linesOf (pieces : List (List Char)) :
    (linesOf pieces).map List.flatten = lines pieces.flatten := by
  induction pieces with
  | nil => rfl
  | cons piece rest ih =>
      rw [List.flatten_cons, lines_append, ← ih, linesOf]
      cases h : linesOf rest with
      | nil => exact absurd h (linesOf_ne_nil rest)
      | cons first later => simp [Function.comp_def]

end DesignProps.Text
