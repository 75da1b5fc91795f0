import DesignProps.Console.Marked
import DesignProps.Text.Blank

/-!
# Rows

A line that is longer than the console is wide goes on in further rows.  It is broken before a word that does not fit
any more; only a word that is longer than a row is broken itself.  Blanks beyond the end of a row are dropped.

Main statements: `flatten_wordsOf`, `flatten_broken` (breaking a line loses nothing).
-/

set_option autoImplicit false

namespace DesignProps.Console

def dropTrailingBlanks (cs : List Char) : List Char := (cs.reverse.dropWhile Text.isBlank).reverse

/-- Drops blanks at the end of a row of more characters than the width, but no more than needed. -/
def trimEnd (width : Nat) (cs : List Char) : List Char :=
  let blanks := cs.length - (dropTrailingBlanks cs).length
  cs.take (cs.length - min blanks (cs.length - width))

/-- The words of a line, each with the blanks behind it; the first one also with those before it. -/
def wordsOf : List Char → List (List Char)
  | [] => []
  | c :: rest =>
      match wordsOf rest with
      | [] => [[c]]
      | word :: later =>
          let bare := word.dropWhile Text.isBlank
          if Text.isBlank c || bare.isEmpty || bare.length == word.length then (c :: word) :: later
          else (c :: word.takeWhile Text.isBlank) :: bare :: later

/-- Clusters in rows that are full, and the last row, all behind what already stands in the first one. -/
def chopped (width : Nat) (row : List Char) (used : Nat) : List Cluster → List (List Char) × List Char
  | [] => ([], row)
  | k :: rest =>
      if width < used + k.width then
        let (rows, last) := chopped width k.chars k.width rest
        (row :: rows, last)
      else chopped width (row ++ k.chars) (used + k.width) rest

/-- The rows of words, behind what already stands in the first row and the cells it has used.  A word that is longer
than a row begins one. -/
def broken (width used : Nat) (row : List Char) : List (List Char) → List (List Char)
  | [] => [row]
  | word :: later =>
      if used + cells (dropTrailingBlanks word) ≤ width then broken width (used + cells word) (row ++ word) later
      else if cells (dropTrailingBlanks word) ≤ width then row :: broken width (cells word) word later
      else
        let (rows, last) := chopped width [] 0 (clusters word)
        (if row.isEmpty then [] else [row]) ++ rows ++ broken width (cells last) last later

/-- A row that is shown: not wider than the console. -/
def Marked.shownRow (width : Nat) (row : Marked) : Except CutError Marked :=
  let row := row.withText (trimEnd width row.text)
  if width < cells row.text then (fit width row.text).map row.withText else .ok row

def Marked.rowsOfLine (width : Nat) (line : Marked) : Except CutError (List Marked) :=
  (line.parts (Text.stopsFrom 0 (broken width 0 [] (wordsOf line.text))).dropLast).mapM (Marked.shownRow width)

def Marked.rows (width : Nat) (m : Marked) : Except CutError (List Marked) := do
  let rows ← m.lines.mapM fun line => line.expandTabs.rowsOfLine width
  .ok rows.flatten

/-! ## Laws -/

theorem flatten_wordsOf (cs : List Char) : (wordsOf cs).flatten = cs := by
  induction cs with
  | nil => rfl
  | cons c rest ih =>
      simp only [wordsOf]
      split
      · next none =>
          rw [none] at ih
          simp [← ih]
      · next word later some =>
          rw [some, List.flatten_cons] at ih
          split
          · rw [List.flatten_cons, List.cons_append, ih]
          · rw [List.flatten_cons, List.flatten_cons, List.cons_append, ← List.append_assoc,
              List.takeWhile_append_dropWhile, ih]

theorem flatten_chopped (width : Nat) (ks : List Cluster) (row : List Char) (used : Nat) :
    (chopped width row used ks).1.flatten ++ (chopped width row used ks).2
      = row ++ (ks.map Cluster.chars).flatten := by
  induction ks generalizing row used with
  | nil => simp [chopped]
  | cons k rest ih =>
      simp only [chopped]
      split
      · simp [ih]
      · simp [ih]

theorem flatten_broken (width used : Nat) (words : List (List Char)) (row : List Char) :
    (broken width used row words).flatten = row ++ words.flatten := by
  induction words generalizing row used with
  | nil => simp [broken]
  | cons word later ih =>
      simp only [broken]
      split
      · simp [ih]
      · split
        · simp [ih]
        · have whole := flatten_chopped width (clusters word) [] 0
          rw [List.nil_append, flatten_clusters] at whole
          rw [List.flatten_append, List.flatten_append, ih, List.flatten_cons, List.append_assoc,
            ← List.append_assoc (chopped width [] 0 (clusters word)).1.flatten, whole]
          cases row <;> simp

end DesignProps.Console
