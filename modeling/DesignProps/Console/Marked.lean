import DesignProps.Console.Fit

/-!
# Marked text

A text whose parts have styles.  A text that is cut up gives each part the styles of its characters; one that is cut
off loses the styles that begin behind the cut.

Main statements: `text_parts` (cutting a text up loses nothing), `text_concat`.
-/

set_option autoImplicit false

namespace DesignProps.Console

/-- A part of the text, and the text of its style. -/
structure Span where
  start : Nat
  stop : Nat
  style : List Char
  deriving DecidableEq, Repr

structure Marked where
  text : List Char
  spans : List Span
  deriving DecidableEq, Repr

namespace Span

/-- What a span has in common with the text between two places, counted from the first one. -/
def within? (s : Span) (start stop : Nat) : Option Span :=
  let first := max s.start start
  let last := min s.stop stop
  if first < last then some ⟨first - start, last - start, s.style⟩ else none

/-- What is left of a span in a text that was cut off. -/
def until? (s : Span) (length : Nat) : Option Span :=
  if s.start < length then some { s with stop := min s.stop length } else none

def shifted (s : Span) (offset : Nat) : Span := { s with start := s.start + offset, stop := s.stop + offset }

end Span

namespace Marked

def part (m : Marked) (start stop : Nat) : Marked where
  text := (m.text.take stop).drop start
  spans := m.spans.filterMap fun s => s.within? start stop

def partsFrom (m : Marked) (start : Nat) : List Nat → List Marked
  | [] => [m.part start m.text.length]
  | stop :: rest => m.part start stop :: m.partsFrom stop rest

/-- The parts between ascending places.  A text that is not cut keeps all its styles, also those of no character. -/
def parts (m : Marked) (places : List Nat) : List Marked := if places.isEmpty then [m] else m.partsFrom 0 places

/-- Another text in place of this one; if it is shorter, the styles behind its end are lost. -/
def withText (m : Marked) (text : List Char) : Marked :=
  if text.length < m.text.length then ⟨text, m.spans.filterMap fun s => s.until? text.length⟩ else { m with text := text }

/-- Blanks at the end, in the style of the last character. -/
def widened (m : Marked) (blanks : Nat) : Marked where
  text := m.text ++ List.replicate blanks ' '
  spans := m.spans.map fun s => if m.text.length ≤ s.stop then { s with stop := s.stop + blanks } else s

def append (a b : Marked) : Marked := ⟨a.text ++ b.text, a.spans ++ b.spans.map fun s => s.shifted a.text.length⟩

def concat (ms : List Marked) : Marked := ms.foldr append ⟨[], []⟩

/-- The places of a character. -/
def placesFrom (c : Char) (start : Nat) : List Char → List Nat
  | [] => []
  | d :: rest => if d = c then start :: placesFrom c (start + 1) rest else placesFrom c (start + 1) rest

/-! ## Tabs and lines -/

def tabStop : Nat := 8

/-- Blanks in place of the tabs that parts end in, up to the next stop. -/
def expandFrom (column : Nat) : List Marked → List Marked
  | [] => []
  | m :: rest =>
      if m.text.getLast? = some '\t' then
        let m := { m with text := m.text.dropLast ++ [' '] }
        let column := column + cells m.text
        let blanks := (tabStop - column % tabStop) % tabStop
        m.widened blanks :: expandFrom (column + blanks) rest
      else m :: expandFrom (column + cells m.text) rest

def expandTabs (m : Marked) : Marked :=
  if m.text.contains '\t' then concat (expandFrom 0 (m.parts ((placesFrom '\t' 0 m.text).map (· + 1)))) else m

/-- The lines, without the line feeds between them. -/
def lines (m : Marked) : List Marked :=
  let ends := placesFrom '\n' 0 m.text
  if ends.isEmpty then [m]
  else List.zipWith m.part (0 :: ends.map (· + 1)) (ends ++ [m.text.length])

/-! ## Laws -/

theorem text_partsFrom (m : Marked) (start : Nat) (places : List Nat)
    (ascending : (start :: places).Pairwise (· ≤ ·)) :
    ((m.partsFrom start places).map Marked.text).flatten = m.text.drop start := by
  induction places generalizing start with
  | nil => simp [partsFrom, part]
  | cons stop rest ih =>
      have order : start ≤ stop := (List.pairwise_cons.1 ascending).1 stop (List.mem_cons_self ..)
      have behind : m.text.drop stop = (m.text.drop start).drop (stop - start) := by
        rw [List.drop_drop, Nat.add_sub_cancel' order]
      simp only [partsFrom, List.map_cons, List.flatten_cons, ih stop (List.pairwise_cons.1 ascending).2, part]
      rw [List.drop_take, behind, List.take_append_drop]

theorem text_parts (m : Marked) (places : List Nat) (ascending : places.Pairwise (· ≤ ·)) :
    ((m.parts places).map Marked.text).flatten = m.text := by
  unfold parts
  split
  · simp
  · exact text_partsFrom m 0 places (List.pairwise_cons.2 ⟨fun p _ => Nat.zero_le p, ascending⟩)

theorem text_concat (ms : List Marked) : (concat ms).text = (ms.map Marked.text).flatten := by
  induction ms with
  | nil => rfl
  | cons m rest ih => simp [concat, append] at ih ⊢; exact ih

end Marked

end DesignProps.Console
