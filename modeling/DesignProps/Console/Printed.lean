import DesignProps.Console.Markup
import DesignProps.Console.Table
import DesignProps.Highlight.Code
import DesignProps.Text.Lines

/-!
# What is printed

Printed matter is text as it is, a text with markup, a table or a panel.

Main statement: `text_verbatim`.
-/

set_option autoImplicit false

namespace DesignProps.Console

inductive Printed
  | verbatim (text : String)
  /-- A text with markup, in which the parts of a message may stand out. -/
  | markup (text : String) (highlighted : Bool)
  | table (t : Table)
  | panel (p : Panel)
  deriving DecidableEq, Repr

def terminated (lines : List (List Char)) : String := String.ofList (lines.flatMap fun line => line ++ ['\n'])

/-- The lines of code as a panel shows them.  The code is cut up as if a line feed came last. -/
def codeLines (language code : String) : List (List (List Char)) :=
  let ended := code.toList.getLast? == some '\n'
  let cs := expandTabs 4 0 (if ended then code.toList else code.toList ++ ['\n'])
  let lines := Text.linesOf ((Highlight.Code.pieces language (Text.unifyNewlines cs)).map Markup.shown)
  if ended then lines else lines.dropLast

namespace Markup

/-- A style whose color cannot be read. -/
def isFaulty (s : Span) : Bool :=
  match Style.ofText s.style with
  | .error .channel => true
  | _ => false

/-- What cannot be brought to its width cannot be printed. -/
def fitting {α : Type} (r : Except CutError α) : Except PrintError α := r.mapError .row

/-- The rows of a marked text, if the styles that are left in them can be drawn. -/
def drawnRows (width : Nat) (m : Marked) : Except PrintError (List (List Char)) := do
  let rows ← fitting (m.rows width)
  if rows.any fun row => row.spans.any isFaulty then .error .channel
  else fitting (rows.mapM fun row => (limited width row.pieces).map List.flatten)

end Markup

namespace Printed

def text (columns : Nat) : Printed → Except PrintError String
  | .verbatim text => .ok text
  | .markup text highlighted => do
      let marked ← Markup.ofText text.toList
      let rows ← Markup.drawnRows columns (if highlighted then marked.highlighted else marked)
      .ok (terminated rows)
  | .table t => .ok (terminated t.lines)
  | .panel p => (Markup.fitting (p.lines columns)).map terminated

theorem text_verbatim (columns : Nat) (s : String) : text columns (.verbatim s) = .ok s := rfl

end Printed

end DesignProps.Console
