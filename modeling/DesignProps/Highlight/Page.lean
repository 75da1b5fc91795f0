import DesignProps.Highlight.Sheet

/-!
# Pages

The pieces of a page: text, entities, comments and tags with their attributes.  The content of a script element is cut
up as a script and that of a style element as a style sheet.

Main statement: `flatten_pieces` (the pieces are the page).
-/

set_option autoImplicit false

namespace DesignProps.Highlight.Page

open Text (isBlank isWordChar)
open Text.Pattern
open Script (bareQuoted blanks)

inductive State
  | root
  | tag
  | value
  | script
  | style
  deriving DecidableEq, Repr

abbrev Rules := List (Rule State)

/-! ## Parts -/

/-- Letters that are alike but for their case. -/
def alike (letter c : Char) : Bool :=
  c.toLower == letter || (letter == 's' && c == '\u017F') || (letter == 'i' && (c == '\u0130' || c == '\u0131'))

/-- A word in lower case, in letters of any case. -/
def anyCase (s : String) : Text.Pattern := s.toList.foldr (fun letter later => one (alike letter) ++ later) empty

def isNameChar (c : Char) : Bool := isWordChar c || among ":-" c

def isTagChar (c : Char) : Bool := isNameChar c || c == '.'

def tagName : Text.Pattern := plus isTagChar

def opening (name : Text.Pattern) : Text.Pattern := group (mark '<') ++ blanks ++ group name

def closing (name : Text.Pattern) : Text.Pattern :=
  group (mark '<') ++ blanks ++ group (mark '/') ++ blanks ++ group name ++ blanks ++ group (mark '>')

/-! ## Rules -/

def rootRules : Rules := [
  .stay (plus (outside "<&")),
  .stay (mark '&' ++ few (fun c => !isBlank c) ++ mark ';'),
  .stay (word "<![" ++ anyCase "cdata" ++ mark '[' ++ few any ++ word "]]>"),
  .stay (word "<!--" ++ few any ++ word "-->"),
  .stay (word "<?" ++ few any ++ word "?>"),
  .stay (word "<!" ++ many (· != '>') ++ mark '>'),
  ⟨opening (anyCase "script") ++ blanks, [.enter .script, .enter .tag], none⟩,
  ⟨opening (anyCase "style") ++ blanks, [.enter .style, .enter .tag], none⟩,
  .enter (opening tagName) .tag,
  .stay (closing tagName)]

def tagRules : Rules := [
  .stay (plus isBlank),
  .enter (group (plus isNameChar ++ many isBlank) ++ group (mark '=') ++ blanks) .value,
  .stay (plus isNameChar),
  .leave (group (optional (mark '/')) ++ blanks ++ group (mark '>'))]

def valueRules : Rules := [
  .leave (bareQuoted '"'),
  .leave (bareQuoted '\x27'),
  .leave (plus fun c => !isBlank c && c != '>')]

/-- The content of an element up to its closing tag; without one, its first line, or else all that is left. -/
def contentRules (name : String) (pieces : List Char → List (List Char)) : Rules :=
  let closes := mark '<' ++ many isBlank ++ mark '/' ++ many isBlank ++ anyCase name ++ many isBlank ++ mark '>'
  [.leave (closing (anyCase name)),
    ⟨one any ++ few any ++ ahead true closes, [], some pieces⟩,
    ⟨one any ++ few any ++ mark '\n', [.leave], some pieces⟩,
    ⟨plus any, [.leave], some pieces⟩]

def scriptRules : Rules := contentRules "script" (Script.pieces .plain)

def styleRules : Rules := contentRules "style" Sheet.pieces

def rules : State → Rules
  | .root => rootRules
  | .tag => tagRules
  | .value => valueRules
  | .script => scriptRules
  | .style => styleRules

def lexer : Lexer State := ⟨.root, rules⟩

def pieces (cs : List Char) : List (List Char) := lexer.pieces cs

/-! ## Laws -/

theorem within_of_mem_contentRules {name : String} {inner pieces : List Char → List (List Char)} {r : Rule State}
    (h : r ∈ contentRules name inner) (cuts : r.within = some pieces) : pieces = inner := by
  simp only [contentRules, List.mem_cons, List.not_mem_nil, or_false] at h
  rcases h with rfl | rfl | rfl | rfl
  · cases cuts
  all_goals exact (Option.some.inj cuts).symm

theorem keeps_lexer : lexer.Keeps := by
  intro state r mem pieces cuts cs
  have apart : ∀ rules : Rules, (∀ r ∈ rules, r.within = none) → r ∈ rules → (pieces cs).flatten = cs :=
    fun rules none mem => by rw [none r mem] at cuts; cases cuts
  cases state with
  | root => exact apart rootRules (by simp [rootRules, Rule.stay, Rule.enter]) mem
  | tag => exact apart tagRules (by simp [tagRules, Rule.stay, Rule.enter, Rule.leave]) mem
  | value => exact apart valueRules (by simp [valueRules, Rule.leave]) mem
  | script => rw [within_of_mem_contentRules mem cuts, Script.flatten_pieces]
  | style => rw [within_of_mem_contentRules mem cuts, Sheet.flatten_pieces]

theorem flatten_pieces (cs : List Char) : (pieces cs).flatten = cs := Lexer.flatten_pieces _ keeps_lexer cs

end DesignProps.Highlight.Page
