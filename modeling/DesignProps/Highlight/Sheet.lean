import DesignProps.Highlight.Lexer
import DesignProps.Highlight.Script
import DesignProps.Highlight.Sheet.Words

/-!
# Style sheets

The pieces of a style sheet: selectors, names of properties, and values with their functions, numbers and units.

Main statement: `flatten_pieces` (the pieces are the style sheet).
-/

set_option autoImplicit false

namespace DesignProps.Highlight.Sheet

open Text (isBlank isWordChar)
open Text.Pattern
open Script (isLetter isSlugChar quoted blanks)

inductive State
  | root
  | atRule
  | atBody
  | declarations
  | value
  | arguments
  /-- Behind a number. -/
  | unit
  deriving DecidableEq, Repr

abbrev Rules := List (Rule State)

/-! ## Parts -/

def comment : Text.Pattern := word "/*" ++ few any ++ word "*/"

def slug : Text.Pattern := plus isSlugChar

/-- A name that begins with a letter. -/
def property : Text.Pattern := one isLetter ++ many isSlugChar

def inLine (c : Char) : Bool := c != '\n'

/-- One of some words, to its end. -/
def known (words : List String) : Rule State := .stay (oneOf words ++ wordEdge)

def call (name : Text.Pattern) : Rule State := .enter (group name ++ group (mark '(')) .arguments

def variablePart : Text.Pattern :=
  one Char.isAlpha ++ many (fun c => isWordChar c || c == '+') ++ many (· == '-')

def texts : Rules := [.stay (quoted '"'), .stay (quoted '\x27')]

def address (inner : Text.Pattern) : Rule State :=
  .stay (group (word "url") ++ group (mark '(') ++ group inner ++ group (mark ')'))

def addresses : Rules := [
  address (mark '"' ++ few inLine ++ mark '"'),
  address (mark '\x27' ++ few inLine ++ mark '\x27'),
  address (few inLine)]

def signed (digits : Text.Pattern) : Text.Pattern := optional (one (among "+-")) ++ digits

def numbers : Rules := [
  .stay (mark '#' ++ times (one Char.isAlphanum) 1 5),
  .enter (signed (many Char.isDigit ++ mark '.' ++ plus Char.isDigit)) .unit,
  .enter (signed (plus Char.isDigit)) .unit]

/-! ## Rules -/

def rootRules : Rules := [
  .stay (plus isBlank),
  .stay comment,
  .enter (mark '\x7b') .declarations,
  .stay (group (times (mark ':') 1 1) ++ group slug),
  .stay (group (mark '.') ++ group slug),
  .stay (group (mark '#') ++ group slug),
  .enter (group (mark '@') ++ group slug) .atRule,
  .stay slug,
  .stay (one (among "~^*!%&$[]()<>|+=@:;,./?-"))] ++ texts

def declarationRules : Rules := [
  .stay (plus isBlank),
  .leave (mark '\x7d'),
  .stay (mark ';'),
  .stay (lineStart ++ mark '@' ++ few inLine ++ lineEnd),
  .stay (oneOf vendors),
  .enter (group (plus (· == '-') ++ property) ++ blanks ++ group (mark ':')) .value,
  .enter (group property ++ blanks ++ group (mark ':')) .value,
  .stay comment]

def valueRules : Rules :=
  [.stay (plus isBlank), .stay (oneOf vendors)] ++ addresses ++ [
    call (oneOf functions),
    call (one isLetter ++ plus isSlugChar),
    known keywords,
    known otherKeywords,
    known colors,
    .stay (word "!important"),
    .stay comment] ++ numbers ++ [
    .stay (plus (among "~^*!%&<>|+=@:./?-")),
    .stay (plus (among "[](),"))] ++ texts ++ [
    .stay property,
    .leave (mark ';'),
    ⟨mark '\x7d', [.leave, .leave], none⟩]

def argumentRules : Rules :=
  [.stay (plus isBlank),
    .stay (plus (· == '-') ++ variablePart ++ always variablePart)]
    ++ addresses ++ [
    .stay (oneOf vendors),
    known keywords,
    known otherKeywords,
    known colors,
    call (oneOf functions),
    call (one isLetter ++ plus isSlugChar),
    .stay comment] ++ numbers ++ [
    .stay (one (among "*+/-")),
    .stay (mark ',')] ++ texts ++ [
    .stay (one (fun c => isLetter c || c == '-') ++ many isWordChar),
    .leave (mark ')')]

def rules : State → Rules
  | .root => rootRules
  | .atRule => [.enter (mark '\x7b') .atBody, .leave (mark ';')] ++ rootRules
  | .atBody => rootRules ++ [⟨mark '\x7d', [.leave, .leave], none⟩]
  | .declarations => declarationRules
  | .value => valueRules
  | .arguments => argumentRules
  | .unit => [known units, .stay (mark '%'), .leave empty]

def lexer : Lexer State := ⟨.root, rules⟩

def pieces (cs : List Char) : List (List Char) := lexer.pieces cs

/-! ## Laws -/

theorem within_of_mem_rules {state : State} {r : Rule State} (h : r ∈ rules state) : r.within = none := by
  revert r
  cases state <;>
    simp [rules, rootRules, declarationRules, valueRules, argumentRules, addresses, numbers, texts, address, call, known,
      Rule.stay, Rule.enter, Rule.leave]

theorem flatten_pieces (cs : List Char) : (pieces cs).flatten = cs :=
  Lexer.flatten_pieces _ (fun _ _ mem pieces inner => by rw [within_of_mem_rules mem] at inner; cases inner) cs

end DesignProps.Highlight.Sheet
