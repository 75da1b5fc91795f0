import DesignProps.Highlight.Lexer
import DesignProps.Highlight.Script.Name
import DesignProps.Text.Blank

/-!
# Scripts

The pieces of a script: comments, numbers, operators, words, names, texts and templates, and in two of the dialects
also elements with their attributes, in which braces hold a script again.  A slash behind an operator begins an
expression for texts and not a division.

Main statement: `flatten_pieces` (the pieces are the script).
-/

set_option autoImplicit false

namespace DesignProps.Highlight.Script

open Text (isBlank isWordChar)
open Text.Pattern

inductive Dialect
  | plain
  | elements
  /-- Elements and types. -/
  | typed
  deriving DecidableEq, Repr

inductive State
  | root
  /-- Where a slash begins an expression. -/
  | operand
  /-- Behind a slash that should begin an expression and does not. -/
  | stray
  | template
  | placeholder
  | tag
  | fragment
  | value
  | braces
  deriving DecidableEq, Repr

abbrev Rules := List (Rule State)

/-! ## Parts -/

def isLetter (c : Char) : Bool := c.isAlpha || c == '_'

def isHexDigit (c : Char) : Bool := c.isDigit || ('a' ≤ c && c ≤ 'f') || ('A' ≤ c && c ≤ 'F')

def isOctalDigit (c : Char) : Bool := '0' ≤ c && c ≤ '7'

def isSlugChar (c : Char) : Bool := isWordChar c || c == '-'

/-- A character of a word with question marks, points and dollar signs. -/
def isPathChar (c : Char) : Bool := isWordChar c || among "?.$" c

/-- A text in quotes; a backslash takes the next character along. -/
def quoted (quote : Char) : Text.Pattern :=
  mark quote ++ always (mark '\\' ++ one any ||| one fun c => c != quote && c != '\\') ++ mark quote

/-- A text up to the next quote. -/
def bareQuoted (quote : Char) : Text.Pattern := mark quote ++ few any ++ mark quote

/-- A character given by its code. -/
def coded : Text.Pattern := word "\\u" ++ times (one isHexDigit) 4 0

def name : Text.Pattern := (one isNameStart ||| coded) ++ always (one isNamePart ||| coded)

def blanks : Text.Pattern := group (many isBlank)

/-- One of some words, to its end. -/
def keyword (words : List String) : Text.Pattern := oneOf words ++ wordEdge

/-! ## Rules of all dialects -/

def comments : Rules := [
  .stay (plus isBlank),
  .stay (word "<!--"),
  .stay (word "//" ++ few any ++ lineEnd),
  .stay (word "/*" ++ few any ++ word "*/")]

/-- A part of an expression for texts. -/
def expressionPart : Text.Pattern :=
  mark '\\' ++ one any ||| one (outside "[/\\\n")
    ||| mark '[' ++ always (mark '\\' ++ one any ||| one (outside "]\\\n")) ++ mark ']'

/-- An expression for texts between slashes, with its options. -/
def expression : Text.Pattern :=
  mark '/' ++ expressionPart ++ always expressionPart ++ mark '/'
    ++ (plus (among "gimuysd") ++ wordEdge ||| noWordEdge)

def operandRules : Rules :=
  comments ++ [.leave expression, ⟨ahead true (mark '/'), [.leave, .enter .stray], none⟩, .leave empty]

def digits : Text.Pattern := plus Char.isDigit

def exponent : Text.Pattern := one (among "eE") ++ optional (one (among "-+")) ++ digits

def numbers : Rules := [
  .stay (mark '0' ++ one (among "bB") ++ plus (among "01") ++ optional (mark 'n')),
  .stay (mark '0' ++ optional (one (among "oO")) ++ plus isOctalDigit ++ optional (mark 'n')),
  .stay (mark '0' ++ one (among "xX") ++ plus isHexDigit ++ optional (mark 'n')),
  .stay (digits ++ mark 'n'),
  .stay ((mark '.' ++ digits ||| digits ++ mark '.' ++ many Char.isDigit ||| digits) ++ optional exponent)]

def operator : Text.Pattern :=
  oneOf ["++", "--", "~", "??=", "??", "?", ":"] ||| mark '\\' ++ ahead true (mark '\n')
    ||| (oneOf ["<<", ">>>", ">>", "==", "=", "!=", "!", "**", "||", "&&"] ||| one (among "-<>+*%&|^/"))
      ++ optional (mark '=')

def reserved : List String :=
  ["abstract", "boolean", "byte", "char", "double", "enum", "final", "float", "goto", "implements", "int", "interface",
    "long", "native", "package", "private", "protected", "public", "short", "synchronized", "throws", "transient",
    "volatile"]

/-- Words behind which an operand follows. -/
def openers : List String :=
  ["for", "in", "while", "do", "break", "return", "continue", "switch", "case", "default", "if", "else", "throw", "try",
    "catch", "finally", "yield", "await", "async", "this", "of", "static", "export", "import", "debugger", "extends",
    "super"]

def builtins : List String :=
  ["Array", "Boolean", "Date", "BigInt", "Function", "Math", "ArrayBuffer", "Number", "Object", "RegExp", "String",
    "Promise", "Proxy", "decodeURI", "decodeURIComponent", "encodeURI", "encodeURIComponent", "eval", "isFinite",
    "isNaN", "parseFloat", "parseInt", "DataView", "document", "window", "globalThis", "global", "Symbol", "Intl",
    "WeakSet", "WeakMap", "Set", "Map", "Reflect", "JSON", "Atomics", "Int8Array", "Int16Array", "Int32Array",
    "BigInt64Array", "Float32Array", "Float64Array", "Uint8ClampedArray", "Uint8Array", "Uint16Array", "Uint32Array",
    "BigUint64Array"]

def exceptions : List String :=
  ["EvalError", "InternalError", "RangeError", "ReferenceError", "SyntaxError", "TypeError", "URIError", "Error"]

def privateName : Rule State := .stay (mark '#' ++ one isLetter ++ many isWordChar)

def rootRules : Rules :=
  [.stay (textStart ++ word "#!" ++ optional (mark ' ') ++ mark '/' ++ few any ++ lineEnd),
    .enter (lineStart ++ ahead true (one isBlank ||| mark '/' ||| word "<!--")) .operand]
  ++ comments ++ numbers ++ [
    .stay (oneOf ["...", "=>"]),
    .enter operator .operand,
    .enter (one (among "\x7b([;,")) .operand,
    .stay (one (among "\x7d)].")),
    .enter (keyword ["typeof", "instanceof", "in", "void", "delete", "new"]) .operand,
    .stay (wordEdge ++ keyword ["constructor", "from", "as"]),
    .enter (keyword openers) .operand,
    .enter (keyword ["var", "let", "const", "with", "function", "class"]) .operand,
    .stay (keyword reserved),
    .stay (keyword ["true", "false", "null", "NaN", "Infinity", "undefined"]),
    .stay (keyword builtins),
    .stay (keyword exceptions),
    .enter (one (fun c => isLetter c || among "?.$" c) ++ many isPathChar ++ ahead true (word "() \x7b")) .operand,
    .stay name,
    .stay (quoted '"'),
    .stay (quoted '\x27'),
    .enter (mark '\x60') .template,
    privateName]

def templateRules : Rules := [
  .leave (mark '\x60'),
  .stay (mark '\\' ++ one any),
  .enter (word "$\x7b") .placeholder,
  .stay (mark '$'),
  .stay (plus (outside "\x60\\$"))]

/-! ## Elements -/

def elementRules : Rules := [
  .stay (oneOf ["</>", "<>"]),
  .enter (group (mark '<') ++ group (plus isWordChar) ++ group (optional (mark '.'))) .tag,
  .stay (group (word "</") ++ group (plus isWordChar) ++ group (mark '>')),
  .enter (group (word "</") ++ group (plus isWordChar)) .fragment]

def tagRules : Rules := [
  .stay (plus isBlank),
  .enter (group (plus isSlugChar) ++ blanks ++ group (mark '=') ++ blanks) .value,
  .stay (plus (among "\x7b\x7d")),
  .stay (plus fun c => isWordChar c || c == '.'),
  .leave (group (optional (mark '/')) ++ blanks ++ group (mark '>'))]

def fragmentRules : Rules := [.stay (group (one any) ++ group (plus isWordChar)), .leave (mark '>')]

def valueRules : Rules := [
  .enter (mark '\x7b') .braces,
  .leave (bareQuoted '"'),
  .leave (bareQuoted '\x27'),
  .leave empty]

/-! ## Types -/

def typeRules : Rules := [
  .enter (keyword ["abstract", "implements", "private", "protected", "public", "readonly"]) .operand,
  .enter (keyword ["enum", "interface", "override"]) .operand,
  .stay (wordEdge ++ keyword ["declare", "type"]),
  .stay (wordEdge ++ keyword ["string", "boolean", "number"]),
  .enter (wordEdge ++ group (word "module") ++ blanks ++ group (plus isPathChar) ++ blanks) .operand,
  .stay (group (plus isPathChar) ++ blanks ++ group (mark ':') ++ blanks ++ group (plus isPathChar)),
  .stay (mark '@' ++ name)]

/-! ## Dialects -/

def elementRoot : Rules := elementRules ++ rootRules

def typedRoot : Rules := elementRules ++ typeRules ++ rootRules

def Dialect.root : Dialect → Rules
  | .plain => rootRules
  | .elements => elementRoot
  | .typed => typedRoot

def rules (d : Dialect) : State → Rules
  | .root => d.root
  | .operand => operandRules
  | .stray => [.leave (mark '\n')]
  | .template => templateRules
  | .placeholder => .leave (mark '\x7d') :: d.root
  | .tag => tagRules
  | .fragment => fragmentRules
  | .value => valueRules
  | .braces => ⟨mark '\x7b', [.again], none⟩ :: .leave (mark '\x7d') :: d.root

def lexer (d : Dialect) : Lexer State := ⟨.root, rules d⟩

def pieces (d : Dialect) (cs : List Char) : List (List Char) := (lexer d).pieces cs

/-! ## Laws -/

theorem within_of_mem_root {d : Dialect} {r : Rule State} (h : r ∈ d.root) : r.within = none := by
  have root : ∀ r ∈ rootRules, r.within = none := by
    simp [rootRules, comments, numbers, privateName, Rule.stay, Rule.enter]
  have elements : ∀ r ∈ elementRules, r.within = none := by simp [elementRules, Rule.stay, Rule.enter]
  have types : ∀ r ∈ typeRules, r.within = none := by simp [typeRules, Rule.stay, Rule.enter]
  cases d with
  | plain => exact root r h
  | elements => exact (List.mem_append.1 h).elim (elements r) (root r)
  | typed => exact (List.mem_append.1 h).elim (fun h => (List.mem_append.1 h).elim (elements r) (types r)) (root r)

theorem within_of_mem_rules {d : Dialect} {state : State} {r : Rule State} (h : r ∈ rules d state) :
    r.within = none := by
  cases state with
  | root => exact within_of_mem_root h
  | operand => revert r; simp [rules, operandRules, comments, Rule.stay, Rule.leave]
  | stray => revert r; simp [rules, Rule.leave]
  | template => revert r; simp [rules, templateRules, Rule.stay, Rule.enter, Rule.leave]
  | placeholder =>
      rcases List.mem_cons.1 h with rfl | h
      · rfl
      · exact within_of_mem_root h
  | tag => revert r; simp [rules, tagRules, Rule.stay, Rule.enter, Rule.leave]
  | fragment => revert r; simp [rules, fragmentRules, Rule.stay, Rule.leave]
  | value => revert r; simp [rules, valueRules, Rule.enter, Rule.leave]
  | braces =>
      rcases List.mem_cons.1 h with rfl | h
      · rfl
      · rcases List.mem_cons.1 h with rfl | h
        · rfl
        · exact within_of_mem_root h

theorem flatten_pieces (d : Dialect) (cs : List Char) : (pieces d cs).flatten = cs :=
  Lexer.flatten_pieces _ (fun _ _ mem pieces inner => by rw [within_of_mem_rules mem] at inner; cases inner) cs

end DesignProps.Highlight.Script
