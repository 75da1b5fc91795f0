import DesignProps.Text.Digit
import DesignProps.Text.Pattern

/-!
# Messages

The parts of a message that stand out: an element, names with values, brackets, addresses, calls, constants, numbers,
paths and quoted texts.

Main statement: `lt_of_mem_parts` (no part is empty).
-/

set_option autoImplicit false

namespace DesignProps.Highlight.Message

open Text (Pattern Reading isWordChar)
open Text.Pattern

def isHexDigit (c : Char) : Bool := c.isDigit || ('a' ≤ c && c ≤ 'f') || ('A' ≤ c && c ≤ 'F')

def isPathChar (c : Char) : Bool := isWordChar c || among "-._+" c

def inLine (c : Char) : Bool := c != '\n'

/-- Behind a character that is not of a word. -/
def apart : Pattern := between fun before _ => !before.any isWordChar

/-! ## Elements, attributes, brackets -/

def element : Pattern :=
  group (mark '<') ++ group (many fun c => isWordChar c || among "-.:|" c) ++ group (many any) ++ group (mark '>')

def assignment : Pattern :=
  group (times (one isWordChar) 1 49) ++ mark '='
    ++ optional (group (optional (mark '"') ++ plus isWordChar ++ optional (mark '"')))

def bracket : Pattern := group (one (among "][\x7b\x7d()"))

/-! ## Addresses -/

def octet : Pattern := times (one Char.isDigit) 1 2

def hex (least more : Nat) : Pattern := times (one isHexDigit) least more

def shortAddress : Pattern := group (octet ++ mark '.' ++ octet ++ mark '.' ++ octet ++ mark '.' ++ octet)

def longAddress : Pattern := group (times (hex 1 3 ++ mark ':' ++ optional (mark ':')) 1 6 ++ hex 1 3)

/-- The address of a device in so many parts, or in half as many. -/
def deviceAddress (parts : Nat) : Pattern :=
  group (times (hex 1 1 ++ mark '-') (parts - 1) 0 ++ hex 1 1
    ||| times (hex 1 1 ++ mark ':') (parts - 1) 0 ++ hex 1 1
    ||| times (hex 4 0 ++ mark '.') (parts / 2 - 1) 0 ++ hex 4 0)

def uniqueName : Pattern :=
  group (hex 8 0 ++ mark '-' ++ hex 4 0 ++ mark '-' ++ hex 4 0 ++ mark '-' ++ hex 4 0 ++ mark '-' ++ hex 12 0)

/-! ## Values -/

def call : Pattern := group (few fun c => isWordChar c || c == '.') ++ mark '('

def constant (name : String) : Pattern := wordEdge ++ group (word name) ++ wordEdge

/-- A number with a point or without one. -/
def decimal : Pattern := plus Char.isDigit ++ optional (mark '.') ++ many Char.isDigit

def sign : Pattern := optional (one (among "-+"))

/-- An exponent of as few digits as possible. -/
def shortExponent : Pattern := mark 'e' ++ sign ++ one Text.isDigit ++ few Text.isDigit

def exponent : Pattern := mark 'e' ++ sign ++ plus Text.isDigit

def complexNumber : Pattern :=
  group (apart ++ optional (mark '-') ++ decimal ++ optional shortExponent
    ++ optional (one (among "-+") ++ decimal ++ optional exponent) ++ mark 'j')

def number : Pattern :=
  group (apart ++ optional (mark '-') ++ decimal ++ optional shortExponent ++ wordEdge
    ||| word "0x" ++ many isHexDigit)

def path : Pattern :=
  group (noWordEdge ++ often (mark '/' ++ plus isPathChar) ++ mark '/') ++ optional (group (many isPathChar))

/-- A text up to quotes that do not stand behind a backslash. -/
def quoted (quotes : String) : Pattern :=
  optional (mark 'b') ++ word quotes ++ few inLine ++ between (fun before _ => before != some '\\') ++ word quotes

def text : Pattern :=
  between (fun before _ => !before.any fun c => c == '\\' || isWordChar c)
    ++ group (quoted "\x27\x27\x27" ||| quoted "\x27" ||| quoted "\"\"\"" ||| quoted "\"")

def link : Pattern :=
  group (oneOf ["file", "https", "http", "ws", "wss"] ++ word "://"
    ++ many fun c => c.isAlphanum || among "-$_+!\x60(),.?/;:&=%#~" c)

def value : Pattern :=
  shortAddress ||| longAddress ||| deviceAddress 8 ||| deviceAddress 6 ||| uniqueName ||| call
    ||| constant "True" ||| constant "False" ||| constant "None" ||| group (word "...") ||| complexNumber ||| number
    ||| path ||| text ||| link

/-! ## Parts -/

/-- The groups of one match after another. -/
def groupsFrom (p : Pattern) : Nat → Reading → List (Nat × Nat)
  | 0, _ => []
  | fuel + 1, s =>
      match p.match? s with
      | some after =>
          if s.place < after.place then after.groups.reverse ++ groupsFrom p fuel after else groupsFrom p fuel s.next
      | none => if s.rest.isEmpty then [] else groupsFrom p fuel s.next

def parts (cs : List Char) : List (Nat × Nat) :=
  [element, assignment, bracket, value].flatMap fun p => groupsFrom p (cs.length + 1) (Reading.start cs)

/-! ## Laws -/

theorem lt_of_mem_groupsFrom {p : Pattern} {fuel : Nat} {s : Reading} :
    ∀ g ∈ groupsFrom p fuel s, g.1 < g.2 := by
  induction fuel generalizing s with
  | zero => simp [groupsFrom]
  | succ fuel ih =>
      rw [groupsFrom]
      split
      · next found =>
          split
          · intro g mem
            rcases List.mem_append.1 mem with here | later
            · exact lt_of_mem_groups found g (List.mem_reverse.1 here)
            · exact ih g later
          · exact ih
      · split
        · simp
        · exact ih

theorem lt_of_mem_parts {cs : List Char} {g : Nat × Nat} (h : g ∈ parts cs) : g.1 < g.2 := by
  obtain ⟨_, _, mem⟩ := List.mem_flatMap.1 h
  exact lt_of_mem_groupsFrom g mem

end DesignProps.Highlight.Message
