import DesignProps.Console.Color
import DesignProps.OrderedMap

/-!
# Styles

The text of a style is a list of words: what is emphasised or not, a color, a color behind it and a link.  Texts of
one meaning have one normal form, which lists the emphases in a fixed order; a text without a meaning stands for
itself, in lower case.
-/

set_option autoImplicit false

namespace DesignProps.Console

inductive Emphasis
  | bold
  | dim
  | italic
  | underline
  | blink
  | rapidBlink
  | reverse
  | conceal
  | strike
  | doubleUnderline
  | frame
  | encircle
  | overline
  deriving DecidableEq, Repr

namespace Emphasis

def all : List Emphasis :=
  [.bold, .dim, .italic, .underline, .blink, .rapidBlink, .reverse, .conceal, .strike, .doubleUnderline, .frame,
    .encircle, .overline]

def name : Emphasis → String
  | bold => "bold"
  | dim => "dim"
  | italic => "italic"
  | underline => "underline"
  | blink => "blink"
  | rapidBlink => "blink2"
  | reverse => "reverse"
  | conceal => "conceal"
  | strike => "strike"
  | doubleUnderline => "underline2"
  | frame => "frame"
  | encircle => "encircle"
  | overline => "overline"

def abbreviations : List (String × Emphasis) :=
  [("b", .bold), ("d", .dim), ("i", .italic), ("u", .underline), ("r", .reverse), ("c", .conceal), ("s", .strike),
    ("uu", .doubleUnderline), ("o", .overline)]

def spellings : List (String × Emphasis) := all.map (fun e => (e.name, e)) ++ abbreviations

def ofWord? (word : List Char) : Option Emphasis :=
  (spellings.find? fun e => e.1.toList == word).map Prod.snd

end Emphasis

structure Style where
  emphases : OrderedMap Emphasis Bool
  color : Option (List Char)
  background : Option (List Char)
  link : Option (List Char)

namespace Style

def plain : Style := ⟨.empty, none, none, none⟩

/-- What a word says about the words after it. -/
inductive Role
  | background
  | negation
  | link
  | emphasis (e : Emphasis)
  | color
  deriving DecidableEq, Repr

def Role.ofWord (word : List Char) : Role :=
  if word = "on".toList then .background
  else if word = "not".toList then .negation
  else if word = "link".toList then .link
  else ((Emphasis.ofWord? word).map .emphasis).getD .color

/-- Reads words into a style; of two colors, links or words on one emphasis the last counts. -/
def read (s : Style) : List (List Char) → Except StyleError Style
  | [] => .ok s
  | word :: rest =>
      match Role.ofWord (Text.lowerAfter [] word), rest with
      | .background, color :: rest =>
          match Color.name color with
          | .ok name => read { s with background := some name } rest
          | .error e => .error e
      | .negation, word :: rest =>
          match Emphasis.ofWord? word with
          | some e => read { s with emphases := s.emphases.insert e false } rest
          | none => .error .unknown
      | .link, address :: rest => read { s with link := some address } rest
      | .emphasis e, rest => read { s with emphases := s.emphases.insert e true } rest
      | .color, rest =>
          match Color.name word with
          | .ok name => read { s with color := some name } rest
          | .error e => .error e
      | .background, [] => .error .unknown
      | .negation, [] => .error .unknown
      | .link, [] => .error .unknown

def emphasisWords (s : Style) (e : Emphasis) : List (List Char) :=
  match s.emphases.get? e with
  | some true => [e.name.toList]
  | some false => ["not".toList, e.name.toList]
  | none => []

def words (s : Style) : List (List Char) :=
  Emphasis.all.flatMap s.emphasisWords ++ s.color.toList
    ++ (match s.background with
      | some color => ["on".toList, color]
      | none => [])
    ++ (match s.link with
      | some address => ["link".toList, address]
      | none => [])

def noStyle : List Char := "none".toList

def text (s : Style) : List Char := if s.words.isEmpty then noStyle else Text.joinWith ' ' s.words

/-- The style that a text stands for. -/
def ofText (cs : List Char) : Except StyleError Style :=
  if Text.trimBlanks cs = noStyle then .ok plain else plain.read (Text.words cs)

/-- One text for all that stand for the same style. -/
def normalForm (cs : List Char) : Except StyleError (List Char) :=
  match ofText cs with
  | .ok s => .ok s.text
  | .error .unknown => .ok (Text.lowerAfter [] (Text.trimBlanks cs))
  | .error .channel => .error .channel

end Style

end DesignProps.Console
