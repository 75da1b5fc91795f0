import DesignProps.Json.Basic

/-!
# Reading JSON

`parse` reads one value from a text.  A fault is found at the first character that cannot go on, and is reported with
its line, column and offset.  Besides the standard numbers `NaN` and the infinities are read; of members with one name
the last value counts, at the place of the first.  A surrogate may be written that is not half of a pair: it is no
character, but it is read, as one of the last private characters.
-/

set_option autoImplicit false

namespace DesignProps

namespace Json

namespace Reader

inductive Cause
  | value
  | comma
  | colon
  | propertyName
  | extraData
  | controlCharacter
  | escape
  | unicodeEscape
  | unterminated
  | byteOrderMark
  deriving DecidableEq, Repr

def Cause.text : Cause → String
  | .value => "Expecting value"
  | .comma => "Expecting ',' delimiter"
  | .colon => "Expecting ':' delimiter"
  | .propertyName => "Expecting property name enclosed in double quotes"
  | .extraData => "Extra data"
  | .controlCharacter => "Invalid control character at"
  | .escape => "Invalid \\escape"
  | .unicodeEscape => "Invalid \\uXXXX escape"
  | .unterminated => "Unterminated string starting at"
  | .byteOrderMark => "Unexpected UTF-8 BOM (decode using utf-8-sig)"

/-- What stopped the reader; a place is told by the number of characters from there to the end. -/
inductive Failure
  | malformed (cause : Cause) (left : Nat)
  | tooManyDigits (e : TooManyDigits)
  deriving DecidableEq, Repr

def isBlank (c : Char) : Bool := c == ' ' || c == '\t' || c == '\n' || c == '\r'

def dropBlanks (cs : List Char) : List Char := cs.dropWhile isBlank

/-- The text after a given beginning, if it begins so. -/
def after? : List Char → List Char → Option (List Char)
  | [], cs => some cs
  | _ :: _, [] => none
  | w :: word, c :: cs => if w = c then after? word cs else none

/-! ## Strings -/

def hexValue? (c : Char) : Option Nat :=
  if '0' ≤ c ∧ c ≤ '9' then some (c.toNat - 48)
  else if 'a' ≤ c ∧ c ≤ 'f' then some (c.toNat - 87)
  else if 'A' ≤ c ∧ c ≤ 'F' then some (c.toNat - 55)
  else none

def hexCode? (a b c d : Char) : Option Nat :=
  match hexValue? a, hexValue? b, hexValue? c, hexValue? d with
  | some a, some b, some c, some d => some (((a * 16 + b) * 16 + c) * 16 + d)
  | _, _, _, _ => none

def simpleEscape? (c : Char) : Option Char :=
  match c with
  | '"' => some '"'
  | '\\' => some '\\'
  | '/' => some '/'
  | 'b' => some '\x08'
  | 'f' => some '\x0c'
  | 'n' => some '\n'
  | 'r' => some '\r'
  | 't' => some '\t'
  | _ => none

def isHighSurrogate (n : Nat) : Bool := 0xD800 ≤ n && n ≤ 0xDBFF

def isLowSurrogate (n : Nat) : Bool := 0xDC00 ≤ n && n ≤ 0xDFFF

/-- The character of two surrogates. -/
def joinSurrogates (high low : Nat) : Char := Char.ofNat (0x10000 + (high - 0xD800) * 0x400 + (low - 0xDC00))

/-- The private character that stands for a surrogate. -/
def standIn (n : Nat) : Char := Char.ofNat (n + 0x102000)

def isStandIn (c : Char) : Bool := 0x10F800 ≤ c.toNat

/-- The character of a code; a surrogate that stands alone has none of its own. -/
def charOfCode (n : Nat) : Char := if n.isValidChar then Char.ofNat n else standIn n

/-- A low surrogate's escape at the beginning of a text that goes on after it. -/
def lowSurrogate? : List Char → Option (Nat × List Char)
  | '\\' :: 'u' :: a :: b :: c :: d :: next :: rest =>
      match hexCode? a b c d with
      | some n => if isLowSurrogate n then some (n, next :: rest) else none
      | none => none
  | _ => none

/-- Whether escapes spell a surrogate that is not half of a pair; `half` says that a first half stands just before. -/
def spellsLone (half : Bool) : List Char → Bool
  | '\\' :: 'u' :: a :: b :: c :: d :: rest =>
      let n := (hexCode? a b c d).getD 0
      if isLowSurrogate n then !half || spellsLone false rest else half || spellsLone (isHighSurrogate n) rest
  | '\\' :: _ :: rest => half || spellsLone false rest
  | _ :: rest => half || spellsLone false rest
  | [] => half

def prepend (c : Char) : Except Failure (List Char × List Char) → Except Failure (List Char × List Char)
  | .ok (cs, rest) => .ok (c :: cs, rest)
  | .error e => .error e

/-- The text up to the closing quote, and what follows it.  `opened` is the place of the opening quote. -/
def string (opened : Nat) : Nat → List Char → Except Failure (List Char × List Char)
  | 0, _ => .error (.malformed .unterminated opened)
  | _ + 1, [] => .error (.malformed .unterminated opened)
  | fuel + 1, c :: rest =>
      if c = '"' then .ok ([], rest)
      else if c = '\\' then
        match rest with
        | [] => .error (.malformed .unterminated opened)
        | 'u' :: more =>
            match more with
            | a :: b :: e :: d :: next :: tail =>
                match hexCode? a b e d with
                | none => .error (.malformed .unicodeEscape rest.length)
                | some n =>
                    match isHighSurrogate n, lowSurrogate? (next :: tail) with
                    | true, some (low, after) => prepend (joinSurrogates n low) (string opened fuel after)
                    | _, _ => prepend (charOfCode n) (string opened fuel (next :: tail))
            | _ => .error (.malformed .unicodeEscape rest.length)
        | e :: more =>
            match simpleEscape? e with
            | some x => prepend x (string opened fuel more)
            | none => .error (.malformed .escape (rest.length + 1))
      else if c.toNat ≤ 0x1F then .error (.malformed .controlCharacter (rest.length + 1))
      else prepend c (string opened fuel rest)

/-! ## Numbers -/

def isDigit (c : Char) : Bool := '0' ≤ c && c ≤ '9'

def digitsValue (cs : List Char) : Nat := cs.foldl (fun acc c => acc * 10 + (c.toNat - 48)) 0

def span (p : Char → Bool) (cs : List Char) : List Char × List Char := (cs.takeWhile p, cs.dropWhile p)

/-- The digits after a point, if there are any. -/
def fraction (cs : List Char) : List Char × List Char :=
  match cs with
  | '.' :: rest =>
      match span isDigit rest with
      | ([], _) => ([], cs)
      | found => found
  | _ => ([], cs)

def exponentDigits (negative : Bool) (cs rest : List Char) : Option Int × List Char :=
  match span isDigit rest with
  | ([], _) => (none, cs)
  | (digits, after) => (some (Binary64.signed negative (digitsValue digits)), after)

/-- The exponent after a mark, if one is written. -/
def exponent (cs : List Char) : Option Int × List Char :=
  match cs with
  | c :: rest =>
      if c = 'e' ∨ c = 'E' then
        match rest with
        | '-' :: more => exponentDigits true cs more
        | '+' :: more => exponentDigits false cs more
        | more => exponentDigits false cs more
      else (none, cs)
  | [] => (none, cs)

/-- The digits before a point: a zero alone or digits that do not begin with a zero. -/
def wholeDigits (cs : List Char) : Option (List Char × List Char) :=
  match cs with
  | '0' :: rest => some (['0'], rest)
  | c :: _ => if isDigit c then some (span isDigit cs) else none
  | [] => none

def integer (negative : Bool) (digits : List Char) : Except Failure Json :=
  if digitLimit < digits.length then .error (.tooManyDigits ⟨digits.length⟩)
  else .ok (.int (Binary64.signed negative (digitsValue digits)))

/-- A number after its sign: an integer unless a fraction or an exponent follows. -/
def unsigned (negative : Bool) (cs : List Char) : Option (Except Failure Json × List Char) :=
  match wholeDigits cs with
  | none => none
  | some (whole, rest) =>
      let (fractionDigits, rest) := fraction rest
      match fractionDigits, exponent rest with
      | [], (none, rest) => some (integer negative whole, rest)
      | _, (e, rest) =>
          let x := Binary64.ofDecimal negative (digitsValue (whole ++ fractionDigits))
            (e.getD 0 - fractionDigits.length)
          some (.ok (.float x), rest)

def number (cs : List Char) : Option (Except Failure Json × List Char) :=
  match cs with
  | '-' :: rest => unsigned true rest
  | _ => unsigned false cs

/-! ## Values -/

/-- The words that stand for a value. -/
def words : List (List Char × Json) := [
  ("null".toList, .null),
  ("true".toList, .bool true),
  ("false".toList, .bool false),
  ("NaN".toList, .float .nan),
  ("Infinity".toList, .float (.infinite false)),
  ("-Infinity".toList, .float (.infinite true))]

def word (cs : List Char) : Option (Json × List Char) :=
  words.findSome? fun (w, v) => (after? w cs).map fun rest => (v, rest)

/-- A value without parts. -/
def scalar (cs : List Char) : Except Failure (Json × List Char) :=
  match word cs with
  | some found => .ok found
  | none =>
      match number cs with
      | some (.ok v, rest) => .ok (v, rest)
      | some (.error e, _) => .error e
      | none => .error (.malformed .value cs.length)

mutual

/-- A value at the beginning of a text, and what follows it. -/
def value : Nat → List Char → Except Failure (Json × List Char)
  | 0, cs => .error (.malformed .value cs.length)
  | fuel + 1, cs =>
      match cs with
      | [] => .error (.malformed .value 0)
      | c :: rest =>
          if c = '"' then
            match string cs.length cs.length rest with
            | .ok (s, rest) => .ok (.str (String.ofList s), rest)
            | .error e => .error e
          else if c = '\x7b' then
            match dropBlanks rest with
            | '\x7d' :: rest => .ok (.obj [], rest)
            | start =>
                match members fuel start with
                | .ok (found, rest) => .ok (.obj (Assoc.putAll [] found), rest)
                | .error e => .error e
          else if c = '[' then
            match dropBlanks rest with
            | ']' :: rest => .ok (.arr [], rest)
            | start =>
                match items fuel start with
                | .ok (found, rest) => .ok (.arr found, rest)
                | .error e => .error e
          else scalar cs

/-- Values between commas, up to the closing bracket. -/
def items : Nat → List Char → Except Failure (List Json × List Char)
  | 0, cs => .error (.malformed .value cs.length)
  | fuel + 1, cs =>
      match value fuel cs with
      | .error e => .error e
      | .ok (v, rest) =>
          match dropBlanks rest with
          | ']' :: rest => .ok ([v], rest)
          | ',' :: rest =>
              match items fuel (dropBlanks rest) with
              | .ok (vs, rest) => .ok (v :: vs, rest)
              | .error e => .error e
          | rest => .error (.malformed .comma rest.length)

/-- Named values between commas, up to the closing brace. -/
def members : Nat → List Char → Except Failure (List (String × Json) × List Char)
  | 0, cs => .error (.malformed .value cs.length)
  | fuel + 1, cs =>
      match cs with
      | '"' :: rest =>
          match string cs.length cs.length rest with
          | .error e => .error e
          | .ok (key, rest) =>
              match dropBlanks rest with
              | ':' :: rest =>
                  match value fuel (dropBlanks rest) with
                  | .error e => .error e
                  | .ok (v, rest) =>
                      match dropBlanks rest with
                      | '\x7d' :: rest => .ok ([(String.ofList key, v)], rest)
                      | ',' :: rest =>
                          match members fuel (dropBlanks rest) with
                          | .ok (vs, rest) => .ok ((String.ofList key, v) :: vs, rest)
                          | .error e => .error e
                      | rest => .error (.malformed .comma rest.length)
              | rest => .error (.malformed .colon rest.length)
      | _ => .error (.malformed .propertyName cs.length)

end

/-- A whole text: one value between blanks. -/
def document (cs : List Char) : Except Failure Json :=
  match cs with
  | '\uFEFF' :: _ => .error (.malformed .byteOrderMark cs.length)
  | _ =>
      match value (2 * cs.length + 2) (dropBlanks cs) with
      | .error e => .error e
      | .ok (v, rest) =>
          match dropBlanks rest with
          | [] => .ok v
          | left => .error (.malformed .extraData left.length)

end Reader

/-! ## Whole texts -/

/-- A place in a text: lines and columns are counted from one, characters from zero. -/
structure Place where
  line : Nat
  column : Nat
  offset : Nat
  deriving DecidableEq, Repr

def Place.after (before : List Char) : Place where
  line := before.count '\n' + 1
  column := (before.reverse.takeWhile (· ≠ '\n')).length + 1
  offset := before.length

inductive ReadError
  | malformed (cause : Reader.Cause) (place : Place)
  | tooManyDigits (e : TooManyDigits)
  deriving DecidableEq, Repr

def ReadError.message : ReadError → String
  | .malformed cause place =>
      cause.text ++ ": line " ++ Nat.repr place.line ++ " column " ++ Nat.repr place.column
        ++ " (char " ++ Nat.repr place.offset ++ ")"
  | .tooManyDigits e => e.message

def parseChars (cs : List Char) : Except ReadError Json :=
  match Reader.document cs with
  | .ok v => .ok v
  | .error (.tooManyDigits e) => .error (.tooManyDigits e)
  | .error (.malformed cause left) => .error (.malformed cause (Place.after (cs.take (cs.length - left))))

def parse (text : String) : Except ReadError Json := parseChars text.toList

end Json

end DesignProps
