import DesignProps.Number
import DesignProps.Text.CharacterName
import DesignProps.Text.Lines

/-!
# Tokens of literals

A literal is written with numbers, quoted texts, the words that name a constant, brackets, commas, colons and signs.
A text that holds anything else has no tokens.

Main statements: `tokens?_nil`, `run?_ne_nil` (a run of digits has a digit).
-/

set_option autoImplicit false

namespace DesignProps.Console.Literal

inductive Token
  | number (imaginary : Bool)
  | text (bytes : Bool)
  | constant
  | emptySet
  | mark (c : Char)
  | lineEnd
  deriving DecidableEq, Repr

/-! ## Numbers -/

def isHexDigit (c : Char) : Bool := c.isDigit || ('a' ≤ c && c ≤ 'f') || ('A' ≤ c && c ≤ 'F')

def isOctalDigit (c : Char) : Bool := '0' ≤ c && c ≤ '7'

def isBinaryDigit (c : Char) : Bool := c == '0' || c == '1'

/-- A character that would make a name of what stands before it. -/
def isNamePart (c : Char) : Bool := c.isAlphanum || c == '_' || 0x80 ≤ c.toNat

/-- Digits, which single underscores may part, and what follows them. -/
def run? (isDigit : Char → Bool) (cs : List Char) : Option (List Char × List Char) :=
  let groups := Text.splitOn '_' (cs.takeWhile fun c => isDigit c || c == '_')
  if groups.any List.isEmpty then none
  else some (groups.flatten, cs.dropWhile fun c => isDigit c || c == '_')

/-- Digits after a radix; an underscore may come first. -/
def radixDigits? (isDigit : Char → Bool) (cs : List Char) : Option (List Char) :=
  (run? isDigit (if cs.head? = some '_' then cs.tail else cs)).map Prod.snd

def startsWithDigit (cs : List Char) : Bool := cs.head?.any Char.isDigit

/-- What follows the digits after a point; there need not be any. -/
def afterFraction? (cs : List Char) : Option (List Char) :=
  if startsWithDigit cs then (run? Char.isDigit cs).map Prod.snd else some cs

def isSign (c : Char) : Bool := c == '+' || c == '-'

/-- What follows the digits of an exponent. -/
def afterExponent? (cs : List Char) : Option (List Char) :=
  (run? Char.isDigit (if cs.head?.any isSign then cs.tail else cs)).map Prod.snd

/-- What may follow the digits of a number: an exponent and the sign of the imaginary. -/
def afterDigits? (whole : Bool) (cs : List Char) : Option (Bool × Bool × List Char) := do
  let (whole, cs) ← match cs with
    | c :: rest =>
        if c = 'e' ∨ c = 'E' then (afterExponent? rest).map fun after => (false, after) else some (whole, c :: rest)
    | [] => some (whole, [])
  match cs with
  | c :: rest => if c = 'j' ∨ c = 'J' then some (false, true, rest) else some (whole, false, c :: rest)
  | [] => some (whole, false, [])

/-- A whole number is not too long, and only zero starts with a zero. -/
def isWhole (digits : List Char) : Bool :=
  digits.length ≤ digitLimit && (digits.head? != some '0' || digits.all (· == '0'))

/-- A decimal number: whether it is imaginary, and what follows it. -/
def decimal? (cs : List Char) : Option (Bool × List Char) := do
  let (digits, cs) ← if startsWithDigit cs then run? Char.isDigit cs else some ([], cs)
  let (point, cs) ← match cs with
    | '.' :: rest => (afterFraction? rest).map fun after => (true, after)
    | cs => some (false, cs)
  let (whole, imaginary, cs) ← afterDigits? (!point) cs
  if whole && !isWhole digits then none else some (imaginary, cs)

/-- A number, and what follows it, which is no part of a name. -/
def number? (cs : List Char) : Option (Token × List Char) := do
  let (imaginary, after) ← match cs with
    | '0' :: c :: rest =>
        if c = 'x' ∨ c = 'X' then (radixDigits? isHexDigit rest).map fun after => (false, after)
        else if c = 'o' ∨ c = 'O' then (radixDigits? isOctalDigit rest).map fun after => (false, after)
        else if c = 'b' ∨ c = 'B' then (radixDigits? isBinaryDigit rest).map fun after => (false, after)
        else decimal? cs
    | cs => decimal? cs
  if after.head?.any isNamePart then none else some (.number imaginary, after)

/-! ## Quoted texts -/

structure Quotation where
  raw : Bool
  bytes : Bool
  quote : Char
  /-- Three quotes at each end, so that the text may hold line ends. -/
  long : Bool
  deriving DecidableEq, Repr

def isAscii (c : Char) : Bool := c.toNat < 0x80

def hexValue (digits : List Char) : Nat :=
  digits.foldl (fun acc c =>
    16 * acc + (if c.isDigit then c.toNat - 48 else if c.isLower then c.toNat - 87 else c.toNat - 55)) 0

/-- So many hexadecimal digits, which give a code below the bound. -/
def code? (count bound : Nat) (cs : List Char) : Option (List Char) :=
  let digits := cs.take count
  if digits.length = count ∧ digits.all isHexDigit ∧ hexValue digits < bound then some (cs.drop count) else none

/-- The name of a character in braces. -/
def characterName? (cs : List Char) : Option (List Char) :=
  match cs with
  | '\x7b' :: rest =>
      let name := rest.takeWhile (· ≠ '\x7d')
      if name.length < rest.length && Text.isCharacterName name then some (rest.drop (name.length + 1)) else none
  | _ => none

/-- What follows a backslash, without the character it stands before. -/
def afterEscape? (bytes : Bool) : List Char → Option (List Char)
  | [] => none
  | c :: rest =>
      if c = 'x' then code? 2 0x100 rest
      else if c = 'u' ∧ !bytes then code? 4 0x10000 rest
      else if c = 'U' ∧ !bytes then code? 8 0x110000 rest
      else if c = 'N' ∧ !bytes then characterName? rest
      else if bytes && !isAscii c then none
      else some rest

/-- What follows a quoted text; the fuel is the length of the text. -/
def afterText? (q : Quotation) : Nat → List Char → Option (List Char)
  | 0, _ => none
  | _ + 1, [] => none
  | fuel + 1, c :: rest =>
      if c = '\\' then
        if q.raw then (rest.head?.filter fun c => !q.bytes || isAscii c).bind fun _ => afterText? q fuel rest.tail
        else (afterEscape? q.bytes rest).bind (afterText? q fuel)
      else if c = q.quote then
        if !q.long then some rest
        else if rest.take 2 = [q.quote, q.quote] then some (rest.drop 2)
        else afterText? q fuel rest
      else if c = '\n' ∧ !q.long then none
      else if q.bytes && !isAscii c then none
      else afterText? q fuel rest

/-- The letters before a quoted text say whether it is raw and whether it is of bytes. -/
def lettersOf? (word : List Char) : Option (Bool × Bool) :=
  match String.ofList (word.map Char.toLower) with
  | "" => some (false, false)
  | "u" => some (false, false)
  | "r" => some (true, false)
  | "b" => some (false, true)
  | "br" => some (true, true)
  | "rb" => some (true, true)
  | _ => none

def quotedText? (word : List Char) (quote : Char) (cs : List Char) : Option (Token × List Char) := do
  let (raw, bytes) ← lettersOf? word
  let long := cs.take 2 = [quote, quote]
  let after ← afterText? ⟨raw, bytes, quote, long⟩ (cs.length + 1) (if long then cs.drop 2 else cs)
  some (.text bytes, after)

/-! ## Words and marks -/

def isQuote (c : Char) : Bool := c == '"' || c == '\x27'

def constants : List String := ["None", "True", "False"]

def word? (cs : List Char) : Option (Token × List Char) :=
  let word := cs.takeWhile isNamePart
  match cs.dropWhile isNamePart with
  | c :: rest =>
      if isQuote c then quotedText? word c rest
      else if constants.contains (String.ofList word) then some (.constant, c :: rest)
      else if word = "set".toList then some (.emptySet, c :: rest)
      else none
  | [] => if constants.contains (String.ofList word) then some (.constant, []) else none

def isOpening (c : Char) : Bool := c == '(' || c == '[' || c == '\x7b'

def isClosing (c : Char) : Bool := c == ')' || c == ']' || c == '\x7d'

def isBlank (c : Char) : Bool := c == ' ' || c == '\t' || c == '\x0c'

/-- The token at the beginning of a text that does not begin with blanks. -/
def token? : List Char → Option (Token × List Char)
  | '.' :: '.' :: '.' :: rest => some (.constant, rest)
  | [] => none
  | c :: rest =>
      if isOpening c || isClosing c || isSign c || c = ',' || c = ':' then some (.mark c, rest)
      else if c.isDigit || (c = '.' && startsWithDigit rest) then number? (c :: rest)
      else if isNamePart c || isQuote c then word? (c :: rest)
      else none

/-- Brackets within brackets go so deep. -/
def deepest : Nat := 200

/-- How many brackets are open after a token. -/
def depthAfter (depth : Nat) : Token → Nat
  | .mark c => if isOpening c then depth + 1 else if isClosing c then depth - 1 else depth
  | _ => depth

/-- The column in which a line begins, and what follows.  A tab leads to the next multiple of eight and a form feed
back to the start.  A line that a backslash carries on begins where its first part does, unless that is the start. -/
def indentation (column carried : Nat) : List Char → Nat × List Char
  | ' ' :: rest => indentation (column + 1) carried rest
  | '\t' :: rest => indentation ((column / 8 + 1) * 8) carried rest
  | '\x0c' :: rest => indentation 0 carried rest
  | '\\' :: '\n' :: c :: rest => indentation column (if carried = 0 then column else carried) (c :: rest)
  | rest => (if carried = 0 then column else carried, rest)

/-- What follows the indentation of a line; only a line with nothing on it is indented. -/
def lineStart? (cs : List Char) : Option (List Char) :=
  let (column, rest) := indentation 0 0 cs
  if column = 0 || rest.head?.any (fun c => c == '#' || c == '\n') then some rest else none

/-- The tokens of a text within so many brackets; there a line end is a blank.  The fuel is the length of the text. -/
def tokensWithin? : Nat → Nat → List Char → Option (List Token)
  | _, _, [] => some []
  | 0, _, _ :: _ => none
  | fuel + 1, depth, c :: rest =>
      if isBlank c then tokensWithin? fuel depth rest
      else if c = '\n' then
        if depth = 0 then ((lineStart? rest).bind (tokensWithin? fuel depth)).map (.lineEnd :: ·)
        else tokensWithin? fuel depth rest
      else if c = '#' then tokensWithin? fuel depth (rest.dropWhile (· ≠ '\n'))
      else if c = '\\' then
        match rest with
        | '\n' :: d :: rest => tokensWithin? fuel depth (d :: rest)
        | _ => none
      else
        match token? (c :: rest) with
        | some (t, after) =>
            if deepest < depthAfter depth t then none
            else (tokensWithin? fuel (depthAfter depth t) after).map (t :: ·)
        | none => none

/-- The tokens of a text without the blanks before it. -/
def tokens? (cs : List Char) : Option (List Token) :=
  if cs.contains '\x00' then none
  else
    let cs := Text.unifyNewlines (cs.dropWhile fun c => c == ' ' || c == '\t')
    (lineStart? cs).bind (tokensWithin? cs.length 0)

/-! ## Laws -/

theorem tokens?_nil : tokens? [] = some [] := rfl

theorem run?_ne_nil {isDigit : Char → Bool} {cs digits after : List Char}
    (h : run? isDigit cs = some (digits, after)) : digits ≠ [] := by
  simp only [run?] at h
  split at h
  · simp at h
  · next groups =>
      simp only [Option.some.injEq, Prod.mk.injEq] at h
      intro empty
      cases pieces : Text.splitOn '_' (cs.takeWhile fun c => isDigit c || c == '_') with
      | nil => exact Text.splitOn_ne_nil _ _ pieces
      | cons first rest =>
          rw [pieces] at h groups
          rw [← h.1, List.flatten_cons, List.append_eq_nil_iff] at empty
          simp [empty.1] at groups

end DesignProps.Console.Literal
