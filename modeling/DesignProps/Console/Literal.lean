import DesignProps.Console.Literal.Token

/-!
# Literals

A literal is a value that is written out: a number with at most one sign, a sum of a real and an imaginary number, a
text, a constant, or a list, tuple, set or map of literals.  The members of a set and the keys of a map cannot be
changed themselves.  Values between commas are a tuple even without brackets.

Main statements: `isLiteral_nil`, `isLiteral_brackets`.
-/

set_option autoImplicit false

namespace DesignProps.Console.Literal

/-- What a value can be used for. -/
inductive Form
  | real (signed : Bool)
  | imaginary (signed : Bool)
  | fixed
  | changeable
  deriving DecidableEq, Repr

def Form.isFixed : Form → Bool
  | .changeable => false
  | _ => true

def tuple (members : List Form) : Form := if members.all Form.isFixed then .fixed else .changeable

/-- Texts one after the other are one text, if all are of one kind. -/
def textsAfter? (bytes : Bool) : List Token → Option (List Token)
  | .text b :: rest => if b = bytes then textsAfter? bytes rest else none
  | rest => some rest

/-- What follows the name of the empty set, which may stand in brackets. -/
def setName? : List Token → Option (List Token)
  | .emptySet :: rest => some rest
  | .mark '(' :: rest =>
      match setName? rest with
      | some (.mark ')' :: rest) => some rest
      | _ => none
  | _ => none

/-- What follows the empty set. -/
def emptySet? (ts : List Token) : Option (List Token) :=
  match setName? ts with
  | some (.mark '(' :: .mark ')' :: rest) => some rest
  | _ => none

def isSignMark : Token → Bool
  | .mark c => isSign c
  | _ => false

def Form.withSign? : Form → Option Form
  | .real false => some (.real true)
  | .imaginary false => some (.imaginary true)
  | _ => none

mutual

/-- A value without a sign, and what follows it. -/
def unsigned? : Nat → List Token → Option (Form × List Token)
  | 0, _ => none
  | fuel + 1, ts =>
      match ts with
      | .number imaginary :: rest => some (if imaginary then .imaginary false else .real false, rest)
      | .text bytes :: rest => (textsAfter? bytes rest).map fun rest => (.fixed, rest)
      | .constant :: rest => some (.fixed, rest)
      | .emptySet :: _ => (emptySet? ts).map fun rest => (.changeable, rest)
      | .mark '(' :: rest =>
          match emptySet? ts, members fuel rest with
          | some rest, _ => some (.changeable, rest)
          | none, ([f], false, .mark ')' :: rest) => some (f, rest)
          | none, (fs, _, .mark ')' :: rest) => some (tuple fs, rest)
          | none, _ => none
      | .mark '[' :: rest =>
          match members fuel rest with
          | (_, _, .mark ']' :: rest) => some (.changeable, rest)
          | _ => none
      | .mark '\x7b' :: .mark '\x7d' :: rest => some (.changeable, rest)
      | .mark '\x7b' :: rest =>
          match value? fuel rest with
          | some (.changeable, _) => none
          | some (_, .mark ':' :: rest) => (entriesAfter? fuel rest).map fun rest => (.changeable, rest)
          | some (_, .mark '\x7d' :: rest) => some (.changeable, rest)
          | some (_, .mark ',' :: rest) =>
              match members fuel rest with
              | (fs, _, .mark '\x7d' :: rest) => if fs.all Form.isFixed then some (.changeable, rest) else none
              | _ => none
          | _ => none
      | _ => none

/-- A value, and what follows it. -/
def value? : Nat → List Token → Option (Form × List Token)
  | 0, _ => none
  | fuel + 1, ts => do
      let (left, rest) ←
        if ts.head?.any isSignMark then
          (unsigned? fuel ts.tail).bind fun (f, rest) => f.withSign?.map fun f => (f, rest)
        else unsigned? fuel ts
      if rest.head?.any isSignMark then
        match left, unsigned? fuel rest.tail with
        | .real _, some (.imaginary false, rest) => some (.fixed, rest)
        | _, _ => none
      else some (left, rest)

/-- Values between commas, whether a comma comes last, and what follows. -/
def members : Nat → List Token → List Form × Bool × List Token
  | 0, ts => ([], false, ts)
  | fuel + 1, ts =>
      match value? fuel ts with
      | none => ([], false, ts)
      | some (f, .mark ',' :: rest) =>
          let (fs, comma, rest) := members fuel rest
          (f :: fs, fs.isEmpty || comma, rest)
      | some (f, rest) => ([f], false, rest)

/-- The rest of a map after a key and its colon, and what follows the closing brace. -/
def entriesAfter? : Nat → List Token → Option (List Token)
  | 0, _ => none
  | fuel + 1, ts =>
      match value? fuel ts with
      | some (_, .mark '\x7d' :: rest) => some rest
      | some (_, .mark ',' :: .mark '\x7d' :: rest) => some rest
      | some (_, .mark ',' :: rest) =>
          match value? fuel rest with
          | some (.changeable, _) => none
          | some (_, .mark ':' :: rest) => entriesAfter? fuel rest
          | _ => none
      | _ => none

end

/-- Whether tokens are values between commas, with nothing but line ends around them. -/
def isLiteralOf (ts : List Token) : Bool :=
  let ts := ts.dropWhile (· == .lineEnd)
  match members (4 * ts.length + 4) ts with
  | ([], _) => false
  | (_, _, rest) => rest.all (· == .lineEnd)

def isLiteral (cs : List Char) : Bool := (tokens? cs).any isLiteralOf

theorem isLiteral_nil : isLiteral [] = false := rfl

theorem isLiteral_brackets : isLiteral ['(', ')'] = true := by decide +kernel

end DesignProps.Console.Literal
