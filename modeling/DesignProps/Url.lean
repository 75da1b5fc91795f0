import DesignProps.Fault
import DesignProps.Url.Host

/-!
# Addresses of documents

An address can be fetched if it has a scheme and a host.  Blanks and control characters before it and line breaks
within it do not count.  An authority whose brackets do not match, or with brackets and a host that is no address, is a
fault; so is one with a character that is another way to write a delimiter.

Main statement: `isFetchable_empty`.
-/

set_option autoImplicit false

namespace DesignProps.Url

/-- Leading controls and blanks, and line breaks and tabs anywhere, are dropped. -/
def cleaned (cs : List Char) : List Char :=
  (cs.dropWhile fun c => c.toNat ≤ 0x20).filter fun c => c != '\t' && c != '\r' && c != '\n'

def isLetter (c : Char) : Bool := ('a' ≤ c && c ≤ 'z') || ('A' ≤ c && c ≤ 'Z')

def isSchemeChar (c : Char) : Bool := isLetter c || isDecimalDigit c || c == '+' || c == '-' || c == '.'

/-- The scheme and what follows its colon: a letter, then letters, digits and a few marks. -/
def scheme? (cs : List Char) : Option (List Char × List Char) :=
  let before := cs.takeWhile (· ≠ ':')
  match before, cs.drop before.length with
  | c :: rest, _ :: after => if isLetter c && rest.all isSchemeChar then some (c :: rest, after) else none
  | _, _ => none

/-- The user, host and port: they need two slashes before them. -/
def authority : List Char → List Char
  | '/' :: '/' :: rest => rest.takeWhile fun c => c != '/' && c != '?' && c != '#'
  | _ => []

/-- Characters that are compatible to a text with a delimiter in it. -/
def disguisedDelimiters : List Nat :=
  [0x2047, 0x2048, 0x2049, 0x2100, 0x2101, 0x2105, 0x2106, 0x2A74, 0xFE13, 0xFE16, 0xFE55, 0xFE56, 0xFE5F, 0xFE6B,
    0xFF03, 0xFF0F, 0xFF1A, 0xFF1F, 0xFF20]

/-- The host and port: what follows the last at sign. -/
def withoutUser (cs : List Char) : List Char := (cs.reverse.takeWhile (· ≠ '@')).reverse

/-- The host of an authority with brackets: what they hold, if nothing stands before them and at most a port after
them.  If the brackets are in the user, it is what stands before the port. -/
def bracketedHost? (cs : List Char) : Option (List Char) :=
  let place := withoutUser cs
  if place.contains '[' then
    match place with
    | '[' :: rest =>
        let host := rest.takeWhile (· ≠ ']')
        match rest.drop (host.length + 1) with
        | [] => some host
        | ':' :: _ => some host
        | _ => none
    | _ => none
  else some (place.takeWhile (· ≠ ':'))

def isAuthority (cs : List Char) : Bool :=
  (cs.contains '[' == cs.contains ']')
    && (!cs.contains '[' || (bracketedHost? cs).any isBracketable)
    && !cs.any fun c => disguisedDelimiters.contains c.toNat

/-- Whether an address has a scheme and a host. -/
def isFetchable (url : String) : Except Fault Bool :=
  let cs := cleaned url.toList
  let (scheme, rest) := (scheme? cs).getD ([], cs)
  if isAuthority (authority rest) then .ok (!scheme.isEmpty && !(authority rest).isEmpty) else .error .brackets

theorem isFetchable_empty : isFetchable "" = .ok false := rfl

end DesignProps.Url
