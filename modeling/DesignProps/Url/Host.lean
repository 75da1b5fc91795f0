import DesignProps.Text.Split

/-!
# Hosts in brackets

A host between brackets is an address of eight groups of hexadecimal digits, or one of a later version.  One gap may
stand for groups that are zero, the last two groups may be written as four decimal numbers, and a zone may follow.

Main statement: `isAddress_loopback`.
-/

set_option autoImplicit false

namespace DesignProps.Url

def isDecimalDigit (c : Char) : Bool := '0' ≤ c && c ≤ '9'

def isHexDigit (c : Char) : Bool := isDecimalDigit c || ('a' ≤ c && c ≤ 'f') || ('A' ≤ c && c ≤ 'F')

/-- One to four hexadecimal digits. -/
def isGroup (cs : List Char) : Bool := !cs.isEmpty && cs.length ≤ 4 && cs.all isHexDigit

/-- A number up to 255, without leading zeros. -/
def isOctet (cs : List Char) : Bool :=
  !cs.isEmpty && cs.length ≤ 3 && cs.all isDecimalDigit && (cs.length == 1 || cs.head? != some '0')
    && cs.foldl (fun n c => 10 * n + (c.toNat - '0'.toNat)) 0 ≤ 255

/-- Four numbers with dots between them. -/
def isDotted (cs : List Char) : Bool :=
  (Text.splitOn '.' cs).length == 4 && (Text.splitOn '.' cs).all isOctet

/-- The pieces of an address; four decimal numbers at its end stand for two groups. -/
def pieces? (cs : List Char) : Option (List (List Char)) :=
  let pieces := Text.splitOn ':' cs
  match pieces.getLast? with
  | none => none
  | some last =>
      if pieces.length < 3 then none
      else if last.contains '.' then
        if isDotted last then some (pieces.dropLast ++ [['0'], ['0']]) else none
      else some pieces

/-- The groups on one side of a gap; the gap may be at the end of the address. -/
def besideGap (pieces : List (List Char)) : List (List Char) := if pieces = [[]] then [] else pieces

/-- Eight groups, or fewer with a gap. -/
def areGroups (pieces : List (List Char)) : Bool :=
  match (pieces.drop 1).dropLast.findIdx? List.isEmpty with
  | none => pieces.length == 8 && pieces.all isGroup
  | some gap =>
      let groups := besideGap (pieces.take (gap + 1)) ++ besideGap (pieces.drop (gap + 2))
      groups.length ≤ 7 && groups.all isGroup

/-- A zone is not empty and has no percent sign of its own. -/
def isZone (cs : List Char) : Bool := !cs.isEmpty && !cs.contains '%'

def isAddress (cs : List Char) : Bool :=
  let address := cs.takeWhile (· ≠ '%')
  (cs.drop address.length == [] || isZone (cs.drop (address.length + 1)))
    && match pieces? address with
      | some pieces => areGroups pieces
      | none => false

/-- A later version: its number in hexadecimal digits, a dot, and anything. -/
def isLaterVersion (cs : List Char) : Bool :=
  let version := cs.takeWhile isHexDigit
  !version.isEmpty &&
    match cs.drop version.length with
    | '.' :: _ :: _ => true
    | _ => false

/-- Whether a host may stand between brackets. -/
def isBracketable : List Char → Bool
  | 'v' :: rest => isLaterVersion rest
  | cs => isAddress cs

theorem isAddress_loopback : isAddress "::1".toList = true := by decide

end DesignProps.Url
