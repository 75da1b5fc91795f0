import DesignProps.Key
import DesignProps.Text.Utf8

/-!
# Faults

What stops the work on a value that has the wrong shape.  Each constructor is one cause, and `message` is the only
place that words them.
-/

set_option autoImplicit false

namespace DesignProps

/-- The kind of a value as messages call it. -/
def Json.kindWord : Json → String
  | .null => "NoneType"
  | .bool _ => "bool"
  | .int _ => "int"
  | .float _ => "float"
  | .str _ => "str"
  | .arr _ => "list"
  | .obj _ => "dict"

inductive Fault
  /-- A named member was asked of a value that is no object. -/
  | notAnObject (v : Json)
  /-- A value without parts was gone through part by part. -/
  | notIterable (v : Json)
  /-- A value without parts was asked for its second one. -/
  | notIndexable (v : Json)
  /-- A list or text is too short to have a second part. -/
  | tooShort (v : Json)
  /-- An object has no member of that name. -/
  | noSuchMember (name : String)
  /-- A list or object stands where a name is needed. -/
  | notAName (v : Json)
  /-- The part of a list of pairs at that position has another number of parts than two. -/
  | notTwoParts (position count : Nat)
  /-- The part of a list of pairs at that position has no parts. -/
  | notAPair (position : Nat)
  /-- A setting's default is not made of a key and a value. -/
  | defaultParts (count : Nat)
  /-- A setting's default has no parts. -/
  | defaultWithoutParts (v : Json)
  /-- A value cannot be multiplied to a width. -/
  | noProduct (v : Json)
  /-- A value is no number of blanks. -/
  | notAWidth (v : Json)
  /-- A number of blanks is beyond what can be counted. -/
  | widthOutOfRange
  /-- A number of blanks is beyond what can be held. -/
  | widthTooLarge
  /-- Keys of different kinds were to be put in order. -/
  | notComparable (a b : Key)
  | tooManyDigits (e : TooManyDigits)
  | notText (e : Text.Utf8.Malformed)
  /-- Brackets of an address do not match. -/
  | brackets
  | unknownCase (name : String)
  /-- A path, as it is shown, that is too long to look for. -/
  | pathTooLong (path : String)
  /-- A path holds a character that no file name has. -/
  | nulInPath
  deriving Repr, DecidableEq

def Fault.message : Fault → String
  | .notAnObject v => "'" ++ v.kindWord ++ "' object has no attribute 'get'"
  | .notIterable v => "'" ++ v.kindWord ++ "' object is not iterable"
  | .notIndexable v => "'" ++ v.kindWord ++ "' object is not subscriptable"
  | .tooShort (.str _) => "string index out of range"
  | .tooShort v => v.kindWord ++ " index out of range"
  | .noSuchMember name => name
  | .notAName v => "unhashable type: '" ++ v.kindWord ++ "'"
  | .notTwoParts position count =>
      "dictionary update sequence element #" ++ Nat.repr position ++ " has length " ++ Nat.repr count
        ++ "; 2 is required"
  | .notAPair position =>
      "cannot convert dictionary update sequence element #" ++ Nat.repr position ++ " to a sequence"
  | .defaultParts count =>
      if count < 2 then "not enough values to unpack (expected 2, got " ++ Nat.repr count ++ ")"
      else "too many values to unpack (expected 2)"
  | .defaultWithoutParts v => "cannot unpack non-iterable " ++ v.kindWord ++ " object"
  | .noProduct v => "unsupported operand type(s) for *: '" ++ v.kindWord ++ "' and 'int'"
  | .notAWidth v => "can't multiply sequence by non-int of type '" ++ v.kindWord ++ "'"
  | .widthOutOfRange => "cannot fit 'int' into an index-sized integer"
  | .widthTooLarge => ""
  | .notComparable a b =>
      "'<' not supported between instances of '" ++ a.toJson.kindWord ++ "' and '" ++ b.toJson.kindWord ++ "'"
  | .tooManyDigits e => e.message
  | .notText e => e.message
  | .brackets => "Invalid IPv6 URL"
  | .unknownCase name => Text.quoted name ++ " is not a valid NamingCase"
  | .pathTooLong path => "[Errno 36] File name too long: " ++ Text.quoted path
  | .nulInPath => "embedded null byte"

namespace Json

/-- The parts of a value: items of a list, characters of a text, names of an object's members. -/
def parts : Json → Except Fault (List Json)
  | .arr items => .ok items
  | .str s => .ok (s.toList.map fun c => .str (String.singleton c))
  | .obj members => .ok (members.map fun m => .str m.1)
  | v => .error (.notIterable v)

/-- The parts of a value that counts as present, none of any other. -/
def partsIfAny (v : Json) : Except Fault (List Json) := if v.truthy then v.parts else .ok []

/-- The members of an object; a value that counts as absent has none. -/
def membersIfAny (v : Json) : Except Fault (List (String × Json)) :=
  match v with
  | .obj members => .ok members
  | v => if v.truthy then .error (.notAnObject v) else .ok []

/-- The key a value is; a list or an object is none. -/
def toKey (v : Json) : Except Fault Key :=
  match Key.ofJson? v with
  | some key => .ok key
  | none => .error (.notAName v)

/-- The members of an object by key. -/
def keyed (members : List (String × Json)) : List (Key × Json) := members.map fun m => (.text m.1, m.2)

end Json

end DesignProps
