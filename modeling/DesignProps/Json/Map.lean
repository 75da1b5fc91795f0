import DesignProps.Fault
import DesignProps.OrderedMap

/-!
# Values as maps

An object is a map; a list of pairs is one too, each pair a list of two parts or a text of two characters.  `depth`
says how far values are nested.

Main statement: `toMap_obj`.
-/

set_option autoImplicit false

namespace DesignProps

namespace Json

/-- One pair of a list of pairs: two parts, the first of which is the key of the second. -/
def pairAt (position : Nat) (v : Json) : Except Fault (Key × Json) :=
  match v.parts with
  | .error _ => .error (.notAPair position)
  | .ok [key, value] => key.toKey.map fun key => (key, value)
  | .ok parts => .error (.notTwoParts position parts.length)

def pairsFrom (position : Nat) : List Json → Except Fault (List (Key × Json))
  | [] => .ok []
  | v :: rest => do
      let pair ← pairAt position v
      let pairs ← pairsFrom (position + 1) rest
      .ok (pair :: pairs)

/-- An object as a map; a list of pairs gives its entries one by one. -/
def toMap (v : Json) : Except Fault (OrderedMap Key Json) :=
  match v with
  | .obj members => .ok (.ofList (keyed members))
  | v => do
      let parts ← v.parts
      let pairs ← pairsFrom 0 parts
      .ok (.ofList pairs)

/-- The map of a value that counts as present, the empty one of any other. -/
def toMapIfAny (v : Json) : Except Fault (OrderedMap Key Json) :=
  if v.truthy then v.toMap else .ok .empty

theorem toMap_obj (members : List (String × Json)) : (Json.obj members).toMap = .ok (.ofList (keyed members)) := rfl

/-! ## Depth -/

mutual

def depth : Json → Nat
  | .arr items => depthItems items + 1
  | .obj members => depthMembers members + 1
  | _ => 1

def depthItems : List Json → Nat
  | [] => 0
  | v :: rest => max (depth v) (depthItems rest)

def depthMembers : List (String × Json) → Nat
  | [] => 0
  | (_, v) :: rest => max (depth v) (depthMembers rest)

end

end Json

end DesignProps
