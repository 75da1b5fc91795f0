import DesignProps.Number
import DesignProps.OrderedMap

/-!
# JSON values

Members of an object keep their order.  A document may hold any value anywhere, so most questions have an answer for
every value: `truthy` says whether a value counts as present.

Main statement: `same_iff` (values are the same if they are member by member, in order).
-/

set_option autoImplicit false

namespace DesignProps

inductive Json
  | null
  | bool (b : Bool)
  | int (n : Int)
  | float (x : Binary64)
  | str (s : String)
  | arr (items : List Json)
  | obj (members : List (String × Json))
  deriving Inhabited, Repr

namespace Json

/-! ## Equality -/

mutual

def same : Json → Json → Bool
  | .null, .null => true
  | .bool a, .bool b => a == b
  | .int a, .int b => a == b
  | .float a, .float b => a == b
  | .str a, .str b => a == b
  | .arr a, .arr b => sameItems a b
  | .obj a, .obj b => sameMembers a b
  | _, _ => false

def sameItems : List Json → List Json → Bool
  | [], [] => true
  | a :: as, b :: bs => same a b && sameItems as bs
  | _, _ => false

def sameMembers : List (String × Json) → List (String × Json) → Bool
  | [], [] => true
  | (j, a) :: as, (k, b) :: bs => j == k && same a b && sameMembers as bs
  | _, _ => false

end

mutual

theorem same_iff : ∀ a b : Json, same a b = true ↔ a = b
  | .null, b => by cases b <;> simp [same]
  | .bool a, b => by cases b <;> simp [same]
  | .int a, b => by cases b <;> simp [same]
  | .float a, b => by cases b <;> simp [same]
  | .str a, b => by cases b <;> simp [same]
  | .arr a, b => by
      cases b with
      | arr b => simp [same, sameItems_iff a b]
      | _ => simp [same]
  | .obj a, b => by
      cases b with
      | obj b => simp [same, sameMembers_iff a b]
      | _ => simp [same]

theorem sameItems_iff : ∀ as bs : List Json, sameItems as bs = true ↔ as = bs
  | [], bs => by cases bs <;> simp [sameItems]
  | a :: as, bs => by
      cases bs with
      | nil => simp [sameItems]
      | cons b bs => simp [sameItems, same_iff a b, sameItems_iff as bs]

theorem sameMembers_iff : ∀ as bs : List (String × Json), sameMembers as bs = true ↔ as = bs
  | [], bs => by cases bs <;> simp [sameMembers]
  | (j, a) :: as, bs => by
      cases bs with
      | nil => simp [sameMembers]
      | cons p bs =>
          obtain ⟨k, b⟩ := p
          simp [sameMembers, same_iff a b, sameMembers_iff as bs]

end

instance : DecidableEq Json := fun a b => decidable_of_iff _ (same_iff a b)

/-! ## Questions about a value -/

def ofNumber : Number → Json
  | .int n => .int n
  | .float x => .float x

/-- Nulls, zeros, `false` and empty texts, lists and objects count as absent. -/
def truthy : Json → Bool
  | .null => false
  | .bool b => b
  | .int n => n != 0
  | .float x => !x.isZero
  | .str s => s != ""
  | .arr items => !items.isEmpty
  | .obj members => !members.isEmpty

/-- The member of that name, or null: an absent member and a null one are the same. -/
def member (key : String) : Json → Json
  | .obj members => (Assoc.get? key members).getD .null
  | _ => .null

def isObject : Json → Bool
  | .obj _ => true
  | _ => false

end Json

end DesignProps
