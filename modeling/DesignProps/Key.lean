import DesignProps.Json.Display
import DesignProps.Json.Writer

/-!
# Keys

What names an entry of a map: a text, and where a map is given as a list of pairs also a number, a boolean or null.
Keys are told apart by value, not by spelling: a boolean counts as one or zero, and a whole double as an integer.

Main statements: `beq_iff` (keys are the same when their marks are), `beq_text` (a text is only the same as itself),
`precedes?_swap` (whether two keys can be compared does not depend on their order), `ofJson?_toJson` (a key is read back).
-/

set_option autoImplicit false

namespace DesignProps

inductive Key
  | null
  | bool (b : Bool)
  | number (n : Number)
  | text (s : String)
  deriving DecidableEq, Repr

namespace Key

instance : Coe String Key := ⟨.text⟩

instance : Inhabited Key := ⟨.null⟩

/-! ## Telling keys apart -/

/-- What a key is told apart by. -/
inductive Mark
  | null
  | number (standing : Int × Int)
  | text (s : String)
  deriving DecidableEq

/-- The number a boolean counts as. -/
def ofBool (b : Bool) : Number := .int (if b then 1 else 0)

def mark : Key → Mark
  | .null => .null
  | .bool b => .number (ofBool b).standing
  | .number n => .number n.standing
  | .text s => .text s

instance : BEq Key := ⟨fun a b => a.mark = b.mark⟩

theorem beq_iff (a b : Key) : (a == b) = true ↔ a.mark = b.mark := by
  simp [BEq.beq]

instance : EquivBEq Key where
  rfl := (beq_iff _ _).2 rfl
  symm h := (beq_iff _ _).2 ((beq_iff _ _).1 h).symm
  trans h g := (beq_iff _ _).2 (((beq_iff _ _).1 h).trans ((beq_iff _ _).1 g))

theorem beq_text (s : String) (k : Key) : (k == .text s) = true ↔ k = .text s := by
  rw [beq_iff]
  cases k <;> simp [mark]

/-! ## Order -/

/-- Whether a key comes before another one: numbers among themselves, texts among themselves, nothing else. -/
def precedes? : Key → Key → Option Bool
  | .text a, .text b => some (a < b)
  | .bool a, .bool b => some ((ofBool a).precedes (ofBool b))
  | .bool a, .number b => some ((ofBool a).precedes b)
  | .number a, .bool b => some (a.precedes (ofBool b))
  | .number a, .number b => some (a.precedes b)
  | _, _ => none

theorem precedes?_swap (a b : Key) : (precedes? a b).isSome = (precedes? b a).isSome := by
  cases a <;> cases b <;> rfl

/-! ## Spellings -/

def toJson : Key → Json
  | .null => .null
  | .bool b => .bool b
  | .number n => .ofNumber n
  | .text s => .str s

/-- The key a value can be; a list or an object is none. -/
def ofJson? : Json → Option Key
  | .null => some .null
  | .bool b => some (.bool b)
  | .int n => some (.number (.int n))
  | .float x => some (.number (.float x))
  | .str s => some (.text s)
  | _ => none

def truthy (k : Key) : Bool := k.toJson.truthy

/-- The key in running text, a text as it is. -/
def asText (k : Key) : String := k.toJson.asText

/-- The key in a message, a text between quotes. -/
def shown (k : Key) : String := k.toJson.shown

/-- The text that names are made from; a key that counts as absent has none. -/
def label (k : Key) : String := if k.truthy then k.asText else ""

/-- The name of a member that is written for the key. -/
def memberName : Key → String
  | .text s => s
  | k => k.toJson.write

theorem ofJson?_toJson (k : Key) : ofJson? k.toJson = some k := by
  cases k with
  | number n => cases n <;> rfl
  | _ => rfl

@[simp] theorem asText_text (s : String) : asText (.text s) = s := rfl

@[simp] theorem memberName_text (s : String) : memberName (.text s) = s := rfl

theorem label_text (s : String) : label (.text s) = s := by
  by_cases h : s = "" <;> simp [label, truthy, Json.truthy, toJson, h]

end Key

end DesignProps
