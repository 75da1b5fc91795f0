import DesignProps.Json.Map
import DesignProps.Text.Case

/-!
# Configurations

A configuration has six fields, each of which may hold any value; the toggles are read by truthiness.  It is laid
down in layers of members: the target's defaults, then a file, then overrides.  Members that are no field are
collected in `custom`, after the entries that `custom` brings along.

Main statements: `get_set` (setting a field changes no other), `ofMembers_nil` (no member leaves the base
configuration).
-/

set_option autoImplicit false

namespace DesignProps

/-- Any value, or the map in which members that are no field are collected. -/
inductive Custom
  | value (v : Json)
  | collected (entries : OrderedMap Key Json)
  deriving DecidableEq

def Custom.toMap : Custom → Except Fault (OrderedMap Key Json)
  | .value v => v.toMap
  | .collected entries => .ok entries

structure Config where
  showDefaults : Json
  explicitBoolean : Json
  optionsApi : Json
  slotTag : Json
  indentSize : Json
  addComments : Json
  custom : Custom
  deriving DecidableEq

namespace Config

def base : Config where
  showDefaults := .bool false
  explicitBoolean := .bool false
  optionsApi := .bool false
  slotTag := .str "span"
  indentSize := .int 2
  addComments := .bool true
  custom := .value (.obj [])

instance : Inhabited Config := ⟨base⟩

inductive Field
  | showDefaults
  | explicitBoolean
  | optionsApi
  | slotTag
  | indentSize
  | addComments
  deriving DecidableEq, Repr

def Field.all : List Field :=
  [.showDefaults, .explicitBoolean, .optionsApi, .slotTag, .indentSize, .addComments]

def Field.key : Field → String
  | .showDefaults => "show_defaults"
  | .explicitBoolean => "explicit_boolean"
  | .optionsApi => "options_api"
  | .slotTag => "slot_tag"
  | .indentSize => "indent_size"
  | .addComments => "add_comments"

def Field.ofKey? (key : String) : Option Field := Field.all.find? fun f => f.key == key

def get (c : Config) : Field → Json
  | .showDefaults => c.showDefaults
  | .explicitBoolean => c.explicitBoolean
  | .optionsApi => c.optionsApi
  | .slotTag => c.slotTag
  | .indentSize => c.indentSize
  | .addComments => c.addComments

def set (c : Config) (f : Field) (v : Json) : Config :=
  match f with
  | .showDefaults => { c with showDefaults := v }
  | .explicitBoolean => { c with explicitBoolean := v }
  | .optionsApi => { c with optionsApi := v }
  | .slotTag => { c with slotTag := v }
  | .indentSize => { c with indentSize := v }
  | .addComments => { c with addComments := v }

/-! ## Layers -/

def customKey : String := "custom"

/-- Whether a member has a place of its own. -/
def isKnown (entry : String × Json) : Bool := (Field.ofKey? entry.1).isSome || entry.1 == customKey

def setMember (c : Config) (entry : String × Json) : Config :=
  match Field.ofKey? entry.1 with
  | some f => c.set f entry.2
  | none => if entry.1 = customKey then { c with custom := .value entry.2 } else c

/-- Sets the members that have a place of their own. -/
def setAll (c : Config) (members : List (String × Json)) : Config := members.foldl setMember c

/-- The configuration of a list of members. -/
def ofMembers (members : List (String × Json)) : Except Fault Config :=
  let c := base.setAll members
  match members.filter fun e => !isKnown e with
  | [] => .ok c
  | extra => do
      let own ← c.custom.toMap
      .ok { c with custom := .collected (own.insertAll (Json.keyed extra)) }

/-- The members that a target starts from. -/
def targetDefaults (target : String) : List (String × Json) :=
  if target = "react" then
    [("show_defaults", .bool false), ("explicit_boolean", .bool false), ("slot_tag", .str "span"),
      ("add_comments", .bool true)]
  else if target = "vue" then
    [("show_defaults", .bool false), ("explicit_boolean", .bool false), ("options_api", .bool false),
      ("slot_tag", .str "span"), ("add_comments", .bool true)]
  else []

def targetsWithDefaults : List String := ["react", "vue"]

/-- A target's configuration with two layers over its defaults; the target's name may be in any case. -/
def layered (target : String) (file overrides : List (String × Json)) : Except Fault Config :=
  ofMembers (Assoc.putAll (Assoc.putAll (targetDefaults (Text.lower target)) file) overrides)

/-! ## Toggles -/

/-- The positional toggles of the instance pass. -/
def instanceSettings (c : Config) : List (String × Json) :=
  [("showDefaults", c.showDefaults), ("explicitBoolean", c.explicitBoolean)]

/-- The positional toggle of the definitions pass. -/
def definitionSettings (c : Config) : List (String × Json) := [("optionsApi", c.optionsApi)]

/-- The members that stand for a configuration in a file: its fields, then its custom entries. -/
def toMembers (c : Config) : Except Fault (List (String × Json)) := do
  let custom ← c.custom.toMap
  let fields := Json.keyed (Field.all.map fun f => (f.key, c.get f))
  .ok ((Assoc.putAll fields custom.entries).map fun (key, v) => (key.memberName, v))

theorem ofMembers_nil : ofMembers [] = .ok base := rfl

theorem get_set (c : Config) (f g : Field) (v : Json) : (c.set f v).get g = if f = g then v else c.get g := by
  cases f <;> cases g <;> rfl

theorem ofKey?_key (f : Field) : Field.ofKey? f.key = some f := by
  cases f <;> decide

end Config

end DesignProps
