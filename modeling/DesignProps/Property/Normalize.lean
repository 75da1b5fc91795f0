import DesignProps.Fault
import DesignProps.Naming.Labels
import DesignProps.Notice
import DesignProps.Primitive.Coercion
import DesignProps.Property.Basic

/-!
# Normalizing properties

Definitions come first: a variant is refined to a pinned value, a boolean or a number when its options say so.  Values
are then read by the kind of their definition, so that all components of a definition report the same kind.  Both work
through a map in order and stop at the first fault; `Progress` keeps what was done before it.

Main statements: `Progress.result_eq_ok_iff`, `run_done` (what is done before a fault is a beginning of the map).
-/

set_option autoImplicit false

namespace DesignProps

/-- What was done of a map, in order, and the fault that stopped the work. -/
structure Progress (α : Type) where
  done : List (Key × α)
  fault : Option Fault

namespace Progress

variable {α : Type}

/-- Works through entries until one fails. -/
def run (step : Key → Json → Except Fault α) : List (Key × Json) → Progress α
  | [] => ⟨[], none⟩
  | (key, raw) :: rest =>
      match step key raw with
      | .error e => ⟨[], some e⟩
      | .ok a =>
          let later := run step rest
          ⟨(key, a) :: later.done, later.fault⟩

def result (p : Progress α) : Except Fault (OrderedMap Key α) :=
  match p.fault with
  | none => .ok (.ofList p.done)
  | some e => .error e

/-- Works through the members of a value, an absent one having none. -/
def ofJson (work : List (Key × Json) → Progress α) (raw : Json) : Progress α :=
  match raw.membersIfAny with
  | .ok members => work (Json.keyed members)
  | .error e => ⟨[], some e⟩

theorem result_eq_ok_iff (p : Progress α) (m : OrderedMap Key α) :
    p.result = .ok m ↔ p.fault = none ∧ m = .ofList p.done := by
  unfold result
  cases h : p.fault with
  | none => simp [eq_comm]
  | some e => simp

theorem run_done (step : Key → Json → Except Fault α) : ∀ entries : List (Key × Json),
    (run step entries).done.map Prod.fst <+: entries.map Prod.fst := by
  intro entries
  induction entries with
  | nil => exact List.prefix_refl _
  | cons e rest ih =>
      obtain ⟨key, raw⟩ := e
      simp only [run]
      split
      · exact List.nil_prefix
      · simpa using ih

end Progress

/-! ## Definitions -/

namespace PropertyDefinition

def isHiddenKey (key : Key) : Bool :=
  match key.asText.toList with
  | '.' :: _ => true
  | '_' :: _ => true
  | _ => false

/-- How a variant is refined: the kind and default it gets, and whether its options stay. -/
def refine (options : List String) (default : String) :
    Except TooManyDigits (PropertyKind × Primitive × Option (List String)) :=
  if options.length = 1 then (Coercion.explicit default).map fun v => (.explicit, v, none)
  else if options.length = 2 ∧ options.all Coercion.isBoolean then
    .ok (.boolean, .bool (Coercion.asBoolean default), none)
  else if options.all Coercion.isNumber then
    (Coercion.asNumber default).map fun n => (.number, .number n, none)
  else .ok (.variant, .text default, some options)

/-- Kind, default and options of a definition of the given raw kind. -/
def content (kind : PropertyKind) (options : List String) (default : String) :
    Except TooManyDigits (PropertyKind × Primitive × Option (List String)) :=
  match kind with
  | .variant => refine options default
  | .boolean => .ok (.boolean, .bool (Coercion.asBoolean default), none)
  | kind => .ok (kind, .text default, none)

/-- The definition of a key from its type, options and default as texts. -/
def ofTexts (key : Key) (rawType : String) (options : List String) (default : String) :
    Except TooManyDigits PropertyDefinition :=
  let kind := PropertyKind.ofRaw rawType
  (content kind options default).map fun (refined, value, kept) =>
    { name := Naming.propertyName key
      kind := refined
      default := value
      options := kept
      hidden := isHiddenKey key
      optional := default == undefinedMarker || options.contains undefinedMarker
      rawType := if kind = .unknown then some rawType else none }

/-- The type of a raw definition; one without a type has the empty one. -/
def rawTypeOf (raw : Json) : String :=
  match raw with
  | .obj members =>
      match Assoc.get? "type" members with
      | some v => v.asText
      | none => ""
  | _ => ""

/-- Normalizes one raw definition; an absent one is an empty object. -/
def ofRaw (key : Key) (raw : Json) : Except Fault PropertyDefinition := do
  let members ← raw.membersIfAny
  let raw := Json.obj members
  let options ← (raw.member "variantOptions").partsIfAny
  match ofTexts key (rawTypeOf raw) (options.map Json.canonicalText) (raw.member "defaultValue").canonicalText with
  | .ok d => .ok d
  | .error e => .error (.tooManyDigits e)

/-- An unrecognized type is noted. -/
def notices (entry : Key × PropertyDefinition) : List Notice :=
  match entry.2.rawType with
  | some type => [.unrecognizedType type entry.1]
  | none => []

end PropertyDefinition

/-- Normalizes a raw map of definitions, in order. -/
def normalizeDefinitions (raw : List (Key × Json)) : Progress PropertyDefinition :=
  .run PropertyDefinition.ofRaw raw

/-! ## Values -/

namespace PropertyValue

/-- A value without a definition is a text that is never a default. -/
def withoutDefinition (key : Key) (text : String) : PropertyValue where
  name := Naming.propertyName key
  kind := .text
  value := .text text
  isDefault := false
  undefined := text == undefinedMarker

/-- Reads a text as a value of a kind. -/
def coerce (kind : PropertyKind) (text : String) : Except TooManyDigits Primitive :=
  match kind with
  | .boolean => .ok (.bool (Coercion.asBoolean text))
  | .explicit => Coercion.explicit text
  | .number => (Coercion.asNumber text).map .number
  | _ => .ok (.text text)

/-- The value of a key from its text, by its definition if there is one. -/
def ofText (definition : Option PropertyDefinition) (key : Key) (text : String) :
    Except TooManyDigits PropertyValue :=
  match definition with
  | none => .ok (withoutDefinition key text)
  | some d =>
      (coerce d.kind text).map fun value =>
        { name := Naming.propertyName key
          kind := d.kind
          value := value
          isDefault := value.eqv d.default
          undefined := text == undefinedMarker }

/-- Normalizes one raw value; an absent one is an empty object. -/
def ofRaw (definitions : PropertyDefinitions) (key : Key) (raw : Json) : Except Fault PropertyValue := do
  let members ← raw.membersIfAny
  match ofText (definitions.get? key) key ((Json.obj members).member "value").canonicalText with
  | .ok v => .ok v
  | .error e => .error (.tooManyDigits e)

/-- A value without a definition is noted. -/
def notices (definitions : PropertyDefinitions) (key : Key) : List Notice :=
  if definitions.contains key then [] else [.undefinedProperty key]

end PropertyValue

/-- Normalizes a raw map of values, in order. -/
def normalizeValues (definitions : PropertyDefinitions) (raw : List (Key × Json)) : Progress PropertyValue :=
  .run (PropertyValue.ofRaw definitions) raw

/-- The raw value of a definition's key: its default. -/
def defaultAsValue (raw : Json) : Except Fault Json := do
  let members ← raw.membersIfAny
  .ok (.obj [("type", (Json.obj members).member "type"), ("value", (Json.obj members).member "defaultValue")])

/-- The raw values of a definition node: every property at its default. -/
def valuesFromDefinitions (raw : List (Key × Json)) : Progress Json := .run (fun _ => defaultAsValue) raw

/-! ## Notices -/

def Progress.definitionNotices (p : Progress PropertyDefinition) : List Notice :=
  p.done.flatMap PropertyDefinition.notices

def Progress.valueNotices (definitions : PropertyDefinitions) (p : Progress PropertyValue) : List Notice :=
  p.done.flatMap fun entry => PropertyValue.notices definitions entry.1

end DesignProps
