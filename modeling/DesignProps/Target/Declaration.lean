import DesignProps.Key.Order
import DesignProps.Model.Basic
import DesignProps.Target.Attribute

/-!
# Declarations

The parts of a definition's declaration, as data: the fields of its interface, the aliases of its union types, the
defaults of its properties, and the props of the options form.  Hidden properties have no part in any of them, but
all keys are sorted, which fails where two of them cannot be compared.

Main statements: `mem_declared` (what is declared is not hidden), `sortedKeys_perm` (sorting loses no key),
`sortedKeys_text` (texts can always be sorted).
-/

set_option autoImplicit false

namespace DesignProps

structure Alias where
  name : String
  value : String
  deriving DecidableEq, Repr

/-- One property of the options form; without a default it has none. -/
structure OptionsProp where
  name : String
  type : String
  default : Option String
  deriving DecidableEq, Repr

namespace Generator

/-- Keys by identifier, then by themselves. -/
def sortedKeys (keys : List Key) : Except Fault (List Key) :=
  (Key.sortNamed (keys.map fun key => (Naming.identifier key, key))).map fun sorted => sorted.map Prod.snd

/-- Definition ids by display name, then by themselves. -/
def sortedDefinitionIds (m : Model) : List String :=
  (Sorting.sortPairs (m.definitions.keys.map fun id => (m.nameOf id, id))).map Prod.snd

/-- The definition of a key, if it is not hidden. -/
def shown? (definitions : PropertyDefinitions) (key : Key) : Option (Key × PropertyDefinition) :=
  match definitions.get? key with
  | some d => if d.hidden then none else some (key, d)
  | none => none

abbrev Declared := List (Key × PropertyDefinition)

/-- The properties that are declared, in order. -/
def declared (definitions : PropertyDefinitions) : Except Fault Declared :=
  (sortedKeys definitions.keys).map fun keys => keys.filterMap (shown? definitions)

/-! ## Types -/

/-- An option as a string literal of a union type. -/
def optionLiteral (option : String) : String :=
  "'" ++ Attribute.replaceChar '\'' "\\'".toList option ++ "'"

def unionType (options : List String) : String := String.intercalate " | " (options.map optionLiteral)

def aliasName (owner : String) (key : Key) : String := owner ++ Naming.displayName (Naming.propertyName key)

/-- The type of a property in the interface of an owner. -/
def fieldType (target : Target) (owner : String) (key : Key) (d : PropertyDefinition) : String :=
  match d.kind with
  | .boolean => "boolean"
  | .number => "number"
  | .text => "string"
  | .variant => aliasName owner key
  | .explicit => d.default.literal
  | .instanceSwap => target.swapType
  | .unknown => d.toJson.write

def fieldLine (target : Target) (owner : String) (key : Key) (d : PropertyDefinition) : String :=
  Naming.identifier key ++ "?: " ++ fieldType target owner key d ++ ";"

/-- The alias that a variant registers. -/
def aliasOf (owner : String) (key : Key) (d : PropertyDefinition) : Option Alias :=
  if d.kind = .variant then some ⟨aliasName owner key, unionType (d.options.getD [])⟩ else none

def fields (target : Target) (owner : String) (ps : Declared) : List String :=
  ps.map fun (key, d) => fieldLine target owner key d

/-- The aliases of an owner, each name once. -/
def aliases (owner : String) (ps : Declared) : List Alias :=
  let found := ps.filterMap fun (key, d) => aliasOf owner key d
  (OrderedMap.ofList (found.map fun a => (a.name, a.value))).entries.map fun (name, value) => ⟨name, value⟩

/-! ## Defaults -/

/-- Whether a property counts as having no default: an optional one with the undefined marker. -/
def isBare (d : PropertyDefinition) : Bool := d.optional && d.default.isUndefined

/-- A value between double quotes as source text. -/
def quotedValue (v : Primitive) : String := Json.stringLiteral v.asText

/-- The default of a property as a source literal, if it has one. -/
def defaultText (g : Generator) (d : PropertyDefinition) : Option String :=
  if isBare d then none
  else
    match d.kind with
    | .boolean => some (Primitive.bool d.default.truthy).literal
    | .number => some d.default.literal
    | .explicit => some d.default.literal
    | .instanceSwap =>
        match g.resolve d.default.asText with
        | none => some (quotedValue d.default)
        | some name =>
            if d.optional ∧ name = undefinedMarker then none
            else some (Attribute.selfClosing (Naming.displayName name))
    | _ => some (quotedValue d.default)

/-- A destructured parameter, bare without a default. -/
def inputLine (g : Generator) (key : Key) (d : PropertyDefinition) : String :=
  match g.defaultText d with
  | some value => Naming.identifier key ++ " = " ++ value ++ ","
  | none => Naming.identifier key ++ ","

def inputs (g : Generator) (ps : Declared) : List String := ps.map fun (key, d) => g.inputLine key d

/-- An entry of the defaults object; a property without a default has none. -/
def defaultEntry (g : Generator) (key : Key) (d : PropertyDefinition) : Option String :=
  (g.defaultText d).map fun value => Naming.identifier key ++ ": " ++ value ++ ","

def defaultEntries (g : Generator) (ps : Declared) : List String := ps.filterMap fun (key, d) => g.defaultEntry key d

/-! ## Options form -/

/-- The constructor that checks a pinned value. -/
def explicitConstructor : Primitive → String
  | .bool _ => "Boolean"
  | .number _ => "Number"
  | _ => "String"

/-- The runtime type of a property of an owner. -/
def optionsType (g : Generator) (owner : String) (key : Key) (d : PropertyDefinition) : String :=
  match d.kind with
  | .boolean => "Boolean"
  | .number => "Number"
  | .variant => "String as PropType<" ++ aliasName owner key ++ ">"
  | .instanceSwap => if (g.resolve d.default.asText).isSome then "Object" else "String"
  | .explicit => explicitConstructor d.default
  | _ => "String"

/-- The default of a property in the options form. -/
def optionsDefault (g : Generator) (d : PropertyDefinition) : Option String :=
  match d.kind with
  | .variant => if isBare d then none else some (quotedValue d.default)
  | .instanceSwap =>
      match g.resolve d.default.asText with
      | none => if isBare d then none else some (quotedValue d.default)
      | some name =>
          if d.optional ∧ name = undefinedMarker then none
          else some (Json.stringLiteral (Naming.displayName name))
  | .explicit => some d.default.literal
  | _ => g.defaultText d

def optionsProps (g : Generator) (owner : String) (ps : Declared) : List OptionsProp :=
  ps.map fun (key, d) => ⟨Naming.identifier key, g.optionsType owner key d, g.optionsDefault d⟩

/-! ## What is declared -/

theorem mem_declared {definitions : PropertyDefinitions} {ps : Declared} (h : declared definitions = .ok ps)
    {e : Key × PropertyDefinition} (he : e ∈ ps) : definitions.get? e.1 = some e.2 ∧ e.2.hidden = false := by
  unfold declared at h
  cases sorted : sortedKeys definitions.keys with
  | error e => simp [sorted, Except.map] at h
  | ok keys =>
      rw [sorted] at h
      obtain rfl := Except.ok.inj h
      obtain ⟨key, _, h⟩ := List.mem_filterMap.1 he
      unfold shown? at h
      split at h
      · next d found =>
          split at h
          · simp at h
          · next visible =>
              simp only [Option.some.injEq] at h
              subst h
              exact ⟨found, by simpa using visible⟩
      · simp at h

theorem sortedKeys_perm {keys sorted : List Key} (h : sortedKeys keys = .ok sorted) : sorted.Perm keys := by
  unfold sortedKeys at h
  cases named : Key.sortNamed (keys.map fun key => (Naming.identifier key, key)) with
  | error e => simp [named, Except.map] at h
  | ok found =>
      rw [named] at h
      obtain rfl := Except.ok.inj h
      simpa [List.map_map, Function.comp_def] using (Key.sortNamed_perm named).map Prod.snd

theorem sortedKeys_text (texts : List String) : ∃ sorted, sortedKeys (texts.map .text) = .ok sorted := by
  unfold sortedKeys
  rw [Key.sortNamed_text _ (by simp)]
  exact ⟨_, rfl⟩

end Generator

end DesignProps
