import DesignProps.Target.Output

/-!
# Generation

A generation is the output for a model together with warnings and counts.  A warning tells of something that had to be
rendered in a degraded form; it never stops the work.

Main statement: `warnings_of_complete` (a model whose definitions are known and whose properties are declared has
no warnings).
-/

set_option autoImplicit false

namespace DesignProps

inductive Warning
  | unknownType (type : Option String) (owner : String) (key : Key)
  | unknownDefault (default : Primitive) (owner : String) (key : Key)
  | undeclared (key : Key) (name id : String)
  deriving DecidableEq, Repr

def Warning.message : Warning → String
  | .unknownType type owner key =>
      "Unknown property type " ++ (type.map Text.quoted).getD "None" ++ " in " ++ owner ++ "." ++ key.asText
  | .unknownDefault default owner key =>
      "Default of " ++ owner ++ "." ++ key.asText ++ " references unknown node " ++ default.asText
  | .undeclared key name id =>
      "Property " ++ key.shown ++ " of " ++ name ++ " (" ++ id ++ ") has no definition"

structure Generation where
  target : Target
  output : Output
  warnings : List Warning
  componentCount : Nat
  definitionCount : Nat
  hasUnknowns : Bool
  deriving DecidableEq, Repr

namespace Generator

/-- Whether the default of a property points to a node that is not known. -/
def hasUnknownDefault (g : Generator) (d : PropertyDefinition) : Bool :=
  d.kind == .instanceSwap && !d.default.isUndefined && (g.resolve d.default.asText).isNone

def definitionWarnings (g : Generator) (owner : String) (key : Key) (d : PropertyDefinition) : List Warning :=
  (if d.kind = .unknown then [.unknownType d.rawType owner key] else [])
    ++ (if g.hasUnknownDefault d then [.unknownDefault d.default owner key] else [])

def componentWarnings (m : Model) (c : Component) : List Warning :=
  (c.properties.keys.filter fun key => !(m.definitionsOf c.definition).contains key).map fun key =>
    .undeclared key c.name c.id

/-- All warnings, first of the definitions, then of the components. -/
def warnings (g : Generator) (m : Model) : List Warning :=
  (m.allDefinitions.flatMap fun (id, key, d) => g.definitionWarnings (m.nameOf id) key d)
    ++ m.components.values.flatMap (componentWarnings m)

def generate (g : Generator) (m : Model) (instanceSettings definitionSettings : Json) : Except Fault Generation := do
  let output ← g.format m instanceSettings definitionSettings
  .ok {
    target := g.target
    output := output
    warnings := g.warnings m
    componentCount := m.components.size
    definitionCount := m.definitions.size
    hasUnknowns := m.hasUnknowns }

theorem warnings_of_complete (g : Generator) (m : Model)
    (known : ∀ e ∈ m.allDefinitions, e.2.2.kind ≠ .unknown ∧ g.hasUnknownDefault e.2.2 = false)
    (declared : ∀ c ∈ m.components.values, ∀ key ∈ c.properties.keys,
      (m.definitionsOf c.definition).contains key = true) : g.warnings m = [] := by
  have definitions : ∀ e ∈ m.allDefinitions, g.definitionWarnings (m.nameOf e.1) e.2.1 e.2.2 = [] := by
    intro e member
    obtain ⟨kind, default⟩ := known e member
    simp [definitionWarnings, kind, default]
  have components : ∀ c ∈ m.components.values, componentWarnings m c = [] := by
    intro c member
    simp only [componentWarnings, List.map_eq_nil_iff, List.filter_eq_nil_iff]
    intro key inside
    simp [declared c member key inside]
  simp only [warnings, List.append_eq_nil_iff, List.flatMap_eq_nil_iff]
  exact ⟨definitions, components⟩

end Generator

/-- What a failed generation says. -/
def Generation.failureMessage (e : Fault) : String := "Code generation failed: " ++ e.message

end DesignProps
