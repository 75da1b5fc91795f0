import DesignProps.Target.Block
import DesignProps.Target.Instance

/-!
# Output

A target renders a model in two passes: the instances, one element per component, and the definitions, one block per
definition.  Each pass tells the toggles it was made with.

Main statements: `elements_length` (one element per component), `blocks_length` (one block per definition).
-/

set_option autoImplicit false

namespace DesignProps

/-- Lines of code in one language; a line may itself be several lines long. -/
structure Listing where
  language : String
  lines : List String
  deriving DecidableEq, Repr

/-- `settingsKey` names the settings where they can be chosen. -/
structure Pass where
  label : String
  listings : List Listing
  settings : List (String × Bool)
  settingsKey : Option String
  deriving DecidableEq, Repr

structure Output where
  label : String
  passes : List Pass
  deriving DecidableEq, Repr

/-! ## Written form -/

def Listing.toJson (l : Listing) : Json :=
  .obj [("language", .str l.language), ("lines", .arr (l.lines.map .str))]

def Pass.toJson (p : Pass) : Json :=
  .obj ([("label", .str p.label), ("code", .arr (p.listings.map Listing.toJson)),
      ("settings", .arr (p.settings.map fun (name, on) => .arr [.str name, .bool on]))]
    ++ match p.settingsKey with
      | some key => [("settingsKey", .str key)]
      | none => [])

def Output.toJson (o : Output) : Json :=
  .obj [("label", .str o.label), ("items", .arr (o.passes.map Pass.toJson))]

namespace Generator

/-! ## Instances -/

/-- Every component as an element, in the model's order. -/
def elements (g : Generator) (m : Model) (t : Toggles) : Except Fault (List String) :=
  m.components.values.mapM fun c => g.formatInstance m c t

/-- Elements are lines of their own, or one snippet with empty lines between them. -/
def instanceListing (target : Target) (elements : List String) : Listing :=
  match target with
  | .react => ⟨"jsx", elements⟩
  | .vue => ⟨"vue", [String.intercalate "\n\n" elements]⟩

def formatInstances (g : Generator) (m : Model) (settings : Json) : Except Fault Pass := do
  let t ← g.config.instanceToggles settings
  let elements ← g.elements m t
  .ok ⟨"Instances", [instanceListing g.target elements], t.named, some "instance"⟩

/-! ## Definitions -/

/-- The block of one definition with the properties that are declared. -/
def block (g : Generator) (optionsApi : Bool) (name : String) (ps : Declared) : String :=
  match g.target with
  | .react => (g.stubBlock name ps).write
  | .vue => if optionsApi then (g.optionsBlock name ps).write else (g.setupBlock name ps).write

/-- Every definition as a block, in the order of names. -/
def blocks (g : Generator) (m : Model) (optionsApi : Bool) : Except Fault (List String) :=
  (sortedDefinitionIds m).mapM fun id =>
    (declared (m.definitionsOf id)).map fun ps => g.block optionsApi (m.nameOf id) ps

/-- What the blocks need at the top of their file. -/
def importLines (target : Target) (optionsApi : Bool) : List String :=
  match target with
  | .react => ["import \x7b FC, ReactNode \x7d from \"react\";"]
  | .vue => if optionsApi then ["import \x7b defineComponent, type PropType \x7d from 'vue'"] else []

def definitionListing (g : Generator) (m : Model) (optionsApi : Bool) : Except Fault Listing :=
  (g.blocks m optionsApi).map fun blocks => ⟨"tsx", importLines g.target optionsApi ++ blocks⟩

/-- React has no settings in this pass and does not look at them. -/
def formatDefinitions (g : Generator) (m : Model) (settings : Json) : Except Fault Pass :=
  match g.target with
  | .react => do
      let listing ← g.definitionListing m false
      .ok ⟨"Definitions", [listing], [], none⟩
  | .vue => do
      let optionsApi ← g.config.optionsApiToggle settings
      let listing ← g.definitionListing m optionsApi
      .ok ⟨"Definitions", [listing], [("optionsApi", optionsApi)], some "vueDefinition"⟩

/-- Both passes. -/
def format (g : Generator) (m : Model) (instanceSettings definitionSettings : Json) : Except Fault Output := do
  let instances ← g.formatInstances m instanceSettings
  let definitions ← g.formatDefinitions m definitionSettings
  .ok ⟨g.target.label, [instances, definitions]⟩

/-! ## Counts -/

theorem mapM_length {α β : Type} (f : α → Except Fault β) : ∀ {xs : List α} {ys : List β},
    xs.mapM f = .ok ys → ys.length = xs.length := by
  intro xs
  induction xs with
  | nil =>
      intro ys h
      cases h
      rfl
  | cons x rest ih =>
      intro ys h
      rw [List.mapM_cons] at h
      cases first : f x with
      | error e =>
          rw [first] at h
          cases h
      | ok y =>
          cases later : rest.mapM f with
          | error e =>
              rw [first, later] at h
              cases h
          | ok zs =>
              rw [first, later] at h
              cases h
              simp [ih later]

theorem elements_length (g : Generator) (m : Model) (t : Toggles) (elements : List String)
    (h : g.elements m t = .ok elements) : elements.length = m.components.size := by
  have := mapM_length _ h
  simpa [OrderedMap.values, OrderedMap.size] using this

theorem blocks_length (g : Generator) (m : Model) (optionsApi : Bool) (blocks : List String)
    (h : g.blocks m optionsApi = .ok blocks) : blocks.length = m.definitions.size := by
  have ids := (Sorting.sortPairs_perm (m.definitions.keys.map fun id => (m.nameOf id, id))).length_eq
  rw [mapM_length _ h]
  simpa [sortedDefinitionIds, OrderedMap.keys, OrderedMap.size] using ids

end Generator

end DesignProps
