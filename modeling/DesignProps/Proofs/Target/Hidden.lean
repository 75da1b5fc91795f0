import DesignProps.Proofs.OrderedMap
import DesignProps.Proofs.Traversal
import DesignProps.Target.Output

/-!
# Hidden properties stay out of the output

Two models show the same where they agree on everything but hidden properties: what their hidden definitions say, and
what their components store at hidden keys.  Both passes go by keys and skip hidden ones before they look any further,
so such models are rendered alike.  The one way around is a hidden key that decides whether a swapped instance is shown.

Main statements: `Generator.declared_of_showsAlike`, `Generator.contributions_of_showsAlike`,
`Generator.format_of_showsAlike`.
-/

set_option autoImplicit false

namespace DesignProps

/-! ## What is shown -/

/-- A definition in the place of another one: the same, or both are hidden. -/
def PropertyDefinition.ShowsAlike (d e : PropertyDefinition) : Prop := d = e ∨ (d.hidden = true ∧ e.hidden = true)

/-- Definitions of the same keys, entry by entry. -/
def PropertyDefinitions.ShowsAlike (ds es : PropertyDefinitions) : Prop :=
  List.Forall₂ (fun a b => a.1 = b.1 ∧ a.2.ShowsAlike b.2) ds.entries es.entries

/-- What a component stores at keys that its definitions do not hide. -/
def Component.shown (definitions : PropertyDefinitions) (c : Component) : PropertyValues :=
  c.properties.filter fun key _ => !Generator.isHidden definitions key

/-- Components of one definition that differ at most in what they store at hidden keys; where a hidden key decides
whether a swapped instance is shown, they store the same. -/
structure Component.ShowsAlike (definitions : PropertyDefinitions) (references : ReferenceMap) (c d : Component) :
    Prop where
  id : c.id = d.id
  name : c.name = d.name
  definition : c.definition = d.definition
  properties : (c.shown definitions).Reordered (d.shown definitions)
  toggles : ∀ r ∈ references.instances.values, ∀ key, r.visible = some key →
    Generator.isHidden definitions key = true → c.properties.get? key = d.properties.get? key

/-- Models that differ at most in hidden properties. -/
structure Model.ShowsAlike (m n : Model) : Prop where
  names : m.names = n.names
  references : m.references = n.references
  definitions : List.Forall₂ (fun a b => a.1 = b.1 ∧ PropertyDefinitions.ShowsAlike a.2 b.2) m.definitions.entries
    n.definitions.entries
  components : List.Forall₂ (fun a b => a.1 = b.1 ∧
    Component.ShowsAlike (m.definitionsOf a.2.definition) m.references a.2 b.2) m.components.entries
      n.components.entries

/-! ## Definitions -/

namespace PropertyDefinitions.ShowsAlike

variable {ds es : PropertyDefinitions}

theorem keys (alike : ds.ShowsAlike es) : ds.keys = es.keys := Assoc.keys_of_forall₂ (alike.imp fun _ _ same => same.1)

theorem get? (alike : ds.ShowsAlike es) (key : Key) :
    Option.Rel PropertyDefinition.ShowsAlike (ds.get? key) (es.get? key) :=
  Assoc.get?_of_forall₂ key alike

theorem isHidden (alike : ds.ShowsAlike es) : Generator.isHidden ds = Generator.isHidden es := by
  funext key
  have here := alike.get? key
  unfold Generator.isHidden
  generalize ds.get? key = first at here ⊢
  generalize es.get? key = other at here ⊢
  cases here with
  | none => rfl
  | some same =>
      rcases same with rfl | ⟨hidden, hiddenToo⟩
      · rfl
      · simp only [hidden, hiddenToo]

theorem shown? (alike : ds.ShowsAlike es) : Generator.shown? ds = Generator.shown? es := by
  funext key
  have here := alike.get? key
  unfold Generator.shown?
  generalize ds.get? key = first at here ⊢
  generalize es.get? key = other at here ⊢
  cases here with
  | none => rfl
  | some same =>
      rcases same with rfl | ⟨hidden, hiddenToo⟩
      · rfl
      · simp only [hidden, hiddenToo, if_true]

end PropertyDefinitions.ShowsAlike

namespace Generator

/-- What is declared leaves hidden definitions out, and sorting looks at the keys alone. -/
theorem declared_of_showsAlike {ds es : PropertyDefinitions} (alike : ds.ShowsAlike es) : declared ds = declared es := by
  unfold declared
  rw [alike.keys, alike.shown?]

end Generator

/-! ## Models -/

namespace Model.ShowsAlike

variable {m n : Model}

theorem definitionsOf (alike : m.ShowsAlike n) (id : String) : (m.definitionsOf id).ShowsAlike (n.definitionsOf id) := by
  have here : Option.Rel PropertyDefinitions.ShowsAlike (m.definitions.get? id) (n.definitions.get? id) :=
    Assoc.get?_of_forall₂ id alike.definitions
  unfold Model.definitionsOf
  generalize m.definitions.get? id = first at here ⊢
  generalize n.definitions.get? id = other at here ⊢
  cases here with
  | none => exact .nil
  | some same => exact same

theorem nameOf (alike : m.ShowsAlike n) (id : String) : m.nameOf id = n.nameOf id := by
  unfold Model.nameOf
  rw [alike.names]

end Model.ShowsAlike

namespace Generator

section Alike
variable {m n : Model} (alike : m.ShowsAlike n)
include alike

theorem sortedDefinitionIds_of_showsAlike : sortedDefinitionIds m = sortedDefinitionIds n := by
  have ids : m.definitions.keys = n.definitions.keys :=
    Assoc.keys_of_forall₂ (alike.definitions.imp fun _ _ same => same.1)
  unfold sortedDefinitionIds
  simp only [ids, alike.nameOf]

theorem formatDefinitions_of_showsAlike (g : Generator) (settings : Json) :
    g.formatDefinitions m settings = g.formatDefinitions n settings := by
  have block : ∀ id, declared (m.definitionsOf id) = declared (n.definitionsOf id) := fun id =>
    declared_of_showsAlike (alike.definitionsOf id)
  have listing : ∀ optionsApi, g.definitionListing m optionsApi = g.definitionListing n optionsApi := by
    intro optionsApi
    simp only [definitionListing, blocks, sortedDefinitionIds_of_showsAlike alike, block, alike.nameOf]
  unfold formatDefinitions
  simp only [listing]

/-! ## Components -/

section Components
variable {c d : Component} (same : c.ShowsAlike (m.definitionsOf c.definition) m.references d)
include same

theorem visible_of_showsAlike :
    (visible (m.definitionsOf c.definition) c).Perm (visible (n.definitionsOf d.definition) d) := by
  have hidden := (alike.definitionsOf c.definition).isHidden
  have there : visible (n.definitionsOf d.definition) d = (d.shown (m.definitionsOf c.definition)).entries := by
    unfold visible
    rw [← same.definition, ← hidden]
    rfl
  rw [there]
  exact same.properties

omit alike in
/-- A key that decides whether a swapped instance is shown stands at the same value, hidden or not. -/
theorem toggle_of_showsAlike {r : InstanceReference} (bound : r ∈ m.references.instances.values) {toggle : Key}
    (decides : r.visible = some toggle) : c.properties.get? toggle = d.properties.get? toggle := by
  cases hidden : isHidden (m.definitionsOf c.definition) toggle with
  | true => exact same.toggles r bound toggle decides hidden
  | false =>
      have kept : (!isHidden (m.definitionsOf c.definition) toggle) = true := by simp [hidden]
      have respects : ∀ j, (j == toggle) = true → (!isHidden (m.definitionsOf c.definition) j) =
          !isHidden (m.definitionsOf c.definition) toggle := by
        intro j equal
        unfold isHidden
        rw [OrderedMap.get?_congr _ equal]
      rw [← c.properties.get?_filter respects kept, ← d.properties.get?_filter respects kept]
      exact same.properties.get? toggle

theorem isToggledOff_of_showsAlike (key : Key) :
    isToggledOff m.references c key = isToggledOff n.references d key := by
  rw [← alike.references]
  unfold isToggledOff
  cases bound : m.references.instances.get? key with
  | none => rfl
  | some r =>
      obtain ⟨j, -, among⟩ := Assoc.exists_mem_of_get? key r _ bound
      have listed : r ∈ m.references.instances.values := List.mem_map.2 ⟨_, among, rfl⟩
      cases decides : r.visible with
      | none => simp only [decides]
      | some toggle => simp only [decides, toggle_of_showsAlike same listed decides]

/-- Components that show the same put the same into their elements, in some order. -/
theorem contributions_of_showsAlike (g : Generator) (t : Toggles) :
    (g.contributions m c t).Perm (g.contributions n d t) := by
  have shown := visible_of_showsAlike alike same
  have count : slotCount m c = slotCount n d := by
    unfold slotCount
    rw [← alike.references]
    exact (shown.filter _).length_eq
  have each : ∀ e, g.contribution m c t (slotCount m c) e = g.contribution n d t (slotCount n d) e := by
    intro e
    unfold contribution isSkipped
    rw [count, isToggledOff_of_showsAlike alike same, alike.references]
  unfold contributions
  simp only [each]
  exact shown.map _

theorem formatInstance_of_showsAlike (g : Generator) (t : Toggles) :
    g.formatInstance m c t = g.formatInstance n d t :=
  formatInstance_of_perm same.name (contributions_of_showsAlike alike same g t)

end Components

theorem formatInstances_of_showsAlike (g : Generator) (settings : Json) :
    g.formatInstances m settings = g.formatInstances n settings := by
  have elements : ∀ t, g.elements m t = g.elements n t := by
    intro t
    refine mapM_of_forall₂ (List.rel_map (fun a b => ?_) alike.components)
    exact fun related => formatInstance_of_showsAlike alike related.2 g t
  unfold formatInstances
  simp only [elements]

/-- Models that differ at most in hidden properties are rendered alike, by every generator and with all settings. -/
theorem format_of_showsAlike (g : Generator) (instanceSettings definitionSettings : Json) :
    g.format m instanceSettings definitionSettings = g.format n instanceSettings definitionSettings := by
  unfold format
  rw [formatInstances_of_showsAlike alike, formatDefinitions_of_showsAlike alike]

end Alike

/-! A tag with a hidden note, and an icon that a hidden switch turns off. -/

def noteKey : Key := .text "_note"

def lampKey : Key := .text "_lamp"

def swapKey : Key := .text "Icon"

def plainDefinition (name : String) (kind : PropertyKind) (default : Primitive) (hidden : Bool) : PropertyDefinition where
  name := name
  kind := kind
  default := default
  options := none
  hidden := hidden
  optional := false
  rawType := none

def plainValue (name : String) (kind : PropertyKind) (value : Primitive) : PropertyValue where
  name := name
  kind := kind
  value := value
  isDefault := false
  undefined := false

/-- The tag with what its note is defined as, and what one instance stores at it. -/
def notedTag (note : PropertyDefinition) (stored : List (Key × PropertyValue)) : Model where
  components := .ofList [("3:1", ⟨"3:1", "Tag", "2:1", .ofList (stored ++
    [(swapKey, plainValue "icon" .instanceSwap (.text "9:1")), (lampKey, plainValue "lamp" .boolean (.bool false))])⟩)]
  definitions := .ofList [("2:1", .ofList [(noteKey, note),
    (swapKey, plainDefinition "icon" .instanceSwap (.text "9:2") false),
    (lampKey, plainDefinition "lamp" .boolean (.bool true) true)])]
  names := .ofList [("2:1", "Tag")]
  references := ⟨.ofList [(swapKey, ⟨some lampKey, none⟩)], .empty⟩

def noteText : PropertyDefinition := plainDefinition "note" .text (.text "a") true

def noteNumber : PropertyDefinition := plainDefinition "count" .number (.number (.int 3)) true

def storedNote : Key × PropertyValue := (noteKey, plainValue "note" .text (.text "b"))

theorem format_notedTag : notedTag noteText [storedNote] ≠ notedTag noteNumber [] ∧
    (notedTag noteText [storedNote]).ShowsAlike (notedTag noteNumber []) ∧
    ∀ (g : Generator) (instanceSettings definitionSettings : Json),
      g.format (notedTag noteText [storedNote]) instanceSettings definitionSettings =
        g.format (notedTag noteNumber []) instanceSettings definitionSettings := by
  have alike : (notedTag noteText [storedNote]).ShowsAlike (notedTag noteNumber []) := by
    refine ⟨rfl, rfl, .cons ⟨rfl, ?definitions⟩ .nil, .cons ⟨rfl, ⟨rfl, rfl, rfl, .refl _, ?toggles⟩⟩ .nil⟩
    case definitions =>
      exact .cons ⟨rfl, .inr ⟨rfl, rfl⟩⟩ (.cons ⟨rfl, .inl rfl⟩ (.cons ⟨rfl, .inl rfl⟩ .nil))
    case toggles =>
      intro r bound key decides _
      obtain rfl : r = ⟨some lampKey, none⟩ := List.mem_singleton.1 bound
      obtain rfl := Option.some.inj decides
      rfl
  exact ⟨by decide, alike, fun g => format_of_showsAlike alike g⟩

end Generator

end DesignProps
