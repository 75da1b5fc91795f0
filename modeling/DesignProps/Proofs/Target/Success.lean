import DesignProps.Proofs.Traversal
import DesignProps.Target.Generation

/-!
# Generations that succeed

A generator can fail on settings, on the width of a level and on keys that cannot be sorted, and on nothing else.  With
settings that are pairs, with a width, and where the declared keys are texts, it renders every model.

Main statement: `Generator.generate_isOk`.
-/

set_option autoImplicit false

namespace DesignProps

/-! ## Settings -/

/-- No settings, or a list of pairs of a key and a value. -/
def Json.IsSettings (v : Json) : Prop :=
  v = .null ∨ ∃ pairs : List (Json × Json), v = .arr (pairs.map fun p => .arr [p.1, p.2])

namespace Settings

theorem partsIfAny_isOk {settings : Json} (given : settings.IsSettings) :
    ∃ pairs : List (Json × Json), settings.partsIfAny = .ok (pairs.map fun p => .arr [p.1, p.2]) := by
  rcases given with rfl | ⟨pairs, rfl⟩
  · exact ⟨[], rfl⟩
  · cases pairs with
    | nil => exact ⟨[], rfl⟩
    | cons p rest => exact ⟨p :: rest, rfl⟩

theorem toggle_isOk (pairs : List (Json × Json)) (position : Nat) (fallback : Json) :
    ∃ on, toggle (pairs.map fun p => .arr [p.1, p.2]) position fallback = .ok on := by
  unfold toggle
  rw [List.getElem?_map]
  cases pairs[position]? with
  | none => exact ⟨_, rfl⟩
  | some p => exact ⟨_, rfl⟩

end Settings

namespace Config

theorem instanceToggles_isOk (c : Config) {settings : Json} (given : settings.IsSettings) :
    ∃ t, c.instanceToggles settings = .ok t := by
  obtain ⟨pairs, parts⟩ := Settings.partsIfAny_isOk given
  obtain ⟨showDefaults, first⟩ := Settings.toggle_isOk pairs 0 c.showDefaults
  obtain ⟨explicitBoolean, second⟩ := Settings.toggle_isOk pairs 1 c.explicitBoolean
  unfold instanceToggles
  simp only [parts, first, second, bind, Except.bind]
  exact ⟨_, rfl⟩

theorem optionsApiToggle_isOk (c : Config) {settings : Json} (given : settings.IsSettings) :
    ∃ on, c.optionsApiToggle settings = .ok on := by
  obtain ⟨pairs, parts⟩ := Settings.partsIfAny_isOk given
  obtain ⟨on, found⟩ := Settings.toggle_isOk pairs 0 c.optionsApi
  unfold optionsApiToggle
  simp only [parts, found, bind, Except.bind]
  exact ⟨_, rfl⟩

end Config

namespace Generator

variable {g : Generator} {m : Model}

/-! ## Instances -/

theorem formatInstance_isOk {w : Nat} (width : g.width = .ok w) (m : Model) (c : Component) (t : Toggles) :
    ∃ text, g.formatInstance m c t = .ok text := by
  unfold formatInstance
  dsimp only
  split
  · exact ⟨_, rfl⟩
  · rw [width]
    exact ⟨_, rfl⟩

theorem formatInstances_isOk {w : Nat} (width : g.width = .ok w) (m : Model) {settings : Json}
    (given : settings.IsSettings) : ∃ pass, g.formatInstances m settings = .ok pass := by
  obtain ⟨t, toggles⟩ := g.config.instanceToggles_isOk given
  have each : ∀ c ∈ m.components.values, ∃ text, g.formatInstance m c t = .ok text :=
    fun c _ => formatInstance_isOk width m c t
  obtain ⟨texts, done⟩ := mapM_isOk each
  unfold formatInstances elements
  simp only [toggles, done, bind, Except.bind]
  exact ⟨_, rfl⟩

/-! ## Definitions -/

/-- All keys that are declared are texts. -/
def DeclaresTexts (m : Model) : Prop := ∀ id, ∀ key ∈ (m.definitionsOf id).keys, ∃ s, key = Key.text s

theorem exists_texts : ∀ {keys : List Key}, (∀ key ∈ keys, ∃ s, key = Key.text s) →
    ∃ texts : List String, keys = texts.map .text := by
  intro keys
  induction keys with
  | nil => exact fun _ => ⟨[], rfl⟩
  | cons key rest ih =>
      intro each
      obtain ⟨⟨s, rfl⟩, later⟩ := List.forall_mem_cons.1 each
      obtain ⟨texts, rfl⟩ := ih later
      exact ⟨s :: texts, rfl⟩

theorem declared_isOk {definitions : PropertyDefinitions} (texts : ∀ key ∈ definitions.keys, ∃ s, key = Key.text s) :
    ∃ ps, declared definitions = .ok ps := by
  obtain ⟨names, keys⟩ := exists_texts texts
  obtain ⟨sorted, done⟩ := sortedKeys_text names
  unfold declared
  rw [keys, done]
  exact ⟨_, rfl⟩

theorem definitionListing_isOk (texts : DeclaresTexts m) (g : Generator) (optionsApi : Bool) :
    ∃ listing, g.definitionListing m optionsApi = .ok listing := by
  have each : ∀ id ∈ sortedDefinitionIds m, ∃ text,
      (declared (m.definitionsOf id)).map (fun ps => g.block optionsApi (m.nameOf id) ps) = .ok text := by
    intro id _
    obtain ⟨ps, found⟩ := declared_isOk (texts id)
    exact ⟨_, map_eq_ok_iff.2 ⟨ps, found, rfl⟩⟩
  obtain ⟨blocks, done⟩ := mapM_isOk each
  exact ⟨_, map_eq_ok_iff.2 ⟨blocks, done, rfl⟩⟩

theorem formatDefinitions_isOk (texts : DeclaresTexts m) (g : Generator) {settings : Json}
    (given : settings.IsSettings) : ∃ pass, g.formatDefinitions m settings = .ok pass := by
  unfold formatDefinitions
  split
  · obtain ⟨listing, done⟩ := definitionListing_isOk texts g false
    simp only [done, bind, Except.bind]
    exact ⟨_, rfl⟩
  · obtain ⟨optionsApi, toggle⟩ := g.config.optionsApiToggle_isOk given
    obtain ⟨listing, done⟩ := definitionListing_isOk texts g optionsApi
    simp only [toggle, done, bind, Except.bind]
    exact ⟨_, rfl⟩

/-! ## Both passes -/

/-- With settings that are pairs, a width, and texts for keys, a model is rendered. -/
theorem generate_isOk {w : Nat} (width : g.width = .ok w) (texts : DeclaresTexts m)
    {instanceSettings definitionSettings : Json} (instancePairs : instanceSettings.IsSettings)
    (definitionPairs : definitionSettings.IsSettings) :
    ∃ done, g.generate m instanceSettings definitionSettings = .ok done ∧ done.target = g.target := by
  obtain ⟨instances, first⟩ := formatInstances_isOk width m instancePairs
  obtain ⟨definitions, second⟩ := formatDefinitions_isOk texts g definitionPairs
  unfold generate format
  simp only [first, second, bind, Except.bind]
  exact ⟨_, rfl, rfl⟩

end Generator

end DesignProps
