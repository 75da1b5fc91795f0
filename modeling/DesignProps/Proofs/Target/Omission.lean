import DesignProps.Proofs.Property.Kinds
import DesignProps.Target.Instance

/-!
# What an omitted property stands for

A property that puts nothing into its element was skipped, or it is a boolean that is off where booleans are not
spelled out.  Of a component whose values were normalized, a property that is due is left out exactly if it has the
default of its definition or is such a boolean, whatever its default is.

Main statements: `Generator.contribution_eq_nothing_iff`, `Generator.due_omitted_iff`.
-/

set_option autoImplicit false

namespace DesignProps

namespace Sanitizer

theorem protect_ne_empty (s : Sanitizer) (suffix : String) {name : String} (named : name ≠ "") :
    s.protect suffix name ≠ "" := by
  unfold protect
  split
  · intro nothing
    exact named (String.append_eq_empty_iff.1 nothing).1
  · exact named

theorem name_ne_empty (s : Sanitizer) (fallback : s.fallback ≠ "") (target : NameCase) (suffix label : String) :
    s.name target suffix label ≠ "" := by
  unfold name
  apply protect_ne_empty
  cases Naming.write target (Naming.words label.toList) with
  | nil => exact fallback
  | cons c rest => simp

end Sanitizer

/-! ## Attributes -/

namespace Attribute

/-- An attribute is written as some text, so it stays among those of its element. -/
theorem write_ne_empty (a : Attribute) (key : Key) : a.write (Naming.identifier key) ≠ "" := by
  cases a with
  | bare =>
      simp only [write, Naming.identifier]
      apply Sanitizer.name_ne_empty
      decide
  | _ => simp [write]

theorem ofBoolean_eq_none_iff (spelledOut : Primitive → Attribute) (explicit : Bool) (v : Primitive) :
    ofBoolean spelledOut explicit v = none ↔ explicit = false ∧ v.truthy = false := by
  unfold ofBoolean
  cases explicit <;> cases v.truthy <;> simp

theorem react_eq_none_iff (g : Generator) (explicit : Bool) (slotTag : Option String) (p : PropertyValue) :
    react g explicit slotTag p = none ↔ p.kind = .boolean ∧ explicit = false ∧ p.value.truthy = false := by
  unfold react
  cases kind : p.kind with
  | boolean => simp only [ofBoolean_eq_none_iff, true_and]
  | instanceSwap =>
      dsimp only
      split <;> simp
  | text =>
      dsimp only
      split <;> simp
  | _ => simp

theorem vue_eq_none_iff (g : Generator) (explicit : Bool) (p : PropertyValue) :
    vue g explicit p = none ↔ p.kind = .boolean ∧ explicit = false ∧ p.value.truthy = false := by
  unfold vue
  cases kind : p.kind with
  | boolean => simp only [ofBoolean_eq_none_iff, true_and]
  | instanceSwap =>
      dsimp only
      split <;> simp
  | _ => simp

theorem of_eq_none_iff (g : Generator) (explicit : Bool) (slotTag : Option String) (p : PropertyValue) :
    of g explicit slotTag p = none ↔
      p.undefined = true ∨ (p.kind = .boolean ∧ explicit = false ∧ p.value.truthy = false) := by
  unfold of
  cases p.undefined with
  | true => simp
  | false =>
      cases g.target with
      | react => simpa using react_eq_none_iff g explicit slotTag p
      | vue => simpa using vue_eq_none_iff g explicit p

end Attribute

/-! ## Contributions -/

namespace Generator

theorem attributeOf_eq_nothing_iff (g : Generator) (t : Toggles) (slot : Bool) (p : PropertyValue) :
    g.attributeOf t slot p = .nothing ↔
      p.undefined = true ∨ (p.kind = .boolean ∧ t.explicitBoolean = false ∧ p.value.truthy = false) := by
  rw [← Attribute.of_eq_none_iff g t.explicitBoolean (if slot then g.wrapperTag else none) p]
  unfold attributeOf
  split
  · next a found => simp [found]
  · next found => simp [found]

/-- A property contributes nothing if it is skipped or a boolean that is off and not spelled out, and else an
attribute or a child. -/
theorem contribution_eq_nothing_iff (g : Generator) (m : Model) (c : Component) (t : Toggles) (count : Nat)
    (e : Key × PropertyValue) : g.contribution m c t count e = .nothing ↔
      isSkipped m c t e = true ∨
        (e.2.kind = .boolean ∧ t.explicitBoolean = false ∧ e.2.value.truthy = false) := by
  cases skipped : isSkipped m c t e with
  | true => simp [contribution, skipped]
  | false =>
      have defined : e.2.undefined = false := by
        simp only [isSkipped, Bool.or_eq_false_iff] at skipped
        exact skipped.1.1
      have written : ∀ slot, g.attributeOf t slot e.2 = .nothing ↔
          (e.2.kind = .boolean ∧ t.explicitBoolean = false ∧ e.2.value.truthy = false) := by
        intro slot
        simp [attributeOf_eq_nothing_iff, defined]
      unfold contribution
      rw [if_neg (Bool.eq_false_iff.1 skipped)]
      simp only [Bool.false_eq_true, false_or]
      split
      · next slot =>
          -- a text slot is no boolean, so a child is never what an attribute would leave out
          have text : e.2.kind = .text := by
            simp only [isTextSlot, Bool.and_eq_true, beq_iff_eq] at slot
            exact slot.1
          split
          · simp [text]
          · exact written true
      · split
        · next swap =>
            have kind : e.2.kind = .instanceSwap := by
              simp only [Bool.and_eq_true, beq_iff_eq] at swap
              exact swap.1
            split
            · simp [kind]
            · exact written false
        · exact written false

/-- A boolean property that is off. -/
def IsOff (p : PropertyValue) : Prop := p.kind = .boolean ∧ p.value = .bool false

theorem isOff_iff {definition : PropertyDefinition} {p : PropertyValue} (agrees : p.Agrees (some definition)) :
    IsOff p ↔ p.kind = .boolean ∧ p.value.truthy = false := by
  obtain ⟨_, admitted, _⟩ := agrees
  unfold IsOff
  refine and_congr_right fun boolean => ?_
  rw [boolean] at admitted
  obtain ⟨b, value⟩ := PropertyKind.exists_bool admitted
  simp [value, Primitive.truthy]

theorem mem_visible {definitions : PropertyDefinitions} {c : Component} {key : Key} {p : PropertyValue}
    {d : PropertyDefinition} (inside : (key, p) ∈ c.properties.entries) (known : definitions.get? key = some d)
    (shown : d.hidden = false) : (key, p) ∈ visible definitions c := by
  refine List.mem_filter.2 ⟨inside, ?_⟩
  simp [isHidden, known, shown]

/-- Let the values of a component be normalized with the definitions its model files for it.  A property that is due
is left out of the element exactly if it equals its definition's default or is a boolean that is off where booleans
are not spelled out; an attribute that it contributes is written as some text. -/
theorem due_omitted_iff (g : Generator) (m : Model) (c : Component) (t : Toggles) (raws : OrderedMap Key Json)
    (valued : (normalizeValues (m.definitionsOf c.definition) raws.entries).result = .ok c.properties)
    (hideDefaults : t.showDefaults = false) (key : Key) (p : PropertyValue) (d : PropertyDefinition)
    (inside : (key, p) ∈ c.properties.entries) (known : (m.definitionsOf c.definition).get? key = some d)
    (shown : d.hidden = false) (defined : p.undefined = false)
    (notToggled : ¬ (p.kind = .instanceSwap ∧ isToggledOff m.references c key = true)) :
    (Naming.identifier key, g.contribution m c t (slotCount m c) (key, p)) ∈ g.contributions m c t ∧
      (g.contribution m c t (slotCount m c) (key, p) = .nothing ↔
        p.value.eqv d.default = true ∨ (IsOff p ∧ t.explicitBoolean = false)) ∧
      ∀ a, g.contribution m c t (slotCount m c) (key, p) = .attribute a → a.write (Naming.identifier key) ≠ "" := by
  have agrees : p.Agrees (some d) := by
    rw [← known]
    exact normalizeValues_agrees valued (key, p) inside
  have skipped : isSkipped m c t (key, p) = true ↔ p.value.eqv d.default = true := by
    have toggled : (p.kind == .instanceSwap && isToggledOff m.references c key) = false := by
      simpa using notToggled
    simp only [isSkipped, defined, toggled, hideDefaults, Bool.false_or, Bool.not_false, Bool.and_true]
    rw [agrees.2.2]
  refine ⟨List.mem_map.2 ⟨(key, p), mem_visible inside known shown, rfl⟩, ?omitted, ?written⟩
  case omitted =>
    rw [contribution_eq_nothing_iff, skipped, isOff_iff agrees]
    constructor
    · rintro (default | ⟨kind, plain, off⟩)
      · exact .inl default
      · exact .inr ⟨⟨kind, off⟩, plain⟩
    · rintro (default | ⟨⟨kind, off⟩, plain⟩)
      · exact .inl default
      · exact .inr ⟨kind, plain, off⟩
  case written =>
    intro a _
    exact a.write_ne_empty key

/-! A switch that is on by default and off in one instance. -/

def switchKey : Key := .text "Show"

def switchRawDefinitions : OrderedMap Key Json :=
  .ofList [(switchKey, .obj [("type", .str "BOOLEAN"), ("defaultValue", .bool true)])]

def switchRawValues : OrderedMap Key Json := .ofList [(switchKey, .obj [("value", .bool false)])]

def switchOn : PropertyDefinition where
  name := "show"
  kind := .boolean
  default := .bool true
  options := none
  hidden := false
  optional := false
  rawType := none

def switchedOff : PropertyValue where
  name := "show"
  kind := .boolean
  value := .bool false
  isDefault := false
  undefined := false

def switchModel : Model := { Model.empty with definitions := .ofList [("2:1", .ofList [(switchKey, switchOn)])] }

def switchInstance : Component := ⟨"2:9", "Btn", "2:1", .ofList [(switchKey, switchedOff)]⟩

def switchGenerator : Generator := ⟨.react, .base, fun _ => none⟩

theorem due_omitted_switch :
    (Naming.identifier switchKey, switchGenerator.contribution switchModel switchInstance ⟨false, false⟩
        (slotCount switchModel switchInstance) (switchKey, switchedOff)) ∈
      switchGenerator.contributions switchModel switchInstance ⟨false, false⟩ ∧
      (switchGenerator.contribution switchModel switchInstance ⟨false, false⟩ (slotCount switchModel switchInstance)
          (switchKey, switchedOff) = .nothing ↔
        switchedOff.value.eqv switchOn.default = true ∨ (IsOff switchedOff ∧ false = false)) := by
  have law := due_omitted_iff switchGenerator switchModel switchInstance ⟨false, false⟩ switchRawValues rfl rfl
    switchKey switchedOff switchOn (List.Mem.head _) rfl rfl rfl (by decide)
  exact ⟨law.1, law.2.1⟩

/-- The switch is left out although the default of its definition is another one. -/
theorem switch_omitted_unlike_default :
    (normalizeDefinitions switchRawDefinitions.entries).result = .ok (switchModel.definitionsOf "2:1") ∧
      (normalizeValues (switchModel.definitionsOf "2:1") switchRawValues.entries).result =
        .ok switchInstance.properties ∧
      (switchModel.definitionsOf "2:1").get? switchKey = some switchOn ∧ switchOn.hidden = false ∧
      switchInstance.properties.get? switchKey = some switchedOff ∧ switchedOff.undefined = false ∧
      switchGenerator.contribution switchModel switchInstance ⟨false, false⟩ (slotCount switchModel switchInstance)
        (switchKey, switchedOff) = .nothing ∧
      switchedOff.value.eqv switchOn.default = false := by
  exact ⟨rfl, rfl, rfl, rfl, rfl, rfl, rfl, rfl⟩

end Generator

end DesignProps
