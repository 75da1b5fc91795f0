import DesignProps.Proofs.OrderedMap
import DesignProps.Target.Instance

/-!
# Elements and the order of their input

An element is put in order by identifiers and texts, so it does not depend on the order in which a component holds its
properties, nor on the order of its definitions or of the references: those are only looked up.  This stands also where
several properties have one identifier, since texts then decide, and equal texts can change places.

Main statements: `Generator.contributions_of_reordered`, `Generator.formatInstance_of_reordered`.
-/

set_option autoImplicit false

namespace DesignProps.Generator

/-- Models and components that differ at most in the order of the entries that an element is made from. -/
structure Reorders (m n : Model) (c d : Component) : Prop where
  name : c.name = d.name
  properties : c.properties.Reordered d.properties
  definitions : (m.definitionsOf c.definition).Reordered (n.definitionsOf d.definition)
  instances : m.references.instances.Reordered n.references.instances
  bindings : m.references.properties.Reordered n.references.properties

section Reordered
variable {m n : Model} {c d : Component} (reordered : Reorders m n c d)
include reordered

/-! ## Look-ups -/

theorem isHidden_of_reordered : isHidden (m.definitionsOf c.definition) = isHidden (n.definitionsOf d.definition) := by
  funext key
  unfold isHidden
  rw [reordered.definitions.get? key]

theorem isTextSlot_of_reordered : isTextSlot m.references = isTextSlot n.references := by
  funext e
  unfold isTextSlot ReferenceMap.isTextBound ReferenceMap.flags
  rw [reordered.bindings.get? e.1]

theorem isToggledOff_of_reordered (key : Key) :
    isToggledOff m.references c key = isToggledOff n.references d key := by
  have toggles : ∀ toggle, c.properties.get? toggle = d.properties.get? toggle := reordered.properties.get?
  unfold isToggledOff
  simp only [reordered.instances.get? key, toggles]

/-! ## Contributions -/

theorem visible_of_reordered :
    (visible (m.definitionsOf c.definition) c).Perm (visible (n.definitionsOf d.definition) d) := by
  unfold visible
  rw [isHidden_of_reordered reordered]
  exact List.Perm.filter _ reordered.properties

theorem slotCount_of_reordered : slotCount m c = slotCount n d := by
  unfold slotCount
  rw [isTextSlot_of_reordered reordered]
  exact ((visible_of_reordered reordered).filter _).length_eq

theorem contribution_of_reordered (g : Generator) (t : Toggles) (count : Nat) (e : Key × PropertyValue) :
    g.contribution m c t count e = g.contribution n d t count e := by
  have swaps : m.references.instances.contains e.1 = n.references.instances.contains e.1 :=
    congrArg Option.isSome (reordered.instances.get? e.1)
  unfold contribution isSkipped
  rw [isToggledOff_of_reordered reordered, isTextSlot_of_reordered reordered, swaps]

/-- The same contributions, in some order. -/
theorem contributions_of_reordered (g : Generator) (t : Toggles) :
    (g.contributions m c t).Perm (g.contributions n d t) := by
  unfold contributions
  simp only [slotCount_of_reordered reordered, contribution_of_reordered reordered]
  exact (visible_of_reordered reordered).map _

end Reordered

/-- Neither the order of a component's properties nor that of its definitions or of the references changes its
element, with any generator and all toggles. -/
theorem formatInstance_of_reordered {m n : Model} {c d : Component} (reordered : Reorders m n c d) (g : Generator)
    (t : Toggles) : g.formatInstance m c t = g.formatInstance n d t :=
  formatInstance_of_perm reordered.name (contributions_of_reordered reordered g t)

/-! A tag with two properties of one identifier, in both orders. -/

def labelKeys : List Key := [.text "Label", .text "label"]

def labelDefinition : PropertyDefinition where
  name := "label"
  kind := .text
  default := .text ""
  options := none
  hidden := false
  optional := false
  rawType := none

def labelValue (key : Key) : PropertyValue where
  name := "label"
  kind := .text
  value := .text key.asText
  isDefault := false
  undefined := false

def labelModel (keys : List Key) : Model where
  components := .empty
  definitions := .ofList [("2:1", .ofList (keys.map fun key => (key, labelDefinition)))]
  names := .empty
  references := ⟨.ofList (keys.map fun key => (key, ⟨none, none⟩)), .ofList (keys.map fun key => (key, ⟨false, true⟩))⟩

def labelled (keys : List Key) : Component := ⟨"3:1", "Tag", "2:1", .ofList (keys.map fun key => (key, labelValue key))⟩

theorem formatInstance_labelled : labelKeys.map Naming.identifier = ["label", "label"] ∧
    labelled labelKeys ≠ labelled labelKeys.reverse ∧
    ∀ (g : Generator) (t : Toggles), g.formatInstance (labelModel labelKeys) (labelled labelKeys) t =
      g.formatInstance (labelModel labelKeys.reverse) (labelled labelKeys.reverse) t := by
  have reordered : Reorders (labelModel labelKeys) (labelModel labelKeys.reverse) (labelled labelKeys)
      (labelled labelKeys.reverse) :=
    ⟨rfl, .swap _ _ _, .swap _ _ _, .swap _ _ _, .swap _ _ _⟩
  exact ⟨by decide, by decide, fun g t => formatInstance_of_reordered reordered g t⟩

end DesignProps.Generator
