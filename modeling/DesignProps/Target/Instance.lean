import DesignProps.Config.Settings
import DesignProps.Model.Basic
import DesignProps.Sorting
import DesignProps.Target.Element
import DesignProps.Target.Slot

/-!
# Instances

A component is rendered as an element.  Each property that is due contributes one attribute or one child; both are
ordered by the property's identifier and then by their text.

Main statements: `contribution_of_skipped` (what is skipped contributes nothing), `formatInstance_of_perm` (the order
of contributions does not matter).
-/

set_option autoImplicit false

namespace DesignProps

/-- What one property puts into an element. -/
inductive Contribution
  | nothing
  | attribute (a : Attribute)
  | child (s : Slot)
  deriving DecidableEq, Repr

namespace Generator

abbrev Toggles := Config.InstanceToggles

def isHidden (definitions : PropertyDefinitions) (key : Key) : Bool :=
  match definitions.get? key with
  | some d => d.hidden
  | none => false

/-- The properties that are not hidden, in the component's order. -/
def visible (definitions : PropertyDefinitions) (c : Component) : List (Key × PropertyValue) :=
  c.properties.entries.filter fun e => !isHidden definitions e.1

def isTextSlot (references : ReferenceMap) (e : Key × PropertyValue) : Bool :=
  e.2.kind == .text && references.isTextBound e.1

/-- How many text slots compete for the children. -/
def slotCount (m : Model) (c : Component) : Nat :=
  ((visible (m.definitionsOf c.definition) c).filter (isTextSlot m.references)).length

/-- Whether the property that shows or hides a swapped instance is off. -/
def isToggledOff (references : ReferenceMap) (c : Component) (key : Key) : Bool :=
  match references.instances.get? key with
  | none => false
  | some r =>
      match r.visible with
      | none => false
      | some toggle =>
          if toggle.truthy then
            match c.properties.get? toggle with
            | some p => p.value == .bool false
            | none => false
          else false

/-- Whether a property stays out of the element, whatever its kind. -/
def isSkipped (m : Model) (c : Component) (t : Toggles) (e : Key × PropertyValue) : Bool :=
  e.2.undefined
    || (e.2.kind == .instanceSwap && isToggledOff m.references c e.1)
    || (e.2.isDefault && !t.showDefaults)

/-- The element that wraps a text that is one slot of several, if one is named. -/
def wrapperTag (g : Generator) : Option String :=
  if g.config.slotTag.truthy then some g.slotTag else none

def attributeOf (g : Generator) (t : Toggles) (slot : Bool) (p : PropertyValue) : Contribution :=
  match Attribute.of g t.explicitBoolean (if slot then g.wrapperTag else none) p with
  | some a => .attribute a
  | none => .nothing

/-- What a property that is not hidden contributes, next to `count` text slots. -/
def contribution (g : Generator) (m : Model) (c : Component) (t : Toggles) (count : Nat)
    (e : Key × PropertyValue) : Contribution :=
  if isSkipped m c t e then .nothing
  else if isTextSlot m.references e then
    if count ≤ 1 ∨ g.target.namedSlots then
      .child (.of g.target g.slotTag e.1 count (count == 1) e.2.value.asText)
    else g.attributeOf t true e.2
  else if e.2.kind == .instanceSwap && m.references.instances.contains e.1 then
    match Slot.ofInstance g e.1 e.2.value.asText with
    | some s => .child s
    | none => g.attributeOf t false e.2
  else g.attributeOf t false e.2

/-- The contributions of a component, each with the identifier of its property. -/
def contributions (g : Generator) (m : Model) (c : Component) (t : Toggles) : List (String × Contribution) :=
  (visible (m.definitionsOf c.definition) c).map fun e =>
    (Naming.identifier e.1, g.contribution m c t (slotCount m c) e)

def attributeText (e : String × Contribution) : Option (String × String) :=
  match e.2 with
  | .attribute a => some (e.1, a.write e.1)
  | _ => none

def childText (width : Nat) (e : String × Contribution) : Option (String × String) :=
  match e.2 with
  | .child s => some (e.1, s.write width)
  | _ => none

/-- The attributes of a component, in order. -/
def attributes (g : Generator) (m : Model) (c : Component) (t : Toggles) : List String :=
  (Sorting.sortPairs ((g.contributions m c t).filterMap attributeText)).map Prod.snd

/-- The children of a component, in order. -/
def children (g : Generator) (width : Nat) (m : Model) (c : Component) (t : Toggles) : List String :=
  (Sorting.sortPairs ((g.contributions m c t).filterMap (childText width))).map Prod.snd

def element (g : Generator) (width : Nat) (m : Model) (c : Component) (t : Toggles) : Element :=
  ⟨c.name, g.attributes m c t, g.children width m c t⟩

/-! ## Widths -/

/-- The configured width of one level. -/
def width (g : Generator) : Except Fault Nat := Indent.width g.config.indentSize 1

def renderElement (g : Generator) (e : Element) : Except Fault String :=
  if e.isInline then .ok (e.render 0) else g.width.map fun w => e.render w

def writeSlot (g : Generator) (s : Slot) : Except Fault String :=
  if s.isNamed then g.width.map fun w => s.write w else .ok (s.write 0)

/-- A component as an element; the width is asked for only where lines are indented. -/
def formatInstance (g : Generator) (m : Model) (c : Component) (t : Toggles) : Except Fault String :=
  let flat := g.element 0 m c t
  if flat.isInline then .ok (flat.render 0)
  else g.width.map fun w => (g.element w m c t).render w

/-- An element is made of its component's name and of what its properties contribute, in any order. -/
theorem element_of_perm {g : Generator} {m n : Model} {c d : Component} {t : Toggles} (name : c.name = d.name)
    (same : (g.contributions m c t).Perm (g.contributions n d t)) (width : Nat) :
    g.element width m c t = g.element width n d t := by
  unfold element attributes children
  rw [name, Sorting.sortPairs_eq_of_perm (same.filterMap attributeText),
    Sorting.sortPairs_eq_of_perm (same.filterMap (childText width))]

theorem formatInstance_of_perm {g : Generator} {m n : Model} {c d : Component} {t : Toggles} (name : c.name = d.name)
    (same : (g.contributions m c t).Perm (g.contributions n d t)) :
    g.formatInstance m c t = g.formatInstance n d t := by
  unfold formatInstance
  simp only [element_of_perm name same]

theorem contribution_of_skipped (g : Generator) (m : Model) (c : Component) (t : Toggles) (count : Nat)
    (e : Key × PropertyValue) (h : isSkipped m c t e = true) : g.contribution m c t count e = .nothing := by
  simp [contribution, h]

end Generator

end DesignProps
