import DesignProps.Proofs.Model.Kinds
import DesignProps.Proofs.Reference.Present
import DesignProps.Proofs.Target.Omission

/-!
# What an element holds

In a model that was built, a property of a component is one entry of its element exactly if it is due: not hidden, not
undefined, not a swapped instance that is switched off, unlike its default or shown all the same, and not a boolean that
is off and not spelled out.  The entry is an attribute or a child, and both are ordered.

Main statements: `Generator.isDue_iff`, `Generator.holds_due`.
-/

set_option autoImplicit false

namespace DesignProps

/-- Whether a contribution goes between the tags. -/
def Contribution.isChild : Contribution → Bool
  | .child _ => true
  | _ => false

/-- A contribution as the property of that name writes it. -/
def Contribution.text (width : Nat) (name : String) : Contribution → String
  | .nothing => ""
  | .attribute a => a.write name
  | .child s => s.write width

namespace Generator

/-! ## Properties that are due -/

/-- The value of the property that shows or hides what is swapped in for a key. -/
def toggleValue (m : Model) (c : Component) (key : Key) : Option Primitive := do
  let r ← m.references.instances.get? key
  let toggle ← r.visible
  let p ← c.properties.get? toggle
  some p.value

structure IsDue (m : Model) (c : Component) (t : Toggles) (e : Key × PropertyValue) : Prop where
  shown : isHidden (m.definitionsOf c.definition) e.1 = false
  defined : e.2.undefined = false
  switchedOn : ¬ (e.2.kind = .instanceSwap ∧ toggleValue m c e.1 = some (.bool false))
  differs : e.2.isDefault = false ∨ t.showDefaults = true
  spelledOut : ¬ (e.2.kind = .boolean ∧ e.2.value = .bool false ∧ t.explicitBoolean = false)

instance (m : Model) (c : Component) (t : Toggles) (e : Key × PropertyValue) : Decidable (IsDue m c t e) :=
  decidable_of_iff
    (isHidden (m.definitionsOf c.definition) e.1 = false ∧ e.2.undefined = false ∧
      ¬ (e.2.kind = .instanceSwap ∧ toggleValue m c e.1 = some (.bool false)) ∧
      (e.2.isDefault = false ∨ t.showDefaults = true) ∧
      ¬ (e.2.kind = .boolean ∧ e.2.value = .bool false ∧ t.explicitBoolean = false))
    ⟨fun ⟨a, b, c, d, e⟩ => ⟨a, b, c, d, e⟩, fun ⟨a, b, c, d, e⟩ => ⟨a, b, c, d, e⟩⟩

/-- The properties of a component that are due, in its order. -/
def due (m : Model) (c : Component) (t : Toggles) : List (Key × PropertyValue) :=
  c.properties.entries.filter fun e => IsDue m c t e

theorem isToggledOff_iff {m : Model} (present : m.references.Present) (c : Component) (key : Key) :
    isToggledOff m.references c key = true ↔ toggleValue m c key = some (.bool false) := by
  unfold isToggledOff toggleValue
  cases bound : m.references.instances.get? key with
  | none => simp
  | some r =>
      cases visible : r.visible with
      | none => simp [visible]
      | some toggle =>
          -- a key that counted as absent would show the instance whatever its value
          simp only [present key r bound toggle visible, if_true, visible, Option.bind_eq_bind, Option.bind_some]
          cases c.properties.get? toggle with
          | none => simp
          | some p => simp

/-- What the kinds of a component's properties say of its booleans. -/
def BooleansFit (c : Component) : Prop :=
  ∀ e ∈ c.properties.entries, e.2.kind = .boolean → ∃ b, e.2.value = .bool b

theorem isDue_iff {m : Model} {c : Component} {t : Toggles} (g : Generator) (present : m.references.Present)
    (fit : BooleansFit c) {e : Key × PropertyValue} (inside : e ∈ c.properties.entries) (count : Nat) :
    IsDue m c t e ↔
      isHidden (m.definitionsOf c.definition) e.1 = false ∧ g.contribution m c t count e ≠ .nothing := by
  have off : e.2.kind = .boolean → (e.2.value.truthy = false ↔ e.2.value = .bool false) := by
    intro boolean
    obtain ⟨b, value⟩ := fit e inside boolean
    simp [value, Primitive.truthy]
  have skipped : isSkipped m c t e = true ↔
      e.2.undefined = true ∨ (e.2.kind = .instanceSwap ∧ toggleValue m c e.1 = some (.bool false)) ∨
        (e.2.isDefault = true ∧ t.showDefaults = false) := by
    simp [isSkipped, isToggledOff_iff present, or_assoc]
  rw [ne_eq, contribution_eq_nothing_iff, skipped]
  constructor
  · rintro ⟨shown, defined, switchedOn, differs, spelledOut⟩
    refine ⟨shown, ?_⟩
    rintro ((undefined | switchedOff | ⟨default, hideDefaults⟩) | ⟨boolean, plain, falsy⟩)
    · simp [defined] at undefined
    · exact switchedOn switchedOff
    · rcases differs with unlike | show_
      · simp [unlike] at default
      · simp [show_] at hideDefaults
    · exact spelledOut ⟨boolean, (off boolean).1 falsy, plain⟩
  · rintro ⟨shown, something⟩
    refine ⟨shown, ?_, ?_, ?_, ?_⟩
    · exact Bool.eq_false_iff.2 fun undefined => something (.inl (.inl undefined))
    · exact fun switchedOff => something (.inl (.inr (.inl switchedOff)))
    · by_contra neither
      rw [not_or, Bool.not_eq_false, Bool.not_eq_true] at neither
      exact something (.inl (.inr (.inr neither)))
    · rintro ⟨boolean, value, plain⟩
      exact something (.inr ⟨boolean, plain, (off boolean).2 value⟩)

/-! ## Entries -/

/-- What a property puts into the element, whether or not it is due. -/
def entryOf (g : Generator) (m : Model) (c : Component) (t : Toggles) (e : Key × PropertyValue) : Contribution :=
  g.contribution m c t (slotCount m c) e

/-- The identifier of a property and the text it puts into the element. -/
def written (g : Generator) (width : Nat) (m : Model) (c : Component) (t : Toggles) (e : Key × PropertyValue) :
    String × String :=
  (Naming.identifier e.1, (g.entryOf m c t e).text width (Naming.identifier e.1))

/-- An element holds exactly one entry for each due property: as an attribute or as a child, each list ordered by
identifier and text. -/
def Holds (g : Generator) (width : Nat) (m : Model) (c : Component) (t : Toggles) (el : Element) : Prop :=
  ∃ attributes children : List (String × String),
    el = ⟨c.name, attributes.map Prod.snd, children.map Prod.snd⟩ ∧
    attributes.Perm (((due m c t).filter fun e => !(g.entryOf m c t e).isChild).map (g.written width m c t)) ∧
    children.Perm (((due m c t).filter fun e => (g.entryOf m c t e).isChild).map (g.written width m c t)) ∧
    attributes.Pairwise (fun a b => Sorting.pairLe a b = true) ∧
    children.Pairwise (fun a b => Sorting.pairLe a b = true) ∧
    (∀ a ∈ attributes, a.2 ≠ "") ∧
    el.attributes.length + el.children.length = (due m c t).length

section Due
variable {g : Generator} {m : Model} {c : Component} {t : Toggles}

theorem visible_of_mem_due {e : Key × PropertyValue} (inside : e ∈ due m c t) :
    e ∈ visible (m.definitionsOf c.definition) c := by
  obtain ⟨listed, isDue⟩ := List.mem_filter.1 inside
  refine List.mem_filter.2 ⟨listed, ?_⟩
  simp [(of_decide_eq_true isDue).shown]

theorem isSkipped_of_due {e : Key × PropertyValue} (present : m.references.Present) (inside : e ∈ due m c t) :
    isSkipped m c t e = false := by
  obtain ⟨-, defined, switchedOn, differs, -⟩ := of_decide_eq_true (List.mem_filter.1 inside).2
  have toggled : (e.2.kind == .instanceSwap && isToggledOff m.references c e.1) = false := by
    refine Bool.eq_false_iff.2 fun off => switchedOn ?_
    rwa [Bool.and_eq_true, beq_iff_eq, isToggledOff_iff present] at off
  have unlike : (e.2.isDefault && !t.showDefaults) = false := by
    rcases differs with own | shown <;> simp [*]
  simp only [isSkipped, defined, toggled, unlike, Bool.or_self]

/-- A reader that takes some of the contributions finds the due properties whose contributions are of that sort. -/
theorem filterMap_contributions (takes : Contribution → Bool) {read : String × Contribution → Option (String × String)}
    {width : Nat} (present : m.references.Present) (fit : BooleansFit c)
    (nothing : ∀ name, read (name, .nothing) = none)
    (something : ∀ name k, k ≠ .nothing → read (name, k) = if takes k then some (name, k.text width name) else none) :
    (g.contributions m c t).filterMap read =
      ((due m c t).filter fun e => takes (g.entryOf m c t e)).map (g.written width m c t) := by
  unfold contributions due visible
  rw [List.filterMap_map, List.filterMap_filter, List.filter_filter, ← List.filterMap_eq_map, List.filterMap_filter]
  refine List.filterMap_congr fun e inside => ?_
  have law := isDue_iff (t := t) g present fit inside (slotCount m c)
  by_cases given : IsDue m c t e
  · obtain ⟨shown, contributes⟩ := law.1 given
    simp [shown, given, something _ _ contributes, written, entryOf]
  · by_cases hidden : isHidden (m.definitionsOf c.definition) e.1 = false
    · have silent : g.contribution m c t (slotCount m c) e = .nothing := by
        by_contra contributes
        exact given (law.2 ⟨hidden, contributes⟩)
      simp [given, silent, nothing]
    · simp [given, hidden]

theorem attributeText_eq (width : Nat) (name : String) (k : Contribution) (something : k ≠ .nothing) :
    attributeText (name, k) = if !k.isChild then some (name, k.text width name) else none := by
  match k, something with
  | .nothing, something => exact absurd rfl something
  | .attribute _, _ => rfl
  | .child _, _ => rfl

theorem childText_eq (width : Nat) (name : String) (k : Contribution) :
    childText width (name, k) = if k.isChild then some (name, k.text width name) else none := by
  cases k <;> rfl

theorem filterMap_attributeText (present : m.references.Present) (fit : BooleansFit c) (g : Generator) (t : Toggles)
    (width : Nat) : (g.contributions m c t).filterMap attributeText =
      ((due m c t).filter fun e => !(g.entryOf m c t e).isChild).map (g.written width m c t) :=
  filterMap_contributions (fun k => !k.isChild) present fit (fun _ => rfl) (attributeText_eq width)

theorem filterMap_childText (present : m.references.Present) (fit : BooleansFit c) (g : Generator) (t : Toggles)
    (width : Nat) : (g.contributions m c t).filterMap (childText width) =
      ((due m c t).filter fun e => (g.entryOf m c t e).isChild).map (g.written width m c t) :=
  filterMap_contributions Contribution.isChild present fit (fun _ => rfl) fun name k _ => childText_eq width name k

theorem written_ne_empty {e : Key × PropertyValue} (width : Nat) (something : g.entryOf m c t e ≠ .nothing)
    (beside : (g.entryOf m c t e).isChild = false) : (g.written width m c t e).2 ≠ "" := by
  unfold written
  match entry : g.entryOf m c t e with
  | .nothing => exact absurd entry something
  | .attribute a => exact a.write_ne_empty e.1
  | .child s => simp [entry, Contribution.isChild] at beside

theorem holds_element (present : m.references.Present) (fit : BooleansFit c) (g : Generator) (t : Toggles)
    (width : Nat) : g.Holds width m c t (g.element width m c t) := by
  have attributes := filterMap_attributeText present fit g t width
  have children := filterMap_childText present fit g t width
  have attributesPerm := Sorting.sortPairs_perm ((g.contributions m c t).filterMap attributeText)
  have childrenPerm := Sorting.sortPairs_perm ((g.contributions m c t).filterMap (childText width))
  rw [attributes] at attributesPerm
  rw [children] at childrenPerm
  refine ⟨_, _, rfl, attributes ▸ attributesPerm, children ▸ childrenPerm,
    Sorting.pairwise_sort Sorting.pairLe_total Sorting.pairLe_trans _,
    Sorting.pairwise_sort Sorting.pairLe_total Sorting.pairLe_trans _, ?written, ?count⟩
  case written =>
    intro a inside
    rw [attributes, attributesPerm.mem_iff] at inside
    obtain ⟨e, chosen, rfl⟩ := List.mem_map.1 inside
    obtain ⟨among, beside⟩ := List.mem_filter.1 chosen
    obtain ⟨member, isDue⟩ := List.mem_filter.1 among
    exact written_ne_empty width ((isDue_iff g present fit member _).1 (of_decide_eq_true isDue)).2
      (by simpa using beside)
  case count =>
    have sizes := List.length_eq_length_filter_add (l := due m c t) fun e => (g.entryOf m c t e).isChild
    simp only [element, Generator.attributes, Generator.children, attributes, children, List.length_map,
      attributesPerm.length_eq, childrenPerm.length_eq]
    omega

end Due

/-! ## Models that were built -/

theorem booleansFit_of_stored {subjects : List Subject} {id : String} {c : Component}
    (stored : (Model.empty.addEach subjects).components.get? id = some c) : BooleansFit c := by
  intro e inside boolean
  have admitted := Model.admits_of_stored stored e inside
  rw [boolean] at admitted
  exact PropertyKind.exists_bool admitted

/-- In every model that is built, the element of a component holds exactly one entry for each property that is due and
nothing else, for both targets, all settings and any width; what is rendered is such an element. -/
theorem holds_due {subjects : List Subject} {m : Model} (built : Model.ofSubjects subjects = .ok m) {id : String}
    {c : Component} (stored : m.components.get? id = some c) (g : Generator) (t : Toggles) :
    (∀ width, g.Holds width m c t (g.element width m c t)) ∧
      ∀ text, g.formatInstance m c t = .ok text → ∃ width, text = (g.element width m c t).render width := by
  obtain rfl := Model.addAll_eq_addEach _ _ _ (Model.addAll_of_ofSubjects built)
  refine ⟨holds_element (Model.present_addEach subjects) (booleansFit_of_stored stored) g t, ?rendered⟩
  case rendered =>
    intro text rendered
    unfold formatInstance at rendered
    dsimp only at rendered
    split at rendered
    · exact ⟨0, (Except.ok.inj rendered).symm⟩
    · cases width : g.width with
      | error e => simp [width, Except.map] at rendered
      | ok w =>
          rw [width] at rendered
          exact ⟨w, (Except.ok.inj rendered).symm⟩

/-! A tile with a bound text and an icon that its switch turns off. -/

def titleKey : Key := .text "Title"

/-- A node that only says what it is bound to. -/
def boundNode (references : OrderedMap Key Json) : Node :=
  .mk
    { id := ""
      name := ""
      type := "TEXT"
      definitions := .empty
      properties := .empty
      references := references
      mainId := .null } .none []

def tile : Node :=
  .mk
    { id := "1:1"
      name := "tile"
      type := "COMPONENT"
      definitions := .ofList
        [(titleKey, .obj [("type", .str "TEXT"), ("defaultValue", .str "a")]),
          (.text "Icon", .obj [("type", .str "INSTANCE_SWAP"), ("defaultValue", .str "9:1")]),
          (.text "Has Icon", .obj [("type", .str "BOOLEAN"), ("defaultValue", .bool true)])]
      properties := .empty
      references := .empty
      mainId := .null } .none
    [boundNode (.ofList [(.text "characters", .str "Title")]),
      boundNode (.ofList [(.text "mainComponent", .str "Icon"), (.text "visible", .str "Has Icon")])]

def tileInstance : Subject where
  node := .mk
    { id := "3:1"
      name := "tile"
      type := "INSTANCE"
      definitions := .empty
      properties := .ofList
        [(titleKey, .obj [("value", .str "b")]), (.text "Icon", .obj [("value", .str "9:2")]),
          (.text "Has Icon", .obj [("value", .bool false)])]
      references := .empty
      mainId := .str "1:1" } .none []
  main := some ⟨tile, []⟩

theorem holds_due_tile : ∃ m c, Model.ofSubjects [tileInstance] = .ok m ∧ m.components.get? "3:1" = some c ∧
    (due m c ⟨false, false⟩).map Prod.fst = [titleKey] ∧
    ∀ g : Generator, ∀ width, g.Holds width m c ⟨false, false⟩ (g.element width m c ⟨false, false⟩) := by
  have built : Model.ofSubjects [tileInstance] = .ok _ := rfl
  refine ⟨_, _, built, rfl, rfl, fun g width => ?_⟩
  exact (holds_due built (show OrderedMap.get? _ "3:1" = some _ from rfl) g ⟨false, false⟩).1 width

end Generator

end DesignProps
