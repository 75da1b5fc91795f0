import DesignProps.Proofs.Model.AtDefaults
import DesignProps.Proofs.Model.Kinds
import DesignProps.Proofs.Target.TextSlots

/-!
# Bare elements

An element is only its tag exactly if none of the properties that are not hidden puts anything into it.  Where defaults
are hidden, a component that is shown at its defaults is bare for every target, whatever else the model holds, unless
one of its raw definitions names the kind of numbers itself: a property of such a kind is never at its default, so it is
written unless it is hidden or undefined.

Main statements: `Element.render_eq_bare_iff`, `Generator.formatInstance_eq_bare_iff`,
`Generator.bare_at_defaults`.
-/

set_option autoImplicit false

namespace DesignProps

namespace Element

theorem opening_of_bare {e : Element} (bare : e.attributes = []) : e.opening = e.tag := by
  rw [opening, bare]
  apply String.toList_injective
  simp

/-- Every attribute makes the opening tag longer. -/
theorem length_tag_lt_opening {e : Element} (written : e.attributes ≠ []) : e.tag.length < e.opening.length := by
  obtain ⟨first, rest, attributes⟩ := List.exists_cons_of_ne_nil written
  rw [opening, attributes, ← String.length_toList, ← String.length_toList, String.toList_intercalate, List.map_cons,
    List.map_cons, List.intercalate_cons_cons]
  simp only [List.length_append, show " ".toList.length = 1 from rfl]
  omega

theorem length_opening_le_render (e : Element) (width : Nat) : e.opening.length + 4 ≤ (e.render width).length := by
  unfold render
  split
  · simp only [String.length_append, show "<".length = 1 from rfl, show " />".length = 3 from rfl]
    omega
  · split
    · simp only [String.length_append, show "<".length = 1 from rfl, show ">".length = 1 from rfl,
        show "</".length = 2 from rfl]
      omega
    · simp only [String.length_append, show "<".length = 1 from rfl, show ">".length = 1 from rfl,
        show ">\n".length = 2 from rfl, show "\n</".length = 3 from rfl]
      omega

/-- An element is only its tag exactly if there is nothing in it. -/
theorem render_eq_bare_iff (e : Element) (width : Nat) :
    e.render width = "<" ++ e.tag ++ " />" ↔ e.attributes = [] ∧ e.children = [] := by
  constructor
  · intro same
    have bare : e.attributes = [] := by
      by_contra written
      have longer := length_tag_lt_opening written
      have least := length_opening_le_render e width
      rw [same] at least
      simp only [String.length_append, show "<".length = 1 from rfl, show " />".length = 3 from rfl] at least
      omega
    refine ⟨bare, ?_⟩
    by_contra filled
    rw [← opening_of_bare bare] at same
    exact render_ne_opening filled width same
  · rintro ⟨bare, empty⟩
    simp only [render, empty, opening_of_bare bare]

end Element

namespace Generator

variable {g : Generator} {m : Model} {c : Component} {t : Toggles}

/-- Nothing is in an element exactly if no property puts anything into it. -/
theorem empty_iff (width : Nat) : (g.attributes m c t = [] ∧ g.children width m c t = []) ↔
    ∀ e ∈ visible (m.definitionsOf c.definition) c, g.contribution m c t (slotCount m c) e = .nothing := by
  constructor
  · rintro ⟨bare, childless⟩ e shown
    have listed : (Naming.identifier e.1, g.contribution m c t (slotCount m c) e) ∈ g.contributions m c t :=
      List.mem_map.2 ⟨e, shown, rfl⟩
    generalize g.contribution m c t (slotCount m c) e = put at listed
    match put, listed with
    | .nothing, _ => rfl
    | .attribute a, listed =>
        have within := mem_attributes listed
        simp [bare] at within
    | .child s, listed =>
        have within := mem_children listed width
        simp [childless] at within
  · intro nothing
    have every : ∀ put ∈ g.contributions m c t, put.2 = .nothing := by
      intro put listed
      obtain ⟨e, shown, rfl⟩ := List.mem_map.1 listed
      exact nothing e shown
    have bare : (g.contributions m c t).filterMap attributeText = [] :=
      List.filterMap_eq_nil_iff.2 fun put listed => by simp [attributeText, every put listed]
    have childless : (g.contributions m c t).filterMap (childText width) = [] :=
      List.filterMap_eq_nil_iff.2 fun put listed => by simp [childText, every put listed]
    simp only [attributes, children, bare, childless]
    exact ⟨rfl, rfl⟩

theorem formatInstance_eq_bare_iff : g.formatInstance m c t = .ok ("<" ++ c.name ++ " />") ↔
    ∀ e ∈ visible (m.definitionsOf c.definition) c, g.contribution m c t (slotCount m c) e = .nothing := by
  have rendered : ∀ width, (g.element width m c t).render width = "<" ++ c.name ++ " />" ↔
      ∀ e ∈ visible (m.definitionsOf c.definition) c, g.contribution m c t (slotCount m c) e = .nothing :=
    fun width => (Element.render_eq_bare_iff (g.element width m c t) width).trans (empty_iff width)
  constructor
  · intro bare
    obtain ⟨width, bare⟩ := exists_width_of_formatInstance bare
    exact (rendered width).1 bare
  · intro nothing
    have childless : (g.element 0 m c t).children = [] := ((empty_iff 0).2 nothing).2
    rw [formatInstance_of_childless childless, (rendered 0).2 nothing]

/-- Where defaults are hidden, a property at its default is left out; a number that is none only if it is undefined. -/
theorem contribution_atDefault_iff {e : Key × PropertyValue} {raw : Json} (value : e.2.AtDefault raw)
    (hides : t.showDefaults = false) (count : Nat) :
    g.contribution m c t count e = .nothing ↔ (raw.NamesNumber → e.2.undefined = true) := by
  rw [contribution_eq_nothing_iff]
  by_cases named : raw.NamesNumber
  · have kind := value.number named
    have differs : e.2.isDefault = false := Bool.eq_false_iff.2 fun default => value.isDefault.1 default named
    simp [isSkipped, kind, differs, named]
  · have default : e.2.isDefault = true := value.isDefault.2 named
    simp [isSkipped, default, hides, named]

/-- A property of a component that is shown at its defaults is a default exactly if its raw definition does not name
the kind of numbers.  Where defaults are hidden, the component is written as its tag alone exactly if every other
property is hidden or undefined. -/
theorem bare_at_defaults {m : Model} {s : Subject} {raws : OrderedMap Key Json} {c : Component}
    (shown : m.ShownAtDefaults s raws) (added : (m.add s).2 = .ok c) :
    (∀ e ∈ c.properties.entries, ∃ raw, raws.get? e.1 = some raw ∧ (e.2.isDefault = true ↔ ¬ raw.NamesNumber)) ∧
    ∀ (g : Generator) (n : Model) (explicitBoolean : Bool),
      g.formatInstance n c ⟨false, explicitBoolean⟩ = .ok ("<" ++ c.name ++ " />") ↔
        ∀ e ∈ c.properties.entries, ∀ raw, raws.get? e.1 = some raw → raw.NamesNumber →
          isHidden (n.definitionsOf c.definition) e.1 = true ∨ e.2.undefined = true := by
  have values := Model.atDefault_of_shown shown added
  constructor
  · intro e inside
    obtain ⟨raw, given, value⟩ := values e inside
    exact ⟨raw, given, value.isDefault⟩
  · intro g n explicitBoolean
    rw [formatInstance_eq_bare_iff]
    simp only [visible, List.mem_filter, Bool.not_eq_true', and_imp]
    refine forall₂_congr fun e inside => ?_
    obtain ⟨raw, given, value⟩ := values e inside
    rw [contribution_atDefault_iff value rfl]
    simp only [given, Option.some.injEq, forall_eq']
    cases isHidden (n.definitionsOf c.definition) e.1 <;> simp

/-! A card that files its definitions, and an instance that stands at one of them. -/

def cardInstance : Subject where
  node := .mk
    { id := "2:1"
      name := "card"
      type := "INSTANCE"
      definitions := .empty
      properties := .ofList [(.text "Body", .obj [("type", .str "TEXT"), ("value", .str "b")])]
      references := .empty
      mainId := .str "1:1" } .none []
  main := some ⟨card.node, []⟩

theorem bare_at_defaults_card :
    (∃ c, Model.empty.ShownAtDefaults card card.node.data.definitions ∧ (Model.empty.add card).2 = .ok c ∧
      ∀ (g : Generator) (n : Model) (explicitBoolean : Bool),
        g.formatInstance n c ⟨false, explicitBoolean⟩ = .ok "<Card />") ∧
    ∃ c, (Model.empty.add card).1.ShownAtDefaults cardInstance card.node.data.definitions ∧
      ((Model.empty.add card).1.add cardInstance).2 = .ok c ∧ c.properties.keys = [.text "Body"] ∧
      ∀ (g : Generator) (n : Model) (explicitBoolean : Bool),
        g.formatInstance n c ⟨false, explicitBoolean⟩ = .ok "<Card />" := by
  have unnamed : ∀ key raw, card.node.data.definitions.get? key = some raw → ¬ raw.NamesNumber := by
    intro key raw given
    obtain ⟨j, -, listed⟩ := Assoc.exists_mem_of_get? key raw card.node.data.definitions.entries given
    have texts : ∀ e ∈ card.node.data.definitions.entries, ¬ e.2.NamesNumber := by decide
    exact texts (j, raw) listed
  have own : Model.empty.ShownAtDefaults card card.node.data.definitions := .ofDefinition rfl rfl
  have stand : StandAt cardInstance.node.data.properties card.node.data.definitions := by
    intro e inside
    obtain rfl := List.mem_singleton.1 inside
    exact ⟨_, rfl, rfl⟩
  have other : (Model.empty.add card).1.ShownAtDefaults cardInstance card.node.data.definitions :=
    .ofInstance rfl (show OrderedMap.get? _ "1:1" = some _ from rfl) rfl stand
  refine ⟨⟨_, own, rfl, fun g n explicitBoolean => ?_⟩, ⟨_, other, rfl, rfl, fun g n explicitBoolean => ?_⟩⟩
  · exact ((bare_at_defaults own rfl).2 g n explicitBoolean).2 fun _ _ raw given named =>
      absurd named (unnamed _ raw given)
  · exact ((bare_at_defaults other rfl).2 g n explicitBoolean).2 fun _ _ raw given named =>
      absurd named (unnamed _ raw given)

/-- A component whose number stands at a text is written with it. -/
theorem counter_not_bare : ∃ c, Model.counter.node.isInstance = false ∧
    Model.empty.definitions.get? Model.counter.node.id = none ∧ (Model.empty.add Model.counter).2 = .ok c ∧
    (∃ e ∈ c.properties.entries, e.2.isDefault = false) ∧
    ∀ explicitBoolean, (Generator.mk .react .base fun _ => none).formatInstance (Model.empty.add Model.counter).1 c
      ⟨false, explicitBoolean⟩ = .ok "<Badge count=\x7b3\x7d />" := by
  refine ⟨_, rfl, rfl, rfl, ⟨_, .head _, rfl⟩, ?_⟩
  decide

end Generator

end DesignProps
