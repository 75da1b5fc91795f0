import DesignProps.Proofs.Target.TextSlots

/-!
# Private properties

A key that begins with a point or an underscore is private.  Definitions are marked as hidden by their keys, so in a model
that was built a private property stays out of its element if it is defined.  The marker stands on the definition alone: a
private value that no definition was filed for is an undeclared text like any other one.

Main statements: `Model.isHidden_of_private` (a definition of a private key hides it), `Generator.private_due_iff`.
-/

set_option autoImplicit false

namespace DesignProps

/-- A text that begins with a point or an underscore. -/
def Key.IsPrivate : Key → Prop
  | .text s => s.toList.head? = some '.' ∨ s.toList.head? = some '_'
  | _ => False

instance (key : Key) : Decidable key.IsPrivate := by
  cases key <;> unfold Key.IsPrivate <;> infer_instance

namespace PropertyDefinition

theorem isHiddenKey_of_private {key : Key} (marked : key.IsPrivate) : isHiddenKey key = true := by
  cases key with
  | text s =>
      unfold isHiddenKey
      rw [Key.asText_text]
      cases chars : s.toList with
      | nil => simp [Key.IsPrivate, chars] at marked
      | cons first rest =>
          simp only [Key.IsPrivate, chars, List.head?_cons, Option.some.injEq] at marked
          rcases marked with rfl | rfl <;> rfl
  | _ => exact marked.elim

/-- A normalized definition is hidden exactly if its key says so. -/
theorem hidden_of_ofRaw {key : Key} {raw : Json} {d : PropertyDefinition} (made : ofRaw key raw = .ok d) :
    d.hidden = isHiddenKey key := by
  obtain ⟨parts, -, texts⟩ := ofTexts_of_ofRaw made
  obtain ⟨content, -, rfl⟩ := map_eq_ok_iff.1 texts
  rfl

end PropertyDefinition

namespace Model

/-- Whichever node filed them, definitions of private keys are hidden, and a private key is hidden by nothing else. -/
theorem isHidden_of_private (subjects : List Subject) (id : String) {key : Key} (marked : key.IsPrivate) :
    Generator.isHidden ((empty.addEach subjects).definitionsOf id) key =
      (((empty.addEach subjects).definitionsOf id).get? key).isSome := by
  unfold Generator.isHidden
  cases known : ((empty.addEach subjects).definitionsOf id).get? key with
  | none => rfl
  | some d =>
      cases filed : (empty.addEach subjects).definitions.get? id with
      | none => simp [definitionsOf, filed] at known
      | some definitions =>
          simp only [definitionsOf, filed, Option.getD_some] at known
          obtain ⟨own, same, inside⟩ := Assoc.exists_mem_of_get? key d definitions.entries known
          obtain ⟨s, -, related⟩ := forall₂_of_filed filed
          obtain ⟨raw, -, keys, made⟩ := exists_related_right related (own, d) inside
          -- a private key is a text, and a text is only the same as itself
          have equal : own = key := by
            cases key with
            | text s => exact (Key.beq_text s own).1 same
            | _ => exact marked.elim
          have hidden := PropertyDefinition.hidden_of_ofRaw made
          rw [keys, equal, PropertyDefinition.isHiddenKey_of_private marked] at hidden
          exact hidden

end Model

namespace Generator

theorem mem_due {m : Model} {c : Component} {t : Toggles} {e : Key × PropertyValue} :
    e ∈ due m c t ↔ e ∈ c.properties.entries ∧ IsDue m c t e := by
  rw [due, List.mem_filter, decide_eq_true_iff]

/-- In every model that is built, for both targets and all toggles, elements hold exactly the properties that are due,
and a private property is due exactly if no definition is filed for it and it is not undefined. -/
theorem private_due_iff {subjects : List Subject} {m : Model} (built : Model.ofSubjects subjects = .ok m) {id : String}
    {c : Component} (stored : m.components.get? id = some c) (g : Generator) (t : Toggles) :
    (∀ width, g.Holds width m c t (g.element width m c t)) ∧
      (∀ text, g.formatInstance m c t = .ok text → ∃ width, (g.element width m c t).render width = text) ∧
      ∀ e ∈ c.properties.entries, e.1.IsPrivate →
        (e ∈ due m c t ↔ (m.definitionsOf c.definition).get? e.1 = none ∧ e.2.undefined = false) := by
  obtain rfl := Model.addAll_eq_addEach _ _ _ (Model.addAll_of_ofSubjects built)
  refine ⟨holds_element (Model.present_addEach subjects) (booleansFit_of_stored stored) g t,
    fun text => exists_width_of_formatInstance, fun e inside marked => ?_⟩
  have hidden := Model.isHidden_of_private subjects c.definition marked
  obtain ⟨definitions, filed, agree⟩ := Model.valuesAgree_addEach subjects id c stored
  rw [mem_due, and_iff_right inside]
  constructor
  · rintro ⟨shown, defined, -, -, -⟩
    rw [hidden, Option.isSome_eq_false_iff, Option.isNone_iff_eq_none] at shown
    exact ⟨shown, defined⟩
  · rintro ⟨undeclared, defined⟩
    -- a value without a definition is a text that is never a default
    have agrees := agree e inside
    have none : definitions.get? e.1 = none := by
      simpa only [Model.definitionsOf, filed, Option.getD_some] using undeclared
    rw [none] at agrees
    obtain ⟨kind, -, plain⟩ := agrees
    refine ⟨?shown, defined, ?switchedOn, Or.inl plain, ?spelledOut⟩
    case shown => rw [hidden, undeclared, Option.isSome_none]
    case switchedOn => simp [kind]
    case spelledOut => simp [kind]

/-! An instance of a component with a private draft, and one with such a draft whose main component is not there. -/

def draftKey : Key := .text "_draft"

def draft : PropertyValue := ⟨"draft", .text, .text "b", false, false⟩

def drafted : Node :=
  .mk
    { id := "1:1"
      name := "chip"
      type := "COMPONENT"
      definitions := .ofList [(draftKey, .obj [("type", .str "TEXT"), ("defaultValue", .str "a")])]
      properties := .empty
      references := .empty
      mainId := .null } .none []

def draftInstance (id : String) (main : Option Located) : Subject where
  node := .mk
    { id := id
      name := "chip"
      type := "INSTANCE"
      definitions := .empty
      properties := .ofList [(draftKey, .obj [("type", .str "TEXT"), ("value", .str "b")])]
      references := .empty
      mainId := .str "1:1" } .none []
  main := main

def drafts : List Subject := [draftInstance "3:1" (some ⟨drafted, []⟩), draftInstance "3:2" none]

theorem private_due_iff_draft : ∃ m c, Model.ofSubjects drafts = .ok m ∧ m.components.get? "3:1" = some c ∧
    (draftKey, draft) ∈ c.properties.entries ∧ draftKey.IsPrivate ∧
    ((m.definitionsOf c.definition).get? draftKey).isSome = true ∧ ∀ t, (draftKey, draft) ∉ due m c t := by
  have built : Model.ofSubjects drafts = .ok _ := rfl
  have listed : (draftKey, draft) ∈ [(draftKey, draft)] := List.mem_singleton.2 rfl
  refine ⟨_, _, built, rfl, listed, by decide, rfl, fun t isDue => ?_⟩
  have law := (private_due_iff built (show OrderedMap.get? _ "3:1" = some _ from rfl)
    ⟨.react, .base, fun _ => none⟩ t).2.2 (draftKey, draft) listed (by decide)
  cases (law.1 isDue).1

/-- Without its main component, the instance shows its private draft. -/
theorem orphan_draft_shown : ∃ m c, Model.ofSubjects drafts = .ok m ∧ m.components.get? "3:2" = some c ∧
    (draftKey, draft) ∈ c.properties.entries ∧ draftKey.IsPrivate ∧ (draftKey, draft) ∈ due m c ⟨false, false⟩ ∧
    (Generator.mk .react .base fun _ => none).formatInstance m c ⟨false, false⟩ =
      .ok "<Unnamedcomponent draft=\"b\" />" := by
  have listed : (draftKey, draft) ∈ [(draftKey, draft)] := List.mem_singleton.2 rfl
  exact ⟨_, _, rfl, rfl, listed, by decide, mem_due.2 ⟨listed, by decide⟩, rfl⟩

end Generator

end DesignProps
