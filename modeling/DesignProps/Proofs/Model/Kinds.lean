import DesignProps.Proofs.Model.History
import DesignProps.Proofs.Property.Kinds

/-!
# Kinds in a model

Definitions are normalized by the first node that files them, values by nodes that may come much later.  However a
model was filled, failures included, every definition has the parts of its kind and every value agrees with the
definition filed for it.

Main statement: `addEach_kinds`.
-/

set_option autoImplicit false

namespace DesignProps

namespace Subject

theorem rawDefinitions_entries (s : Subject) : ∃ raws : OrderedMap Key Json, s.rawDefinitions = raws.entries := by
  unfold rawDefinitions
  cases s.source with
  | none => exact ⟨.empty, rfl⟩
  | some source => exact ⟨source.data.definitions, rfl⟩

theorem forall₂_of_filing {id : String} {s : Subject} {definitions : PropertyDefinitions}
    (filed : s.filing? id = some definitions) :
    List.Forall₂ (fun raw e => raw.1 = e.1 ∧ PropertyDefinition.ofRaw raw.1 raw.2 = .ok e.2) s.rawDefinitions
      definitions.entries := by
  obtain ⟨raws, entries⟩ := s.rawDefinitions_entries
  have result := (normalized_of_filing filed).2
  rw [entries] at result ⊢
  exact Progress.forall₂_of_result _ raws result

/-- The subject that files the definitions of an id: the first one that can. -/
def filer? (id : String) (subjects : List Subject) : Option Subject :=
  subjects.find? fun s => (s.filing? id).isSome

theorem exists_filing_of_filer {id : String} {subjects : List Subject} {s : Subject}
    (first : filer? id subjects = some s) : ∃ definitions, s.filing? id = some definitions := by
  have able := List.find?_some first
  exact Option.isSome_iff_exists.1 able

theorem findSome?_filing (id : String) (subjects : List Subject) :
    subjects.findSome? (filing? id) = (filer? id subjects).bind (filing? id) := by
  induction subjects with
  | nil => rfl
  | cons s rest ih =>
      cases filed : s.filing? id with
      | none =>
          simp only [filer?, List.findSome?_cons, List.find?_cons, filed, Option.isSome_none] at ih ⊢
          exact ih
      | some definitions => simp [filer?, filed]

end Subject

namespace Model

def PartsFit (m : Model) : Prop :=
  ∀ id definitions, m.definitions.get? id = some definitions → ∀ e ∈ definitions.entries, e.2.HasParts

def DefaultsFit (m : Model) : Prop :=
  ∀ id definitions, m.definitions.get? id = some definitions →
    ∀ e ∈ definitions.entries, e.2.kind.admits e.2.default = true

/-- Every property agrees with what is filed for its component under its key. -/
def ValuesAgree (m : Model) : Prop :=
  ∀ id c, m.components.get? id = some c → ∃ definitions, m.definitions.get? c.definition = some definitions ∧
    ∀ e ∈ c.properties.entries, e.2.Agrees (definitions.get? e.1)

/-- A raw definition that names the kind of numbers, which only refined variants have. -/
def NamesNumbers (raw : Key × Json) : Prop := PropertyDefinition.rawTypeOf raw.2 = PropertyKind.number.tag

theorem definitions_eq_filing (subjects : List Subject) (id : String) :
    (empty.addEach subjects).definitions.get? id = (Subject.filer? id subjects).bind (Subject.filing? id) := by
  rw [get?_definitions_addEach, Subject.findSome?_filing]
  rfl

/-- What is filed under an id comes from the raw map of its first filer. -/
theorem forall₂_of_filed {subjects : List Subject} {id : String} {definitions : PropertyDefinitions}
    (filed : (empty.addEach subjects).definitions.get? id = some definitions) :
    ∃ s, Subject.filer? id subjects = some s ∧
      List.Forall₂ (fun raw e => raw.1 = e.1 ∧ PropertyDefinition.ofRaw raw.1 raw.2 = .ok e.2) s.rawDefinitions
        definitions.entries := by
  rw [definitions_eq_filing] at filed
  obtain ⟨s, first, given⟩ := Option.bind_eq_some_iff.1 filed
  exact ⟨s, first, Subject.forall₂_of_filing given⟩

theorem partsFit_addEach (subjects : List Subject) : PartsFit (empty.addEach subjects) := by
  intro id definitions filed e inside
  obtain ⟨s, _, related⟩ := forall₂_of_filed filed
  obtain ⟨raw, _, _, made⟩ := exists_related_right related e inside
  exact PropertyDefinition.ofRaw_parts made

theorem defaultsFit_addEach_iff (subjects : List Subject) : DefaultsFit (empty.addEach subjects) ↔
    ∀ id s, Subject.filer? id subjects = some s → ∀ raw ∈ s.rawDefinitions, ¬ NamesNumbers raw := by
  constructor
  · intro fit id s first raw inside
    obtain ⟨definitions, given⟩ := Subject.exists_filing_of_filer first
    have filed : (empty.addEach subjects).definitions.get? id = some definitions := by
      rw [definitions_eq_filing, first]
      exact given
    obtain ⟨e, found, _, made⟩ := exists_related_left (Subject.forall₂_of_filing given) raw inside
    exact (PropertyDefinition.ofRaw_admits_iff made).1 (fit id definitions filed e found)
  · intro noNumbers id definitions filed e inside
    obtain ⟨s, first, related⟩ := forall₂_of_filed filed
    obtain ⟨raw, found, _, made⟩ := exists_related_right related e inside
    exact (PropertyDefinition.ofRaw_admits_iff made).2 (noNumbers id s first raw found)

theorem valuesAgree_addEach (subjects : List Subject) : ValuesAgree (empty.addEach subjects) := by
  intro id c found
  obtain ⟨s, _, _, raw, definitions, properties, _, filed, valued, rfl⟩ := givenBy_addEach subjects id c found
  exact ⟨definitions, filed, normalizeValues_agrees valued⟩

theorem admits_of_stored {subjects : List Subject} {id : String} {c : Component}
    (stored : (empty.addEach subjects).components.get? id = some c) :
    ∀ e ∈ c.properties.entries, e.2.kind.admits e.2.value = true := by
  intro e inside
  obtain ⟨definitions, _, agree⟩ := valuesAgree_addEach subjects id c stored
  have agrees := agree e inside
  cases known : definitions.get? e.1 with
  | none => exact (known ▸ agrees).2.1
  | some d => exact (known ▸ agrees).2.1

/-- In every model that can be reached, definitions and values fit their kinds; the defaults do unless the first filer
of an id names the kind of numbers itself. -/
theorem addEach_kinds (subjects : List Subject) :
    PartsFit (empty.addEach subjects) ∧ ValuesAgree (empty.addEach subjects) ∧
      (DefaultsFit (empty.addEach subjects) ↔
        ∀ id s, Subject.filer? id subjects = some s → ∀ raw ∈ s.rawDefinitions, ¬ NamesNumbers raw) := by
  exact ⟨partsFit_addEach subjects, valuesAgree_addEach subjects, defaultsFit_addEach_iff subjects⟩

/-- A component whose only property is a number that stands at a text. -/
def counter : Subject where
  node := .mk
    { id := "1:1"
      name := "badge"
      type := "COMPONENT"
      definitions := .ofList [(.text "Count", .obj [("type", .str "NUMBER"), ("defaultValue", .str "3")])]
      properties := .empty
      references := .empty
      mainId := .null } .none []
  main := none

theorem counter_default_unfit : ¬ DefaultsFit (empty.addEach [counter]) := by
  rw [defaultsFit_addEach_iff]
  intro noNumbers
  have first : Subject.filer? "1:1" [counter] = some counter := by rfl
  exact noNumbers "1:1" counter first _ List.mem_cons_self rfl

end Model

end DesignProps
