import DesignProps.Proofs.Model.Built

/-!
# The references of a run

A run merges the references of one node after the other.  Since merging is associative and the empty map is its unit,
it does not matter in which groups they are merged: `Bracketing` is a way to put the nodes together two by two, and
every one of them gives the references of the run.

Main statements: `Bracketing.merged_eq`, `Model.references_bracketed`, `ReferenceMap.merge_laws`.
-/

set_option autoImplicit false

namespace DesignProps

/-- A way to put items together two by two, in order. -/
inductive Bracketing (α : Type)
  | nothing
  | single (item : α)
  | pair (first rest : Bracketing α)

namespace Bracketing

variable {α : Type}

def items : Bracketing α → List α
  | .nothing => []
  | .single item => [item]
  | .pair first rest => first.items ++ rest.items

/-- The maps of all items, merged in the groups of the bracketing. -/
def merged (of : α → ReferenceMap) : Bracketing α → ReferenceMap
  | .nothing => .empty
  | .single item => of item
  | .pair first rest => (first.merged of).merge (rest.merged of)

theorem merged_eq (of : α → ReferenceMap) (t : Bracketing α) :
    t.merged of = ReferenceMap.empty.mergeAll (t.items.map of) := by
  induction t with
  | nothing => rfl
  | single item => exact (ReferenceMap.empty_merge (of item)).symm
  | pair first rest ihFirst ihRest =>
      rw [merged, items, List.map_append, ReferenceMap.mergeAll_append, ReferenceMap.mergeAll_eq_merge, ihFirst, ihRest]

end Bracketing

namespace Subject

/-- The references that adding a subject merges in; one that stops before its references are merged adds nothing. -/
def bindings (s : Subject) : ReferenceMap := s.bindings?.getD .empty

theorem mergeAll_bindings : ∀ (subjects : List Subject) (m : ReferenceMap),
    m.mergeAll (subjects.map bindings) = m.mergeAll (subjects.filterMap bindings?) := by
  intro subjects
  induction subjects with
  | nil => intro m; rfl
  | cons s rest ih =>
      intro m
      cases known : s.bindings? with
      | none => simp [bindings, known, ReferenceMap.mergeAll_cons, ReferenceMap.merge_empty, ← ih]
      | some references => simp [bindings, known, ReferenceMap.mergeAll_cons, ← ih]

theorem bindings_of_reading {s : Subject} {raw : OrderedMap Key Json} {references : ReferenceMap}
    (read : s.reading = .ok (raw, references)) : s.references = .ok s.bindings := by
  have found : s.bindings? = some references := by simp [bindings?, read]
  rw [(reading_ok read).2, bindings, found, Option.getD_some]

end Subject

namespace Model

/-- However the nodes of a run are grouped, their references are those of the model. -/
theorem references_bracketed (t : Bracketing Subject) :
    (empty.addEach t.items).references = t.merged Subject.bindings := by
  rw [references_addEach, Bracketing.merged_eq, Subject.mergeAll_bindings]
  rfl

theorem references_of_built {subjects : List Subject} {m : Model} (built : ofSubjects subjects = .ok m) :
    m = empty.addEach subjects ∧ ∀ s ∈ subjects, s.references = .ok s.bindings := by
  have run := addAll_of_ofSubjects built
  refine ⟨addAll_eq_addEach _ _ _ run, fun s inside => ?_⟩
  obtain ⟨⟨raw, references, read⟩, -⟩ := done_of_addAll _ _ _ run s inside
  exact Subject.bindings_of_reading read

end Model

namespace ReferenceMap

/-- Merging is associative with the empty map as its unit, and idempotent, the order of keys included; the flags of a
property do not depend on which map comes first, and an entry for a swapped component is that of the later map, if it
has one.  So the references of a model, built by any run, are those of its nodes merged in any groups. -/
theorem merge_laws :
    (∀ a b c : ReferenceMap, (a.merge b).merge c = a.merge (b.merge c)) ∧
    (∀ a : ReferenceMap, empty.merge a = a ∧ a.merge empty = a ∧ a.merge a = a) ∧
    (∀ (a b : ReferenceMap) (key : Key), (a.merge b).properties.get? key = (b.merge a).properties.get? key ∧
      (a.merge b).instances.get? key = (b.instances.get? key).or (a.instances.get? key)) ∧
    ∀ t : Bracketing Subject, (Model.empty.addEach t.items).references = t.merged Subject.bindings ∧
      ∀ m, Model.ofSubjects t.items = .ok m →
        m.references = t.merged Subject.bindings ∧ ∀ s ∈ t.items, s.references = .ok s.bindings := by
  refine ⟨merge_assoc, ?unit, ?lookUps, ?runs⟩
  case unit => exact fun a => ⟨empty_merge a, merge_empty a, merge_self a⟩
  case lookUps => exact fun a b key => ⟨get?_properties_merge_comm a b key, get?_instances_merge a b key⟩
  case runs =>
    intro t
    refine ⟨Model.references_bracketed t, fun m built => ?_⟩
    obtain ⟨rfl, each⟩ := Model.references_of_built built
    exact ⟨Model.references_bracketed t, each⟩

/-! Two components with a node that is bound to the same property: one shows its text, the other one is shown by it. -/

def boundLeaf (binding : String) : Node :=
  .mk
    { id := "1:9"
      name := "label"
      type := "TEXT"
      definitions := .empty
      properties := .empty
      references := .ofList [(.text binding, .str "Label")]
      mainId := .null } .none []

def labelled (id binding : String) : Subject where
  node := .mk ⟨id, "card", "COMPONENT", .empty, .empty, .empty, .null⟩ .none [boundLeaf binding]
  main := none

def labelledTwice : Bracketing Subject :=
  .pair .nothing (.pair (.single (labelled "1:1" "characters")) (.single (labelled "1:2" "visible")))

theorem merge_laws_labelled : ∃ m, Model.ofSubjects labelledTwice.items = .ok m ∧
    m.references = labelledTwice.merged Subject.bindings ∧
    (∀ s ∈ labelledTwice.items, s.references = .ok s.bindings) ∧
    m.references.properties.entries = [(.text "Label", ⟨true, true⟩)] := by
  have built : Model.ofSubjects labelledTwice.items = .ok _ := rfl
  obtain ⟨merged, each⟩ := (merge_laws.2.2.2 labelledTwice).2 _ built
  exact ⟨_, built, merged, each, rfl⟩

end ReferenceMap

end DesignProps
