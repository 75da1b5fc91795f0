import DesignProps.Formatting
import DesignProps.Proofs.Document.Places
import DesignProps.Proofs.Document.Regular
import DesignProps.Proofs.Model.Built
import DesignProps.Proofs.Model.Kinds
import DesignProps.Proofs.Reference.Bindings

/-!
# Models that can always be built

A node with regular data all around it is added to any model: its own values and bindings can be read, its definitions
can be normalized, and its values can be too, by whichever definitions are filed already.  So a document of such nodes
has a model for every selection of ids, and the keys of what is declared in it are texts.

Main statements: `Model.add_isOk` (one addition), `Model.ofSubjects_isOk` (a run), `Index.model_isOk`.
-/

set_option autoImplicit false

namespace DesignProps

/-! ## Bindings -/

theorem Json.isKeyIfAny_of_isTextIfAny {v : Json} (text : v.IsTextIfAny) : v.IsKeyIfAny := by
  intro _
  rcases text with rfl | ⟨s, rfl⟩
  · rfl
  · rfl

theorem Node.namesKeys_of_regular {n : Node} (regular : n.data.Regular) : n.NamesKeys := by
  have each : ∀ name : String, (n.given name).IsKeyIfAny := by
    intro name
    refine Json.isKeyIfAny_of_isTextIfAny ?_
    unfold given
    cases found : n.data.references.get? (.text name) with
    | none => exact Or.inl rfl
    | some v =>
        obtain ⟨j, -, inside⟩ := Assoc.exists_mem_of_get? _ v n.data.references.entries found
        exact Or.inr (regular.references (j, v) inside)
  exact ⟨each "visible", each "characters", each "mainComponent"⟩

theorem Node.namesKeys_of_descendants {root d : Node} (regular : root.Regular) (below : d ∈ root.descendants) :
    d.NamesKeys := by
  obtain ⟨k, listed, inside⟩ := Node.mem_reachAll.1 (Node.walkAll_subset_reachAll root.children d below)
  exact Node.namesKeys_of_regular (((Node.regular_iff root).1 regular).2.2 k listed d inside)

/-! ## Subjects -/

namespace Subject

/-- A node with regular data all around it, and so around its main component. -/
structure Regular (s : Subject) : Prop where
  node : s.node.Regular
  main : ∀ l, s.main = some l → l.node.Regular ∧ ∀ a ∈ l.ancestors, a.Regular

variable {s : Subject}

theorem data_of_source (regular : s.Regular) {source : Node} (given : s.source = some source) :
    source.data.Regular := by
  have own : ∀ {n : Node}, n.Regular → n.data.Regular := fun holds => holds _ (Node.mem_reach_self _)
  rw [source_eq] at given
  split at given
  · obtain ⟨l, linked, rfl⟩ := Option.map_eq_some_iff.1 given
    obtain ⟨component, above⟩ := regular.main l linked
    unfold Located.definitionNode Located.parent?
    split
    · next parent nearest =>
        split
        · exact own (above parent (List.mem_of_mem_head? nearest))
        · exact own component
    · exact own component
  · obtain rfl := Option.some.inj given
    exact own regular.node

theorem rawDefinitions_regular (regular : s.Regular) :
    ∀ e ∈ s.rawDefinitions, e.2.IsDefinition ∧ e.2.isBounded = true := by
  unfold rawDefinitions
  cases given : s.source with
  | none => simp
  | some source => exact (data_of_source regular given).definitions

theorem keys_rawDefinitions (regular : s.Regular) : ∀ e ∈ s.rawDefinitions, ∃ t, e.1 = Key.text t := by
  unfold rawDefinitions
  cases given : s.source with
  | none => simp
  | some source =>
      intro e inside
      exact (data_of_source regular given).keys e.1 (List.mem_map.2 ⟨e, inside, rfl⟩)

theorem rawValues_isOk (regular : s.Regular) :
    ∃ raw, s.rawValues = .ok raw ∧ ∀ e ∈ raw.entries, e.2.isObject = true ∧ e.2.isBounded = true := by
  have data := regular.node s.node (Node.mem_reach_self s.node)
  unfold rawValues
  split
  · exact ⟨_, rfl, data.properties⟩
  · refine valuesFromDefinitions_isOk fun e inside => ?_
    exact ⟨(data.definitions e inside).1.object, (data.definitions e inside).2⟩

theorem references_isOk (regular : s.Regular) : ∃ m, s.references = .ok m := by
  refine ⟨_, Node.references_eq_ok_iff.2 ⟨fun d bound => ?_, rfl⟩⟩
  unfold Node.boundNodes Node.bindingRoot at bound
  split at bound
  · next root chosen =>
      refine Node.namesKeys_of_descendants ?_ bound
      split at chosen
      · obtain rfl := Option.some.inj chosen
        exact regular.node
      · split at chosen
        · obtain ⟨l, linked, rfl⟩ := Option.map_eq_some_iff.1 chosen
          exact (regular.main l linked).1
        · simp at chosen
  · simp at bound

end Subject

/-! ## Models -/

namespace Model

variable {s : Subject} {subjects : List Subject}

theorem definitionsFor_isOk (regular : s.Regular) (m : Model) :
    ∃ definitions, m.definitionsFor s = .ok definitions := by
  unfold definitionsFor
  split
  · exact ⟨_, rfl⟩
  · exact normalizeDefinitions_isOk (Subject.rawDefinitions_regular regular)

/-- A regular node is added to any model. -/
theorem add_isOk (regular : s.Regular) (m : Model) : ∃ c, (m.add s).2 = .ok c := by
  obtain ⟨raw, values, each⟩ := Subject.rawValues_isOk regular
  obtain ⟨references, bindings⟩ := Subject.references_isOk regular
  have step := addition m s
  generalize m.add s = result at step ⊢
  cases step with
  | unread read => simp [Subject.reading, values, bindings] at read
  | undefined read failed =>
      obtain ⟨definitions, defined⟩ := definitionsFor_isOk regular m
      simp [defined] at failed
  | @unvalued found _ definitions _ read defined failed =>
      obtain rfl : raw = found := Except.ok.inj (values.symm.trans (Subject.reading_ok read).1)
      obtain ⟨properties, valued⟩ := normalizeValues_isOk definitions each
      simp [valued] at failed
  | complete read defined valued => exact ⟨_, rfl⟩

theorem addAll_isOk : ∀ {subjects : List Subject} (m : Model), (∀ s ∈ subjects, s.Regular) →
    (m.addAll subjects).2 = none := by
  intro subjects
  induction subjects with
  | nil => exact fun _ _ => rfl
  | cons s rest ih =>
      intro m regular
      obtain ⟨now, later⟩ := List.forall_mem_cons.1 regular
      obtain ⟨c, added⟩ := add_isOk now m
      simp only [addAll]
      split
      · next after _ _ => exact ih after later
      · next after e failed => simp [failed] at added

theorem ofSubjects_isOk (regular : ∀ s ∈ subjects, s.Regular) : ∃ m, ofSubjects subjects = .ok m := by
  have clean := addAll_isOk empty regular
  unfold ofSubjects
  split
  · exact ⟨_, rfl⟩
  · next failed => simp [failed] at clean

/-- What is filed comes from raw definitions, and their keys are texts. -/
theorem keys_definitionsOf (regular : ∀ s ∈ subjects, s.Regular) {m : Model} (built : ofSubjects subjects = .ok m)
    (id : String) : ∀ key ∈ (m.definitionsOf id).keys, ∃ t, key = Key.text t := by
  obtain rfl := addAll_eq_addEach _ _ _ (addAll_of_ofSubjects built)
  unfold definitionsOf
  cases filed : (empty.addEach subjects).definitions.get? id with
  | none => simp [OrderedMap.keys]
  | some definitions =>
      intro key inside
      obtain ⟨e, listed, rfl⟩ := List.mem_map.1 inside
      obtain ⟨s, first, related⟩ := forall₂_of_filed filed
      obtain ⟨raw, given, same, -⟩ := exists_related_right related e listed
      rw [← same]
      exact Subject.keys_rawDefinitions (regular s (List.mem_of_find?_eq_some first)) raw given

end Model

/-! ## Documents -/

namespace Index

variable {roots : List Node}

theorem surveyed_of_relevant {ids : Option (List String)} {o : Occurrence}
    (selected : o ∈ (ofRoots roots).relevant ids) : o ∈ surveyed roots := by
  cases ids with
  | some ids =>
      obtain ⟨id, -, found⟩ := List.mem_filterMap.1 selected
      exact (mem_of_resolve found).1
  | none => exact (walked_sublist (ofRoots roots)).subset ((outermost_sublist (ofRoots roots)).subset selected)

theorem subjects_regular (regular : ∀ n ∈ Node.reachAll roots, n.data.Regular) (ids : Option (List String)) :
    ∀ s ∈ (ofRoots roots).subjects ids, s.Regular := by
  intro s listed
  obtain ⟨o, selected, rfl⟩ := List.mem_map.1 listed
  have within := forest_within roots 0 o (surveyed_of_relevant selected)
  have all : ∀ n ∈ Node.reachAll roots, n.Regular :=
    fun n inside k below => regular k (Node.reachAll_trans inside k below)
  refine ⟨fun k inside => regular k (within.reach k inside), fun l linked => ?_⟩
  obtain ⟨component, above⟩ := reach_of_main within linked
  exact ⟨all l.node component, fun a inside => all a (above a inside)⟩

theorem model_isOk (regular : ∀ n ∈ Node.reachAll roots, n.data.Regular) (ids : Option (List String)) :
    ∃ m, (ofRoots roots).model ids = .ok m ∧
      ∀ id, ∀ key ∈ (m.definitionsOf id).keys, ∃ t, key = Key.text t := by
  obtain ⟨m, built⟩ := Model.ofSubjects_isOk (subjects_regular regular ids)
  exact ⟨m, built, Model.keys_definitionsOf (subjects_regular regular ids) built⟩

end Index

end DesignProps
