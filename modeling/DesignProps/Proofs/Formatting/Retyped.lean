import DesignProps.Proofs.Document.Retyped

/-!
# Loose typing

A model is built from the plain forms of raw definitions and values, and code is rendered from the model.  So nothing
changes, neither a model nor code nor a fault, when defaults, options and values are given as the texts they stand for.

Main statements: `Model.add_plain`, `Index.model_plain`, `FormatRequest.formatData_of_retyped`.
-/

set_option autoImplicit false

namespace DesignProps

/-! ## Models -/

abbrev Subject.plain : Subject → Subject := mapRaw Json.plainDefinition Json.plainValue

abbrev Index.plain : Index → Index := mapRaw Json.plainDefinition Json.plainValue

theorem Subject.rawValues_plain (s : Subject) :
    s.plain.rawValues.map (OrderedMap.mapValues fun _ => Json.plainValue) =
      s.rawValues.map (OrderedMap.mapValues fun _ => Json.plainValue) := by
  have instances : s.plain.node.isInstance = s.node.isInstance := Node.isInstance_mapRaw _ _ s.node
  have data : s.plain.node.data = s.node.data.mapRaw Json.plainDefinition Json.plainValue := Node.data_mapRaw _ _ s.node
  unfold rawValues
  rw [instances, data]
  split
  · refine congrArg Except.ok (OrderedMap.ext ?_)
    simp only [NodeData.mapRaw, OrderedMap.mapValues, List.map_map, Function.comp_def, Json.plainValue_plainValue]
  · exact valuesFromDefinitions_plain s.node.data.definitions.entries

namespace Model

variable (m : Model)

theorem definitionsFor_plain (s : Subject) : m.definitionsFor s.plain = m.definitionsFor s := by
  unfold definitionsFor
  rw [Subject.definitionId_mapRaw, Subject.rawDefinitions_mapRaw, normalizeDefinitions_plain]

theorem add_plain (s : Subject) : m.add s.plain = m.add s := by
  have id : s.plain.node.id = s.node.id := Node.id_mapRaw _ _ s.node
  unfold add
  simp only [definitionsFor_plain, fileDefinitions, Subject.references_mapRaw, Subject.definitionId_mapRaw,
    Subject.displayName_mapRaw, id]
  rcases cases_of_map_eq (Subject.rawValues_plain s) with ⟨e, plain, own⟩ | ⟨given, raw, plain, own, same⟩
  · rw [plain, own]
  · simp only [plain, own, normalizeValues_of_plain same]

theorem addAll_plain (subjects : List Subject) :
    ∀ m : Model, m.addAll (subjects.map Subject.plain) = m.addAll subjects := by
  induction subjects with
  | nil => exact fun _ => rfl
  | cons s rest ih =>
      intro m
      simp only [List.map_cons, addAll, add_plain, ih]

end Model

namespace Index

theorem model_plain (ix : Index) (ids : Option (List String)) : ix.plain.model ids = ix.model ids := by
  rw [model, model, subjects_mapRaw, Model.ofSubjects, Model.ofSubjects, Model.addAll_plain]

/-! ## Documents -/

/-- The index of the roots, unless a link names nothing. -/
def linked (roots : List Node) : Except Fault Index :=
  match (ofRoots roots).nodes.values.findSome? linkFault with
  | some e => .error e
  | none => .ok (ofRoots roots)

theorem ofData_eq (data : Json) : ofData data = (rootObjects data).mapM Node.ofJson >>= linked := rfl

theorem linked_mapRaw (f g : Json → Json) (roots : List Node) :
    linked (roots.map (Node.mapRaw f g)) = (linked roots).map (mapRaw f g) := by
  have faults : (ofRoots roots |>.mapRaw f g).nodes.values.findSome? linkFault =
      (ofRoots roots).nodes.values.findSome? linkFault := by
    simp only [mapRaw, OrderedMap.values_mapValues, List.findSome?_map]
    exact congrArg (fun fault => (ofRoots roots).nodes.values.findSome? fault) (funext (linkFault_mapRaw f g))
  unfold linked
  rw [ofRoots_mapRaw, faults]
  cases (ofRoots roots).nodes.values.findSome? linkFault <;> rfl

theorem map_ofData (f g : Json → Json) (data : Json) : (ofData data).map (mapRaw f g) =
    ((rootObjects data).mapM fun v => (Node.ofJson v).map (Node.mapRaw f g)) >>= linked := by
  simp only [ofData_eq, map_of_bind, ← Node.map_mapM, bind_of_map, linked_mapRaw]

section Retyped
variable {data other : Json} (retyped : List.Forall₂ Json.NodeRetyped (rootObjects data) (rootObjects other))
include retyped

theorem plain_of_retyped : (ofData data).map plain = (ofData other).map plain := by
  rw [map_ofData, map_ofData, mapM_of_forall₂ (retyped.imp fun _ _ => Node.ofJson_of_retyped)]

theorem model_of_retyped (ids : Option (List String)) :
    (ofData other >>= fun ix => ix.model ids) = ofData data >>= fun ix => ix.model ids := by
  rcases cases_of_map_eq (plain_of_retyped retyped) with ⟨e, one, two⟩ | ⟨ix, anew, one, two, same⟩
  · rw [one, two]
  · rw [one, two]
    change anew.model ids = ix.model ids
    rw [← model_plain, ← same, model_plain]

end Retyped

end Index

namespace FormatRequest

variable (q : FormatRequest) (fs : Files)

theorem format_plain (ix : Index) : q.format fs ix.plain = q.format fs ix := by
  simp only [format, Index.model_plain, Index.nameOf?_mapRaw]

theorem formatData_of_retyped {data other : Json}
    (retyped : List.Forall₂ Json.NodeRetyped (Index.rootObjects data) (Index.rootObjects other)) :
    q.formatData fs other = q.formatData fs data := by
  unfold formatData
  rcases cases_of_map_eq (Index.plain_of_retyped retyped) with ⟨e, one, two⟩ | ⟨ix, anew, one, two, same⟩
  · rw [one, two]
  · simp only [one, two]
    rw [← format_plain, ← same, format_plain]

end FormatRequest

/-- Wherever defaults, options and values are given as the texts they stand for, in a map of definitions, in a map of
values or in the nodes of a document, nothing changes: neither what definitions and values are normalized to, the values
put together from definitions among them, nor a model, nor code, nor a fault. -/
theorem unchanged_of_retyped :
    (∀ raws others : List (Key × Json), Json.EntriesRelated Json.DefinitionRetyped raws others →
      normalizeDefinitions others = normalizeDefinitions raws ∧
        ∀ definitions, normalizeDefaults definitions others = normalizeDefaults definitions raws) ∧
    (∀ raws others : List (Key × Json), Json.EntriesRelated Json.ValueRetyped raws others →
      ∀ definitions, normalizeValues definitions others = normalizeValues definitions raws) ∧
    ∀ data other : Json, List.Forall₂ Json.NodeRetyped (Index.rootObjects data) (Index.rootObjects other) →
      (∀ ids, (Index.ofData other >>= fun ix => ix.model ids) = Index.ofData data >>= fun ix => ix.model ids) ∧
        ∀ (q : FormatRequest) (fs : Files), q.formatData fs other = q.formatData fs data := by
  refine ⟨fun raws others retyped => ?_, fun raws others retyped => ?_, fun data other retyped => ?_⟩
  · exact ⟨normalizeDefinitions_of_retyped retyped, normalizeDefaults_of_retyped retyped⟩
  · exact normalizeValues_of_retyped retyped
  · exact ⟨Index.model_of_retyped retyped, fun q fs => q.formatData_of_retyped fs retyped⟩

/-! ## A component and an instance of it -/

/-- The double 3.0. -/
def three : Json := .float (.finite false 6755399441055744 (-51))

def looseDefinitions : List (String × Json) :=
  [("on", .obj [("type", .str "BOOLEAN"), ("defaultValue", .bool true)]),
    ("size", .obj [("type", .str "VARIANT"), ("defaultValue", three), ("variantOptions", .arr [.int 3, .int 4])]),
    ("label", .obj [("type", .str "TEXT")])]

def spelledDefinitions : List (String × Json) :=
  [("on", .obj [("type", .str "BOOLEAN"), ("defaultValue", .str "true")]),
    ("size", .obj [("type", .str "VARIANT"), ("defaultValue", .str "3"), ("variantOptions", .arr [.str "3", .int 4])]),
    ("label", .obj [("type", .str "TEXT"), ("defaultValue", .str "undefined")])]

def looseValues : List (String × Json) := [("on", .obj [("value", .bool false)]), ("size", .obj [("value", three)])]

def spelledValues : List (String × Json) :=
  [("on", .obj [("value", .str "false")]), ("size", .obj [("value", .str "3")])]

def switchOf (definitions : List (String × Json)) : Json :=
  .obj [("id", .str "1:1"), ("name", .str "switch"), ("type", .str "COMPONENT"),
    ("componentPropertyDefinitions", .obj definitions)]

def switchDocument (definitions values : List (String × Json)) : Json :=
  .arr [switchOf definitions, .obj [("id", .str "2:1"), ("name", .str "switch"), ("type", .str "INSTANCE"),
    ("mainComponent", switchOf definitions), ("componentProperties", .obj values)]]

theorem spelled_three : Json.Retyped three (.str "3") := by
  have text : three.canonicalText = "3" := by decide
  exact text ▸ .text

theorem retyped_definitions {κ : Type} (key : String → κ) :
    Json.EntriesRelated Json.DefinitionRetyped (looseDefinitions.map fun m => (key m.1, m.2))
      (spelledDefinitions.map fun m => (key m.1, m.2)) := by
  refine .cons ⟨rfl, ?_⟩ (.cons ⟨rfl, ?_⟩ (.cons ⟨rfl, ?_⟩ .nil))
  · exact .retyped rfl rfl (.cons (.cons (.refl _ []) (.inr (by decide))) (.inl rfl)) .text (.kept _)
  · exact .retyped rfl rfl
      (.cons (.cons (.cons (.refl _ []) (.inr (by decide))) (.inr (by decide))) (.inl rfl))
      spelled_three (.items (.cons .text (.cons .kept .nil)))
  · exact .retyped rfl rfl (.cons (.added (.refl _ []) (by decide) _) (.inl rfl)) .text (.kept _)

theorem retyped_values {κ : Type} (key : String → κ) :
    Json.EntriesRelated Json.ValueRetyped (looseValues.map fun m => (key m.1, m.2))
      (spelledValues.map fun m => (key m.1, m.2)) := by
  refine .cons ⟨rfl, ?_⟩ (.cons ⟨rfl, ?_⟩ .nil)
  · exact .retyped rfl rfl (.cons (.refl _ []) (.inr (by decide))) .text
  · exact .retyped rfl rfl (.cons (.refl _ []) (.inr (by decide))) spelled_three

theorem retyped_switch : Json.NodeRetyped (switchOf looseDefinitions) (switchOf spelledDefinitions) := by
  refine .node (.cons (.cons (.cons (.cons (.refl _ []) (.inr (by decide))) (.inl rfl)) (.inl rfl)) (.inl rfl)) ?_
    (.kept _) (.kept _) (.kept _) (.kept _)
  exact .object (retyped_definitions id)

theorem retyped_switches : List.Forall₂ Json.NodeRetyped
    (Index.rootObjects (switchDocument looseDefinitions looseValues))
    (Index.rootObjects (switchDocument spelledDefinitions spelledValues)) := by
  refine .cons retyped_switch (.cons ?_ .nil)
  refine .node ?_ (.kept _) (.object (retyped_values id)) retyped_switch (.kept _) (.kept _)
  exact .cons (.cons (.cons (.cons (.cons (.refl _ []) (.inr (by decide))) (.inr (by decide))) (.inl rfl)) (.inl rfl))
    (.inl rfl)

theorem unchanged_switches :
    normalizeDefinitions (Json.keyed spelledDefinitions) = normalizeDefinitions (Json.keyed looseDefinitions) ∧
      (∀ definitions, normalizeValues definitions (Json.keyed spelledValues) =
        normalizeValues definitions (Json.keyed looseValues)) ∧
      (∀ (q : FormatRequest) (fs : Files), q.formatData fs (switchDocument spelledDefinitions spelledValues) =
        q.formatData fs (switchDocument looseDefinitions looseValues)) ∧
      ∃ m, (Index.ofData (switchDocument spelledDefinitions spelledValues) >>= fun ix => ix.model none) = .ok m ∧
        m.components.values.map (fun c => c.properties.values.map PropertyValue.value) =
          [[.bool true, .number (.int 3), .text "undefined"], [.bool false, .number (.int 3)]] := by
  obtain ⟨definitions, values, documents⟩ := unchanged_of_retyped
  obtain ⟨model, code⟩ := documents _ _ retyped_switches
  refine ⟨(definitions _ _ (retyped_definitions Key.text)).1, values _ _ (retyped_values Key.text), code, ?_⟩
  rw [model none]
  exact ⟨_, rfl, rfl⟩

end DesignProps
