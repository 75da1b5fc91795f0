import DesignProps.Proofs.Config.Routes
import DesignProps.Proofs.Model.Regular
import DesignProps.Proofs.Target.Success

/-!
# Degraded documents

A document may lack nearly everything: ids, names, types and values can be of any kind, and main components,
definitions and swapped instances may lead nowhere.  As long as its nodes have the shape of nodes, it is formatted for
both targets, with the targets' own configurations and any settings.

Main statement: `FormatRequest.formatData_isOk`.
-/

set_option autoImplicit false

namespace DesignProps

theorem Config.load_defaults (fs : Files) (target : Target) :
    ∃ c, load fs target.name [] none = .ok c ∧ c.indentSize = .int 2 := by
  unfold load layered
  rw [Target.lower_name]
  cases target with
  | react => exact ⟨_, rfl, rfl⟩
  | vue => exact ⟨_, rfl, rfl⟩

/-- A target is created by its name, and its own configuration indents by two blanks. -/
theorem Registry.create_builtin (fs : Files) (target : Target) (lookup : String → Option String) :
    ∃ c, builtin.create fs target.name .defaults lookup = .ok ⟨target, c, lookup⟩ ∧ c.indentSize = .int 2 := by
  obtain ⟨c, loaded, indented⟩ := Config.load_defaults fs target
  refine ⟨c, ?_, indented⟩
  rw [create_of_registered (get?_builtin target), configure, loaded]
  rfl

namespace FormatRequest

/-- A document whose nodes have the shape of nodes and whose integers can be read is formatted for both targets with
their own configurations, whatever is selected and however it is set. -/
theorem formatData_isOk (fs : Files) {data : Json} (nodes : ∀ v ∈ Index.rootObjects data, v.IsNode ∧ v.isBounded = true)
    (target : Target) (ids : Option (List String)) {instanceSettings definitionSettings : Json}
    (instancePairs : instanceSettings.IsSettings) (definitionPairs : definitionSettings.IsSettings) :
    ∃ done, (FormatRequest.mk target.name .defaults ids instanceSettings definitionSettings).formatData fs data =
      .ok done ∧ done.target = target := by
  obtain ⟨roots, accepted, regular⟩ := Index.ofData_isOk nodes
  obtain ⟨m, built, texts⟩ := Index.model_isOk regular ids
  obtain ⟨c, created, indented⟩ := Registry.create_builtin fs target (Index.ofRoots roots).nameOf?
  have width : (Generator.mk target c (Index.ofRoots roots).nameOf?).width = .ok 2 := by
    rw [Generator.width, indented]
    exact Indent.width_int (by decide)
  obtain ⟨done, rendered, same⟩ := Generator.generate_isOk width texts instancePairs definitionPairs
  refine ⟨done, ?_, same⟩
  simp only [formatData, accepted, format, built, created, generate, rendered]

/-! A page with an instance of a component that is not there, and a component with a number for an id, a definition
that says nothing and one whose default is half of one. -/

def orphan : List (String × Json) :=
  [("type", .str "INSTANCE"), ("mainComponent", .str "9:9"),
    ("componentProperties", .obj [("Size", .obj [("value", .arr [])])])]

def oddity : List (String × Json) :=
  [("id", .int 3), ("type", .str "COMPONENT"), ("children", .null),
    ("componentPropertyDefinitions", .obj
      [("", .obj []),
        ("Count", .obj
          [("type", .str "VARIANT"), ("variantOptions", .arr [.null]),
            ("defaultValue", .float (.finite false (Nat.pow 2 52) (-53)))])])]

def scraps : Json := .obj [("name", .null), ("children", .arr [.obj orphan, .obj oddity])]

theorem isNode_orphan : (Json.obj orphan).IsNode := by
  refine .obj ⟨Or.inl rfl, Or.inr ⟨_, rfl, ?value⟩, Or.inl rfl, Or.inl rfl, Or.inl rfl⟩ (Or.inr ⟨rfl, rfl⟩) (by simp)
    (fun object => by cases object) fun object => by cases object
  case value => simp [Json.isObject]

theorem isNode_oddity : (Json.obj oddity).IsNode := by
  refine .obj ⟨Or.inr ⟨_, rfl, ?definitions⟩, Or.inl rfl, Or.inl rfl, Or.inl rfl, Or.inl rfl⟩ (Or.inr ⟨rfl, rfl⟩)
    (by simp) (fun object => by cases object) fun object => by cases object
  case definitions =>
    refine List.forall_mem_cons.2 ⟨⟨rfl, Or.inl rfl⟩, List.forall_mem_cons.2 ⟨⟨rfl, Or.inr ⟨_, rfl⟩⟩, by simp⟩⟩

theorem isNode_scraps : scraps.IsNode := by
  refine .obj ⟨Or.inl rfl, Or.inl rfl, Or.inl rfl, Or.inl rfl, Or.inl rfl⟩ (Or.inl rfl) ?below
    (fun object => by cases object) fun object => by cases object
  case below => exact List.forall_mem_cons.2 ⟨isNode_orphan, List.forall_mem_cons.2 ⟨isNode_oddity, by simp⟩⟩

theorem formatData_scraps :
    (∀ v ∈ Index.rootObjects scraps, v.IsNode ∧ v.isBounded = true) ∧
      (Json.arr [.arr [.str "showDefaults", .bool true]]).IsSettings ∧ Json.null.IsSettings ∧
      ∀ target : Target, ∃ done, (FormatRequest.mk target.name .defaults none
        (.arr [.arr [.str "showDefaults", .bool true]]) .null).formatData .empty scraps = .ok done ∧
          done.target = target := by
  have nodes : ∀ v ∈ Index.rootObjects scraps, v.IsNode ∧ v.isBounded = true :=
    List.forall_mem_cons.2 ⟨⟨isNode_scraps, by decide⟩, by simp⟩
  have pairs : (Json.arr [.arr [.str "showDefaults", .bool true]]).IsSettings :=
    Or.inr ⟨[(.str "showDefaults", .bool true)], rfl⟩
  exact ⟨nodes, pairs, Or.inl rfl, fun target => formatData_isOk .empty nodes target none pairs (Or.inl rfl)⟩

end FormatRequest

end DesignProps
