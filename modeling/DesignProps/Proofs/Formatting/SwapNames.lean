import DesignProps.Proofs.Model.Coherent
import DesignProps.Proofs.Model.Regular
import DesignProps.Proofs.Target.Batch

/-!
# What a swapped component is called

Where a component is swapped in it goes by its own name.  Its instances, and the block of its definitions, go by the
name of its definition node, which for a variant is the group.  So the element of a swapped variant is called like
nothing that is declared, unless both names come out alike.

Main statements: `Located.swapName_eq_iff` (when both names are one), `Generator.swapsTo_of_resolve`,
`Index.component_of_distinct`, `Index.swapNames_of_distinct`.
-/

set_option autoImplicit false

namespace DesignProps

/-! ## Two names of a component -/

namespace Located

/-- The name of the element where a component is swapped in. -/
def swapName (l : Located) : String := Naming.displayName l.node.name

/-- The name of an instance of a component. -/
def instanceName (l : Located) : String :=
  Naming.displayName (if l.definitionNode.name = "" then Subject.unnamed else l.definitionNode.name)

/-- A component that is no variant goes by one name exactly if it has one. -/
theorem swapName_eq_iff {l : Located} (plain : ∀ parent, l.parent? = some parent → parent.isGroup = false) :
    l.swapName = l.instanceName ↔ l.node.name ≠ "" := by
  unfold swapName instanceName
  rw [definitionNode_of_plain plain]
  by_cases unnamed : l.node.name = ""
  · have differ : Naming.displayName "" ≠ Naming.displayName Subject.unnamed := by decide
    simp [unnamed, differ]
  · simp [unnamed]

end Located

/-! ## Elements -/

namespace Generator

/-- How a generator writes the swaps to an id that leads to a node of the given name. -/
structure SwapsTo (g : Generator) (id name : String) : Prop where
  /-- A swap that is not skipped puts an element of this name into an attribute or a slot. -/
  contribution : ∀ (m : Model) (c : Component) (t : Toggles) (count : Nat) (e : Key × PropertyValue),
    e.2.kind = .instanceSwap → e.2.value.asText = id → isSkipped m c t e = false →
    g.contribution m c t count e =
      match g.target with
      | .react => .attribute (.braced (Attribute.selfClosing (Naming.displayName name)))
      | .vue =>
          if m.references.instances.contains e.1 then
            .child (.named (Naming.identifier e.1) (Attribute.selfClosing (Naming.displayName name)))
          else .attribute (.bound (Naming.displayName name))
  /-- So does a default, unless the property is optional and stands at the marker or at a node named like it. -/
  default : ∀ d : PropertyDefinition, d.kind = .instanceSwap → d.default.asText = id →
    g.defaultText d =
      if isBare d = true ∨ (d.optional = true ∧ name = undefinedMarker) then none
      else some (Attribute.selfClosing (Naming.displayName name))

theorem swapsTo_of_resolve {g : Generator} {id name : String} (found : g.resolve id = some name) :
    g.SwapsTo id name := by
  refine ⟨fun m c t count e swap target shown => ?_, fun d swap target => ?_⟩
  · have text : isTextSlot m.references e = false := by simp [isTextSlot, swap]
    have known : g.resolvedName e.2.value.asText = some (Naming.displayName name) := by
      rw [resolvedName, target, found, Option.map_some]
    have defined : e.2.undefined = false := by
      simp only [isSkipped, Bool.or_eq_false_iff] at shown
      exact shown.1.1
    unfold Generator.contribution attributeOf Attribute.of
    cases side : g.target with
    | react => simp [shown, text, swap, defined, side, Slot.ofInstance, Attribute.react, known]
    | vue =>
        by_cases bound : m.references.instances.contains e.1 = true
        · simp [shown, text, swap, side, bound, Slot.ofInstance, known]
        · simp [shown, text, swap, defined, bound, Attribute.vue, known]
  · by_cases bare : isBare d = true
    · simp [defaultText, bare]
    · simp [defaultText, swap, target, found, bare]

/-- Every definition that is filed has a block, under its name. -/
theorem block_of_filed {g : Generator} {m : Model} {optionsApi : Bool} {blocks : List String}
    (written : g.blocks m optionsApi = .ok blocks) {id : String} (filed : id ∈ m.definitions.keys) :
    ∃ ps, declared (m.definitionsOf id) = .ok ps ∧ g.block optionsApi (m.nameOf id) ps ∈ blocks := by
  have listed : id ∈ sortedDefinitionIds m := by
    unfold sortedDefinitionIds
    refine List.mem_map.2 ⟨(m.nameOf id, id), (Sorting.sortPairs_perm _).mem_iff.2 ?_, rfl⟩
    exact List.mem_map.2 ⟨id, filed, rfl⟩
  obtain ⟨text, inside, made⟩ := exists_related_left (mapM_eq_ok_iff.1 written) id listed
  obtain ⟨ps, shown, rfl⟩ := map_eq_ok_iff.1 made
  exact ⟨ps, shown, inside⟩

end Generator

/-! ## Components and their blocks -/

/-- The definitions of an id go by a name, and every generator declares them under it. -/
structure Model.DeclaredAs (m : Model) (id name : String) : Prop where
  named : m.nameOf id = name
  block : ∀ (g : Generator) (optionsApi : Bool) (blocks : List String), g.blocks m optionsApi = .ok blocks →
    ∃ ps, Generator.declared (m.definitionsOf id) = .ok ps ∧ g.block optionsApi name ps ∈ blocks

/-- Where the subjects of a definition id agree on its name, it is declared under this name. -/
theorem Model.declaredAs_of_agree {subjects : List Subject} {m : Model} (built : ofSubjects subjects = .ok m)
    {id name : String} (filed : id ∈ m.definitions.keys)
    (agree : ∀ s ∈ subjects, s.definitionId = id → s.displayName = name) : m.DeclaredAs id name := by
  have named : m.nameOf id = name := by
    obtain rfl := addAll_eq_addEach _ _ _ (addAll_of_ofSubjects built)
    have known : ((empty.addEach subjects).names.get? id).isSome = true := by
      rw [get?_names_isSome]
      exact (OrderedMap.contains_iff _ _).2 filed
    obtain ⟨found, last⟩ := Option.isSome_iff_exists.1 known
    obtain ⟨s, inside, same, rfl⟩ := name_of_addEach subjects id found last
    rw [nameOf, last, Option.getD_some, agree s inside same]
  refine ⟨named, fun g optionsApi blocks written => ?_⟩
  rw [← named]
  exact Generator.block_of_filed written filed

namespace Index

variable {roots : List Node} {ids : Option (List String)} {m : Model} {p : Occurrence}

/-- Where no id occurs twice, every node that is selected has the component it gives. -/
theorem component_of_distinct (distinct : ((surveyed roots).map fun o => o.node.id).Nodup)
    (built : (ofRoots roots).model ids = .ok m) (selected : p ∈ (ofRoots roots).relevant ids) :
    ∃ c, m.components.get? p.node.id = some c ∧ c.name = (Subject.ofOccurrence (ofRoots roots) p).displayName ∧
      c.definition = (Subject.ofOccurrence (ofRoots roots) p).definitionId ∧ c.definition ∈ m.definitions.keys := by
  have inside : Subject.ofOccurrence (ofRoots roots) p ∈ (ofRoots roots).subjects ids :=
    List.mem_map.2 ⟨p, selected, rfl⟩
  -- a node of the same id is the same node, at the same place
  have only : ∀ t ∈ (ofRoots roots).subjects ids, t.node.id = p.node.id →
      t = Subject.ofOccurrence (ofRoots roots) p := by
    intro t among same
    obtain ⟨q, also, rfl⟩ := List.mem_map.1 among
    rw [List.inj_on_of_nodup_map distinct (surveyed_of_relevant also) (surveyed_of_relevant selected) same]
  obtain ⟨-, -, definitions, properties, -, filed, -, stored⟩ := Model.component_of_built built inside only
  have known : (Subject.ofOccurrence (ofRoots roots) p).definitionId ∈ m.definitions.keys := by
    rw [← OrderedMap.contains_iff, OrderedMap.contains]
    exact Option.isSome_iff_exists.2 ⟨definitions, filed⟩
  exact ⟨_, stored, by simp only [Subject.component], by simp only [Subject.component], known⟩

theorem source_of_main (swaps : p.node.isInstance = true) {l : Located} (linked : (ofRoots roots).main? p = some l) :
    (Subject.ofOccurrence (ofRoots roots) p).source = some l.definitionNode := by
  simp [Subject.source_eq, Subject.ofOccurrence, swaps, linked]

theorem displayName_of_main (swaps : p.node.isInstance = true) {l : Located}
    (linked : (ofRoots roots).main? p = some l) :
    (Subject.ofOccurrence (ofRoots roots) p).displayName = l.instanceName := by
  simp only [Subject.displayName, source_of_main swaps linked, Located.instanceName]

/-- A definition node with an id is shared only by nodes that have one, and so is one without where all have one. -/
theorem source_isSome_of_same_id {q : Occurrence} {source : Node}
    (same : (Subject.ofOccurrence (ofRoots roots) q).definitionId = source.id)
    (among : q ∈ (ofRoots roots).relevant ids)
    (unmixed : source.id ≠ "" ∨ ∀ s ∈ (ofRoots roots).subjects ids, s.source.isSome = true) :
    (Subject.ofOccurrence (ofRoots roots) q).source.isSome = true := by
  rcases unmixed with identified | all
  · cases found : (Subject.ofOccurrence (ofRoots roots) q).source with
    | none =>
        simp only [Subject.definitionId, found] at same
        exact absurd same.symm identified
    | some other => rfl
  · exact all _ (List.mem_map.2 ⟨q, among, rfl⟩)

/-- Let ids tell the nodes of a document apart, and take a component with an id.  Every generator that looks names up
in the document writes swaps to it as elements of its own name.  In every model that is built, an instance of it is
called like its definition node, and the definitions are declared under that name unless nodes without a definition
node file theirs under the same id.  For a component that is no variant both names are the same exactly if it has one.
-/
theorem swapNames_of_distinct {data : Json} {ix : Index} (accepted : ofData data = .ok ix)
    (distinct : ((surveyed ix.roots).map fun o => o.node.id).Nodup) (apart : IdsTellApart ix.roots)
    {o : Occurrence} (inside : o ∈ surveyed ix.roots) (identified : o.node.id ≠ "") :
    (∀ g : Generator, g.lookup = ix.nameOf? → g.SwapsTo o.node.id o.node.name) ∧
    (∀ ids m, ix.model ids = .ok m → ∀ p ∈ ix.relevant ids, p.node.isInstance = true →
      ix.main? p = some o.toLocated → ∃ c, m.components.get? p.node.id = some c ∧
        c.name = o.toLocated.instanceName ∧ c.definition = o.toLocated.definitionNode.id ∧
        ((o.toLocated.definitionNode.id ≠ "" ∨ ∀ s ∈ ix.subjects ids, s.source.isSome = true) →
          m.DeclaredAs c.definition c.name)) ∧
    ((∀ parent, o.parent? = some parent → parent.isGroup = false) →
      (o.toLocated.swapName = o.toLocated.instanceName ↔ o.node.name ≠ "")) := by
  have rooted := eq_ofRoots accepted
  rw [rooted]
  refine ⟨?swaps, ?instances, Located.swapName_eq_iff⟩
  case swaps =>
    intro g looksUp
    refine Generator.swapsTo_of_resolve ?_
    rw [Generator.resolve, if_neg identified, looksUp, nameOf?, resolve_of_distinct distinct inside, Option.map_some]
  case instances =>
    intro ids m built p selected swaps linked
    obtain ⟨c, stored, name, definition, filed⟩ := component_of_distinct distinct built selected
    have given := source_of_main swaps linked
    have under : c.definition = o.toLocated.definitionNode.id := by
      simpa only [Subject.definitionId, given] using definition
    refine ⟨c, stored, name.trans (displayName_of_main swaps linked), under, fun unmixed => ?_⟩
    refine Model.declaredAs_of_agree built filed fun s among same => ?_
    obtain ⟨q, also, rfl⟩ := List.mem_map.1 among
    have shared := same.trans under
    have source : (Subject.ofOccurrence (ofRoots ix.roots) q).source = some o.toLocated.definitionNode :=
      source_of_same_id apart (forest_within _ 0 p (surveyed_of_relevant selected))
        (forest_within _ 0 q (surveyed_of_relevant also)) given shared (source_isSome_of_same_id shared also unmixed)
    rw [name]
    simp only [Subject.displayName, source, given]

/-! A button of one size and a chip, with an instance of each. -/

def sizedButton : Json :=
  .obj [("id", .str "1:1"), ("name", .str "button"), ("type", .str "COMPONENT_SET"),
    ("children", .arr [.obj [("id", .str "1:2"), ("name", .str "Size=large"), ("type", .str "COMPONENT")]])]

def buttonInstance : Json :=
  .obj [("id", .str "3:2"), ("name", .str "button"), ("type", .str "INSTANCE"), ("mainComponent", .str "1:2")]

def buttonAndChip : Json := .arr [sizedButton, chip, chipInstance, buttonInstance]

theorem chip_of_distinct : ∃ ix, ofData buttonAndChip = .ok ix ∧
    ((surveyed ix.roots).map fun o => o.node.id).Nodup ∧ IdsTellApart ix.roots ∧
    ∃ o ∈ surveyed ix.roots, o.node.id = "2:1" ∧ o.node.isComponent = true ∧
      (⟨.vue, .base, ix.nameOf?⟩ : Generator).SwapsTo "2:1" "chip" ∧
      ∃ m c, ix.model none = .ok m ∧ m.components.get? "3:1" = some c ∧ c.name = "Chip" ∧
        m.DeclaredAs c.definition c.name ∧ o.toLocated.swapName = o.toLocated.instanceName := by
  have accepted : ofData buttonAndChip = .ok _ := rfl
  refine ⟨_, accepted, by decide, idsTellApart_of_nodup (by decide), _, .tail _ (.tail _ (.head _)), rfl, rfl, ?_⟩
  obtain ⟨swaps, instances, plain⟩ := swapNames_of_distinct accepted (by decide)
    (idsTellApart_of_nodup (by decide)) (.tail _ (.tail _ (.head _))) (by decide)
  obtain ⟨c, stored, name, -, declared⟩ := instances none _ rfl _ (.tail _ (.tail _ (.head _))) rfl rfl
  exact ⟨swaps _ rfl, _, c, rfl, stored, name, declared (.inl (by decide)), (plain nofun).2 (by decide)⟩

/-- The variant is swapped in by its own name, but its instance and its block are called like the group. -/
theorem variant_unlike_instance : ∃ ix, ofData buttonAndChip = .ok ix ∧
    ((Node.reachAll ix.roots).map Node.id).Nodup ∧ ∃ o ∈ surveyed ix.roots, o.node.isComponent = true ∧
      ∃ p ∈ ix.relevant none, p.node.isInstance = true ∧ ix.main? p = some o.toLocated ∧
        ∃ m c, ix.model none = .ok m ∧ m.components.get? p.node.id = some c ∧ c.name = "Button" ∧
          m.nameOf c.definition = "Button" ∧
          (⟨.react, .base, ix.nameOf?⟩ : Generator).resolvedName o.node.id = some "SizeLarge" :=
  ⟨_, rfl, by decide, _, .tail _ (.head _), rfl, _, .tail _ (.tail _ (.tail _ (.head _))), rfl, rfl, _, _, rfl, rfl,
    rfl, rfl, rfl⟩

end Index

end DesignProps
