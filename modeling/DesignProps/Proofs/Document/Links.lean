import DesignProps.Model.Builder
import DesignProps.Proofs.Document.Places
import DesignProps.Proofs.Traversal

/-!
# Links to main components

A node that names its main component by an id of the document is linked to the node of that id exactly if no node that
the index met before it has its own id.  A later one stays without a main component, also where it is the one that is
formatted.

Main statements: `Index.ofData_eq_ok_iff`, `Index.resolve_self_iff` (an id leads to the first occurrence that has it),
`Index.linked_iff_first`.
-/

set_option autoImplicit false

namespace DesignProps

namespace Index

/-- No occurrence that the index met before this one has its id. -/
def IsFirst (ix : Index) (o : Occurrence) : Prop :=
  ∃ before after, surveyed ix.roots = before ++ o :: after ∧ ∀ p ∈ before, p.node.id ≠ o.node.id

/-- A node without an embedded main component names one by the id of a node of the index; an empty text is no id. -/
structure Names (ix : Index) (o target : Occurrence) : Prop where
  unembedded : o.node.main = .none
  named : ∃ id, o.node.data.mainId = .str id ∧ id ≠ "" ∧ ix.resolve id = some target

/-- The nodes of an index are the occurrences that their own ids lead to. -/
theorem mem_nodes_iff (roots : List Node) (o : Occurrence) :
    o ∈ (ofRoots roots).nodes.values ↔ (ofRoots roots).resolve o.node.id = some o := by
  simp only [OrderedMap.values, List.mem_map, Prod.exists, exists_eq_right, OrderedMap.mem_entries_iff]
  constructor
  · rintro ⟨id, found⟩
    rw [(mem_of_resolve found).2]
    exact found
  · exact fun found => ⟨_, found⟩

theorem ofData_eq_ok_iff {data : Json} {ix : Index} : ofData data = .ok ix ↔
    ∃ roots, (rootObjects data).mapM Node.ofJson = .ok roots ∧ ix = ofRoots roots ∧
      ∀ o ∈ (ofRoots roots).nodes.values, linkFault o = none := by
  rw [ofData, bind_eq_ok_iff]
  refine exists_congr fun roots => and_congr_right fun _ => ?_
  rw [← List.findSome?_eq_none_iff]
  cases found : (ofRoots roots).nodes.values.findSome? linkFault with
  | none =>
      simp only [found, and_true, Except.ok.injEq]
      exact eq_comm
  | some e => simp [found]

theorem eq_ofRoots {data : Json} {ix : Index} (accepted : ofData data = .ok ix) : ix = ofRoots ix.roots := by
  obtain ⟨roots, -, rfl, -⟩ := ofData_eq_ok_iff.1 accepted
  rfl

theorem resolve_self_iff (roots : List Node) (o : Occurrence) :
    (ofRoots roots).resolve o.node.id = some o ↔ (ofRoots roots).IsFirst o := by
  rw [resolve_ofRoots, List.find?_eq_some_iff_append]
  simp [IsFirst, ofRoots]

theorem main?_of_names {roots : List Node} {o target : Occurrence} (names : (ofRoots roots).Names o target)
    (inside : o ∈ surveyed roots) (first : (ofRoots roots).IsFirst o) :
    (ofRoots roots).main? o = some target.toLocated := by
  obtain ⟨id, named, given, known⟩ := names.named
  have registered := (registers_iff inside).2 ((resolve_self_iff roots o).2 first)
  simp only [main?, names.unembedded, EmbeddedMain.located?, registered, if_true, named?, named, if_neg given, known,
    Option.map_some]

theorem main?_of_not_first {roots : List Node} {o : Occurrence} (unembedded : o.node.main = .none)
    (inside : o ∈ surveyed roots) (later : ¬ (ofRoots roots).IsFirst o) : (ofRoots roots).main? o = none := by
  have unregistered : (ofRoots roots).registers o = false :=
    Bool.eq_false_iff.2 fun registered => later ((resolve_self_iff roots o).1 ((registers_iff inside).1 registered))
  simp [main?, unembedded, EmbeddedMain.located?, unregistered]

theorem source_isSome_iff (ix : Index) {o : Occurrence} (swaps : o.node.isInstance = true) :
    (Subject.ofOccurrence ix o).source.isSome = true ↔ (ix.main? o).isSome = true := by
  simp [Subject.source, Subject.ofOccurrence, swaps]

/-- In every document that is accepted, a node of a walk that names its main component by an id is linked to the node
of that id exactly if it is the first node of its own id, and stays unlinked otherwise; the same decides whether an
instance that is selected without ids has a definition node. -/
theorem linked_iff_first {data : Json} {ix : Index} (accepted : ofData data = .ok ix) :
    (∀ o ∈ ix.walked, ∀ target, ix.Names o target →
      (ix.main? o = some target.toLocated ↔ ix.IsFirst o) ∧ (ix.main? o = none ↔ ¬ ix.IsFirst o)) ∧
    ∀ o ∈ ix.relevant none, ∀ target, ix.Names o target → o.node.isInstance = true →
      ((Subject.ofOccurrence ix o).source.isSome = true ↔ ix.IsFirst o) := by
  have rooted := eq_ofRoots accepted
  have walked : ∀ o ∈ ix.walked, ∀ target, ix.Names o target →
      (ix.main? o = some target.toLocated ↔ ix.IsFirst o) ∧ (ix.main? o = none ↔ ¬ ix.IsFirst o) := by
    intro o met target names
    have inside : o ∈ surveyed ix.roots := (walked_sublist ix).subset met
    rw [rooted] at names ⊢
    by_cases first : (ofRoots ix.roots).IsFirst o
    · simp [main?_of_names names inside first, first]
    · simp [main?_of_not_first names.unembedded inside first, first]
  refine ⟨walked, fun o selected target names swaps => ?_⟩
  obtain ⟨-, unlinked⟩ := walked o ((outermost_sublist ix).subset selected) target names
  rw [source_isSome_iff ix swaps, Option.isSome_iff_ne_none, ne_eq, unlinked, not_not]

/-! An instance that is listed twice. -/

def chip : Json := .obj [("id", .str "2:1"), ("name", .str "chip"), ("type", .str "COMPONENT")]

def chipInstance : Json :=
  .obj [("id", .str "3:1"), ("name", .str "chip"), ("type", .str "INSTANCE"), ("mainComponent", .str "2:1")]

def listedTwice : Json := .arr [chip, chipInstance, chipInstance]

theorem linked_listed_twice : ∃ ix, ofData listedTwice = .ok ix ∧
    ∃ o ∈ ix.relevant none, ∃ target, ix.Names o target ∧ o.node.isInstance = true ∧
      ((Subject.ofOccurrence ix o).source.isSome = true ↔ ix.IsFirst o) := by
  have accepted : ofData listedTwice = .ok _ := rfl
  refine ⟨_, accepted, _, .tail _ (.head _), _, ⟨rfl, "2:1", rfl, by decide, rfl⟩, rfl, ?_⟩
  exact (linked_iff_first accepted).2 _ (.tail _ (.head _)) _ ⟨rfl, "2:1", rfl, by decide, rfl⟩ rfl

/-- The second one names a node of the document, and is selected, but has no main component and no definition node. -/
theorem second_listed_unlinked : ∃ ix, ofData listedTwice = .ok ix ∧
    ∃ o ∈ ix.relevant none, o ∈ ix.walked ∧ ∃ target, ix.Names o target ∧ o.node.isInstance = true ∧
      ix.main? o ≠ some target.toLocated ∧ (Subject.ofOccurrence ix o).source = none := by
  refine ⟨_, rfl, _, .tail _ (.tail _ (.head _)), .tail _ (.tail _ (.head _)), _,
    ⟨rfl, "2:1", rfl, by decide, rfl⟩, rfl, ?_, rfl⟩
  intro linked
  cases linked

end Index

end DesignProps
