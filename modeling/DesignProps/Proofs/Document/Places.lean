import DesignProps.Document.Index
import Mathlib.Data.List.Nodup

/-!
# Places of a document

`Node.occurrences` lists what a walk over a tree meets.  All of it is surveyed, the relevant nodes among it, and no two
occurrences of a survey stand at the same place.  So an occurrence is registered exactly if its own id leads to it.

Main statements: `Index.walked_sublist`, `Index.outermost_sublist`, `Index.nodup_places`, `Index.registers_iff`.
-/

set_option autoImplicit false

namespace DesignProps

namespace Node

/-! ## What a walk meets -/

mutual

/-- The node and everything below it, each node before its children. -/
def occurrences (place : Place) (ancestors : List Node) : Node → List Occurrence
  | .mk data main children =>
      ⟨⟨.mk data main children, ancestors⟩, place⟩ :: occurrencesAll place 0 (.mk data main children :: ancestors) children

def occurrencesAll (place : Place) (position : Nat) (ancestors : List Node) : List Node → List Occurrence
  | [] => []
  | n :: rest =>
      occurrences (.child position :: place) ancestors n ++ occurrencesAll place (position + 1) ancestors rest

end

mutual

theorem map_node_occurrences (place : Place) (ancestors : List Node) :
    ∀ n : Node, (occurrences place ancestors n).map (fun o => o.node) = n.walk
  | .mk data main children => by
      simp only [occurrences, walk, List.map_cons, map_node_occurrencesAll place 0 _ children]

theorem map_node_occurrencesAll (place : Place) (position : Nat) (ancestors : List Node) :
    ∀ nodes : List Node, (occurrencesAll place position ancestors nodes).map (fun o => o.node) = walkAll nodes
  | [] => rfl
  | n :: rest => by
      simp only [occurrencesAll, walkAll, List.map_append, map_node_occurrences _ ancestors n,
        map_node_occurrencesAll place (position + 1) ancestors rest]

end

mutual

theorem occurrences_sublist (place : Place) (ancestors : List Node) :
    ∀ n : Node, (occurrences place ancestors n).Sublist (survey place ancestors n)
  | .mk data main children => by
      simp only [occurrences, survey]
      exact ((occurrencesAll_sublist place 0 _ children).trans (List.sublist_append_right _ _)).cons_cons _

theorem occurrencesAll_sublist (place : Place) (position : Nat) (ancestors : List Node) :
    ∀ nodes : List Node,
      (occurrencesAll place position ancestors nodes).Sublist (surveyAll place position ancestors nodes)
  | [] => .slnil
  | n :: rest => by
      simp only [occurrencesAll, surveyAll]
      exact (occurrences_sublist _ ancestors n).append (occurrencesAll_sublist place (position + 1) ancestors rest)

end

mutual

theorem outermost_sublist (place : Place) (ancestors : List Node) :
    ∀ n : Node, (outermost place ancestors n).Sublist (occurrences place ancestors n)
  | .mk data main children => by
      simp only [outermost, occurrences]
      split
      · exact (List.nil_sublist _).cons_cons _
      · exact (outermostAll_sublist place 0 _ children).cons _

theorem outermostAll_sublist (place : Place) (position : Nat) (ancestors : List Node) :
    ∀ nodes : List Node,
      (outermostAll place position ancestors nodes).Sublist (occurrencesAll place position ancestors nodes)
  | [] => .slnil
  | n :: rest => by
      simp only [outermostAll, occurrencesAll]
      exact (outermost_sublist _ ancestors n).append (outermostAll_sublist place (position + 1) ancestors rest)

end

theorem forest_sublist {few many : Place → Node → List Occurrence}
    (each : ∀ place n, (few place n).Sublist (many place n)) :
    ∀ (nodes : List Node) (position : Nat), (forest few position nodes).Sublist (forest many position nodes) := by
  intro nodes
  induction nodes with
  | nil => exact fun _ => .slnil
  | cons n rest ih => exact fun position => (each _ n).append (ih (position + 1))

/-! ## Places tell occurrences apart -/

mutual

theorem suffix_of_mem_survey (place : Place) (ancestors : List Node) :
    ∀ n : Node, ∀ o ∈ survey place ancestors n, place <:+ o.place
  | .mk data main children => by
      intro o inside
      simp only [survey, List.mem_cons, List.mem_append] at inside
      rcases inside with rfl | embedded | below
      · exact List.suffix_rfl
      · exact (List.suffix_cons _ _).trans (suffix_of_mem_surveyMain _ main o embedded)
      · obtain ⟨i, _, suffix⟩ := suffix_of_mem_surveyAll place 0 _ children o below
        exact (List.suffix_cons _ _).trans suffix

theorem suffix_of_mem_surveyMain (place : Place) :
    ∀ main : EmbeddedMain, ∀ o ∈ surveyMain place main, place <:+ o.place
  | .none => by simp [surveyMain]
  | .alone component => suffix_of_mem_survey place [] component
  | .within _ group => suffix_of_mem_survey place [] group

theorem suffix_of_mem_surveyAll (place : Place) (position : Nat) (ancestors : List Node) :
    ∀ nodes : List Node, ∀ o ∈ surveyAll place position ancestors nodes,
      ∃ i, position ≤ i ∧ (Step.child i :: place) <:+ o.place
  | [] => by simp [surveyAll]
  | n :: rest => by
      intro o inside
      simp only [surveyAll, List.mem_append] at inside
      rcases inside with first | later
      · exact ⟨position, Nat.le_refl _, suffix_of_mem_survey _ ancestors n o first⟩
      · obtain ⟨i, le, suffix⟩ := suffix_of_mem_surveyAll place (position + 1) ancestors rest o later
        exact ⟨i, Nat.le_of_succ_le le, suffix⟩

end

/-- Below one place, a place goes on by one step only. -/
theorem step_eq_of_suffix {a b : Step} {place q : Place} (first : (a :: place) <:+ q) (second : (b :: place) <:+ q) :
    a = b := by
  have same : a :: place = b :: place :=
    (List.suffix_of_suffix_length_le first second (by simp)).eq_of_length (by simp)
  exact (List.cons.inj same).1

theorem not_suffix_self (a : Step) (place : Place) : ¬ (a :: place) <:+ place :=
  fun suffix => Nat.not_succ_le_self place.length suffix.length_le

mutual

theorem nodup_places_survey (place : Place) (ancestors : List Node) :
    ∀ n : Node, ((survey place ancestors n).map Occurrence.place).Nodup
  | .mk data main children => by
      simp only [survey, List.map_cons, List.map_append, List.nodup_cons, List.nodup_append, List.mem_append,
        List.mem_map]
      refine ⟨?own, nodup_places_surveyMain _ main, nodup_places_surveyAll place 0 _ children, ?apart⟩
      case own =>
        rintro (⟨o, embedded, at_⟩ | ⟨o, below, at_⟩)
        · exact not_suffix_self _ _ (at_ ▸ suffix_of_mem_surveyMain _ main o embedded)
        · obtain ⟨i, _, suffix⟩ := suffix_of_mem_surveyAll place 0 _ children o below
          exact not_suffix_self _ _ (at_ ▸ suffix)
      case apart =>
        -- one goes on into the embedded tree, the other one to a child
        rintro _ ⟨o, embedded, rfl⟩ _ ⟨p, below, rfl⟩ same
        obtain ⟨i, _, suffix⟩ := suffix_of_mem_surveyAll place 0 _ children p below
        rw [← same] at suffix
        cases step_eq_of_suffix (suffix_of_mem_surveyMain _ main o embedded) suffix

theorem nodup_places_surveyMain (place : Place) :
    ∀ main : EmbeddedMain, ((surveyMain place main).map Occurrence.place).Nodup
  | .none => by simp [surveyMain]
  | .alone component => nodup_places_survey place [] component
  | .within _ group => nodup_places_survey place [] group

theorem nodup_places_surveyAll (place : Place) (position : Nat) (ancestors : List Node) :
    ∀ nodes : List Node, ((surveyAll place position ancestors nodes).map Occurrence.place).Nodup
  | [] => by simp [surveyAll]
  | n :: rest => by
      simp only [surveyAll, List.map_append, List.nodup_append, List.mem_map]
      refine ⟨nodup_places_survey _ ancestors n, nodup_places_surveyAll place (position + 1) ancestors rest, ?_⟩
      rintro _ ⟨o, first, rfl⟩ _ ⟨p, later, rfl⟩ same
      obtain ⟨i, le, suffix⟩ := suffix_of_mem_surveyAll place (position + 1) ancestors rest p later
      rw [← same] at suffix
      cases step_eq_of_suffix (suffix_of_mem_survey _ ancestors n o first) suffix
      omega

end

end Node

namespace Index

/-- What a walk over the roots meets. -/
def walked (ix : Index) : List Occurrence := Node.forest (fun place => Node.occurrences place []) 0 ix.roots

theorem walked_sublist (ix : Index) : ix.walked.Sublist (surveyed ix.roots) :=
  Node.forest_sublist (fun place n => Node.occurrences_sublist place [] n) ix.roots 0

theorem outermost_sublist (ix : Index) : ix.outermost.Sublist ix.walked :=
  Node.forest_sublist (fun place n => Node.outermost_sublist place [] n) ix.roots 0

theorem root_suffix_of_mem_forest (roots : List Node) : ∀ position : Nat,
    ∀ o ∈ Node.forest (fun place => Node.survey place []) position roots,
      ∃ i, position ≤ i ∧ [Step.root i] <:+ o.place := by
  induction roots with
  | nil => simp [Node.forest]
  | cons n rest ih =>
      intro position o inside
      simp only [Node.forest, List.mem_append] at inside
      rcases inside with first | later
      · exact ⟨position, Nat.le_refl _, Node.suffix_of_mem_survey _ [] n o first⟩
      · obtain ⟨i, le, suffix⟩ := ih (position + 1) o later
        exact ⟨i, Nat.le_of_succ_le le, suffix⟩

/-- No two occurrences stand at the same place. -/
theorem nodup_places (roots : List Node) : ((surveyed roots).map Occurrence.place).Nodup := by
  suffices every : ∀ position : Nat,
      ((Node.forest (fun place => Node.survey place []) position roots).map Occurrence.place).Nodup from every 0
  induction roots with
  | nil => simp [Node.forest]
  | cons n rest ih =>
      intro position
      simp only [Node.forest, List.map_append, List.nodup_append, List.mem_map]
      refine ⟨Node.nodup_places_survey _ [] n, ih (position + 1), ?_⟩
      rintro _ ⟨o, first, rfl⟩ _ ⟨p, later, rfl⟩ same
      obtain ⟨i, le, suffix⟩ := root_suffix_of_mem_forest rest (position + 1) p later
      rw [← same] at suffix
      cases Node.step_eq_of_suffix (Node.suffix_of_mem_survey _ [] n o first) suffix
      omega

theorem eq_of_place {roots : List Node} {o p : Occurrence} (first : o ∈ surveyed roots) (second : p ∈ surveyed roots)
    (same : o.place = p.place) : o = p :=
  List.inj_on_of_nodup_map (nodup_places roots) first second same

/-- An id leads to an occurrence that was surveyed and has this id. -/
theorem mem_of_resolve {roots : List Node} {id : String} {o : Occurrence} (found : (ofRoots roots).resolve id = some o) :
    o ∈ surveyed roots ∧ o.node.id = id := by
  rw [resolve_ofRoots] at found
  have named := List.find?_some found
  exact ⟨List.mem_of_find?_eq_some found, eq_of_beq named⟩

/-- An occurrence is registered exactly if its own id leads to it. -/
theorem registers_iff {roots : List Node} {o : Occurrence} (inside : o ∈ surveyed roots) :
    (ofRoots roots).registers o = true ↔ (ofRoots roots).resolve o.node.id = some o := by
  unfold registers
  cases found : (ofRoots roots).resolve o.node.id with
  | none => simp
  | some first =>
      simp only [beq_iff_eq, Option.some.injEq]
      exact ⟨eq_of_place (mem_of_resolve found).1 inside, congrArg Occurrence.place⟩

/-- Where no id occurs twice, every occurrence is the one its id leads to. -/
theorem resolve_of_distinct {roots : List Node} (distinct : ((surveyed roots).map fun o => o.node.id).Nodup)
    {o : Occurrence} (inside : o ∈ surveyed roots) : (ofRoots roots).resolve o.node.id = some o := by
  obtain ⟨first, found⟩ := Option.isSome_iff_exists.1 ((resolve_isSome_iff roots o.node.id).2 ⟨o, inside, rfl⟩)
  obtain ⟨among, same⟩ := mem_of_resolve found
  rw [found, List.inj_on_of_nodup_map distinct among inside same]

end Index

end DesignProps
