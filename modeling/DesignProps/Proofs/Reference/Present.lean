import DesignProps.Proofs.Model.Built
import DesignProps.Proofs.Reference.Bindings

/-!
# What references are driven by

A binding only names keys that count as present.  Whatever maps are merged, the key that shows or hides a swapped
instance is one of them, so in a model that was built it is never taken for absent.

Main statements: `ReferenceMap.Present.merge`, `ReferenceMap.ofForest_congr` (nothing else of a forest counts),
`Model.present_addEach`.
-/

set_option autoImplicit false

namespace DesignProps

theorem Json.truthy_of_key? {v : Json} {key : Key} (named : v.key? = some key) : key.truthy = true := by
  unfold Json.key? at named
  split at named
  · next counts =>
      cases v with
      | arr items => simp [Key.ofJson?] at named
      | obj members => simp [Key.ofJson?] at named
      | _ =>
          obtain rfl := Option.some.inj named
          exact counts
  · simp at named

namespace ReferenceMap

/-- Every key that shows or hides a swapped instance counts as present. -/
def Present (m : ReferenceMap) : Prop :=
  ∀ target r, m.instances.get? target = some r → ∀ key, r.visible = some key → key.truthy = true

theorem present_empty : Present empty := by
  intro target r found
  simp [empty] at found

theorem Present.addBinding {m : ReferenceMap} (present : m.Present) {b : Binding}
    (bound : ∀ key, b.visible = some key → key.truthy = true) : (m.addBinding b).Present := by
  intro target r found
  unfold ReferenceMap.addBinding at found
  cases swapped : b.target with
  | none =>
      simp only [swapped] at found
      exact present target r found
  | some own =>
      simp only [swapped, OrderedMap.get?_insert] at found
      split at found
      · obtain rfl := Option.some.inj found
        exact bound
      · exact present target r found

theorem Present.merge {a b : ReferenceMap} (first : a.Present) (second : b.Present) : (a.merge b).Present := by
  intro target r found
  rw [get?_instances_merge, Option.or_eq_some_iff] at found
  rcases found with new | ⟨-, old⟩
  · exact second target r new
  · exact first target r old

theorem Present.mergeAll : ∀ {maps : List ReferenceMap} {m : ReferenceMap}, m.Present → (∀ r ∈ maps, r.Present) →
    (m.mergeAll maps).Present := by
  intro maps
  induction maps with
  | nil => exact fun start _ => start
  | cons first rest ih =>
      intro m start each
      obtain ⟨now, later⟩ := List.forall_mem_cons.1 each
      exact ih (start.merge now) later

theorem present_ofBindings {bindings : List Binding}
    (bound : ∀ b ∈ bindings, ∀ key, b.visible = some key → key.truthy = true) : (ofBindings bindings).Present := by
  suffices every : ∀ m : ReferenceMap, m.Present → (bindings.foldl ReferenceMap.addBinding m).Present from
    every empty present_empty
  induction bindings with
  | nil => exact fun _ start => start
  | cons b rest ih =>
      intro m start
      obtain ⟨now, later⟩ := List.forall_mem_cons.1 bound
      exact ih later _ (start.addBinding now)

end ReferenceMap

/-! ## References of a document -/

/-- The references of a forest are read from what its nodes are bound to, in the order of a walk. -/
theorem ReferenceMap.ofForest_congr {ns ks : List Node}
    (bound : (Node.walkAll ns).map (fun n => n.data.references) = (Node.walkAll ks).map fun n => n.data.references) :
    ofForest ns = ofForest ks := by
  have each : ∀ ns : List Node, Binding.ofForest ns =
      ((Node.walkAll ns).map fun n => n.data.references).mapM Binding.read := by
    intro ns
    rw [List.mapM_map]
    rfl
  rw [ofForest, ofForest, each, each, bound]

theorem Node.present_references {n : Node} {main : Option Node} {r : ReferenceMap} (read : n.references main = .ok r) :
    r.Present := by
  obtain ⟨-, rfl⟩ := Node.references_eq_ok_iff.1 read
  refine ReferenceMap.present_ofBindings fun b inside key visible => ?_
  obtain ⟨d, -, rfl⟩ := List.mem_map.1 inside
  exact Json.truthy_of_key? visible

theorem Model.present_addEach (subjects : List Subject) : (empty.addEach subjects).references.Present := by
  rw [references_addEach]
  refine ReferenceMap.present_empty.mergeAll fun r inside => ?_
  obtain ⟨s, _, bound⟩ := List.mem_filterMap.1 inside
  unfold Subject.bindings? at bound
  split at bound
  · next raw references read =>
      obtain rfl := Option.some.inj bound
      exact Node.present_references (Subject.reading_ok read).2
  · simp at bound

end DesignProps
