import DesignProps.Proofs.Model.History
import DesignProps.Proofs.Reference.Merge

/-!
# Models that are built without a fault

The references of a run are merged from those of every node that could be read.  Where no node fails, every node has
been read and has its component, and each of them could have been added first.

Main statements: `references_addEach`, `done_of_addAll`, `component_of_built`, `ofSubjects_singleton`.
-/

set_option autoImplicit false

namespace DesignProps

namespace Subject

/-- The references that adding a subject merges in, if its values and bindings can be read. -/
def bindings? (s : Subject) : Option ReferenceMap :=
  match s.reading with
  | .ok (_, references) => some references
  | .error _ => none

end Subject

namespace Model

/-! ## References of a run -/

theorem references_add (m : Model) (s : Subject) :
    (m.add s).1.references = m.references.mergeAll s.bindings?.toList := by
  have step := addition m s
  generalize m.add s = result at step ⊢
  cases step with
  | unread read => simp [Subject.bindings?, read]
  | undefined read defined => simp [Subject.bindings?, read, fileReferences, ReferenceMap.mergeAll_cons]
  | unvalued read defined valued =>
      simp [Subject.bindings?, read, fileDefinitions, fileReferences, ReferenceMap.mergeAll_cons]
  | complete read defined valued =>
      simp [Subject.bindings?, read, fileComponent, fileDefinitions, fileReferences, ReferenceMap.mergeAll_cons]

theorem references_addEach : ∀ (subjects : List Subject) (m : Model),
    (m.addEach subjects).references = m.references.mergeAll (subjects.filterMap Subject.bindings?) := by
  intro subjects
  induction subjects with
  | nil => intro m; rfl
  | cons s rest ih =>
      intro m
      rw [addEach_cons, ih, references_add]
      cases known : s.bindings? with
      | none => simp [known]
      | some references => simp [known, ReferenceMap.mergeAll_cons]

/-! ## Runs in which no node fails -/

theorem reading_of_ok {m : Model} {s : Subject} {c : Component} (added : (m.add s).2 = .ok c) :
    ∃ raw references, s.reading = .ok (raw, references) := by
  have step := addition m s
  generalize m.add s = result at step added
  cases step with
  | unread read => simp at added
  | undefined read defined => exact ⟨_, _, read⟩
  | unvalued read defined valued => exact ⟨_, _, read⟩
  | complete read defined valued => exact ⟨_, _, read⟩

theorem stored_addEach (id : String) (subjects : List Subject) (m : Model)
    (stored : (m.components.get? id).isSome = true) : ((m.addEach subjects).components.get? id).isSome = true := by
  refine addEach_induction (P := fun m => (m.components.get? id).isSome = true) subjects m stored ?_
  intro n s _ known
  simp [get?_components_add, known]

theorem done_of_addAll : ∀ (subjects : List Subject) (m done : Model), m.addAll subjects = (done, none) →
    ∀ s ∈ subjects, (∃ raw references, s.reading = .ok (raw, references)) ∧
      (done.components.get? s.node.id).isSome = true := by
  intro subjects
  induction subjects with
  | nil => simp
  | cons first rest ih =>
      intro m done run s inside
      simp only [addAll] at run
      split at run
      · next after c added =>
          rcases List.mem_cons.1 inside with rfl | later
          · have stored : (after.components.get? s.node.id).isSome = true := by
              have step := get?_components_add m s s.node.id
              simp only [added, Except.toOption, if_true, Option.some_or] at step
              rw [step, Option.isSome_some]
            rw [addAll_eq_addEach rest after done run]
            exact ⟨reading_of_ok (m := m) (c := c) (by rw [added]), stored_addEach s.node.id rest after stored⟩
          · exact ih after done run s later
      · simp at run

theorem addAll_of_ofSubjects {subjects : List Subject} {m : Model} (built : ofSubjects subjects = .ok m) :
    empty.addAll subjects = (m, none) := by
  unfold ofSubjects at built
  split at built
  · next done run => exact run.trans (congrArg (·, none) (Except.ok.inj built))
  · simp at built

/-- The only subject of its node gives the component that is stored, by the definitions that are filed for it. -/
theorem component_of_built {subjects : List Subject} {m : Model} (built : ofSubjects subjects = .ok m) {s : Subject}
    (inside : s ∈ subjects) (only : ∀ t ∈ subjects, t.node.id = s.node.id → t = s) :
    ∃ raw references definitions properties, s.reading = .ok (raw, references) ∧
      m.definitions.get? s.definitionId = some definitions ∧
      (normalizeValues definitions raw.entries).result = .ok properties ∧
      m.components.get? s.node.id = some (s.component properties) := by
  have run := addAll_of_ofSubjects built
  obtain ⟨⟨raw, references, read⟩, kept⟩ := done_of_addAll _ _ _ run s inside
  obtain ⟨c, stored⟩ := Option.isSome_iff_exists.1 kept
  obtain rfl := addAll_eq_addEach _ _ _ run
  obtain ⟨t, among, same, values, definitions, properties, rawValues, filed, valued, rfl⟩ :=
    givenBy_addEach subjects _ c stored
  obtain rfl := only t among same
  obtain rfl : values = raw := Except.ok.inj (rawValues.symm.trans (Subject.reading_ok read).1)
  exact ⟨values, references, definitions, properties, read, filed, valued, stored⟩

/-- A node that is read, whose own definitions and values can be normalized, makes a model of its own. -/
theorem ofSubjects_singleton {s : Subject} {raw : OrderedMap Key Json} {references : ReferenceMap}
    {definitions : PropertyDefinitions} {properties : PropertyValues} (read : s.reading = .ok (raw, references))
    (own : (normalizeDefinitions s.rawDefinitions).result = .ok definitions)
    (valued : (normalizeValues definitions raw.entries).result = .ok properties) :
    ofSubjects [s] = .ok
      (((empty.fileReferences references).fileDefinitions s definitions).fileComponent (s.component properties)) := by
  have defined : empty.definitionsFor s = .ok definitions := own
  have step := addition empty s
  unfold ofSubjects addAll addAll
  generalize empty.add s = result at step ⊢
  cases step with
  | unread otherwise => simp [read] at otherwise
  | undefined _ otherwise => simp [defined] at otherwise
  | unvalued reading given otherwise =>
      simp only [read, Except.ok.injEq, Prod.mk.injEq] at reading
      simp only [defined, Except.ok.injEq] at given
      simp [← reading.1, ← given, valued] at otherwise
  | complete reading given answer =>
      simp only [read, Except.ok.injEq, Prod.mk.injEq] at reading
      simp only [defined, Except.ok.injEq] at given
      obtain ⟨rfl, rfl⟩ := reading
      subst given
      rw [valued] at answer
      obtain rfl := Except.ok.inj answer
      rfl

end Model

end DesignProps
