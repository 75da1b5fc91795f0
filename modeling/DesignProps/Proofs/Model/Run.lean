import DesignProps.Model.Builder
import DesignProps.Proofs.OrderedMap

/-!
# Adding nodes one by one

`Addition` lists all that an addition can do to a model: it stops at the node's own values or bindings, at the
definitions, at the values, or it goes through.  `addEach` adds nodes in order and goes on after one that fails;
`attempts` keeps the model that each of them met.

Main statements: `addition` (an addition is one of the four), `addEach_induction` (what every addition keeps holds
after any run), `addAll_eq_addEach` (a run without a fault is a run of `addAll`).
-/

set_option autoImplicit false

namespace DesignProps

/-- The definition node of the instances of a component: the group it is a variant of, else the component itself. -/
def Located.definitionNode (l : Located) : Node :=
  match l.parent? with
  | some parent => if parent.isGroup then parent else l.node
  | none => l.node

/-- A component that is no variant is its own definition node. -/
theorem Located.definitionNode_of_plain {l : Located}
    (plain : ∀ parent, l.parent? = some parent → parent.isGroup = false) : l.definitionNode = l.node := by
  unfold definitionNode
  cases above : l.parent? with
  | none => rfl
  | some parent => simp only [plain parent above, Bool.false_eq_true, if_false]

namespace Subject

theorem source_eq (s : Subject) :
    s.source = if s.node.isInstance then s.main.map Located.definitionNode else some s.node := rfl

/-- What an addition reads before it looks at the model. -/
def reading (s : Subject) : Except Fault (OrderedMap Key Json × ReferenceMap) :=
  match s.rawValues, s.references with
  | .ok raw, .ok references => .ok (raw, references)
  | .ok _, .error e => .error e
  | .error e, _ => .error e

/-- The component a subject gives with the properties its values are normalized to. -/
def component (s : Subject) (properties : PropertyValues) : Component :=
  ⟨s.node.id, s.displayName, s.definitionId, properties⟩

theorem reading_ok {s : Subject} {raw : OrderedMap Key Json} {references : ReferenceMap}
    (read : s.reading = .ok (raw, references)) : s.rawValues = .ok raw ∧ s.references = .ok references := by
  unfold reading at read
  cases values : s.rawValues with
  | error e => simp [values] at read
  | ok found =>
      cases bindings : s.references with
      | error e => simp [values, bindings] at read
      | ok map =>
          simp only [values, bindings, Except.ok.injEq, Prod.mk.injEq] at read
          exact ⟨congrArg _ read.1, congrArg _ read.2⟩

end Subject

namespace Model

/-! ## One addition -/

/-- What an addition leaves behind and answers. -/
inductive Addition (m : Model) (s : Subject) : Model × Except Fault Component → Prop
  /-- The node's own values or bindings cannot be read. -/
  | unread {e : Fault} (read : s.reading = .error e) : Addition m s (m, .error e)
  /-- There are no definitions for the node yet, and its own cannot be normalized. -/
  | undefined {raw : OrderedMap Key Json} {references : ReferenceMap} {e : Fault}
      (read : s.reading = .ok (raw, references)) (defined : m.definitionsFor s = .error e) :
      Addition m s (m.fileReferences references, .error e)
  /-- The values cannot be normalized. -/
  | unvalued {raw : OrderedMap Key Json} {references : ReferenceMap} {definitions : PropertyDefinitions} {e : Fault}
      (read : s.reading = .ok (raw, references)) (defined : m.definitionsFor s = .ok definitions)
      (valued : (normalizeValues definitions raw.entries).result = .error e) :
      Addition m s ((m.fileReferences references).fileDefinitions s definitions, .error e)
  | complete {raw : OrderedMap Key Json} {references : ReferenceMap} {definitions : PropertyDefinitions}
      {properties : PropertyValues} (read : s.reading = .ok (raw, references))
      (defined : m.definitionsFor s = .ok definitions)
      (valued : (normalizeValues definitions raw.entries).result = .ok properties) :
      Addition m s
        (((m.fileReferences references).fileDefinitions s definitions).fileComponent (s.component properties),
          .ok (s.component properties))

theorem addition (m : Model) (s : Subject) : Addition m s (m.add s) := by
  cases values : s.rawValues with
  | error e =>
      have read : s.reading = .error e := by simp only [Subject.reading, values]
      simpa only [add, values] using Addition.unread read
  | ok raw =>
      cases bindings : s.references with
      | error e =>
          have read : s.reading = .error e := by simp only [Subject.reading, values, bindings]
          simpa only [add, values, bindings] using Addition.unread read
      | ok references =>
          have read : s.reading = .ok (raw, references) := by simp only [Subject.reading, values, bindings]
          cases defined : m.definitionsFor s with
          | error e =>
              simpa only [add, values, bindings, definitionsFor_fileReferences, defined] using
                Addition.undefined read defined
          | ok definitions =>
              cases valued : (normalizeValues definitions raw.entries).result with
              | error e =>
                  simpa only [add, values, bindings, definitionsFor_fileReferences, defined, valued] using
                    Addition.unvalued read defined valued
              | ok properties =>
                  simpa only [add, values, bindings, definitionsFor_fileReferences, defined, valued,
                    Subject.component] using Addition.complete read defined valued

/-! ## Runs -/

/-- Adds nodes in order and goes on after one that fails. -/
def addEach (m : Model) (subjects : List Subject) : Model := subjects.foldl (fun m s => (m.add s).1) m

@[simp] theorem addEach_nil (m : Model) : m.addEach [] = m := rfl

@[simp] theorem addEach_cons (m : Model) (s : Subject) (rest : List Subject) :
    m.addEach (s :: rest) = (m.add s).1.addEach rest := rfl

theorem addEach_append (m : Model) (first rest : List Subject) :
    m.addEach (first ++ rest) = (m.addEach first).addEach rest := by
  simp [addEach]

theorem addEach_induction {P : Model → Prop} : ∀ (subjects : List Subject) (m : Model), P m →
    (∀ m, ∀ s ∈ subjects, P m → P (m.add s).1) → P (m.addEach subjects) := by
  intro subjects
  induction subjects with
  | nil => exact fun _ start _ => start
  | cons s rest ih =>
      intro m start keeps
      exact ih (m.add s).1 (keeps m s List.mem_cons_self start)
        fun n t inside => keeps n t (List.mem_cons_of_mem s inside)

/-- A node to be added and the model it met. -/
structure Attempt where
  model : Model
  subject : Subject

def attempts (m : Model) : List Subject → List Attempt
  | [] => []
  | s :: rest => ⟨m, s⟩ :: (m.add s).1.attempts rest

/-! ## Where a component comes from -/

/-- A component is what a subject gives with the definitions that are filed for it. -/
def GivenBy (m : Model) (s : Subject) (c : Component) : Prop :=
  ∃ raw definitions properties, s.rawValues = .ok raw ∧ m.definitions.get? s.definitionId = some definitions ∧
    (normalizeValues definitions raw.entries).result = .ok properties ∧ c = s.component properties

theorem givenBy_add {m : Model} {s : Subject} {c : Component} (given : GivenBy m s c) (t : Subject) :
    GivenBy (m.add t).1 s c := by
  obtain ⟨raw, definitions, properties, values, filed, valued, same⟩ := given
  exact ⟨raw, definitions, properties, values, add_definitions_of_mem m t _ definitions filed, valued, same⟩

theorem get?_fileDefinitions {m : Model} {s : Subject} {definitions : PropertyDefinitions}
    (defined : m.definitionsFor s = .ok definitions) (references : ReferenceMap) :
    ((m.fileReferences references).fileDefinitions s definitions).definitions.get? s.definitionId =
      some definitions := by
  simp only [fileDefinitions, fileReferences, OrderedMap.get?_insertNew, BEq.rfl, if_true]
  unfold definitionsFor at defined
  cases filed : m.definitions.get? s.definitionId with
  | none => rfl
  | some known =>
      rw [filed] at defined
      exact congrArg some (Except.ok.inj defined)

theorem get?_components_add (m : Model) (s : Subject) (id : String) :
    (m.add s).1.components.get? id =
      (if s.node.id = id then (m.add s).2.toOption else none).or (m.components.get? id) := by
  have step := addition m s
  generalize m.add s = result at step ⊢
  cases step with
  | unread read => simp [Except.toOption]
  | undefined read defined => simp [Except.toOption, fileReferences]
  | unvalued read defined valued => simp [Except.toOption, fileReferences, fileDefinitions]
  | complete read defined valued =>
      simp only [fileComponent, fileDefinitions, fileReferences, OrderedMap.get?_insert, Except.toOption,
        Subject.component, beq_iff_eq]
      split <;> rfl

theorem givenBy_of_ok {m : Model} {s : Subject} {c : Component} (added : (m.add s).2 = .ok c) :
    s.node.id = c.id ∧ GivenBy (m.add s).1 s c := by
  have step := addition m s
  generalize m.add s = result at step added ⊢
  cases step with
  | unread read => simp at added
  | undefined read defined => simp at added
  | unvalued read defined valued => simp at added
  | complete read defined valued =>
      obtain rfl := Except.ok.inj added
      exact ⟨rfl, _, _, _, (Subject.reading_ok read).1, get?_fileDefinitions defined _, valued, rfl⟩

theorem givenBy_addEach (subjects : List Subject) : ∀ id c,
    (empty.addEach subjects).components.get? id = some c →
      ∃ s ∈ subjects, s.node.id = id ∧ GivenBy (empty.addEach subjects) s c := by
  refine addEach_induction (P := fun m => ∀ id c, m.components.get? id = some c →
    ∃ s ∈ subjects, s.node.id = id ∧ GivenBy m s c) subjects empty ?start ?step
  case start =>
    intro id c found
    simp [empty] at found
  case step =>
    intro m s inside known id c found
    rw [get?_components_add, Option.or_eq_some_iff] at found
    rcases found with new | ⟨-, old⟩
    · split at new
      · next same =>
          refine ⟨s, inside, same, (givenBy_of_ok ?_).2⟩
          cases answer : (m.add s).2 with
          | error e => simp [answer, Except.toOption] at new
          | ok d =>
              rw [answer] at new
              exact congrArg _ (Option.some.inj new)
      · simp at new
    · obtain ⟨t, member, same, given⟩ := known id c old
      exact ⟨t, member, same, givenBy_add given s⟩

theorem addAll_eq_addEach : ∀ (subjects : List Subject) (m done : Model), m.addAll subjects = (done, none) →
    done = m.addEach subjects := by
  intro subjects
  induction subjects with
  | nil =>
      intro m done run
      simpa [addAll] using run.symm
  | cons s rest ih =>
      intro m done run
      simp only [addAll] at run
      split at run
      · next after c added =>
          rw [addEach_cons, added]
          exact ih after done run
      · simp at run

end Model

end DesignProps
