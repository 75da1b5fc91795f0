import DesignProps.Proofs.Model.Run

/-!
# What a model records of its history

A model that nodes were added to one by one, failures included, is told from the attempts alone: definitions come from
the first subject whose own were normalized, display names from the last attempt that had definitions, components
from the last attempt that went through, at the position of the first one.

Main statements: `addEach_records`, `others_add` (an addition touches its own entries only).
-/

set_option autoImplicit false

namespace DesignProps

namespace Subject

/-- The definitions a subject normalizes itself, if its values and bindings can be read and its raw map has no fault. -/
def normalized? (s : Subject) : Option PropertyDefinitions :=
  match s.reading with
  | .ok _ => (normalizeDefinitions s.rawDefinitions).result.toOption
  | .error _ => none

/-- The definitions a subject has to file under an id. -/
def filing? (id : String) (s : Subject) : Option PropertyDefinitions :=
  if s.definitionId = id then s.normalized? else none

theorem normalized_of_filing {id : String} {s : Subject} {definitions : PropertyDefinitions}
    (filed : s.filing? id = some definitions) :
    s.definitionId = id ∧ (normalizeDefinitions s.rawDefinitions).result = .ok definitions := by
  unfold filing? normalized? at filed
  split at filed
  · next same =>
      split at filed
      · cases made : (normalizeDefinitions s.rawDefinitions).result with
        | error e => simp [made, Except.toOption] at filed
        | ok found =>
            rw [made] at filed
            exact ⟨same, congrArg _ (Option.some.inj filed)⟩
      · simp at filed
  · simp at filed

end Subject

namespace Model

namespace Attempt

/-- Whether the attempt got past the definitions, its own ones or those filed before. -/
def passed (a : Attempt) : Bool := a.subject.reading.isOk && (a.model.definitionsFor a.subject).isOk

def naming? (id : String) (a : Attempt) : Option String :=
  if a.subject.definitionId = id ∧ a.passed = true then some a.subject.displayName else none

/-- The component an attempt answers, if it goes through. -/
def component? (a : Attempt) : Option Component := (a.model.add a.subject).2.toOption

def storing? (id : String) (a : Attempt) : Option Component :=
  if a.subject.node.id = id then a.component? else none

end Attempt

/-! ## One addition -/

theorem get?_definitions_filed {m : Model} {s : Subject} {raw : OrderedMap Key Json} {references : ReferenceMap}
    {definitions : PropertyDefinitions} (read : s.reading = .ok (raw, references))
    (defined : m.definitionsFor s = .ok definitions) (id : String) :
    ((m.fileReferences references).fileDefinitions s definitions).definitions.get? id =
      (m.definitions.get? id).or (s.filing? id) := by
  simp only [fileDefinitions, fileReferences, OrderedMap.get?_insertNew, Subject.filing?, Subject.normalized?, read,
    beq_iff_eq]
  by_cases same : s.definitionId = id
  · subst same
    -- only a subject that finds nothing filed has normalized definitions of its own
    unfold definitionsFor at defined
    cases filed : m.definitions.get? s.definitionId with
    | some known => rfl
    | none =>
        rw [filed] at defined
        simp [defined, Except.toOption]
  · simp only [if_neg same]

theorem get?_definitions_add (m : Model) (s : Subject) (id : String) :
    (m.add s).1.definitions.get? id = (m.definitions.get? id).or (s.filing? id) := by
  have step := addition m s
  generalize m.add s = result at step ⊢
  cases step with
  | unread read => simp [Subject.filing?, Subject.normalized?, read]
  | @undefined raw references e read defined =>
      have own : (normalizeDefinitions s.rawDefinitions).result = .error e := by
        unfold definitionsFor at defined
        split at defined
        · simp at defined
        · exact defined
      simp [fileReferences, Subject.filing?, Subject.normalized?, read, own, Except.toOption]
  | unvalued read defined valued => exact get?_definitions_filed read defined id
  | complete read defined valued => exact get?_definitions_filed read defined id

theorem passed_of_defined {m : Model} {s : Subject} {raw : OrderedMap Key Json} {references : ReferenceMap}
    {definitions : PropertyDefinitions} (read : s.reading = .ok (raw, references))
    (defined : m.definitionsFor s = .ok definitions) : (Attempt.mk m s).passed = true := by
  simp [Attempt.passed, read, defined, Except.isOk, Except.toBool]

theorem get?_names_filed {m : Model} {s : Subject} (passed : (Attempt.mk m s).passed = true)
    (references : ReferenceMap) (definitions : PropertyDefinitions) (id : String) :
    ((m.fileReferences references).fileDefinitions s definitions).names.get? id =
      (Attempt.naming? id ⟨m, s⟩).or (m.names.get? id) := by
  simp only [fileDefinitions, fileReferences, OrderedMap.get?_insert, Attempt.naming?, passed, and_true, beq_iff_eq]
  split <;> rfl

theorem get?_names_add (m : Model) (s : Subject) (id : String) :
    (m.add s).1.names.get? id = (Attempt.naming? id ⟨m, s⟩).or (m.names.get? id) := by
  have step := addition m s
  generalize m.add s = result at step ⊢
  cases step with
  | unread read => simp [Attempt.naming?, Attempt.passed, read, Except.isOk, Except.toBool]
  | undefined read defined =>
      simp [Attempt.naming?, Attempt.passed, defined, Except.isOk, Except.toBool, fileReferences]
  | unvalued read defined valued => exact get?_names_filed (passed_of_defined read defined) _ _ id
  | @complete _ references definitions _ read defined valued =>
      exact get?_names_filed (passed_of_defined read defined) references definitions id

theorem keys_components_add (m : Model) (s : Subject) :
    (m.add s).1.components.keys =
      (m.components.keys ++ (Attempt.component? ⟨m, s⟩).toList.map Component.id).eraseDups := by
  have stay : (m.components.keys ++ []).eraseDups = m.components.keys := by
    rw [List.append_nil, OrderedMap.eraseDups_keys]
  unfold Attempt.component?
  have step := addition m s
  generalize m.add s = result at step ⊢
  cases step with
  | unread read => exact stay.symm
  | undefined read defined => exact stay.symm
  | unvalued read defined valued => exact stay.symm
  | complete read defined valued => exact OrderedMap.keys_insert m.components _ _

theorem keys_names_add (m : Model) (s : Subject) (same : m.definitions.keys = m.names.keys) :
    (m.add s).1.definitions.keys = (m.add s).1.names.keys := by
  have filed : ∀ references definitions,
      ((m.fileReferences references).fileDefinitions s definitions).definitions.keys =
        ((m.fileReferences references).fileDefinitions s definitions).names.keys := by
    intro references definitions
    simp only [fileDefinitions, fileReferences, OrderedMap.keys_insertNew, OrderedMap.keys_insert, same]
  have step := addition m s
  generalize m.add s = result at step ⊢
  cases step with
  | unread read => exact same
  | undefined read defined => exact same
  | unvalued read defined valued => exact filed _ _
  | complete read defined valued => exact filed _ _

/-- Two models have the same entries but for one node and one definition. -/
structure AgreeApartFrom (s : Subject) (m n : Model) : Prop where
  components : m.components.others s.node.id = n.components.others s.node.id
  definitions : m.definitions.others s.definitionId = n.definitions.others s.definitionId
  names : m.names.others s.definitionId = n.names.others s.definitionId

theorem others_add (m : Model) (s : Subject) : AgreeApartFrom s (m.add s).1 m := by
  have filed : ∀ references definitions,
      AgreeApartFrom s ((m.fileReferences references).fileDefinitions s definitions) m := by
    intro references definitions
    exact ⟨rfl, OrderedMap.others_insertNew m.definitions _ _, OrderedMap.others_insert m.names _ _⟩
  have step := addition m s
  generalize m.add s = result at step ⊢
  cases step with
  | unread read => exact ⟨rfl, rfl, rfl⟩
  | undefined read defined => exact ⟨rfl, rfl, rfl⟩
  | unvalued read defined valued => exact filed _ _
  | @complete _ references definitions _ read defined valued =>
      obtain ⟨-, sameDefinitions, sameNames⟩ := filed references definitions
      exact ⟨OrderedMap.others_insert m.components _ _, sameDefinitions, sameNames⟩

/-! ## Runs -/

theorem get?_definitions_addEach (id : String) : ∀ (subjects : List Subject) (m : Model),
    (m.addEach subjects).definitions.get? id =
      (m.definitions.get? id).or (subjects.findSome? (Subject.filing? id)) := by
  intro subjects
  induction subjects with
  | nil => intro m; simp
  | cons s rest ih =>
      intro m
      rw [addEach_cons, ih, get?_definitions_add, Option.or_assoc, ← List.singleton_append, List.findSome?_append,
        List.findSome?_singleton]

theorem get?_names_addEach (id : String) : ∀ (subjects : List Subject) (m : Model),
    (m.addEach subjects).names.get? id =
      ((m.attempts subjects).reverse.findSome? (Attempt.naming? id)).or (m.names.get? id) := by
  intro subjects
  induction subjects with
  | nil => intro m; simp [attempts]
  | cons s rest ih =>
      -- the attempts are gone through from the last one, so the first addition answers only where none of the rest does
      intro m
      rw [addEach_cons, ih, get?_names_add, attempts, List.reverse_cons, List.findSome?_append,
        List.findSome?_singleton, Option.or_assoc]

theorem get?_components_addEach (id : String) : ∀ (subjects : List Subject) (m : Model),
    (m.addEach subjects).components.get? id =
      ((m.attempts subjects).reverse.findSome? (Attempt.storing? id)).or (m.components.get? id) := by
  intro subjects
  induction subjects with
  | nil => intro m; simp [attempts]
  | cons s rest ih =>
      intro m
      rw [addEach_cons, ih, get?_components_add, attempts, List.reverse_cons, List.findSome?_append,
        List.findSome?_singleton, Option.or_assoc]
      rfl

def answeredIds (as : List Attempt) : List String := (as.filterMap Attempt.component?).map Component.id

theorem keys_components_addEach : ∀ (subjects : List Subject) (m : Model),
    (m.addEach subjects).components.keys =
      (m.components.keys ++ answeredIds (m.attempts subjects)).eraseDups := by
  intro subjects
  induction subjects with
  | nil =>
      intro m
      simp [attempts, answeredIds, OrderedMap.eraseDups_keys]
  | cons s rest ih =>
      intro m
      have split : answeredIds (m.attempts (s :: rest)) =
          (Attempt.component? ⟨m, s⟩).toList.map Component.id ++ answeredIds ((m.add s).1.attempts rest) := by
        cases answer : Attempt.component? ⟨m, s⟩ <;> simp [attempts, answeredIds, answer]
      rw [addEach_cons, ih, keys_components_add, eraseDups_eraseDups_append, split, List.append_assoc]

/-! ## All of it -/

/-- What a model holds after subjects were added one by one, told from the attempts. -/
structure Records (subjects : List Subject) (m : Model) : Prop where
  keys : m.definitions.keys = m.names.keys
  stored : ∀ id c, m.components.get? id = some c →
    c.id = id ∧ c.definition ∈ m.definitions.keys ∧ c.definition ∈ m.names.keys
  /-- A component is what one of the subjects of its node gives with the definitions that are filed. -/
  given : ∀ id c, m.components.get? id = some c → ∃ s ∈ subjects, s.node.id = id ∧ GivenBy m s c
  /-- The first subject of an id whose own definitions could be normalized gives them. -/
  definitions : ∀ id, m.definitions.get? id = subjects.findSome? (Subject.filing? id)
  /-- The last attempt of an id that got past the definitions gives the name. -/
  names : ∀ id, m.names.get? id = (empty.attempts subjects).reverse.findSome? (Attempt.naming? id)
  /-- The last attempt of a node that went through gives the component. -/
  components : ∀ id, m.components.get? id = (empty.attempts subjects).reverse.findSome? (Attempt.storing? id)
  /-- A component stands where the first attempt of its node that went through put it. -/
  positions : m.components.keys = (answeredIds (empty.attempts subjects)).eraseDups

/-- After any run, failures included, a model holds what the attempts say; definitions that are filed stay in every
longer run, and the next addition touches the entries of its own node and definition only. -/
theorem addEach_records (subjects : List Subject) :
    Records subjects (empty.addEach subjects) ∧
      (∀ later id definitions, (empty.addEach subjects).definitions.get? id = some definitions →
        (empty.addEach (subjects ++ later)).definitions.get? id = some definitions) ∧
      ∀ next, AgreeApartFrom next (empty.addEach (subjects ++ [next])) (empty.addEach subjects) := by
  have keys : (empty.addEach subjects).definitions.keys = (empty.addEach subjects).names.keys :=
    addEach_induction (P := fun m => m.definitions.keys = m.names.keys) subjects empty rfl
      fun m s _ same => keys_names_add m s same
  refine ⟨⟨keys, ?stored, givenBy_addEach subjects, ?definitions, ?names, ?components, ?positions⟩, ?kept, ?apart⟩
  case stored =>
    intro id c found
    obtain ⟨s, _, same, _, definitions, _, _, filed, _, rfl⟩ := givenBy_addEach subjects id c found
    have inside : s.definitionId ∈ (empty.addEach subjects).definitions.keys := by
      rw [← OrderedMap.contains_iff, OrderedMap.contains, filed, Option.isSome_some]
    exact ⟨same, inside, keys ▸ inside⟩
  case definitions =>
    intro id
    rw [get?_definitions_addEach]
    rfl
  case names =>
    intro id
    rw [get?_names_addEach]
    exact Option.or_none
  case components =>
    intro id
    rw [get?_components_addEach]
    exact Option.or_none
  case positions =>
    rw [keys_components_addEach]
    rfl
  case kept =>
    intro later id definitions filed
    rw [addEach_append, get?_definitions_addEach, filed, Option.some_or]
  case apart =>
    intro next
    rw [addEach_append, addEach_cons, addEach_nil]
    exact others_add _ next

end Model

end DesignProps
