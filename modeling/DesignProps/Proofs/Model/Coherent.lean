import DesignProps.Proofs.Model.Built
import DesignProps.Proofs.Property.Reordered

/-!
# Models of subjects that agree on their definitions

The first subject of a definition id files the definitions, the last one the name.  Where subjects of one id agree on
both, every subject meets the definitions it would have filed itself, up to their order, so a run succeeds exactly if
every subject alone does, and what is declared does not depend on the order of the run.

Main statements: `ofSubjects_ok_iff` (a coherent run succeeds exactly if every subject is sound),
`declaresAlike_addEach` (runs of matching subjects declare the same).
-/

set_option autoImplicit false

namespace DesignProps

namespace Subject

/-- The raw definitions as a map, empty without a definition node. -/
def ownDefinitions (s : Subject) : OrderedMap Key Json := (s.source.map fun source => source.data.definitions).getD .empty

theorem rawDefinitions_eq (s : Subject) : s.rawDefinitions = s.ownDefinitions.entries := by
  unfold rawDefinitions ownDefinitions
  cases s.source <;> rfl

/-- Subjects of one definition id agree on its display name and, in any order, on its raw definitions. -/
def Coherent (subjects : List Subject) : Prop :=
  ∀ s ∈ subjects, ∀ t ∈ subjects, s.definitionId = t.definitionId →
    s.displayName = t.displayName ∧ s.ownDefinitions.Reordered t.ownDefinitions

/-- A subject that makes a model of its own. -/
def Sound (s : Subject) : Prop :=
  ∃ raw references definitions properties, s.reading = .ok (raw, references) ∧
    (normalizeDefinitions s.rawDefinitions).result = .ok definitions ∧
    (normalizeValues definitions raw.entries).result = .ok properties

theorem normalized_of_reordered {s t : Subject} (reordered : s.ownDefinitions.Reordered t.ownDefinitions)
    {definitions : PropertyDefinitions} (made : (normalizeDefinitions s.rawDefinitions).result = .ok definitions) :
    ∃ others, (normalizeDefinitions t.rawDefinitions).result = .ok others ∧ definitions.Reordered others := by
  rw [rawDefinitions_eq] at made ⊢
  exact Progress.result_of_reordered reordered made

end Subject

namespace Model

variable {subjects : List Subject} {m : Model} {s : Subject}

/-! ## What subjects meet -/

/-- All definitions that are filed come from one of the subjects. -/
def FiledFrom (subjects : List Subject) (m : Model) : Prop :=
  ∀ id definitions, m.definitions.get? id = some definitions →
    ∃ t ∈ subjects, t.definitionId = id ∧ (normalizeDefinitions t.rawDefinitions).result = .ok definitions

theorem filedFrom_add (filed : FiledFrom subjects m) (inside : s ∈ subjects) : FiledFrom subjects (m.add s).1 := by
  intro id definitions found
  rw [get?_definitions_add, Option.or_eq_some_iff] at found
  rcases found with old | ⟨-, new⟩
  · exact filed id definitions old
  · exact ⟨s, inside, Subject.normalized_of_filing new⟩

theorem filedFrom_addEach (subjects : List Subject) : FiledFrom subjects (empty.addEach subjects) :=
  addEach_induction (P := FiledFrom subjects) subjects empty (fun _ _ found => by simp [empty] at found)
    fun _ _ inside filed => filedFrom_add filed inside

/-- What is filed for a subject is what it would file itself, up to order. -/
theorem own_of_filed (coherent : Subject.Coherent subjects) (filed : FiledFrom subjects m) (inside : s ∈ subjects)
    {definitions : PropertyDefinitions} (found : m.definitions.get? s.definitionId = some definitions) :
    ∃ own, (normalizeDefinitions s.rawDefinitions).result = .ok own ∧ definitions.Reordered own := by
  obtain ⟨t, among, same, made⟩ := filed _ definitions found
  exact Subject.normalized_of_reordered (coherent t among s inside same).2 made

theorem own_of_defined (coherent : Subject.Coherent subjects) (filed : FiledFrom subjects m) (inside : s ∈ subjects)
    {definitions : PropertyDefinitions} (defined : m.definitionsFor s = .ok definitions) :
    ∃ own, (normalizeDefinitions s.rawDefinitions).result = .ok own ∧ definitions.Reordered own := by
  unfold definitionsFor at defined
  split at defined
  · next known found =>
      obtain rfl := Except.ok.inj defined
      exact own_of_filed coherent filed inside found
  · exact ⟨definitions, defined, .refl definitions⟩

theorem defined_of_own (coherent : Subject.Coherent subjects) (filed : FiledFrom subjects m) (inside : s ∈ subjects)
    {own : PropertyDefinitions} (made : (normalizeDefinitions s.rawDefinitions).result = .ok own) :
    ∃ definitions, m.definitionsFor s = .ok definitions ∧ definitions.Reordered own := by
  unfold definitionsFor
  cases found : m.definitions.get? s.definitionId with
  | none => exact ⟨own, made, .refl own⟩
  | some definitions =>
      obtain ⟨other, also, reordered⟩ := own_of_filed coherent filed inside found
      obtain rfl := Except.ok.inj (also.symm.trans made)
      exact ⟨definitions, rfl, reordered⟩

/-! ## Runs -/

theorem add_isOk_iff (coherent : Subject.Coherent subjects) (filed : FiledFrom subjects m) (inside : s ∈ subjects) :
    (∃ c, (m.add s).2 = .ok c) ↔ s.Sound := by
  have step := addition m s
  generalize m.add s = result at step ⊢
  constructor
  · rintro ⟨c, added⟩
    cases step with
    | unread read => simp at added
    | undefined read defined => simp at added
    | unvalued read defined valued => simp at added
    | complete read defined valued =>
        obtain ⟨own, made, reordered⟩ := own_of_defined coherent filed inside defined
        exact ⟨_, _, own, _, read, made, normalizeValues_congr reordered _ ▸ valued⟩
  · rintro ⟨raw, references, own, properties, read, made, valued⟩
    obtain ⟨definitions, defined, reordered⟩ := defined_of_own coherent filed inside made
    rw [← normalizeValues_congr reordered] at valued
    cases step with
    | unread otherwise => simp [read] at otherwise
    | undefined _ otherwise => simp [defined] at otherwise
    | unvalued reading given otherwise =>
        simp only [read, Except.ok.injEq, Prod.mk.injEq] at reading
        simp only [defined, Except.ok.injEq] at given
        simp [← reading.1, ← given, valued] at otherwise
    | complete reading given answer => exact ⟨_, rfl⟩

theorem addAll_eq_none_iff (coherent : Subject.Coherent subjects) : ∀ (rest : List Subject) (m : Model),
    (∀ s ∈ rest, s ∈ subjects) → FiledFrom subjects m → ((m.addAll rest).2 = none ↔ ∀ s ∈ rest, s.Sound) := by
  intro rest
  induction rest with
  | nil => simp [addAll]
  | cons s rest ih =>
      intro m inside filed
      obtain ⟨first, inside⟩ := List.forall_mem_cons.1 inside
      have now := add_isOk_iff coherent filed first
      have later := ih (m.add s).1 inside (filedFrom_add filed first)
      simp only [addAll, List.forall_mem_cons, ← now, ← later]
      split
      · next next_ c added => simp [added]
      · next next_ e failed => simp [failed]

theorem ofSubjects_ok_iff (coherent : Subject.Coherent subjects) :
    ofSubjects subjects = .ok m ↔ (∀ s ∈ subjects, s.Sound) ∧ m = empty.addEach subjects := by
  have run := addAll_eq_none_iff coherent subjects empty (fun _ inside => inside) fun _ _ found => by simp [empty] at found
  constructor
  · intro built
    have clean := addAll_of_ofSubjects built
    exact ⟨run.1 (by rw [clean]), addAll_eq_addEach subjects empty m clean⟩
  · rintro ⟨sound, rfl⟩
    have clean : empty.addAll subjects = ((empty.addAll subjects).1, none) := Prod.ext rfl (run.2 sound)
    rw [ofSubjects, clean, ← addAll_eq_addEach subjects empty _ clean]

/-! ## What is declared -/

/-- Two models declare the same definitions by the same names, up to order. -/
structure DeclaresAlike (m n : Model) : Prop where
  ids : m.definitions.keys.Perm n.definitions.keys
  names : ∀ id, m.nameOf id = n.nameOf id
  definitions : ∀ id, (m.definitionsOf id).Reordered (n.definitionsOf id)

theorem get?_definitions_isSome_iff (sound : ∀ s ∈ subjects, s.Sound) (id : String) :
    ((empty.addEach subjects).definitions.get? id).isSome = true ↔ ∃ s ∈ subjects, s.definitionId = id := by
  constructor
  · intro known
    obtain ⟨definitions, found⟩ := Option.isSome_iff_exists.1 known
    obtain ⟨t, among, same, -⟩ := filedFrom_addEach subjects id definitions found
    exact ⟨t, among, same⟩
  · rintro ⟨s, inside, same⟩
    obtain ⟨raw, references, own, properties, read, made, valued⟩ := sound s inside
    have filed : s.filing? id = some own := by
      simp [Subject.filing?, same, Subject.normalized?, read, made, Except.toOption]
    rw [get?_definitions_addEach]
    simp only [empty, OrderedMap.get?_empty, Option.none_or, List.findSome?_isSome_iff]
    exact ⟨s, inside, by rw [filed, Option.isSome_some]⟩

theorem get?_names_isSome (subjects : List Subject) (id : String) :
    ((empty.addEach subjects).names.get? id).isSome = ((empty.addEach subjects).definitions.get? id).isSome := by
  have same : (empty.addEach subjects).definitions.keys = (empty.addEach subjects).names.keys :=
    addEach_induction (P := fun m => m.definitions.keys = m.names.keys) subjects empty rfl
      fun m s _ same => keys_names_add m s same
  change OrderedMap.contains _ id = OrderedMap.contains _ id
  rw [OrderedMap.contains_eq_any, OrderedMap.contains_eq_any, same]

theorem name_of_addEach (subjects : List Subject) : ∀ id name, (empty.addEach subjects).names.get? id = some name →
    ∃ s ∈ subjects, s.definitionId = id ∧ s.displayName = name := by
  refine addEach_induction (P := fun m => ∀ id name, m.names.get? id = some name →
    ∃ s ∈ subjects, s.definitionId = id ∧ s.displayName = name) subjects empty ?start ?step
  case start =>
    intro id name found
    simp [empty] at found
  case step =>
    intro m s inside known id name found
    rw [get?_names_add, Option.or_eq_some_iff] at found
    rcases found with new | ⟨-, old⟩
    · unfold Attempt.naming? at new
      split at new
      · next passed => exact ⟨s, inside, passed.1, Option.some.inj new⟩
      · simp at new
    · exact known id name old

end Model

/-! ## Subjects that match -/

/-- Two subjects that file the same, up to order, and succeed alike. -/
structure Subject.Matches (s t : Subject) : Prop where
  definitionId : s.definitionId = t.definitionId
  displayName : s.displayName = t.displayName
  definitions : s.ownDefinitions.Reordered t.ownDefinitions
  sound : s.Sound → t.Sound

namespace Subject

/-- Every subject of the one list has a match in the other one, and the other way round. -/
structure MatchEach (xs ys : List Subject) : Prop where
  left : ∀ s ∈ xs, ∃ t ∈ ys, s.Matches t
  right : ∀ t ∈ ys, ∃ s ∈ xs, s.Matches t

variable {xs ys : List Subject}

theorem agree_of_matchEach (matched : MatchEach xs ys) (coherent : Coherent xs) {s t : Subject} (inside : s ∈ xs)
    (among : t ∈ ys) (same : s.definitionId = t.definitionId) :
    s.displayName = t.displayName ∧ s.ownDefinitions.Reordered t.ownDefinitions := by
  obtain ⟨r, also, rt⟩ := matched.right t among
  obtain ⟨name, definitions⟩ := coherent s inside r also (same.trans rt.definitionId.symm)
  exact ⟨name.trans rt.displayName, definitions.trans rt.definitions⟩

theorem coherent_of_matchEach (matched : MatchEach xs ys) (coherent : Coherent xs) : Coherent ys := by
  intro t inside u among same
  obtain ⟨s, first, st⟩ := matched.right t inside
  obtain ⟨name, definitions⟩ := agree_of_matchEach matched coherent first among (st.definitionId.trans same)
  exact ⟨st.displayName.symm.trans name, st.definitions.symm.trans definitions⟩

theorem sound_of_matchEach (matched : MatchEach xs ys) (sound : ∀ s ∈ xs, s.Sound) : ∀ t ∈ ys, t.Sound := by
  intro t inside
  obtain ⟨s, among, st⟩ := matched.right t inside
  exact st.sound (sound s among)

theorem exists_definitionId_iff (matched : MatchEach xs ys) (id : String) :
    (∃ s ∈ xs, s.definitionId = id) ↔ ∃ t ∈ ys, t.definitionId = id := by
  constructor
  · rintro ⟨s, inside, same⟩
    obtain ⟨t, among, st⟩ := matched.left s inside
    exact ⟨t, among, st.definitionId.symm.trans same⟩
  · rintro ⟨t, inside, same⟩
    obtain ⟨s, among, st⟩ := matched.right t inside
    exact ⟨s, among, st.definitionId.trans same⟩

end Subject

namespace Model

section Matched
variable {xs ys : List Subject} (matched : Subject.MatchEach xs ys) (sound : ∀ s ∈ xs, s.Sound)
include matched sound

theorem definitions_isSome_of_matchEach (id : String) :
    ((empty.addEach xs).definitions.get? id).isSome = ((empty.addEach ys).definitions.get? id).isSome := by
  rw [Bool.eq_iff_iff, get?_definitions_isSome_iff sound,
    get?_definitions_isSome_iff (Subject.sound_of_matchEach matched sound)]
  exact Subject.exists_definitionId_iff matched id

variable (coherent : Subject.Coherent xs)
include coherent

theorem nameOf_of_matchEach (id : String) : (empty.addEach xs).nameOf id = (empty.addEach ys).nameOf id := by
  have named : ((empty.addEach xs).names.get? id).isSome = ((empty.addEach ys).names.get? id).isSome := by
    rw [get?_names_isSome, get?_names_isSome, definitions_isSome_of_matchEach matched sound]
  unfold nameOf
  cases here : (empty.addEach xs).names.get? id with
  | none =>
      rw [here, Option.isSome_none] at named
      rw [Option.not_isSome_iff_eq_none.1 (Bool.eq_false_iff.1 named.symm)]
  | some name =>
      rw [here, Option.isSome_some] at named
      obtain ⟨other, there⟩ := Option.isSome_iff_exists.1 named.symm
      obtain ⟨s, inside, first, rfl⟩ := name_of_addEach xs id name here
      obtain ⟨t, among, second, rfl⟩ := name_of_addEach ys id other there
      obtain ⟨name, -⟩ := Subject.agree_of_matchEach matched coherent inside among (first.trans second.symm)
      rw [there, Option.getD_some, Option.getD_some, name]

/-- Whichever subjects were the first of an id, they filed the same definitions, up to order. -/
theorem definitionsOf_of_matchEach (id : String) :
    ((empty.addEach xs).definitionsOf id).Reordered ((empty.addEach ys).definitionsOf id) := by
  have defined := definitions_isSome_of_matchEach matched sound id
  unfold definitionsOf
  cases here : (empty.addEach xs).definitions.get? id with
  | none =>
      rw [here, Option.isSome_none] at defined
      rw [Option.not_isSome_iff_eq_none.1 (Bool.eq_false_iff.1 defined.symm)]
      exact .refl _
  | some definitions =>
      rw [here, Option.isSome_some] at defined
      obtain ⟨others, there⟩ := Option.isSome_iff_exists.1 defined.symm
      obtain ⟨s, inside, first, made⟩ := filedFrom_addEach xs id definitions here
      obtain ⟨t, among, second, madeToo⟩ := filedFrom_addEach ys id others there
      obtain ⟨-, raws⟩ := Subject.agree_of_matchEach matched coherent inside among (first.trans second.symm)
      obtain ⟨found, result, reordered⟩ := Subject.normalized_of_reordered raws made
      obtain rfl := Except.ok.inj (result.symm.trans madeToo)
      rw [there]
      exact reordered

theorem declaresAlike_addEach : DeclaresAlike (empty.addEach xs) (empty.addEach ys) := by
  refine ⟨?ids, nameOf_of_matchEach matched sound coherent, definitionsOf_of_matchEach matched sound coherent⟩
  case ids =>
    refine (List.perm_ext_iff_of_nodup (OrderedMap.nodup_keys _) (OrderedMap.nodup_keys _)).2 fun id => ?_
    rw [← OrderedMap.contains_iff, ← OrderedMap.contains_iff, OrderedMap.contains, OrderedMap.contains,
      definitions_isSome_of_matchEach matched sound]

end Matched

end Model

end DesignProps
