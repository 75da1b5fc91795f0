import DesignProps.Proofs.Key.Order
import DesignProps.Proofs.Naming.Spelling
import DesignProps.Proofs.Target.BlockLines
import DesignProps.Proofs.Traversal
import DesignProps.Target.Output

/-!
# What stubs declare

The stub of a component is written in several places: the fields of its interface, the parameters of a component, the
defaults of a setup call and the props of an options call.  All of them begin with the name of a property.  Read back
from there, they name the same properties in the same order, and only those without a default differ: a parameter is
bare, and an object of defaults leaves them out.  The blocks end in the lines of these listings.

Main statements: `Block.leadingName_identifier`, `Generator.sortedKeys_isOk_iff`, `Generator.keptLines_ok`,
`Generator.stubs_declare_alike`.
-/

set_option autoImplicit false

namespace DesignProps

/-! ## Lines that begin with a name -/

namespace Block

/-- A character of an identifier. -/
def isNameChar (c : Char) : Bool := c.isAlphanum || c == '_'

/-- The name a line begins with. -/
def leadingName (line : String) : String := String.ofList (line.toList.takeWhile isNameChar)

/-- A name and a comma. -/
def isBareLine (line : String) : Bool := line == leadingName line ++ ","

theorem isNameChar_of_mem_identifier {key : Key} {c : Char} (inside : c ∈ (Naming.identifier key).toList) :
    isNameChar c = true := by
  obtain ⟨word, spelled, same⟩ := Naming.exists_word_of_identifier key
  obtain ⟨d, rest, begins, letter, others⟩ := Naming.exists_of_mem_one_mul_star spelled
  have plain : ∀ e ∈ word.toList, e.isAlphanum = true := by
    rw [begins]
    refine List.forall_mem_cons.2 ⟨?_, others⟩
    simp [Char.isAlphanum, Char.isAlpha, letter]
  rw [same] at inside
  split at inside
  · rw [String.toList_append, List.mem_append] at inside
    rcases inside with own | suffix
    · simp [isNameChar, plain c own]
    · obtain rfl : c = '_' := List.mem_singleton.1 suffix
      rfl
  · simp [isNameChar, plain c inside]

/-- An identifier ends at a mark that no name holds. -/
theorem leadingName_identifier (key : Key) (mark rest : String)
    (stops : mark.toList.head?.map isNameChar = some false) :
    leadingName (Naming.identifier key ++ (mark ++ rest)) = Naming.identifier key := by
  have own : ∀ c ∈ (Naming.identifier key).toList, isNameChar c = true := fun _ => isNameChar_of_mem_identifier
  have ended : (mark ++ rest).toList.takeWhile isNameChar = [] := by
    obtain ⟨c, first, other⟩ := Option.map_eq_some_iff.1 stops
    obtain ⟨others, begins⟩ := List.head?_eq_some_iff.1 first
    rw [String.toList_append, begins, List.cons_append, List.takeWhile_cons_of_neg (Bool.eq_false_iff.1 other)]
  rw [leadingName, String.toList_append, List.takeWhile_append_of_pos own, ended, List.append_nil, String.ofList_toList]

theorem ne_empty_of_leadingName {line : String} {key : Key} (begins : leadingName line = Naming.identifier key) :
    line ≠ "" := by
  rintro rfl
  obtain ⟨word, spelled, same⟩ := Naming.exists_word_of_identifier key
  obtain ⟨c, rest, letters, -⟩ := Naming.exists_of_mem_one_mul_star spelled
  have empty : Naming.identifier key = "" := begins.symm
  rw [same] at empty
  split at empty
  · simp at empty
  · rw [empty] at letters
    simp at letters

end Block

namespace Generator

open Block

/-! ## Lines of one property -/

theorem leadingName_fieldLine (target : Target) (owner : String) (key : Key) (d : PropertyDefinition) :
    leadingName (fieldLine target owner key d) = Naming.identifier key := by
  simpa only [fieldLine, String.append_assoc] using leadingName_identifier key "?: " _ rfl

theorem leadingName_inputLine (g : Generator) (key : Key) (d : PropertyDefinition) :
    leadingName (g.inputLine key d) = Naming.identifier key := by
  unfold inputLine
  cases g.defaultText d with
  | none => exact leadingName_identifier key "," "" rfl
  | some value => simpa only [String.append_assoc] using leadingName_identifier key " = " (value ++ ",") rfl

theorem leadingName_defaultEntry {g : Generator} {key : Key} {d : PropertyDefinition} {line : String}
    (entry : g.defaultEntry key d = some line) : leadingName line = Naming.identifier key := by
  obtain ⟨value, -, rfl⟩ := Option.map_eq_some_iff.1 entry
  simpa only [String.append_assoc] using leadingName_identifier key ": " (value ++ ",") rfl

/-- A parameter is bare exactly if it has no default. -/
theorem isBareLine_inputLine (g : Generator) (key : Key) (d : PropertyDefinition) :
    isBareLine (g.inputLine key d) = (g.defaultText d).isNone := by
  rw [isBareLine, leadingName_inputLine, inputLine]
  cases g.defaultText d with
  | none => exact beq_self_eq_true _
  | some value =>
      refine beq_eq_false_iff_ne.2 fun same => ?_
      dsimp only at same
      rw [String.append_assoc, String.append_assoc, String.append_right_inj] at same
      have first := congrArg (fun text => text.toList.head?) same
      simp at first

/-! ## Keys in order -/

section Keys
variable {keys sorted : List Key}

def named (key : Key) : String × Key := (Naming.identifier key, key)

theorem sortedKeys_isOk_iff : (∃ sorted, sortedKeys keys = .ok sorted) ↔
    ∀ a ∈ keys, ∀ b ∈ keys, Naming.identifier a = Naming.identifier b → a.group = b.group := by
  have listed := Key.sortNamed_isOk_iff (keys.map named)
  simp only [List.forall_mem_map, Key.Alike, named] at listed
  rw [← listed]
  simp only [sortedKeys, map_eq_ok_iff]
  constructor
  · rintro ⟨_, found, done, -⟩
    exact ⟨found, done⟩
  · rintro ⟨found, done⟩
    exact ⟨_, found, done, rfl⟩

theorem sortedKeys_pairwise (done : sortedKeys keys = .ok sorted) :
    (sorted.map named).Pairwise fun a b => Key.namedLe a b = true := by
  obtain ⟨found, sort, rfl⟩ := map_eq_ok_iff.1 done
  have each : ∀ e ∈ found, named e.2 = e := by
    intro e inside
    obtain ⟨key, -, rfl⟩ := List.mem_map.1 ((Key.sortNamed_perm sort).mem_iff.1 inside)
    rfl
  have same : (found.map Prod.snd).map named = found := by
    rw [List.map_map]
    exact (List.map_congr_left each).trans (List.map_id' _)
  rw [same, Key.sortNamed_ok sort]
  exact Sorting.pairwise_sort Key.namedLe_total Key.namedLe_trans _

/-- The keys that are declared are those of the properties that are shown. -/
theorem keys_filterMap_shown (definitions : PropertyDefinitions) (known : ∀ key ∈ keys, key ∈ definitions.keys) :
    (keys.filterMap (shown? definitions)).map Prod.fst = keys.filter fun key => !isHidden definitions key := by
  rw [List.map_filterMap, ← List.filterMap_eq_filter]
  refine List.filterMap_congr fun key inside => ?_
  unfold shown? isHidden
  cases found : definitions.get? key with
  | none =>
      have absent := (definitions.get?_eq_none_iff key).1 found key (known key inside)
      simp at absent
  | some d => cases hidden : d.hidden <;> simp [Option.guard, found, hidden]

end Keys

/-! ## Lines of all properties -/

/-- One line for each key in order, an empty one where there is nothing to write, and then without the empty ones. -/
def keptLines (line : Key → PropertyDefinition → Option String) (definitions : PropertyDefinitions) :
    Except Fault (List String) :=
  (sortedKeys definitions.keys).map fun keys =>
    (keys.map fun key => ((shown? definitions key).bind fun e => line e.1 e.2).getD "").filter (· ≠ "")

/-- What is hidden can be left out before or after it is written. -/
theorem keptLines_ok {line : Key → PropertyDefinition → Option String}
    (something : ∀ key d text, line key d = some text → text ≠ "") {definitions : PropertyDefinitions} {ps : Declared}
    (shown : declared definitions = .ok ps) :
    keptLines line definitions = .ok (ps.filterMap fun e => line e.1 e.2) := by
  obtain ⟨keys, done, rfl⟩ := map_eq_ok_iff.1 shown
  refine map_eq_ok_iff.2 ⟨keys, done, ?_⟩
  rw [List.filterMap_filterMap]
  -- which keys these are, and in which order, does not matter
  clear done shown
  induction keys with
  | nil => rfl
  | cons key rest ih =>
      rw [List.map_cons, List.filterMap_cons]
      cases made : (shown? definitions key).bind fun e => line e.1 e.2 with
      | none => simpa using ih
      | some text =>
          obtain ⟨e, -, written⟩ := Option.bind_eq_some_iff.1 made
          simpa [something e.1 e.2 text written] using ih

/-! ## Stubs -/

/-- The properties that are shown, each once and in the order of keys. -/
structure DeclaresShown (definitions : PropertyDefinitions) (ps : Declared) : Prop where
  shown : (ps.map Prod.fst).Perm (definitions.keys.filter fun key => !isHidden definitions key)
  ordered : (ps.map fun e => named e.1).Pairwise fun a b => Key.namedLe a b = true
  own : ∀ e ∈ ps, definitions.get? e.1 = some e.2

theorem declaresShown_of_declared {definitions : PropertyDefinitions} {ps : Declared}
    (shown : declared definitions = .ok ps) : DeclaresShown definitions ps := by
  obtain ⟨keys, done, made⟩ := map_eq_ok_iff.1 shown
  have perm := sortedKeys_perm done
  have names : ps.map Prod.fst = keys.filter fun key => !isHidden definitions key := by
    rw [← made]
    exact keys_filterMap_shown definitions fun key inside => perm.mem_iff.1 inside
  refine ⟨?shown, ?ordered, fun e inside => (mem_declared shown inside).1⟩
  case shown =>
    rw [names]
    exact perm.filter _
  case ordered =>
    have same : (ps.map fun e => named e.1) = (keys.filter fun key => !isHidden definitions key).map named := by
      rw [← names, List.map_map]
      rfl
    rw [same]
    exact (sortedKeys_pairwise done).sublist (List.filter_sublist.map named)

/-- The identifiers of properties. -/
def identifiers (ps : Declared) : List String := ps.map fun e => Naming.identifier e.1

/-- The listings of a stub component and of both forms of a setup name the same properties. -/
structure StubsAgree (react vue : Generator) (name : String) (ps : Declared) : Prop where
  fields : (react.stubBlock name ps).fields.map leadingName = identifiers ps
  inputs : (react.stubBlock name ps).inputs.map leadingName = identifiers ps
  setupFields : (vue.setupBlock name ps).fields.map leadingName = identifiers ps
  props : (vue.optionsBlock name ps).props.map OptionsProp.name = identifiers ps
  defaults : (vue.setupBlock name ps).defaults.map leadingName =
    identifiers (ps.filter fun e => (vue.defaultText e.2).isSome)
  bare : (react.stubBlock name ps).inputs.map isBareLine = ps.map fun e => (vue.defaultText e.2).isNone

/-- The lines of these listings are what is left when those of hidden properties are written empty and dropped. -/
structure DropsEmptyLines (react vue : Generator) (name : String) (definitions : PropertyDefinitions) (ps : Declared) :
    Prop where
  fields : keptLines (fun key d => some (fieldLine react.target (interfaceName name) key d)) definitions =
    .ok (react.stubBlock name ps).fields
  inputs : keptLines (fun key d => some (react.inputLine key d)) definitions = .ok (react.stubBlock name ps).inputs
  setupFields : keptLines (fun key d => some (fieldLine vue.target (interfaceName name) key d)) definitions =
    .ok (vue.setupBlock name ps).fields
  defaults : keptLines vue.defaultEntry definitions = .ok (vue.setupBlock name ps).defaults

/-- Each block ends in the lines of its listings. -/
structure HoldsListings (react vue : Generator) (name : String) (ps : Declared) : Prop where
  stub : ∀ optionsApi, EndsInLines (react.block optionsApi name ps)
    (stubLines name (react.stubBlock name ps).fields (react.stubBlock name ps).inputs)
  setup : EndsInLines (vue.block false name ps)
    (setupLines name (vue.setupBlock name ps).fields (vue.setupBlock name ps).defaults)
  options : EndsInLines (vue.block true name ps) (optionsLines name (vue.optionsBlock name ps).props)

theorem fields_leadingName (target : Target) (owner : String) (ps : Declared) :
    (fields target owner ps).map leadingName = identifiers ps := by
  unfold fields identifiers
  rw [List.map_map]
  exact List.map_congr_left fun e _ => leadingName_fieldLine target owner e.1 e.2

theorem inputs_leadingName (g : Generator) (ps : Declared) : (g.inputs ps).map leadingName = identifiers ps := by
  unfold inputs identifiers
  rw [List.map_map]
  exact List.map_congr_left fun e _ => leadingName_inputLine g e.1 e.2

theorem inputs_isBareLine (g : Generator) (ps : Declared) :
    (g.inputs ps).map isBareLine = ps.map fun e => (g.defaultText e.2).isNone := by
  unfold inputs
  rw [List.map_map]
  exact List.map_congr_left fun e _ => isBareLine_inputLine g e.1 e.2

theorem defaultEntries_leadingName (g : Generator) (ps : Declared) :
    (g.defaultEntries ps).map leadingName = identifiers (ps.filter fun e => (g.defaultText e.2).isSome) := by
  unfold defaultEntries identifiers
  induction ps with
  | nil => rfl
  | cons e rest ih =>
      cases entry : g.defaultEntry e.1 e.2 with
      | none =>
          have absent : g.defaultText e.2 = none := Option.map_eq_none_iff.1 entry
          simpa [entry, absent] using ih
      | some line =>
          obtain ⟨value, given, -⟩ := Option.map_eq_some_iff.1 entry
          simpa [entry, given, leadingName_defaultEntry entry] using ih

/-- Defaults are written alike for both targets, given the same nodes. -/
theorem defaultText_congr {g h : Generator} (same : g.lookup = h.lookup) (d : PropertyDefinition) :
    g.defaultText d = h.defaultText d := by
  unfold defaultText resolve
  rw [same]

theorem props_name (g : Generator) (owner : String) (ps : Declared) :
    (g.optionsProps owner ps).map OptionsProp.name = identifiers ps := by
  unfold optionsProps identifiers
  rw [List.map_map]
  exact List.map_congr_left fun e _ => by rw [Function.comp_apply]

theorem stubsAgree {react vue : Generator} (same : react.lookup = vue.lookup) (name : String) (ps : Declared) :
    StubsAgree react vue name ps where
  fields := fields_leadingName _ _ ps
  inputs := inputs_leadingName react ps
  setupFields := fields_leadingName _ _ ps
  props := props_name vue name ps
  defaults := defaultEntries_leadingName vue ps
  bare := (inputs_isBareLine react ps).trans (List.map_congr_left fun e _ => by rw [defaultText_congr same])

theorem dropsEmptyLines {definitions : PropertyDefinitions} {ps : Declared} (shown : declared definitions = .ok ps)
    (react vue : Generator) (name : String) : DropsEmptyLines react vue name definitions ps := by
  have every (line : Key → PropertyDefinition → String)
      (begins : ∀ key d, leadingName (line key d) = Naming.identifier key) :
      keptLines (fun key d => some (line key d)) definitions = .ok (ps.map fun e => line e.1 e.2) := by
    rw [← List.filterMap_eq_map]
    refine keptLines_ok (fun key d text written => ?_) shown
    obtain rfl := Option.some.inj written
    exact ne_empty_of_leadingName (begins key d)
  have fields (target : Target) := every (fieldLine target (interfaceName name)) (leadingName_fieldLine _ _)
  refine ⟨fields react.target, every react.inputLine (leadingName_inputLine react), fields vue.target, ?_⟩
  exact keptLines_ok (fun key d text entry => ne_empty_of_leadingName (leadingName_defaultEntry entry)) shown

theorem holdsListings {react vue : Generator} (first : react.target = .react) (second : vue.target = .vue) (name : String)
    (ps : Declared) : HoldsListings react vue name ps where
  stub optionsApi := by
    rw [block, first]
    exact ⟨_, (react.stubBlock name ps).write_eq rfl rfl⟩
  setup := by
    rw [block, second]
    exact ⟨_, (vue.setupBlock name ps).write_eq rfl rfl⟩
  options := by
    rw [block, second]
    exact ⟨_, (vue.optionsBlock name ps).write_eq rfl rfl⟩

theorem declared_isOk_iff (definitions : PropertyDefinitions) : (∃ ps, declared definitions = .ok ps) ↔
    ∀ a ∈ definitions.keys, ∀ b ∈ definitions.keys, Naming.identifier a = Naming.identifier b → a.group = b.group := by
  rw [← sortedKeys_isOk_iff]
  constructor
  · rintro ⟨ps, shown⟩
    obtain ⟨keys, done, -⟩ := map_eq_ok_iff.1 shown
    exact ⟨keys, done⟩
  · rintro ⟨keys, done⟩
    exact ⟨_, map_eq_ok_iff.2 ⟨keys, done, rfl⟩⟩

/-- The stubs of a definitions map exist exactly if keys of one identifier can be compared.  Then the fields and the
parameters of a stub component, the fields of a setup call and the props of an options call name the properties that
are shown, by identifier and key; the defaults name those that have one, and exactly the parameters of the others are
bare.  These are the listings that the written blocks end in. -/
theorem stubs_declare_alike (definitions : PropertyDefinitions) :
    ((∃ ps, declared definitions = .ok ps) ↔ ∀ a ∈ definitions.keys, ∀ b ∈ definitions.keys,
      Naming.identifier a = Naming.identifier b → a.group = b.group) ∧
    ∀ ps, declared definitions = .ok ps → DeclaresShown definitions ps ∧
      ∀ (lookup : String → Option String) (first second : Config) (name : String),
        StubsAgree ⟨.react, first, lookup⟩ ⟨.vue, second, lookup⟩ name ps ∧
        DropsEmptyLines ⟨.react, first, lookup⟩ ⟨.vue, second, lookup⟩ name definitions ps ∧
        HoldsListings ⟨.react, first, lookup⟩ ⟨.vue, second, lookup⟩ name ps := by
  constructor
  · exact declared_isOk_iff definitions
  · intro ps shown
    refine ⟨declaresShown_of_declared shown, fun lookup first second name => ⟨?_, ?_, ?_⟩⟩
    · have same : (Generator.mk .react first lookup).lookup = (Generator.mk .vue second lookup).lookup := rfl
      exact stubsAgree same name ps
    · exact dropsEmptyLines shown _ _ name
    · exact holdsListings rfl rfl name ps

/-! A label, a tone that has no default, and a secret that is hidden. -/

def plainText : PropertyDefinition where
  name := "text"
  kind := .text
  default := .text "a"
  options := none
  hidden := false
  optional := false
  rawType := none

def chipDefinitions : PropertyDefinitions := .ofList
  [(.text "Tone", { plainText with default := .text undefinedMarker, optional := true }),
    (.text "Secret", { plainText with hidden := true }), (.text "Label", plainText)]

theorem stubs_declare_chip : ∃ ps, declared chipDefinitions = .ok ps ∧ identifiers ps = ["label", "tone"] ∧
    DeclaresShown chipDefinitions ps ∧ ∀ (lookup : String → Option String) (name : String),
      StubsAgree ⟨.react, .base, lookup⟩ ⟨.vue, .base, lookup⟩ name ps ∧
      ((Generator.mk .vue .base lookup).setupBlock name ps).defaults.map leadingName = ["label"] := by
  have shown : declared chipDefinitions = .ok [(.text "Label", _), (.text "Tone", _)] := rfl
  obtain ⟨sorted, agree⟩ := (stubs_declare_alike chipDefinitions).2 _ shown
  refine ⟨_, shown, by decide, sorted, fun lookup name => ⟨(agree lookup .base .base name).1, ?_⟩⟩
  rw [(agree lookup .base .base name).1.defaults]
  rfl

end Generator

end DesignProps
