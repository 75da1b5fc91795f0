import DesignProps.Proofs.Property.Kinds
import DesignProps.Proofs.Traversal
import DesignProps.Target.Block

/-!
# Which properties have a default

The setup block lists defaults in an object, the options block gives a property a `default:` line, and each decides on
its own which properties have one.  While no node has the undefined marker for an id, they agree on every property but
one that is pinned to nothing: the setup block leaves it out like every optional property that stands at the marker,
the options block gives it the marker itself.

Main statements: `PropertyDefinition.pinned_iff` (what such a property is normalized from),
`Generator.optionsDefault_isSome_iff`, `Generator.defaults_of_normalized`.
-/

set_option autoImplicit false

namespace DesignProps

/-- A variant with a single option and without a default. -/
structure Json.PinsNothing (raw : Json) : Prop where
  type : PropertyDefinition.rawTypeOf raw = PropertyKind.variant.tag
  single : ∃ option, (raw.member "variantOptions").partsIfAny = .ok [option]
  default : (raw.member "defaultValue").canonicalText = undefinedMarker

namespace PropertyDefinition

/-! ## Properties that are pinned to nothing -/

theorem explicit_undefined_iff {text : String} {v : Primitive} (coerced : Coercion.explicit text = .ok v) :
    v.isUndefined = true ↔ text = undefinedMarker := by
  constructor
  · intro marker
    obtain rfl : v = .text undefinedMarker := eq_of_beq marker
    unfold Coercion.explicit at coerced
    split at coerced
    · simp at coerced
    · split at coerced
      · obtain ⟨n, -, same⟩ := map_eq_ok_iff.1 coerced
        simp at same
      · simpa using coerced
  · rintro rfl
    obtain rfl : Primitive.text undefinedMarker = v := Except.ok.inj coerced
    rfl

theorem refine_pinned_iff {options : List String} {default : String} {kind : PropertyKind} {value : Primitive}
    {kept : Option (List String)} (refined : refine options default = .ok (kind, value, kept)) :
    kind = .explicit ∧ value.isUndefined = true ↔ options.length = 1 ∧ default = undefinedMarker := by
  unfold refine at refined
  split at refined
  · next single =>
      obtain ⟨v, coerced, parts⟩ := map_eq_ok_iff.1 refined
      obtain ⟨rfl, rfl, rfl⟩ : PropertyKind.explicit = kind ∧ v = value ∧ none = kept := by simpa using parts
      simp [single, explicit_undefined_iff coerced]
  · next several =>
      have other : kind ≠ .explicit := by
        split at refined
        · obtain ⟨rfl, -, -⟩ : PropertyKind.boolean = kind ∧ _ := by simpa using refined
          decide
        · split at refined
          · obtain ⟨n, -, parts⟩ := map_eq_ok_iff.1 refined
            obtain ⟨rfl, -, -⟩ : PropertyKind.number = kind ∧ _ := by simpa using parts
            decide
          · obtain ⟨rfl, -, -⟩ : PropertyKind.variant = kind ∧ _ := by simpa using refined
            decide
      simp [other, several]

/-- A property is pinned and stands at the marker exactly if its raw definition pins it to nothing. -/
theorem pinned_iff {key : Key} {raw : Json} {d : PropertyDefinition} (found : ofRaw key raw = .ok d) :
    d.kind = .explicit ∧ Generator.isBare d = true ↔ raw.PinsNothing := by
  obtain ⟨parts, options, made⟩ := ofTexts_of_ofRaw found
  obtain ⟨⟨kind, value, kept⟩, content, rfl⟩ := map_eq_ok_iff.1 made
  simp only [Generator.isBare, Bool.and_eq_true, Bool.or_eq_true, beq_iff_eq]
  have variant : PropertyKind.ofRaw (rawTypeOf raw) = .variant ↔ rawTypeOf raw = PropertyKind.variant.tag :=
    PropertyKind.ofRaw_eq_iff (by decide) (by decide) (rawTypeOf raw)
  by_cases choice : PropertyKind.ofRaw (rawTypeOf raw) = .variant
  · rw [choice] at content
    have pinned := refine_pinned_iff content
    constructor
    · rintro ⟨explicit, -, marker⟩
      obtain ⟨single, default⟩ := pinned.1 ⟨explicit, marker⟩
      obtain ⟨option, rfl⟩ := List.length_eq_one_iff.1 (by simpa using single)
      exact ⟨variant.1 choice, ⟨option, options⟩, default⟩
    · rintro ⟨-, ⟨option, single⟩, default⟩
      obtain rfl := Except.ok.inj (options.symm.trans single)
      obtain ⟨explicit, marker⟩ := pinned.2 ⟨rfl, default⟩
      exact ⟨explicit, Or.inl default, marker⟩
  · -- a kind that the document names is kept, and no document names the kind of pinned values
    have other : kind ≠ .explicit := by
      have unnamed := PropertyKind.ofRaw_ne_explicit (rawTypeOf raw)
      generalize PropertyKind.ofRaw (rawTypeOf raw) = named at content choice unnamed
      cases named with
      | variant => exact absurd rfl choice
      | explicit => exact absurd rfl unnamed
      | _ =>
          simp only [PropertyDefinition.content, Except.ok.injEq, Prod.mk.injEq] at content
          obtain ⟨rfl, -, -⟩ := content
          decide
    exact ⟨fun pinned => absurd pinned.1 other, fun pinned => absurd (variant.2 pinned.type) choice⟩

end PropertyDefinition

/-! ## Blocks -/

/-- The names of the properties with a `default:` line. -/
def OptionsBlock.defaulted (b : OptionsBlock) : List String :=
  (b.props.filter fun p => p.default.isSome).map OptionsProp.name

namespace Generator

variable {g : Generator}

/-- The names of the properties with an entry in the defaults object. -/
def entered (g : Generator) (ps : Declared) : List String :=
  (ps.filter fun e => (g.defaultEntry e.1 e.2).isSome).map fun e => Naming.identifier e.1

/-- The defaults of a setup block are one entry for each of these names. -/
theorem setupBlock_entered (g : Generator) (name : String) (ps : Declared) :
    List.Forall₂ (fun field line => ∃ value, line = field ++ ": " ++ value ++ ",") (g.entered ps)
      (g.setupBlock name ps).defaults := by
  unfold setupBlock defaultEntries entered
  induction ps with
  | nil => exact .nil
  | cons e rest ih =>
      obtain ⟨key, d⟩ := e
      cases value : g.defaultText d with
      | none => simpa [defaultEntry, value] using ih
      | some text =>
          simp only [defaultEntry, value, List.filter_cons, List.filterMap_cons, Option.map_some, Option.isSome_some,
            if_true, List.map_cons] at ih ⊢
          exact .cons ⟨text, rfl⟩ ih

theorem defaulted_eq (g : Generator) (name : String) (ps : Declared) :
    (g.optionsBlock name ps).defaulted =
      (ps.filter fun e => (g.optionsDefault e.2).isSome).map fun e => Naming.identifier e.1 := by
  unfold OptionsBlock.defaulted optionsBlock optionsProps
  induction ps with
  | nil => rfl
  | cons e rest ih =>
      obtain ⟨key, d⟩ := e
      cases value : g.optionsDefault d with
      | none => simpa [value] using ih
      | some text => simpa [value] using ih

theorem defaultText_of_bare {d : PropertyDefinition} (bare : isBare d = true) : g.defaultText d = none := by
  simp [defaultText, bare]

/-- While the marker is no node's id, the two blocks differ only on what is pinned to nothing. -/
theorem optionsDefault_isSome_iff (unresolved : g.lookup undefinedMarker = none) (key : Key) (d : PropertyDefinition) :
    ((g.optionsDefault d).isSome = true ↔ (g.defaultEntry key d).isSome = true) ↔
      ¬ (d.kind = .explicit ∧ isBare d = true) := by
  rw [defaultEntry, Option.isSome_map]
  by_cases bare : isBare d = true
  · have marker : d.default = .text undefinedMarker := by
      simp only [isBare, Bool.and_eq_true] at bare
      exact eq_of_beq bare.2
    have absent : g.resolve d.default.asText = none := by
      simp only [resolve, marker, Primitive.asText, unresolved, ite_self]
    rw [defaultText_of_bare bare]
    cases kind : d.kind with
    | explicit => simp [optionsDefault, kind, bare]
    | _ => simp [optionsDefault, kind, bare, absent, defaultText_of_bare bare]
  · cases kind : d.kind with
    | instanceSwap =>
        cases target : g.resolve d.default.asText with
        | none => simp [optionsDefault, defaultText, kind, bare, target]
        | some name => by_cases left : d.optional = true ∧ name = undefinedMarker <;>
            simp [optionsDefault, defaultText, kind, bare, target, left]
    | _ => simp [optionsDefault, defaultText, kind, bare]

theorem entered_of_optionsDefault (unresolved : g.lookup undefinedMarker = none) (e : Key × PropertyDefinition) :
    (g.defaultEntry e.1 e.2).isSome = true → (g.optionsDefault e.2).isSome = true := by
  intro entry
  by_cases pinned : e.2.kind = .explicit ∧ isBare e.2 = true
  · simp [defaultEntry, defaultText_of_bare pinned.2] at entry
  · exact ((optionsDefault_isSome_iff unresolved e.1 e.2).2 pinned).2 entry

/-- The blocks name the same properties exactly if nothing is pinned to nothing. -/
theorem defaulted_eq_entered_iff (unresolved : g.lookup undefinedMarker = none) (name : String) (ps : Declared) :
    (g.optionsBlock name ps).defaulted = g.entered ps ↔ ∀ e ∈ ps, ¬ (e.2.kind = .explicit ∧ isBare e.2 = true) := by
  rw [defaulted_eq, entered]
  constructor
  · intro same e inside
    have fewer := List.monotone_filter_right ps (entered_of_optionsDefault unresolved)
    have length := congrArg List.length same
    rw [List.length_map, List.length_map] at length
    have equal := fewer.eq_of_length length.symm
    refine (optionsDefault_isSome_iff unresolved e.1 e.2).1 ⟨fun line => ?_, entered_of_optionsDefault unresolved e⟩
    have kept : e ∈ ps.filter fun e => (g.optionsDefault e.2).isSome := List.mem_filter.2 ⟨inside, line⟩
    rw [← equal] at kept
    exact (List.mem_filter.1 kept).2
  · intro unpinned
    rw [List.filter_congr fun e inside => Bool.eq_iff_iff.2
      ((optionsDefault_isSome_iff unresolved e.1 e.2).2 (unpinned e inside))]

/-- What is declared under a key is normalized from the raw definition of this key. -/
theorem raw_of_declared {raws : OrderedMap Key Json} {definitions : PropertyDefinitions}
    (normalized : (normalizeDefinitions raws.entries).result = .ok definitions) {ps : Declared}
    (shown : declared definitions = .ok ps) {e : Key × PropertyDefinition} (inside : e ∈ ps) :
    ∃ raw, raws.get? e.1 = some raw ∧ ∃ key, PropertyDefinition.ofRaw key raw = .ok e.2 := by
  have found := Progress.get?_of_result _ raws normalized e.1
  rw [(mem_declared shown inside).1] at found
  generalize raws.get? e.1 = given at found ⊢
  cases found with
  | some made => exact ⟨_, rfl, made⟩

/-- Let a raw map be normalized and no node have the marker for an id.  Then a property that is shown has a `default:`
line exactly if it has an entry in the defaults object, unless its raw definition pins it to nothing; one that is
optional and stands at the marker has no entry, and no line either unless it is pinned so.  The blocks name the same
properties exactly if none is. -/
theorem defaults_of_normalized {raws : OrderedMap Key Json} {definitions : PropertyDefinitions}
    (normalized : (normalizeDefinitions raws.entries).result = .ok definitions) {ps : Declared}
    (shown : declared definitions = .ok ps) (unresolved : g.lookup undefinedMarker = none) :
    (∀ e ∈ ps, ∃ raw, raws.get? e.1 = some raw ∧
      (((g.optionsDefault e.2).isSome = true ↔ (g.defaultEntry e.1 e.2).isSome = true) ↔ ¬ raw.PinsNothing) ∧
      (isBare e.2 = true → g.defaultEntry e.1 e.2 = none ∧ (g.optionsDefault e.2 = none ↔ ¬ raw.PinsNothing))) ∧
    ∀ name, List.Forall₂ (fun field line => ∃ value, line = field ++ ": " ++ value ++ ",") (g.entered ps)
        (g.setupBlock name ps).defaults ∧
      ((g.optionsBlock name ps).defaulted = g.entered ps ↔
        ∀ e ∈ ps, ∀ raw, raws.get? e.1 = some raw → ¬ raw.PinsNothing) := by
  constructor
  · intro e inside
    obtain ⟨raw, given, key, made⟩ := raw_of_declared normalized shown inside
    have agree := optionsDefault_isSome_iff unresolved e.1 e.2
    rw [PropertyDefinition.pinned_iff made] at agree
    refine ⟨raw, given, agree, fun bare => ?_⟩
    have absent : g.defaultEntry e.1 e.2 = none := by rw [defaultEntry, defaultText_of_bare bare, Option.map_none]
    rw [absent] at agree
    exact ⟨absent, by simpa using agree⟩
  · intro name
    refine ⟨setupBlock_entered g name ps, ?_⟩
    rw [defaulted_eq_entered_iff unresolved]
    refine forall₂_congr fun e inside => ?_
    obtain ⟨raw, given, key, made⟩ := raw_of_declared normalized shown inside
    simp only [PropertyDefinition.pinned_iff made, given, Option.some.injEq, forall_eq']

/-! A badge with a tone that may be left undefined, and one with a shape that is pinned to nothing. -/

def bareVue : Generator := ⟨.vue, .base, fun _ => none⟩

def tone : OrderedMap Key Json := .ofList
  [(.text "Tone", .obj [("type", .str "VARIANT"), ("variantOptions", .arr [.str "undefined", .str "warm"])])]

def shape : OrderedMap Key Json := .ofList
  [(.text "Shape", .obj [("type", .str "VARIANT"), ("variantOptions", .arr [.str "round"])])]

theorem defaults_of_tone : ∃ definitions ps, (normalizeDefinitions tone.entries).result = .ok definitions ∧
    declared definitions = .ok ps ∧ bareVue.lookup undefinedMarker = none ∧
    ∀ e ∈ ps, ∃ raw, tone.get? e.1 = some raw ∧
      (((bareVue.optionsDefault e.2).isSome = true ↔ (bareVue.defaultEntry e.1 e.2).isSome = true) ↔
        ¬ raw.PinsNothing) := by
  have normalized : (normalizeDefinitions tone.entries).result = .ok _ := rfl
  refine ⟨_, _, normalized, rfl, rfl, fun e inside => ?_⟩
  obtain ⟨raw, given, agree, -⟩ := (defaults_of_normalized (g := bareVue) normalized rfl rfl).1 e inside
  exact ⟨raw, given, agree⟩

theorem shape_unlike_setup : ∃ definitions d, (normalizeDefinitions shape.entries).result = .ok definitions ∧
    declared definitions = .ok [(.text "Shape", d)] ∧ bareVue.lookup undefinedMarker = none ∧ isBare d = true ∧
    bareVue.optionsDefault d = some "\"undefined\"" ∧ bareVue.defaultEntry (.text "Shape") d = none :=
  ⟨_, _, rfl, rfl, rfl, rfl, rfl, rfl⟩

end Generator

end DesignProps
