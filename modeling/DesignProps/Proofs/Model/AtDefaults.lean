import DesignProps.Proofs.Model.History
import DesignProps.Proofs.Property.Options

/-!
# Components at their defaults

A raw value that is the default of its raw definition is read by the kind that the definition was given, and so is the
default itself, with one exception: a raw type that is `NUMBER` already keeps its default as a text, while the value is
read as a number, which is never equal to it.

Main statements: `PropertyDefinition.default_of_ofTexts`, `PropertyValue.atDefault_of_ofRaw`,
`atDefault_of_normalized` (all values of a map), `Model.atDefault_of_shown` (the component of a node that is shown at
its defaults).
-/

set_option autoImplicit false

namespace DesignProps

/-! ## One property -/

/-- A raw definition that names the kind of numbers itself. -/
def Json.NamesNumber (raw : Json) : Prop := PropertyDefinition.rawTypeOf raw = PropertyKind.number.tag

instance (raw : Json) : Decidable raw.NamesNumber := inferInstanceAs (Decidable (_ = _))

namespace PropertyValue

/-- A value that was read equals itself. -/
theorem eqv_self_of_coerce {kind : PropertyKind} {text : String} {v : Primitive} (read : coerce kind text = .ok v) :
    v.eqv v = true := by
  cases kind with
  | explicit => exact Coercion.explicit_eqv_self read
  | number =>
      obtain ⟨n, counted, rfl⟩ := map_eq_ok_iff.1 read
      exact Coercion.asNumber_eqv_self counted
  | _ =>
      obtain rfl := Except.ok.inj read
      simp [Primitive.eqv]

end PropertyValue

namespace PropertyDefinition

variable {key : Key} {rawType default : String} {options : List String} {d : PropertyDefinition}

/-- The default is read by the kind of the definition, unless the raw type is the one of numbers: then it is a text. -/
theorem default_of_ofTexts (made : ofTexts key rawType options default = .ok d) :
    (rawType ≠ PropertyKind.number.tag → PropertyValue.coerce d.kind default = .ok d.default) ∧
      (rawType = PropertyKind.number.tag → d.kind = .number ∧ d.default = .text default) := by
  have number : PropertyKind.ofRaw rawType = .number ↔ rawType = PropertyKind.number.tag :=
    PropertyKind.ofRaw_eq_iff (by decide) (by decide) rawType
  have unnamed := PropertyKind.ofRaw_ne_explicit rawType
  obtain ⟨⟨kind, value, kept⟩, found, rfl⟩ := map_eq_ok_iff.1 made
  rw [ne_eq, ← number]
  generalize PropertyKind.ofRaw rawType = raw at found unnamed
  cases raw with
  | variant =>
      obtain ⟨rfl, read⟩ := parts_of_refine found
      exact ⟨fun _ => read, fun other => by simp at other⟩
  | explicit => exact absurd rfl unnamed
  | number =>
      obtain ⟨rfl, rfl, -⟩ : PropertyKind.number = kind ∧ Primitive.text default = value ∧ _ := by
        simpa [content] using found
      exact ⟨fun other => absurd rfl other, fun _ => ⟨rfl, rfl⟩⟩
  | _ =>
      simp only [content, Except.ok.injEq, Prod.mk.injEq] at found
      obtain ⟨rfl, rfl, -⟩ := found
      exact ⟨fun _ => rfl, fun other => by simp at other⟩

end PropertyDefinition

namespace PropertyValue

/-- What is known of a value that is the default of its raw definition. -/
structure AtDefault (raw : Json) (p : PropertyValue) : Prop where
  isDefault : p.isDefault = true ↔ ¬ raw.NamesNumber
  number : raw.NamesNumber → p.kind = .number

variable {definitions : PropertyDefinitions} {own key : Key} {raw given : Json} {d : PropertyDefinition}
  {p : PropertyValue}

theorem atDefault_of_ofRaw (made : PropertyDefinition.ofRaw own raw = .ok d) (known : definitions.get? key = some d)
    (same : given.member "value" = raw.member "defaultValue") (found : ofRaw definitions key given = .ok p) :
    AtDefault raw p := by
  obtain ⟨members, object, -⟩ := bind_eq_ok_iff.1 found
  rw [ofRaw_eq_ok_iff known object, same] at found
  obtain ⟨kind, -, read, isDefault⟩ := content_of_ofText found
  obtain ⟨parts, -, texts⟩ := PropertyDefinition.ofTexts_of_ofRaw made
  obtain ⟨other, number⟩ := PropertyDefinition.default_of_ofTexts texts
  refine ⟨?isDefault, fun named => kind.trans (number named).1⟩
  rw [isDefault]
  constructor
  · intro equal named
    -- a number is never a text
    obtain ⟨numeric, text⟩ := number named
    rw [numeric] at read
    obtain ⟨n, -, value⟩ := map_eq_ok_iff.1 read
    rw [← value, text] at equal
    exact Bool.false_ne_true equal
  · intro unnamed
    rw [← Except.ok.inj (read.symm.trans (other unnamed))]
    exact eqv_self_of_coerce read

end PropertyValue

/-! ## Maps of properties -/

/-- Each raw value is the default of the raw definition of its key. -/
def StandAt (values raws : OrderedMap Key Json) : Prop :=
  ∀ e ∈ values.entries, ∃ raw, raws.get? e.1 = some raw ∧ e.2.member "value" = raw.member "defaultValue"

theorem standAt_valuesFromDefinitions {raws values : OrderedMap Key Json}
    (given : (valuesFromDefinitions raws.entries).result = .ok values) : StandAt values raws := by
  intro e inside
  obtain ⟨⟨key, raw⟩, listed, same, made⟩ :=
    exists_related_right (Progress.forall₂_of_result _ raws given) e inside
  obtain ⟨members, object, value⟩ := bind_eq_ok_iff.1 made
  refine ⟨raw, same ▸ raws.get?_of_mem_entries listed, ?_⟩
  rw [← Except.ok.inj value, ← PropertyDefinition.member_members object]
  rfl

theorem atDefault_of_normalized {raws values : OrderedMap Key Json} {definitions : PropertyDefinitions}
    {properties : PropertyValues} (normalized : (normalizeDefinitions raws.entries).result = .ok definitions)
    (stand : StandAt values raws) (valued : (normalizeValues definitions values.entries).result = .ok properties) :
    ∀ e ∈ properties.entries, ∃ raw, raws.get? e.1 = some raw ∧ e.2.AtDefault raw := by
  intro e inside
  obtain ⟨⟨key, given⟩, listed, same, found⟩ :=
    exists_related_right (Progress.forall₂_of_result _ values valued) e inside
  obtain rfl : key = e.1 := same
  obtain ⟨raw, default, value⟩ := stand _ listed
  refine ⟨raw, default, ?_⟩
  have known := Progress.get?_of_result _ raws normalized e.1
  rw [default] at known
  generalize defined : definitions.get? e.1 = d at known
  cases known with
  | some made =>
      obtain ⟨own, made⟩ := made
      exact PropertyValue.atDefault_of_ofRaw made defined value found

/-! ## Components -/

namespace Model

/-- A node that is shown at the defaults of raw definitions: one that files its own, or an instance whose values are
the defaults of those that were filed for it. -/
inductive ShownAtDefaults (m : Model) (s : Subject) : OrderedMap Key Json → Prop
  | ofDefinition (plain : s.node.isInstance = false) (unfiled : m.definitions.get? s.node.id = none) :
      ShownAtDefaults m s s.node.data.definitions
  | ofInstance {raws : OrderedMap Key Json} {definitions : PropertyDefinitions} (swaps : s.node.isInstance = true)
      (filed : (m.add s).1.definitions.get? s.definitionId = some definitions)
      (normalized : (normalizeDefinitions raws.entries).result = .ok definitions)
      (stand : StandAt s.node.data.properties raws) : ShownAtDefaults m s raws

variable {m : Model} {s : Subject} {raws : OrderedMap Key Json} {c : Component}

theorem atDefault_of_shown (shown : m.ShownAtDefaults s raws) (added : (m.add s).2 = .ok c) :
    ∀ e ∈ c.properties.entries, ∃ raw, raws.get? e.1 = some raw ∧ e.2.AtDefault raw := by
  obtain ⟨-, values, definitions, properties, given, filed, valued, rfl⟩ := givenBy_of_ok added
  cases shown with
  | ofDefinition plain unfiled =>
      have source : s.source = some s.node := by simp [Subject.source, plain]
      have id : s.definitionId = s.node.id := by simp [Subject.definitionId, source]
      have raws : s.rawDefinitions = s.node.data.definitions.entries := by simp [Subject.rawDefinitions, source]
      rw [get?_definitions_add, id, unfiled, Option.none_or] at filed
      obtain ⟨-, normalized⟩ := Subject.normalized_of_filing filed
      rw [raws] at normalized
      rw [Subject.rawValues, if_neg (Bool.eq_false_iff.1 plain)] at given
      exact atDefault_of_normalized normalized (standAt_valuesFromDefinitions given) valued
  | @ofInstance _ known swaps filedToo normalized stand =>
      obtain rfl := Option.some.inj (filed.symm.trans filedToo)
      rw [Subject.rawValues, if_pos swaps] at given
      obtain rfl := Except.ok.inj given
      exact atDefault_of_normalized normalized stand valued

end Model

end DesignProps
