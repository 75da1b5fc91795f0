import DesignProps.Proofs.Primitive.Bounded
import DesignProps.Proofs.Property.Kinds

/-!
# Properties that can always be normalized

An object whose options, if there are any, are a list is normalized to a definition, and an object is normalized to a
value by whichever definitions, as long as no integer is too long to be read.  What type, default, options and value
are, and whether they are there at all, makes no difference.

Main statements: `normalizeDefinitions_isOk`, `normalizeValues_isOk`, `valuesFromDefinitions_isOk`.
-/

set_option autoImplicit false

namespace DesignProps

/-! ## Raw properties -/

namespace Json

/-- A raw definition: an object whose options, if there are any, are a list. -/
structure IsDefinition (raw : Json) : Prop where
  object : raw.isObject = true
  options : raw.member "variantOptions" = .null ∨ ∃ items, raw.member "variantOptions" = .arr items

theorem isObject_iff (v : Json) : v.isObject = true ↔ ∃ members, v = .obj members := by
  cases v <;> simp [isObject]

theorem partsIfAny_isOk {v : Json} (list : v = .null ∨ ∃ items, v = .arr items) :
    ∃ parts, v.partsIfAny = .ok parts := by
  rcases list with rfl | ⟨items, rfl⟩
  · exact ⟨[], rfl⟩
  · unfold partsIfAny
    split
    · exact ⟨items, rfl⟩
    · exact ⟨[], rfl⟩

end Json

/-! ## Single properties -/

namespace PropertyDefinition

theorem content_isOk (kind : PropertyKind) (options : List String) {default : Json}
    (bounded : default.isBounded = true) : ∃ parts, content kind options default.canonicalText = .ok parts := by
  obtain ⟨v, pinned⟩ := Coercion.explicit_of_bounded bounded
  obtain ⟨n, number⟩ := Coercion.asNumber_of_bounded bounded
  cases kind with
  | variant =>
      unfold content refine
      dsimp only
      split
      · exact ⟨_, by rw [pinned]; rfl⟩
      · split
        · exact ⟨_, rfl⟩
        · split
          · exact ⟨_, by rw [number]; rfl⟩
          · exact ⟨_, rfl⟩
  | _ => exact ⟨_, rfl⟩

theorem ofRaw_isOk (key : Key) {raw : Json} (definition : raw.IsDefinition) (bounded : raw.isBounded = true) :
    ∃ d, ofRaw key raw = .ok d := by
  obtain ⟨members, rfl⟩ := (Json.isObject_iff raw).1 definition.object
  obtain ⟨parts, options⟩ := Json.partsIfAny_isOk definition.options
  obtain ⟨content, made⟩ := content_isOk (PropertyKind.ofRaw (rawTypeOf (.obj members))) (parts.map Json.canonicalText)
    (Json.bounded_member bounded "defaultValue")
  have read : (Json.obj members).membersIfAny = .ok members := rfl
  unfold ofRaw
  simp only [read, options, bind, Except.bind, ofTexts, made, Except.map]
  exact ⟨_, rfl⟩

end PropertyDefinition

namespace PropertyValue

theorem coerce_isOk (kind : PropertyKind) {value : Json} (bounded : value.isBounded = true) :
    ∃ p, coerce kind value.canonicalText = .ok p := by
  cases kind with
  | explicit => exact Coercion.explicit_of_bounded bounded
  | number =>
      obtain ⟨n, number⟩ := Coercion.asNumber_of_bounded bounded
      exact ⟨.number n, by simp only [coerce, number, Except.map]⟩
  | _ => exact ⟨_, rfl⟩

theorem ofRaw_isOk (definitions : PropertyDefinitions) (key : Key) {raw : Json} (object : raw.isObject = true)
    (bounded : raw.isBounded = true) : ∃ p, ofRaw definitions key raw = .ok p := by
  obtain ⟨members, rfl⟩ := (Json.isObject_iff raw).1 object
  have read : (Json.obj members).membersIfAny = .ok members := rfl
  have short := Json.bounded_member bounded "value"
  unfold ofRaw
  simp only [read, bind, Except.bind]
  cases definitions.get? key with
  | none => exact ⟨_, rfl⟩
  | some d =>
      obtain ⟨p, coerced⟩ := coerce_isOk d.kind short
      simp only [ofText, coerced, Except.map]
      exact ⟨_, rfl⟩

end PropertyValue

/-! ## Maps -/

namespace Progress

variable {α : Type} {step : Key → Json → Except Fault α} {entries : List (Key × Json)}

/-- A map is worked through where every entry is, and what holds of the results of the entries holds of its own. -/
theorem result_isOk_of_forall {Q : α → Prop} (each : ∀ e ∈ entries, ∃ a, step e.1 e.2 = .ok a ∧ Q a) :
    ∃ m, (run step entries).result = .ok m ∧ ∀ e ∈ m.entries, Q e.2 := by
  have clean : (run step entries).fault = none ∧ ∀ e ∈ (run step entries).done, True ∧ Q e.2 := by
    induction entries with
    | nil => exact ⟨rfl, by simp [run]⟩
    | cons e rest ih =>
        obtain ⟨⟨a, now, holds⟩, later⟩ := List.forall_mem_cons.1 each
        obtain ⟨clean, all⟩ := ih later
        simp only [run, now]
        exact ⟨clean, List.forall_mem_cons.2 ⟨⟨trivial, holds⟩, all⟩⟩
  refine ⟨_, (result_eq_ok_iff _ _).2 ⟨clean.1, rfl⟩, fun e inside => ?_⟩
  exact (OrderedMap.forall_mem_ofList (P := fun _ => True) clean.2 e inside).2

theorem result_isOk (each : ∀ e ∈ entries, ∃ a, step e.1 e.2 = .ok a) : ∃ m, (run step entries).result = .ok m := by
  have unconditionally : ∀ e ∈ entries, ∃ a, step e.1 e.2 = .ok a ∧ True := by simpa using each
  obtain ⟨m, result, -⟩ := result_isOk_of_forall unconditionally
  exact ⟨m, result⟩

end Progress

theorem normalizeDefinitions_isOk {raws : List (Key × Json)}
    (each : ∀ e ∈ raws, e.2.IsDefinition ∧ e.2.isBounded = true) :
    ∃ definitions, (normalizeDefinitions raws).result = .ok definitions :=
  Progress.result_isOk fun e inside => PropertyDefinition.ofRaw_isOk e.1 (each e inside).1 (each e inside).2

theorem normalizeValues_isOk (definitions : PropertyDefinitions) {raws : List (Key × Json)}
    (each : ∀ e ∈ raws, e.2.isObject = true ∧ e.2.isBounded = true) :
    ∃ values, (normalizeValues definitions raws).result = .ok values :=
  Progress.result_isOk fun e inside => PropertyValue.ofRaw_isOk definitions e.1 (each e inside).1 (each e inside).2

theorem defaultAsValue_isOk {raw : Json} (object : raw.isObject = true) (bounded : raw.isBounded = true) :
    ∃ value, defaultAsValue raw = .ok value ∧ value.isObject = true ∧ value.isBounded = true := by
  obtain ⟨members, rfl⟩ := (Json.isObject_iff raw).1 object
  refine ⟨_, rfl, rfl, ?_⟩
  simp only [Json.isBounded, Json.areMembersBounded, Json.bounded_member bounded, Bool.and_self]

/-- The defaults of definitions are values that can be normalized. -/
theorem valuesFromDefinitions_isOk {raws : List (Key × Json)}
    (each : ∀ e ∈ raws, e.2.isObject = true ∧ e.2.isBounded = true) :
    ∃ values, (valuesFromDefinitions raws).result = .ok values ∧
      ∀ e ∈ values.entries, e.2.isObject = true ∧ e.2.isBounded = true := by
  have worked : ∀ e ∈ raws, ∃ value, defaultAsValue e.2 = .ok value ∧ value.isObject = true ∧ value.isBounded = true :=
    fun e inside => defaultAsValue_isOk (each e inside).1 (each e inside).2
  exact Progress.result_isOk_of_forall (Q := fun v : Json => v.isObject = true ∧ v.isBounded = true) worked

end DesignProps
