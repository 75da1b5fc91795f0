import DesignProps.Proofs.OrderedMap
import DesignProps.Proofs.Traversal
import DesignProps.Property.Normalize

/-!
# Kinds of normalized properties

Whatever a raw definition says, what it is normalized to has options exactly if it is a variant and a raw type
exactly if its kind is unknown.  Its default is a value of its kind, unless the raw type is `NUMBER`: such a type is
recognized, but only refined variants have their defaults read as numbers.

Main statements: `PropertyDefinition.ofRaw_admits_iff`, `PropertyDefinition.ofRaw_parts`, `PropertyValue.ofRaw_agrees`,
`Progress.forall₂_of_result` (a map that is worked through without a fault keeps its keys, entry by entry).
-/

set_option autoImplicit false

namespace DesignProps

/-! ## Working through a map -/

namespace Progress

variable {α : Type}

theorem forall₂_of_run (step : Key → Json → Except Fault α) : ∀ entries : List (Key × Json),
    (run step entries).fault = none →
      List.Forall₂ (fun raw e => raw.1 = e.1 ∧ step raw.1 raw.2 = .ok e.2) entries (run step entries).done := by
  intro entries
  induction entries with
  | nil => intro _; exact .nil
  | cons raw rest ih =>
      intro clean
      cases done : step raw.1 raw.2 with
      | error e => simp [run, done] at clean
      | ok a =>
          simp only [run, done] at clean ⊢
          exact .cons ⟨rfl, done⟩ (ih clean)

theorem forall₂_of_result (step : Key → Json → Except Fault α) (raws : OrderedMap Key Json) {m : OrderedMap Key α}
    (result : (run step raws.entries).result = .ok m) :
    List.Forall₂ (fun raw e => raw.1 = e.1 ∧ step raw.1 raw.2 = .ok e.2) raws.entries m.entries := by
  obtain ⟨clean, rfl⟩ := (result_eq_ok_iff _ m).1 result
  have related := forall₂_of_run step raws.entries clean
  have distinct : Assoc.Distinct ((run step raws.entries).done.map Prod.fst) :=
    Assoc.keys_of_forall₂ (related.imp fun _ _ same => same.1) ▸ raws.distinct
  rw [OrderedMap.entries_ofList _ distinct]
  exact related

/-- What is worked out for a key comes from the raw entry of the same key. -/
theorem get?_of_result (step : Key → Json → Except Fault α) (raws : OrderedMap Key Json) {m : OrderedMap Key α}
    (result : (run step raws.entries).result = .ok m) (key : Key) :
    Option.Rel (fun raw a => ∃ own, step own raw = .ok a) (raws.get? key) (m.get? key) :=
  Assoc.get?_of_forall₂ (R := fun raw a => ∃ own, step own raw = .ok a) key
    ((forall₂_of_result step raws result).imp fun _ _ same => ⟨same.1, _, same.2⟩)

end Progress

namespace PropertyKind

/-- The values that a property of a kind can have. -/
def admits : PropertyKind → Primitive → Bool
  | .boolean, .bool _ => true
  | .number, .number _ => true
  | .explicit, .bool _ => true
  | .explicit, .number _ => true
  | .explicit, .text _ => true
  | .text, .text _ => true
  | .variant, .text _ => true
  | .instanceSwap, .text _ => true
  | .unknown, .text _ => true
  | _, _ => false

theorem exists_bool {v : Primitive} (admitted : boolean.admits v = true) : ∃ b, v = .bool b := by
  cases v with
  | bool b => exact ⟨b, rfl⟩
  | _ => simp [admits] at admitted

theorem exists_number {v : Primitive} (admitted : number.admits v = true) : ∃ n, v = .number n := by
  cases v with
  | number n => exact ⟨n, rfl⟩
  | _ => simp [admits] at admitted

/-- The kinds whose values are texts. -/
def isText : PropertyKind → Bool
  | .text => true
  | .variant => true
  | .instanceSwap => true
  | .unknown => true
  | _ => false

theorem exists_text {kind : PropertyKind} (texts : kind.isText = true) {v : Primitive}
    (admitted : kind.admits v = true) : ∃ s, v = .text s := by
  cases v with
  | text s => exact ⟨s, rfl⟩
  | _ => cases kind <;> simp [admits, isText] at admitted texts

/-- Kinds that a document can name are named by their tags. -/
theorem ofRaw_eq_iff {kind : PropertyKind} (named : kind ≠ .explicit) (known : kind ≠ .unknown) (rawType : String) :
    ofRaw rawType = kind ↔ rawType = kind.tag := by
  constructor
  · intro h
    unfold ofRaw at h
    split at h
    · exact absurd h.symm known
    · next found =>
        subst h
        have same := List.find?_some found
        exact (eq_of_beq same).symm
    · exact absurd h.symm known
  · rintro rfl
    unfold ofRaw
    rw [ofTag?_tag]
    cases kind with
    | explicit => exact absurd rfl named
    | _ => rfl

theorem ofRaw_ne_explicit (rawType : String) : ofRaw rawType ≠ .explicit := by
  unfold ofRaw
  split
  · simp
  · next kind other _ => exact other
  · simp

end PropertyKind

/-! ## Definitions -/

namespace PropertyDefinition

/-- Options that leave something to choose: at least two, and neither all numbers nor exactly two booleans. -/
def IsChoice (options : List String) : Prop :=
  2 ≤ options.length ∧ options.all Coercion.isNumber = false ∧
    ¬ (options.length = 2 ∧ options.all Coercion.isBoolean = true)

/-- Which parts a definition has. -/
structure HasParts (d : PropertyDefinition) : Prop where
  withOptions : d.options.isSome = true ↔ d.kind = .variant
  choice : ∀ os, d.options = some os → IsChoice os
  withRawType : d.rawType.isSome = true ↔ d.kind = .unknown

theorem explicit_admits {text : String} {v : Primitive} (coerced : Coercion.explicit text = .ok v) :
    PropertyKind.explicit.admits v = true := by
  unfold Coercion.explicit at coerced
  split at coerced
  · obtain rfl := Except.ok.inj coerced
    rfl
  · split at coerced
    · obtain ⟨n, -, rfl⟩ := map_eq_ok_iff.1 coerced
      rfl
    · obtain rfl := Except.ok.inj coerced
      rfl

/-- What is known of a kind, a default and options that belong together. -/
structure Refined (kind : PropertyKind) (default : Primitive) (options : Option (List String)) : Prop where
  admits : kind.admits default = true
  known : kind ≠ .unknown
  withOptions : options.isSome = true ↔ kind = .variant
  choice : ∀ os, options = some os → IsChoice os

theorem refined_of_refine {options : List String} {default : String} {kind : PropertyKind} {value : Primitive}
    {kept : Option (List String)} (refined : refine options default = .ok (kind, value, kept)) :
    Refined kind value kept := by
  unfold refine at refined
  split at refined
  · next single =>
      obtain ⟨v, coerced, parts⟩ := map_eq_ok_iff.1 refined
      obtain ⟨rfl, rfl, rfl⟩ : PropertyKind.explicit = kind ∧ v = value ∧ none = kept := by simpa using parts
      exact ⟨explicit_admits coerced, by decide, by decide, by simp⟩
  · next several =>
      split at refined
      · obtain ⟨rfl, rfl, rfl⟩ : PropertyKind.boolean = kind ∧ Primitive.bool (Coercion.asBoolean default) = value ∧
            none = kept := by
          simpa using refined
        exact ⟨rfl, by decide, by decide, by simp⟩
      · next booleans =>
          split at refined
          · obtain ⟨n, -, parts⟩ := map_eq_ok_iff.1 refined
            obtain ⟨rfl, rfl, rfl⟩ : PropertyKind.number = kind ∧ Primitive.number n = value ∧ none = kept := by
              simpa using parts
            exact ⟨rfl, by decide, by decide, by simp⟩
          · next numbers =>
              obtain ⟨rfl, rfl, rfl⟩ : PropertyKind.variant = kind ∧ Primitive.text default = value ∧
                  some options = kept := by
                simpa using refined
              refine ⟨rfl, by decide, by simp, ?_⟩
              intro os same
              obtain rfl := Option.some.inj same
              have many : 2 ≤ options.length := by
                -- without options all of them are numbers
                cases options with
                | nil => simp at numbers
                | cons first rest =>
                    simp only [List.length_cons] at several ⊢
                    omega
              exact ⟨many, Bool.eq_false_iff.2 numbers, booleans⟩

/-- Only a raw kind that is a number already keeps its default as a text. -/
theorem parts_of_content {raw kind : PropertyKind} {options : List String} {default : String} {value : Primitive}
    {kept : Option (List String)} (found : content raw options default = .ok (kind, value, kept)) :
    (kind.admits value = true ↔ raw ≠ .number) ∧ (kind = .unknown ↔ raw = .unknown) ∧
      (kept.isSome = true ↔ kind = .variant) ∧ ∀ os, kept = some os → IsChoice os := by
  cases raw with
  | variant =>
      obtain ⟨admits, known, withOptions, choice⟩ := refined_of_refine found
      exact ⟨by simp [admits], by simp [known], withOptions, choice⟩
  | _ =>
      simp only [content, Except.ok.injEq, Prod.mk.injEq] at found
      obtain ⟨rfl, rfl, rfl⟩ := found
      simp [PropertyKind.admits]

theorem parts_of_ofTexts {key : Key} {rawType : String} {options : List String} {default : String}
    {d : PropertyDefinition} (found : ofTexts key rawType options default = .ok d) :
    d.HasParts ∧ (d.kind.admits d.default = true ↔ rawType ≠ PropertyKind.number.tag) := by
  obtain ⟨⟨kind, value, kept⟩, made, rfl⟩ := map_eq_ok_iff.1 found
  obtain ⟨admits, unknown, withOptions, choice⟩ := parts_of_content made
  refine ⟨⟨withOptions, choice, ?_⟩, ?_⟩
  · by_cases same : PropertyKind.ofRaw rawType = .unknown <;> simp [same, unknown]
  · rw [admits, ne_eq, PropertyKind.ofRaw_eq_iff (by decide) (by decide)]

theorem rawTypeOf_members {raw : Json} {members : List (String × Json)} (read : raw.membersIfAny = .ok members) :
    rawTypeOf (.obj members) = rawTypeOf raw := by
  cases raw with
  | obj found =>
      obtain rfl := Except.ok.inj read
      rfl
  | _ =>
      simp only [Json.membersIfAny] at read
      split at read
      · simp at read
      · obtain rfl := Except.ok.inj read
        rfl

theorem member_members {raw : Json} {members : List (String × Json)} (read : raw.membersIfAny = .ok members)
    (name : String) : (Json.obj members).member name = raw.member name := by
  cases raw with
  | obj found =>
      obtain rfl := Except.ok.inj read
      rfl
  | _ =>
      simp only [Json.membersIfAny] at read
      split at read
      · simp at read
      · obtain rfl := Except.ok.inj read
        rfl

/-- A definition is made from the texts of its type, its options and its default. -/
theorem ofTexts_of_ofRaw {key : Key} {raw : Json} {d : PropertyDefinition} (found : ofRaw key raw = .ok d) :
    ∃ parts, (raw.member "variantOptions").partsIfAny = .ok parts ∧
      ofTexts key (rawTypeOf raw) (parts.map Json.canonicalText) (raw.member "defaultValue").canonicalText = .ok d := by
  obtain ⟨members, read, found⟩ := bind_eq_ok_iff.1 found
  obtain ⟨parts, options, found⟩ := bind_eq_ok_iff.1 found
  rw [← member_members read, ← member_members read, ← rawTypeOf_members read]
  split at found
  · next d' made =>
      obtain rfl := Except.ok.inj found
      exact ⟨parts, options, made⟩
  · simp at found

theorem ofRaw_parts {key : Key} {raw : Json} {d : PropertyDefinition} (found : ofRaw key raw = .ok d) :
    d.HasParts := by
  obtain ⟨parts, -, made⟩ := ofTexts_of_ofRaw found
  exact (parts_of_ofTexts made).1

/-- Its default is a value of its kind unless the raw type already says `NUMBER`. -/
theorem ofRaw_admits_iff {key : Key} {raw : Json} {d : PropertyDefinition} (found : ofRaw key raw = .ok d) :
    d.kind.admits d.default = true ↔ rawTypeOf raw ≠ PropertyKind.number.tag := by
  obtain ⟨parts, -, made⟩ := ofTexts_of_ofRaw found
  exact (parts_of_ofTexts made).2

end PropertyDefinition

/-! ## Values -/

namespace PropertyValue

/-- A value has the kind of its definition and says whether it is the default; without one it is a text. -/
def Agrees (definition : Option PropertyDefinition) (p : PropertyValue) : Prop :=
  match definition with
  | some d => p.kind = d.kind ∧ p.kind.admits p.value = true ∧ p.isDefault = p.value.eqv d.default
  | none => p.kind = .text ∧ p.kind.admits p.value = true ∧ p.isDefault = false

theorem coerce_admits {kind : PropertyKind} {text : String} {v : Primitive} (coerced : coerce kind text = .ok v) :
    kind.admits v = true := by
  cases kind with
  | explicit => exact PropertyDefinition.explicit_admits coerced
  | number =>
      obtain ⟨n, -, rfl⟩ := map_eq_ok_iff.1 coerced
      rfl
  | _ =>
      obtain rfl := Except.ok.inj coerced
      rfl

theorem ofText_agrees {definition : Option PropertyDefinition} {key : Key} {text : String} {p : PropertyValue}
    (found : ofText definition key text = .ok p) : p.Agrees definition := by
  cases definition with
  | none =>
      obtain rfl := Except.ok.inj found
      exact ⟨rfl, rfl, rfl⟩
  | some d =>
      obtain ⟨v, coerced, rfl⟩ := map_eq_ok_iff.1 found
      exact ⟨rfl, coerce_admits coerced, rfl⟩

theorem ofText_of_ofRaw {definitions : PropertyDefinitions} {key : Key} {raw : Json} {p : PropertyValue}
    (found : ofRaw definitions key raw = .ok p) : ∃ text, ofText (definitions.get? key) key text = .ok p := by
  obtain ⟨members, -, found⟩ := bind_eq_ok_iff.1 found
  split at found
  · next p' made =>
      obtain rfl := Except.ok.inj found
      exact ⟨_, made⟩
  · simp at found

theorem ofRaw_agrees {definitions : PropertyDefinitions} {key : Key} {raw : Json} {p : PropertyValue}
    (found : ofRaw definitions key raw = .ok p) : p.Agrees (definitions.get? key) := by
  obtain ⟨text, made⟩ := ofText_of_ofRaw found
  exact ofText_agrees made

end PropertyValue

theorem normalizeValues_agrees {definitions : PropertyDefinitions} {raws : OrderedMap Key Json}
    {values : PropertyValues} (result : (normalizeValues definitions raws.entries).result = .ok values) :
    ∀ e ∈ values.entries, e.2.Agrees (definitions.get? e.1) := by
  intro e inside
  obtain ⟨raw, _, same, made⟩ := exists_related_right (Progress.forall₂_of_result _ raws result) e inside
  rw [← same]
  exact PropertyValue.ofRaw_agrees made

end DesignProps
