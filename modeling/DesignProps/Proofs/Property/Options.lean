import DesignProps.Proofs.Number.Value
import DesignProps.Proofs.Target.Omission

/-!
# Options of variants

A variant is refined by its options alone, and its default is read as the value of an instance is: by the refined kind.
What is read of two of the options is equal exactly if they are the same text, or if all options are number literals
and the two are literals of one number.  A variant that is hidden has no part in an element.  Of any other one, the
element leaves the option that the instance selects out for three reasons: it is the marker of what is absent, it is
read as the default is and defaults are hidden, or it is `false` where the options are two booleans and booleans are
not spelled out.

Main statements: `PropertyDefinition.refine_eq`, `PropertyDefinition.coerced_eqv_iff`,
`Generator.contribution_option_iff`, `Generator.options_kept_apart`.
-/

set_option autoImplicit false

namespace DesignProps

open NumberLiteral (SameNumber isShort)

namespace PropertyDefinition

def AreBooleans (options : List String) : Prop := options.length = 2 ∧ options.all Coercion.isBoolean = true

def AreNumbers (options : List String) : Prop := options.all Coercion.isNumber = true

instance (options : List String) : Decidable (AreBooleans options) := inferInstanceAs (Decidable (_ ∧ _))

instance (options : List String) : Decidable (AreNumbers options) := inferInstanceAs (Decidable (_ = _))

/-- The kind that a variant with these options is refined to. -/
def refinedKind (options : List String) : PropertyKind :=
  if options.length = 1 then .explicit
  else if AreBooleans options then .boolean
  else if AreNumbers options then .number
  else .variant

/-- Which options are refined to which kind. -/
theorem refinedKind_cases (options : List String) :
    (options.length = 1 ∧ refinedKind options = .explicit) ∨
      (options.length ≠ 1 ∧ AreBooleans options ∧ refinedKind options = .boolean) ∨
      (options.length ≠ 1 ∧ ¬ AreBooleans options ∧ AreNumbers options ∧ refinedKind options = .number) ∨
      (options.length ≠ 1 ∧ ¬ AreBooleans options ∧ ¬ AreNumbers options ∧ refinedKind options = .variant) := by
  unfold refinedKind
  by_cases single : options.length = 1
  · simp [single]
  · by_cases booleans : AreBooleans options
    · simp [single, booleans]
    · by_cases numbers : AreNumbers options
      · simp [single, booleans, numbers]
      · simp [single, booleans, numbers]

theorem refinedKind_eq_boolean_iff {options : List String} : refinedKind options = .boolean ↔ AreBooleans options := by
  rcases refinedKind_cases options with ⟨single, kind⟩ | ⟨-, booleans, kind⟩ | ⟨-, other, -, kind⟩ | ⟨-, other, -, kind⟩
  · simp [kind, AreBooleans, single]
  · simp [kind, booleans]
  · simp [kind, other]
  · simp [kind, other]

/-- The default is read as a value of the refined kind is. -/
theorem refine_eq (options : List String) (default : String) : refine options default =
    (PropertyValue.coerce (refinedKind options) default).map fun value =>
      (refinedKind options, value, if refinedKind options = .variant then some options else none) := by
  have cases := refinedKind_cases options
  unfold AreBooleans AreNumbers at cases
  rcases cases with ⟨single, kind⟩ | ⟨several, booleans, kind⟩ | ⟨several, other, numbers, kind⟩ |
    ⟨several, other, texts, kind⟩
  · rw [kind, refine, if_pos single]
    rfl
  · rw [kind, refine, if_neg several, if_pos booleans]
    rfl
  · rw [kind, refine, if_neg several, if_neg other, if_pos numbers, PropertyValue.coerce]
    cases Coercion.asNumber default <;> rfl
  · rw [kind, refine, if_neg several, if_neg other, if_neg texts]
    rfl

theorem parts_of_refine {options : List String} {default : String} {kind : PropertyKind} {value : Primitive}
    {kept : Option (List String)} (refined : refine options default = .ok (kind, value, kept)) :
    kind = refinedKind options ∧ PropertyValue.coerce (refinedKind options) default = .ok value := by
  rw [refine_eq] at refined
  obtain ⟨v, read, parts⟩ := map_eq_ok_iff.1 refined
  obtain ⟨rfl, rfl, -⟩ : refinedKind options = kind ∧ v = value ∧ _ := by simpa using parts
  exact ⟨rfl, read⟩

/-! ## Reading options -/

/-- An option can be read unless it is an integer of too many digits among numbers. -/
def CanRead (options : List String) (option : String) : Prop := AreNumbers options → isShort option = true

/-- Two options that are the same, or literals of one number among numbers. -/
def ReadAlike (options : List String) (a b : String) : Prop := a = b ∨ (AreNumbers options ∧ SameNumber a b)

variable {options : List String} {a b : String}

/-- A boolean is no number, so options that are numbers have none among them. -/
theorem not_areNumbers_of_booleans (listed : a ∈ options) (booleans : AreBooleans options) : ¬ AreNumbers options := by
  intro numbers
  have number := List.all_eq_true.1 numbers a listed
  simp [Coercion.isNumber_of_isBoolean (List.all_eq_true.1 booleans.2 a listed)] at number

theorem coerce_isOk_iff (listed : a ∈ options) :
    (∃ v, PropertyValue.coerce (refinedKind options) a = .ok v) ↔ CanRead options a := by
  unfold CanRead
  rcases refinedKind_cases options with ⟨single, kind⟩ | ⟨-, booleans, kind⟩ | ⟨-, -, numbers, kind⟩ |
    ⟨-, -, texts, kind⟩
  · obtain ⟨x, rfl⟩ := List.length_eq_one_iff.1 single
    obtain rfl := List.mem_singleton.1 listed
    rw [kind, PropertyValue.coerce, Coercion.explicit_isOk_iff]
    simp [AreNumbers]
  · rw [kind]
    simp [PropertyValue.coerce, not_areNumbers_of_booleans listed booleans]
  · rw [kind, PropertyValue.coerce, exists_map_eq_ok_iff, Coercion.asNumber_isOk_iff]
    simp [numbers]
  · rw [kind]
    simp [PropertyValue.coerce, texts]

/-- The refined kind keeps options apart, except for literals of one number among numbers. -/
theorem coerced_eqv_iff {v w : Primitive} (first : a ∈ options) (second : b ∈ options)
    (readFirst : PropertyValue.coerce (refinedKind options) a = .ok v)
    (readSecond : PropertyValue.coerce (refinedKind options) b = .ok w) :
    v.eqv w = true ↔ ReadAlike options a b := by
  unfold ReadAlike
  rcases refinedKind_cases options with ⟨single, kind⟩ | ⟨-, booleans, kind⟩ | ⟨-, -, numbers, kind⟩ |
    ⟨-, -, texts, kind⟩
  all_goals rw [kind] at readFirst readSecond
  · obtain ⟨x, rfl⟩ := List.length_eq_one_iff.1 single
    obtain rfl := List.mem_singleton.1 first
    obtain rfl := List.mem_singleton.1 second
    obtain rfl := Except.ok.inj (readFirst.symm.trans readSecond)
    have equal : v.eqv v = true := Coercion.explicit_eqv_self readFirst
    simp [equal]
  · have isBoolean := List.all_eq_true.1 booleans.2
    obtain rfl := Except.ok.inj readFirst
    obtain rfl := Except.ok.inj readSecond
    simp [Primitive.eqv, Coercion.asBoolean_inj (isBoolean a first) (isBoolean b second),
      not_areNumbers_of_booleans first booleans]
  · have isNumber := List.all_eq_true.1 numbers
    obtain ⟨n, countFirst, rfl⟩ := map_eq_ok_iff.1 readFirst
    obtain ⟨m, countSecond, rfl⟩ := map_eq_ok_iff.1 readSecond
    have same : n.eqv m = true ↔ SameNumber a b :=
      Coercion.asNumber_eqv_iff (isNumber a first) (isNumber b second) countFirst countSecond
    constructor
    · intro equal
      exact .inr ⟨numbers, same.1 equal⟩
    · rintro (rfl | ⟨-, equal⟩)
      · exact same.2 (NumberLiteral.sameNumber_self (isNumber a first))
      · exact same.2 equal
  · obtain rfl := Except.ok.inj readFirst
    obtain rfl := Except.ok.inj readSecond
    simp [Primitive.eqv, texts]

/-! ## Definitions of variants -/

/-- A raw definition of a variant that offers these options, of which one is its default. -/
structure Offers (raw : Json) (options : List String) (default : String) : Prop where
  variant : rawTypeOf raw = PropertyKind.variant.tag
  offered : (raw.member "variantOptions").partsIfAny.map (List.map Json.canonicalText) = .ok options
  initial : (raw.member "defaultValue").canonicalText = default
  listed : default ∈ options

variable {key : Key} {raw : Json} {default : String}

theorem content_of_ofTexts {d : PropertyDefinition}
    (made : ofTexts key PropertyKind.variant.tag options default = .ok d) :
    d.kind = refinedKind options ∧ PropertyValue.coerce (refinedKind options) default = .ok d.default := by
  obtain ⟨⟨kind, value, kept⟩, found, rfl⟩ := map_eq_ok_iff.1 made
  exact parts_of_refine found

theorem ofTexts_of_coerce (key : Key) {v : Primitive}
    (read : PropertyValue.coerce (refinedKind options) default = .ok v) :
    ∃ d, ofTexts key PropertyKind.variant.tag options default = .ok d := by
  have found : content (PropertyKind.ofRaw PropertyKind.variant.tag) options default =
      .ok (refinedKind options, v, if refinedKind options = .variant then some options else none) := by
    change refine options default = _
    rw [refine_eq, read]
    rfl
  exact ⟨_, by rw [ofTexts, found]; rfl⟩

/-- The definition has the refined kind, by which its default is read. -/
theorem content_of_offers (offers : Offers raw options default) {d : PropertyDefinition}
    (made : ofRaw key raw = .ok d) :
    d.kind = refinedKind options ∧ PropertyValue.coerce (refinedKind options) default = .ok d.default := by
  obtain ⟨parts, read, texts⟩ := ofTexts_of_ofRaw made
  have same : parts.map Json.canonicalText = options := by
    have offered := offers.offered
    rw [read] at offered
    exact Except.ok.inj offered
  rw [offers.variant, same, offers.initial] at texts
  exact content_of_ofTexts texts

theorem ofRaw_isOk_iff (offers : Offers raw options default) :
    (∃ d, ofRaw key raw = .ok d) ↔ CanRead options default := by
  rw [← coerce_isOk_iff offers.listed]
  constructor
  · rintro ⟨d, made⟩
    exact ⟨d.default, (content_of_offers offers made).2⟩
  · rintro ⟨v, read⟩
    obtain ⟨parts, given, same⟩ := map_eq_ok_iff.1 offers.offered
    obtain ⟨d, texts⟩ := ofTexts_of_coerce key read
    cases raw with
    | obj members =>
        refine ⟨d, bind_eq_ok_iff.2 ⟨members, rfl, bind_eq_ok_iff.2 ⟨parts, given, ?_⟩⟩⟩
        rw [offers.variant, same, offers.initial, texts]
    | _ =>
        have untyped : "" = PropertyKind.variant.tag := offers.variant
        exact absurd untyped (by decide)

end PropertyDefinition

/-! ## Values of variants -/

namespace PropertyValue

open PropertyDefinition

variable {definitions : PropertyDefinitions} {key : Key} {given : Json} {d : PropertyDefinition}

/-- A value whose key has a definition is read from its text by the kind of that definition. -/
theorem ofRaw_eq_ok_iff (known : definitions.get? key = some d) {members : List (String × Json)}
    (object : given.membersIfAny = .ok members) (p : PropertyValue) :
    ofRaw definitions key given = .ok p ↔ ofText (some d) key (given.member "value").canonicalText = .ok p := by
  rw [← member_members object]
  constructor
  · intro found
    obtain ⟨_, same, found⟩ := bind_eq_ok_iff.1 found
    obtain rfl := Except.ok.inj (object.symm.trans same)
    rw [known] at found
    split at found
    · next made =>
        obtain rfl := Except.ok.inj found
        exact made
    · simp at found
  · intro made
    refine bind_eq_ok_iff.2 ⟨members, object, ?_⟩
    rw [known, made]

theorem content_of_ofText {text : String} {p : PropertyValue} (made : ofText (some d) key text = .ok p) :
    p.kind = d.kind ∧ p.undefined = (text == undefinedMarker) ∧ coerce d.kind text = .ok p.value ∧
      p.isDefault = p.value.eqv d.default := by
  obtain ⟨v, read, rfl⟩ := map_eq_ok_iff.1 made
  exact ⟨rfl, rfl, read, rfl⟩

/-- A raw value that selects an option: an object, or one that counts as absent and selects what is absent. -/
structure Selects (given : Json) (options : List String) (option : String) : Prop where
  object : ∃ members, given.membersIfAny = .ok members
  selected : (given.member "value").canonicalText = option
  listed : option ∈ options

variable {raw : Json} {options : List String} {default option : String}

/-- What is known of the value of an instance that selects an option. -/
structure ReadOf (options : List String) (default option : String) (p : PropertyValue) : Prop where
  kind : p.kind = refinedKind options
  undefined : p.undefined = (option == undefinedMarker)
  read : coerce (refinedKind options) option = .ok p.value
  isDefault : p.isDefault = true ↔ ReadAlike options option default

theorem readOf_of_ofRaw (offers : Offers raw options default) (selects : Selects given options option)
    (made : PropertyDefinition.ofRaw key raw = .ok d) (known : definitions.get? key = some d) {p : PropertyValue}
    (found : ofRaw definitions key given = .ok p) : ReadOf options default option p := by
  obtain ⟨members, object⟩ := selects.object
  obtain ⟨kind, initial⟩ := content_of_offers offers made
  rw [ofRaw_eq_ok_iff known object, selects.selected] at found
  obtain ⟨sameKind, undefined, read, isDefault⟩ := content_of_ofText found
  rw [kind] at sameKind read
  refine ⟨sameKind, undefined, read, ?_⟩
  rw [isDefault, coerced_eqv_iff selects.listed offers.listed read initial]

theorem ofRaw_isOk_iff (offers : Offers raw options default) (selects : Selects given options option)
    (made : PropertyDefinition.ofRaw key raw = .ok d) (known : definitions.get? key = some d) :
    (∃ p, ofRaw definitions key given = .ok p) ↔ CanRead options option := by
  rw [← coerce_isOk_iff selects.listed]
  constructor
  · rintro ⟨p, found⟩
    exact ⟨p.value, (readOf_of_ofRaw offers selects made known found).read⟩
  · rintro ⟨v, read⟩
    obtain ⟨members, object⟩ := selects.object
    obtain ⟨kind, -⟩ := content_of_offers offers made
    simp only [ofRaw_eq_ok_iff known object, selects.selected]
    rw [ofText, exists_map_eq_ok_iff, kind]
    exact ⟨v, read⟩

end PropertyValue

/-! ## Options in elements -/

namespace Generator

open PropertyDefinition

variable {options : List String} {default option : String} {p : PropertyValue}

theorem isSkipped_option_iff (value : PropertyValue.ReadOf options default option p) (m : Model)
    (c : Component) (t : Toggles) (key : Key) : isSkipped m c t (key, p) = true ↔
      option = undefinedMarker ∨ (t.showDefaults = false ∧ ReadAlike options option default) := by
  have noSwap : (p.kind == .instanceSwap) = false := by
    rw [value.kind]
    rcases refinedKind_cases options with ⟨-, kind⟩ | ⟨-, -, kind⟩ | ⟨-, -, -, kind⟩ | ⟨-, -, -, kind⟩
    all_goals
      rw [kind]
      rfl
  simp only [isSkipped, noSwap, Bool.false_and, Bool.or_false, Bool.or_eq_true, Bool.and_eq_true, value.undefined,
    value.isDefault, beq_iff_eq, Bool.not_eq_true', and_comm]

/-- Of two booleans, the one that is off is `false`. -/
theorem truthy_eq_false_iff (listed : option ∈ options) (value : PropertyValue.ReadOf options default option p)
    (booleans : AreBooleans options) : p.value.truthy = false ↔ option = "false" := by
  have read := value.read
  rw [refinedKind_eq_boolean_iff.2 booleans] at read
  rw [← Except.ok.inj read]
  rcases (Coercion.isBoolean_iff option).1 (List.all_eq_true.1 booleans.2 option listed) with rfl | rfl <;> decide

/-- Why an element leaves the property of a variant out. -/
def LeftOut (t : Toggles) (options : List String) (default option : String) : Prop :=
  option = undefinedMarker ∨ (t.showDefaults = false ∧ ReadAlike options option default) ∨
    (AreBooleans options ∧ t.explicitBoolean = false ∧ option = "false")

theorem contribution_option_iff (listed : option ∈ options) (value : PropertyValue.ReadOf options default option p)
    (g : Generator) (m : Model) (c : Component) (t : Toggles) (count : Nat) (key : Key) :
    g.contribution m c t count (key, p) = .nothing ↔ LeftOut t options default option := by
  rw [contribution_eq_nothing_iff, isSkipped_option_iff value, value.kind, refinedKind_eq_boolean_iff, LeftOut, or_assoc]
  refine or_congr_right (or_congr_right (and_congr_right fun booleans => ?_))
  rw [truthy_eq_false_iff listed value booleans]

/-- A property of a component has a part in its elements unless its definition is hidden. -/
theorem mem_visible_iff {definitions : PropertyDefinitions} {c : Component} {key : Key} {d : PropertyDefinition}
    (inside : (key, p) ∈ c.properties.entries) (known : definitions.get? key = some d) :
    (key, p) ∈ visible definitions c ↔ d.hidden = false := by
  constructor
  · intro shown
    have visible := (List.mem_filter.1 shown).2
    simpa [isHidden, known] using visible
  · exact mem_visible inside known

/-- What the elements of a component make of a property with that definition and value: a hidden one has no part in
them, and any other one contributes something unless it is left out for one of the reasons of a variant. -/
structure ShowsOption (g : Generator) (m : Model) (c : Component) (t : Toggles) (key : Key) (d : PropertyDefinition)
    (p : PropertyValue) (options : List String) (default option : String) : Prop where
  visible : (key, p) ∈ visible (m.definitionsOf c.definition) c ↔ d.hidden = false
  listed : d.hidden = false →
    (Naming.identifier key, g.contribution m c t (slotCount m c) (key, p)) ∈ g.contributions m c t
  omitted : g.contribution m c t (slotCount m c) (key, p) = .nothing ↔ LeftOut t options default option
  written : ∀ a, g.contribution m c t (slotCount m c) (key, p) = .attribute a → a.write (Naming.identifier key) ≠ ""

theorem showsOption (listed : option ∈ options) (value : PropertyValue.ReadOf options default option p) (g : Generator)
    {m : Model} {c : Component} {key : Key} {d : PropertyDefinition} (t : Toggles)
    (known : (m.definitionsOf c.definition).get? key = some d) (inside : (key, p) ∈ c.properties.entries) :
    ShowsOption g m c t key d p options default option where
  visible := mem_visible_iff inside known
  listed shown := List.mem_map.2 ⟨(key, p), mem_visible inside known shown, rfl⟩
  omitted := contribution_option_iff listed value g m c t (slotCount m c) key
  written a _ := a.write_ne_empty key

/-- Let a raw definition be a variant that offers options, one of them its default, and let the raw value of an
instance select one of the options.  Both can be read, unless all options are number literals and the text is an
integer of too many digits.  The value of the instance is then a default exactly if the option is the default, or if
all options are number literals and the two are literals of one number.  Where the definition is not hidden, the
elements of a component that holds the value leave the property out for just the reasons that `LeftOut` lists. -/
theorem options_kept_apart {raw given : Json} (offers : Offers raw options default)
    (selects : PropertyValue.Selects given options option) (key : Key) :
    ((∃ d, PropertyDefinition.ofRaw key raw = .ok d) ↔ CanRead options default) ∧
      ∀ (definitions : PropertyDefinitions) (d : PropertyDefinition), PropertyDefinition.ofRaw key raw = .ok d →
        definitions.get? key = some d →
          ((∃ p, PropertyValue.ofRaw definitions key given = .ok p) ↔ CanRead options option) ∧
            ∀ p, PropertyValue.ofRaw definitions key given = .ok p →
              (p.isDefault = true ↔ ReadAlike options option default) ∧
                ∀ (g : Generator) (m : Model) (c : Component) (t : Toggles),
                  m.definitionsOf c.definition = definitions → (key, p) ∈ c.properties.entries →
                    ShowsOption g m c t key d p options default option := by
  refine ⟨PropertyDefinition.ofRaw_isOk_iff offers, fun definitions d made known => ?_⟩
  refine ⟨PropertyValue.ofRaw_isOk_iff offers selects made known, fun p found => ?_⟩
  have value := PropertyValue.readOf_of_ofRaw offers selects made known found
  refine ⟨value.isDefault, fun g m c t own inside => ?_⟩
  rw [← own] at known
  exact showsOption selects.listed value g t known inside

/-! A size that is one of three numbers, two of which are spellings of one, and a switch of two options. -/

def sizeKey : Key := .text "Size"

def sizeRaw : Json :=
  .obj [("type", .str "VARIANT"), ("defaultValue", .int 1), ("variantOptions", .arr [.str "1", .str "1.0", .str "2"])]

def selecting (option : String) : Json := .obj [("value", .str option)]

def size : PropertyDefinition where
  name := "size"
  kind := .number
  default := .number (.int 1)
  options := none
  hidden := false
  optional := false
  rawType := none

def sizeOf (n : Number) (isDefault : Bool) : PropertyValue where
  name := "size"
  kind := .number
  value := .number n
  isDefault := isDefault
  undefined := false

theorem sizeRaw_offers : Offers sizeRaw ["1", "1.0", "2"] "1" := ⟨rfl, rfl, rfl, by decide⟩

def sizeModel : Model := { Model.empty with definitions := .ofList [("2:1", .ofList [(sizeKey, size)])] }

def sizeInstance : Component := ⟨"2:9", "Chip", "2:1", .ofList [(sizeKey, sizeOf (.int 2) false)]⟩

theorem options_kept_apart_size :
    PropertyDefinition.ofRaw sizeKey sizeRaw = .ok size ∧
      PropertyValue.ofRaw (.ofList [(sizeKey, size)]) sizeKey (selecting "2") = .ok (sizeOf (.int 2) false) ∧
      ¬ ReadAlike ["1", "1.0", "2"] "2" "1" ∧
      ∀ (g : Generator) (t : Toggles),
        (Naming.identifier sizeKey, g.contribution sizeModel sizeInstance t (slotCount sizeModel sizeInstance)
            (sizeKey, sizeOf (.int 2) false)) ∈ g.contributions sizeModel sizeInstance t ∧
          g.contribution sizeModel sizeInstance t (slotCount sizeModel sizeInstance) (sizeKey, sizeOf (.int 2) false) ≠
            .nothing := by
  have selects : PropertyValue.Selects (selecting "2") ["1", "1.0", "2"] "2" := ⟨⟨_, rfl⟩, rfl, by decide⟩
  have made : PropertyDefinition.ofRaw sizeKey sizeRaw = .ok size := rfl
  have found : PropertyValue.ofRaw (.ofList [(sizeKey, size)]) sizeKey (selecting "2") =
      .ok (sizeOf (.int 2) false) := rfl
  have law := ((options_kept_apart sizeRaw_offers selects sizeKey).2 _ _ made rfl).2 _ found
  have apart : ¬ ReadAlike ["1", "1.0", "2"] "2" "1" := fun alike => Bool.false_ne_true (law.1.2 alike)
  refine ⟨made, found, apart, fun g t => ?_⟩
  have shows := law.2 g sizeModel sizeInstance t rfl (List.mem_singleton.2 rfl)
  refine ⟨shows.listed rfl, fun nothing => ?_⟩
  rcases shows.omitted.1 nothing with absent | ⟨-, alike⟩ | ⟨booleans, -⟩
  · exact absurd absent (by decide)
  · exact apart alike
  · exact absurd booleans (by decide)

def switchRaw : Json :=
  .obj [("type", .str "VARIANT"), ("defaultValue", .str "true"), ("variantOptions", .arr [.str "true", .str "false"])]

/-- An instance at `1.0` counts as one at `1`, and a switch that is off is left out although it is on by default. -/
theorem size_kept_as_default :
    ["1", "1.0", "2"].Nodup ∧ "1.0" ≠ "1" ∧ Offers sizeRaw ["1", "1.0", "2"] "1" ∧
      PropertyValue.Selects (selecting "1.0") ["1", "1.0", "2"] "1.0" ∧
      PropertyDefinition.ofRaw sizeKey sizeRaw = .ok size ∧
      PropertyValue.ofRaw (.ofList [(sizeKey, size)]) sizeKey (selecting "1.0") =
        .ok (sizeOf (.float (.finite false (2 ^ 52) (-52))) true) ∧
      PropertyDefinition.ofRaw switchKey switchRaw = .ok switchOn ∧
      PropertyValue.ofRaw (.ofList [(switchKey, switchOn)]) switchKey (selecting "false") = .ok switchedOff ∧
      switchedOff.isDefault = false ∧
      switchGenerator.contribution switchModel switchInstance ⟨false, false⟩ 0 (switchKey, switchedOff) = .nothing := by
  exact ⟨by decide, by decide, sizeRaw_offers, ⟨⟨_, rfl⟩, rfl, by decide⟩, rfl, by decide +kernel, rfl, rfl, rfl, rfl⟩

end Generator

end DesignProps
