import DesignProps.Proofs.OrderedMap.Mapped
import DesignProps.Proofs.Traversal
import DesignProps.Property.Normalize

/-!
# Raw values of another type

A default, an option or a value may be given as the text it stands for.  `plainDefinition` and `plainValue` give all of
them so and drop what is not read; normalizing a property does not tell it from its plain form, and properties that
differ in how such values are given have the same plain form.

Main statements: `normalizeDefinitions_of_retyped`, `normalizeValues_of_retyped`, `normalizeDefaults_of_retyped` (values
that are put together from definitions).
-/

set_option autoImplicit false

namespace DesignProps

namespace Json

/-! ## Values that are given as texts -/

/-- A value or the text it stands for. -/
inductive Retyped (v : Json) : Json → Prop
  | kept : Retyped v v
  | text : Retyped v (.str v.canonicalText)

/-- The same value, or a list with related items. -/
inductive ItemsRelated (R : Json → Json → Prop) : Json → Json → Prop
  | kept (v : Json) : ItemsRelated R v v
  | items {xs ys : List Json} (each : List.Forall₂ R xs ys) : ItemsRelated R (.arr xs) (.arr ys)

/-- Entries of the same keys, one by one, with related values. -/
def EntriesRelated {κ : Type} (R : Json → Json → Prop) : List (κ × Json) → List (κ × Json) → Prop :=
  List.Forall₂ fun a b => a.1 = b.1 ∧ R a.2 b.2

/-- Nothing but the members of some names is different. -/
def SameBut (names : List String) (before after : List (String × Json)) : Prop :=
  ∀ name, name ∉ names → Assoc.get? name after = Assoc.get? name before

theorem SameBut.refl (names : List String) (members : List (String × Json)) : SameBut names members members :=
  fun _ _ => rfl

/-- Before members that are the same, a member of one of the names may be different. -/
theorem SameBut.cons {names : List String} {before after : List (String × Json)} (same : SameBut names before after)
    {name : String} {v w : Json} (own : w = v ∨ name ∈ names) :
    SameBut names ((name, v) :: before) ((name, w) :: after) := by
  intro other apart
  simp only [Assoc.get?, same other apart]
  by_cases here : (name == other) = true
  · obtain rfl := own.resolve_right (eq_of_beq here ▸ apart)
    rfl
  · simp only [if_neg here]

theorem SameBut.added {names : List String} {before after : List (String × Json)} (same : SameBut names before after)
    {name : String} (among : name ∈ names) (v : Json) : SameBut names before ((name, v) :: after) := by
  intro other apart
  rw [← same other apart]
  exact if_neg fun here => apart ((eq_of_beq (a := name) (b := other) here) ▸ among)

/-- The same raw definition, but its default and some of its options may be given as texts.  A definition that counts as
absent has no members, and what is not there stands for the undefined marker. -/
inductive DefinitionRetyped : Json → Json → Prop
  | kept (v : Json) : DefinitionRetyped v v
  | retyped {v w : Json} {before after : List (String × Json)} (mine : v.membersIfAny = .ok before)
      (other : w.membersIfAny = .ok after) (others : SameBut ["defaultValue", "variantOptions"] before after)
      (default : ((Json.obj before).member "defaultValue").Retyped ((Json.obj after).member "defaultValue"))
      (options : ItemsRelated Retyped ((Json.obj before).member "variantOptions")
        ((Json.obj after).member "variantOptions")) : DefinitionRetyped v w

/-- The same raw value of a property, but what it holds may be given as a text. -/
inductive ValueRetyped : Json → Json → Prop
  | kept (v : Json) : ValueRetyped v v
  | retyped {v w : Json} {before after : List (String × Json)} (mine : v.membersIfAny = .ok before)
      (other : w.membersIfAny = .ok after) (others : SameBut ["value"] before after)
      (value : ((Json.obj before).member "value").Retyped ((Json.obj after).member "value")) : ValueRetyped v w

/-! ## Plain forms -/

def spelled (v : Json) : Json := .str v.canonicalText

theorem spelled_of_retyped {v w : Json} (retyped : v.Retyped w) : v.spelled = w.spelled := by
  cases retyped <;> rfl

def plainOptions (v : Json) : Json :=
  match v.partsIfAny with
  | .ok parts => .arr (parts.map spelled)
  | .error _ => v

/-- What is read of a definition's members: the type if there is one, the default and the options. -/
def plainMembers (members : List (String × Json)) : List (String × Json) :=
  (Assoc.get? "type" members).toList.map (fun type => ("type", type))
    ++ [("defaultValue", ((Json.obj members).member "defaultValue").spelled),
      ("variantOptions", ((Json.obj members).member "variantOptions").plainOptions)]

def plainDefinition (v : Json) : Json :=
  match v.membersIfAny with
  | .ok members => .obj (plainMembers members)
  | .error _ => v

def plainValue (v : Json) : Json :=
  match v.membersIfAny with
  | .ok members => .obj [("value", ((Json.obj members).member "value").spelled)]
  | .error _ => v

theorem membersIfAny_obj (members : List (String × Json)) : (Json.obj members).membersIfAny = .ok members := rfl

theorem partsIfAny_arr (items : List Json) : (Json.arr items).partsIfAny = .ok items := by
  cases items <;> rfl

theorem plainOptions_of_related {v w : Json} (related : ItemsRelated Retyped v w) :
    v.plainOptions = w.plainOptions := by
  cases related with
  | kept => rfl
  | items each =>
      simp only [plainOptions, partsIfAny_arr]
      rw [map_eq_of_forall₂ (each.imp fun _ _ => spelled_of_retyped)]

theorem plainDefinition_of_retyped {v w : Json} (retyped : DefinitionRetyped v w) :
    v.plainDefinition = w.plainDefinition := by
  cases retyped with
  | kept => rfl
  | retyped mine other others default options =>
      simp only [plainDefinition, plainMembers, mine, other, others "type" (by decide), spelled_of_retyped default,
        plainOptions_of_related options]

theorem plainValue_of_retyped {v w : Json} (retyped : ValueRetyped v w) : v.plainValue = w.plainValue := by
  cases retyped with
  | kept => rfl
  | retyped mine other others value => simp only [plainValue, mine, other, spelled_of_retyped value]

theorem plainValue_plainValue (v : Json) : v.plainValue.plainValue = v.plainValue := by
  cases read : v.membersIfAny with
  | error e => simp only [plainValue, read]
  | ok members =>
      simp only [plainValue, read]
      rfl

/-- An options value that cannot be gone through is left as it is. -/
theorem partsIfAny_plainOptions (v : Json) : v.plainOptions.partsIfAny = v.partsIfAny.map (List.map spelled) := by
  unfold plainOptions
  cases read : v.partsIfAny with
  | ok parts => exact partsIfAny_arr _
  | error e => exact read

section Members
variable (members : List (String × Json))

theorem type_plainMembers : Assoc.get? "type" (plainMembers members) = Assoc.get? "type" members := by
  unfold plainMembers
  cases Assoc.get? "type" members <;> rfl

theorem default_plainMembers : (Json.obj (plainMembers members)).member "defaultValue" =
    ((Json.obj members).member "defaultValue").spelled := by
  unfold plainMembers
  cases Assoc.get? "type" members <;> rfl

theorem options_plainMembers : (Json.obj (plainMembers members)).member "variantOptions" =
    ((Json.obj members).member "variantOptions").plainOptions := by
  unfold plainMembers
  cases Assoc.get? "type" members <;> rfl

end Members

end Json

/-! ## Single properties -/

theorem PropertyDefinition.ofRaw_plainDefinition (key : Key) (raw : Json) :
    ofRaw key raw.plainDefinition = ofRaw key raw := by
  unfold Json.plainDefinition
  cases read : raw.membersIfAny with
  | error e => rfl
  | ok members =>
      unfold ofRaw rawTypeOf
      simp only [read, Json.membersIfAny_obj, bind, Except.bind, Json.type_plainMembers, Json.default_plainMembers,
        Json.options_plainMembers, Json.partsIfAny_plainOptions]
      cases ((Json.obj members).member "variantOptions").partsIfAny with
      | error e => rfl
      | ok parts =>
          simp only [Except.map, List.map_map]
          rfl

theorem PropertyValue.ofRaw_plainValue (definitions : PropertyDefinitions) (key : Key) (raw : Json) :
    ofRaw definitions key raw.plainValue = ofRaw definitions key raw := by
  unfold Json.plainValue
  cases read : raw.membersIfAny with
  | error e => rfl
  | ok members =>
      simp only [ofRaw, read, bind, Except.bind]
      rfl

/-- The value of a definition's key has the same plain form. -/
theorem defaultAsValue_plainDefinition (raw : Json) :
    (defaultAsValue raw.plainDefinition).map Json.plainValue = (defaultAsValue raw).map Json.plainValue := by
  unfold Json.plainDefinition
  cases read : raw.membersIfAny with
  | error e => rfl
  | ok members =>
      simp only [defaultAsValue, read, Json.membersIfAny_obj, bind, Except.bind, Json.default_plainMembers]
      rfl

/-! ## Maps of properties -/

namespace Progress

variable {α β : Type}

/-- What was done, with other results. -/
def map (f : α → β) (p : Progress α) : Progress β := ⟨p.done.map fun e => (e.1, f e.2), p.fault⟩

theorem result_map (f : α → β) (p : Progress α) :
    (p.map f).result = p.result.map (OrderedMap.mapValues fun _ => f) := by
  unfold result map
  cases p.fault with
  | none => exact congrArg Except.ok (OrderedMap.mapValues_ofList f p.done).symm
  | some e => rfl

theorem map_run (f : α → β) (step : Key → Json → Except Fault α) : ∀ entries : List (Key × Json),
    (run step entries).map f = run (fun key raw => (step key raw).map f) entries := by
  intro entries
  induction entries with
  | nil => rfl
  | cons e rest ih =>
      simp only [run, ← ih]
      cases step e.1 e.2 <;> rfl

theorem run_map (f : Json → Json) (step : Key → Json → Except Fault α) : ∀ entries : List (Key × Json),
    run step (entries.map fun e => (e.1, f e.2)) = run (fun key raw => step key (f raw)) entries := by
  intro entries
  induction entries with
  | nil => rfl
  | cons e rest ih => simp only [List.map_cons, run, ih]

end Progress

theorem normalizeDefinitions_plain (entries : List (Key × Json)) :
    normalizeDefinitions (entries.map fun e => (e.1, e.2.plainDefinition)) = normalizeDefinitions entries := by
  simp only [normalizeDefinitions, Progress.run_map, PropertyDefinition.ofRaw_plainDefinition]

theorem normalizeValues_plain (definitions : PropertyDefinitions) (entries : List (Key × Json)) :
    normalizeValues definitions (entries.map fun e => (e.1, e.2.plainValue)) = normalizeValues definitions entries := by
  simp only [normalizeValues, Progress.run_map, PropertyValue.ofRaw_plainValue]

theorem normalizeValues_of_plain {raws others : OrderedMap Key Json}
    (same : (raws.mapValues fun _ => Json.plainValue) = others.mapValues fun _ => Json.plainValue)
    (definitions : PropertyDefinitions) :
    normalizeValues definitions raws.entries = normalizeValues definitions others.entries := by
  rw [← normalizeValues_plain, ← normalizeValues_plain definitions others.entries]
  exact congrArg (fun m => normalizeValues definitions m.entries) same

/-- The values of definitions have the same plain forms. -/
theorem valuesFromDefinitions_plain (entries : List (Key × Json)) :
    (valuesFromDefinitions (entries.map fun e => (e.1, e.2.plainDefinition))).result.map
        (OrderedMap.mapValues fun _ => Json.plainValue) =
      (valuesFromDefinitions entries).result.map (OrderedMap.mapValues fun _ => Json.plainValue) := by
  simp only [← Progress.result_map, valuesFromDefinitions, Progress.run_map, Progress.map_run,
    defaultAsValue_plainDefinition]

/-- The values of a definition node: every property at its default, read by the given definitions. -/
def normalizeDefaults (definitions : PropertyDefinitions) (raw : List (Key × Json)) :
    Except Fault (Progress PropertyValue) :=
  (valuesFromDefinitions raw).result.map fun values => normalizeValues definitions values.entries

theorem normalizeDefaults_plain (definitions : PropertyDefinitions) (entries : List (Key × Json)) :
    normalizeDefaults definitions (entries.map fun e => (e.1, e.2.plainDefinition)) =
      normalizeDefaults definitions entries := by
  unfold normalizeDefaults
  rcases cases_of_map_eq (valuesFromDefinitions_plain entries) with ⟨e, one, other⟩ | ⟨given, raw, one, other, same⟩
  · rw [one, other]
  · rw [one, other]
    exact congrArg Except.ok (normalizeValues_of_plain same definitions)

/-! ## Related maps -/

section Related
variable {raws others : List (Key × Json)}

theorem map_plain_of_related {R : Json → Json → Prop} (plain : Json → Json)
    (alike : ∀ v w, R v w → plain v = plain w) (related : Json.EntriesRelated R raws others) :
    (raws.map fun e => (e.1, plain e.2)) = others.map fun e => (e.1, plain e.2) := by
  refine map_eq_of_forall₂ (List.Forall₂.imp ?_ related)
  rintro ⟨j, v⟩ ⟨k, w⟩ ⟨rfl, holds⟩
  exact Prod.ext rfl (alike v w holds)

theorem plainDefinitions_of_retyped (retyped : Json.EntriesRelated Json.DefinitionRetyped raws others) :
    (raws.map fun e => (e.1, e.2.plainDefinition)) = others.map fun e => (e.1, e.2.plainDefinition) :=
  map_plain_of_related Json.plainDefinition (fun _ _ => Json.plainDefinition_of_retyped) retyped

theorem normalizeDefinitions_of_retyped (retyped : Json.EntriesRelated Json.DefinitionRetyped raws others) :
    normalizeDefinitions others = normalizeDefinitions raws := by
  rw [← normalizeDefinitions_plain, ← plainDefinitions_of_retyped retyped, normalizeDefinitions_plain]

theorem normalizeDefaults_of_retyped (retyped : Json.EntriesRelated Json.DefinitionRetyped raws others)
    (definitions : PropertyDefinitions) :
    normalizeDefaults definitions others = normalizeDefaults definitions raws := by
  rw [← normalizeDefaults_plain, ← plainDefinitions_of_retyped retyped, normalizeDefaults_plain]

theorem normalizeValues_of_retyped (retyped : Json.EntriesRelated Json.ValueRetyped raws others)
    (definitions : PropertyDefinitions) : normalizeValues definitions others = normalizeValues definitions raws := by
  have plain := map_plain_of_related Json.plainValue (fun _ _ => Json.plainValue_of_retyped) retyped
  rw [← normalizeValues_plain, ← plain, normalizeValues_plain]

end Related

end DesignProps
