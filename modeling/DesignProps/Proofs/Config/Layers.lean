import DesignProps.Config.Basic
import DesignProps.Proofs.OrderedMap

/-!
# The members of a configuration

A list of members gives each field its member, or what it was before, and collects the members that are no field; the
members of a configuration are its fields and what its custom object holds.  Laid over a target's defaults they take
precedence, and no default is a custom entry.

Main statements: `get_setAll`, `ofMembers_of_no_custom` (what a list without a custom object gives),
`HasExtra.toMembers`, `layered_members`.
-/

set_option autoImplicit false

namespace DesignProps

/-! ## Custom objects -/

/-- An object and the map of its members are the same to whatever reads them. -/
def Custom.normal : Custom → Custom
  | .value (.obj members) => .collected (.ofList (Json.keyed members))
  | custom => custom

theorem Custom.toMap_of_normal {custom : Custom} {entries : OrderedMap Key Json}
    (h : custom.normal = .collected entries) : custom.toMap = .ok entries := by
  unfold normal at h
  split at h
  · next members => exact congrArg Except.ok (Custom.collected.inj h)
  · subst h
    rfl

theorem Json.distinct_keyed {members : List (String × Json)} (distinct : (members.map Prod.fst).Nodup) :
    Assoc.Distinct ((keyed members).map Prod.fst) := by
  have keys : (keyed members).map Prod.fst = (members.map Prod.fst).map Key.text := by simp [keyed]
  rw [keys, Assoc.Distinct, List.pairwise_map]
  refine distinct.imp fun apart => Bool.eq_false_iff.2 fun same => apart ?_
  exact Key.text.inj ((Key.beq_text _ _).1 same)

namespace Config

/-- The configuration with its custom object as a map. -/
def normal (c : Config) : Config := { c with custom := c.custom.normal }

theorem normal_ext {c d : Config} (fields : ∀ f, c.get f = d.get f) (custom : c.custom.normal = d.custom.normal) :
    c.normal = d.normal := by
  obtain ⟨_, _, _, _, _, _, _⟩ := c
  obtain ⟨_, _, _, _, _, _, _⟩ := d
  have showDefaults := fields .showDefaults
  have explicitBoolean := fields .explicitBoolean
  have optionsApi := fields .optionsApi
  have slotTag := fields .slotTag
  have indentSize := fields .indentSize
  have addComments := fields .addComments
  simp_all [get, normal]

/-! ## Fields -/

theorem ofKey?_eq_some_iff {key : String} {f : Field} : Field.ofKey? key = some f ↔ key = f.key := by
  constructor
  · intro found
    have same := List.find?_some found
    exact (eq_of_beq same).symm
  · rintro rfl
    exact ofKey?_key f

theorem key_ne_customKey (f : Field) : f.key ≠ customKey := by
  cases f <;> decide

/-- The custom object is no field. -/
theorem get_withCustom (c : Config) (custom : Custom) (f : Field) : { c with custom := custom }.get f = c.get f := by
  cases f <;> rfl

theorem get_setMember (c : Config) (entry : String × Json) (f : Field) :
    (c.setMember entry).get f = if entry.1 = f.key then entry.2 else c.get f := by
  unfold setMember
  split
  · next g found =>
      have same : entry.1 = f.key ↔ g = f := by rw [← ofKey?_eq_some_iff, found, Option.some_inj]
      rw [get_set]
      exact if_congr same.symm rfl rfl
  · next none =>
      have other : entry.1 ≠ f.key := fun same => by
        rw [ofKey?_eq_some_iff.2 same] at none
        exact absurd none (Option.some_ne_none f)
      rw [if_neg other]
      split <;> rfl

theorem custom_setMember (c : Config) (entry : String × Json) :
    (c.setMember entry).custom = if entry.1 = customKey then .value entry.2 else c.custom := by
  unfold setMember
  split
  · next f found =>
      have field : entry.1 = f.key := ofKey?_eq_some_iff.1 found
      rw [if_neg (field ▸ key_ne_customKey f)]
      cases f <;> rfl
  · split <;> rfl

theorem get?_of_not_mem {key : String} {members : List (String × Json)} (absent : key ∉ members.map Prod.fst) :
    Assoc.get? key members = none := by
  refine (Assoc.get?_eq_none_iff key members).2 fun j inside => Bool.eq_false_iff.2 fun same => absent ?_
  rw [← eq_of_beq same]
  exact inside

/-- A field has the value of its member, whichever place the member has. -/
theorem get_setAll (f : Field) (members : List (String × Json)) : ∀ c : Config, (members.map Prod.fst).Nodup →
    (c.setAll members).get f = (Assoc.get? f.key members).getD (c.get f) := by
  induction members with
  | nil => exact fun _ _ => rfl
  | cons entry rest ih =>
      intro c distinct
      obtain ⟨apart, distinct⟩ := List.nodup_cons.1 distinct
      have step : c.setAll (entry :: rest) = (c.setMember entry).setAll rest := rfl
      rw [step, ih _ distinct, get_setMember]
      by_cases same : entry.1 = f.key
      · -- no later member has this name
        have absent : Assoc.get? f.key rest = none := get?_of_not_mem (same ▸ apart)
        simp [Assoc.get?, same, absent]
      · simp [Assoc.get?, same]

/-- The custom object is the member of that name, whichever place it has. -/
theorem custom_setAll (members : List (String × Json)) : ∀ c : Config, (members.map Prod.fst).Nodup →
    (c.setAll members).custom = ((Assoc.get? customKey members).map Custom.value).getD c.custom := by
  induction members with
  | nil => exact fun _ _ => rfl
  | cons entry rest ih =>
      intro c distinct
      obtain ⟨apart, distinct⟩ := List.nodup_cons.1 distinct
      have step : c.setAll (entry :: rest) = (c.setMember entry).setAll rest := rfl
      rw [step, ih _ distinct, custom_setMember]
      by_cases same : entry.1 = customKey
      · have absent : Assoc.get? customKey rest = none := get?_of_not_mem (same ▸ apart)
        simp [Assoc.get?, same, absent]
      · simp [Assoc.get?, same]

theorem ofMembers_of_no_custom {members : List (String × Json)} (distinct : (members.map Prod.fst).Nodup)
    (none : customKey ∉ members.map Prod.fst) :
    ∃ c, ofMembers members = .ok c ∧ (∀ f, c.get f = (Assoc.get? f.key members).getD (base.get f)) ∧
      c.custom.normal = .collected (.ofList (Json.keyed (members.filter fun e => !isKnown e))) := by
  have own : (base.setAll members).custom = .value (.obj []) := by
    rw [custom_setAll members base distinct, get?_of_not_mem none]
    rfl
  have fields := fun f => get_setAll f members base distinct
  unfold ofMembers
  dsimp only
  split
  · next nothing =>
      refine ⟨_, rfl, fields, ?_⟩
      rw [own, nothing]
      rfl
  · next extra _ =>
      rw [own]
      exact ⟨_, rfl, fun f => (get_withCustom ..).trans (fields f), rfl⟩

/-! ## Members that stand for a configuration -/

/-- The custom object has these members, and none of them is a field. -/
structure HasExtra (c : Config) (extra : List (String × Json)) : Prop where
  custom : c.custom.normal = .collected (.ofList (Json.keyed extra))
  distinct : (extra.map Prod.fst).Nodup
  unknown : ∀ e ∈ extra, isKnown e = false

def fieldMembers (c : Config) : List (String × Json) := Field.all.map fun f => (f.key, c.get f)

theorem names_fieldMembers (c : Config) : c.fieldMembers.map Prod.fst = Field.all.map Field.key := by
  simp [fieldMembers]

theorem isKnown_key (f : Field) (v : Json) : isKnown (f.key, v) = true := by
  rw [isKnown, ofKey?_key]
  rfl

namespace HasExtra
variable {c : Config} {extra : List (String × Json)} (has : c.HasExtra extra)
include has

theorem nodup_names : ((c.fieldMembers ++ extra).map Prod.fst).Nodup := by
  rw [List.map_append, names_fieldMembers]
  refine List.nodup_append.2 ⟨by decide, has.distinct, fun key field name inside same => ?_⟩
  obtain ⟨f, -, rfl⟩ := List.mem_map.1 field
  obtain ⟨e, among, rfl⟩ := List.mem_map.1 inside
  have known := isKnown_key f e.2
  rw [same] at known
  exact Bool.false_ne_true ((has.unknown e among).symm.trans known)

theorem toMembers : c.toMembers = .ok (c.fieldMembers ++ extra) := by
  have entries := OrderedMap.entries_ofList _ (Json.distinct_keyed has.distinct)
  have apart := Json.distinct_keyed has.nodup_names
  have together : Json.keyed (c.fieldMembers ++ extra) = Json.keyed c.fieldMembers ++ Json.keyed extra :=
    List.map_append
  have named : (Json.keyed (c.fieldMembers ++ extra)).map (fun e => (e.1.memberName, e.2)) = c.fieldMembers ++ extra := by
    simp [Json.keyed, Function.comp_def]
  rw [together] at apart named
  rw [Config.toMembers, Custom.toMap_of_normal has.custom]
  change Except.ok ((Assoc.putAll (Json.keyed c.fieldMembers) _).map _) = _
  rw [entries, Assoc.putAll_of_distinct _ _ apart]
  exact congrArg Except.ok named

theorem get?_field (f : Field) : Assoc.get? f.key (c.fieldMembers ++ extra) = some (c.get f) := by
  have listed : f ∈ Field.all := by cases f <;> decide
  exact Assoc.get?_of_mem f.key (c.get f) _ (Assoc.distinct_iff_nodup.2 has.nodup_names)
    (List.mem_append_left _ (List.mem_map.2 ⟨f, listed, rfl⟩))

theorem ne_customKey : ∀ e ∈ c.fieldMembers ++ extra, e.1 ≠ customKey := by
  intro e inside same
  rcases List.mem_append.1 inside with field | other
  · obtain ⟨f, -, rfl⟩ := List.mem_map.1 field
    exact key_ne_customKey f same
  · have known : isKnown e = true := by simp [isKnown, same]
    exact Bool.false_ne_true ((has.unknown e other).symm.trans known)

theorem filter_unknown : (c.fieldMembers ++ extra).filter (fun e => !isKnown e) = extra := by
  have fields : c.fieldMembers.filter (fun e => !isKnown e) = [] := by
    refine List.filter_eq_nil_iff.2 fun e inside => ?_
    obtain ⟨f, -, rfl⟩ := List.mem_map.1 inside
    simp [isKnown_key]
  have others : extra.filter (fun e => !isKnown e) = extra :=
    List.filter_eq_self.2 fun e inside => by simp [has.unknown e inside]
  rw [List.filter_append, fields, others, List.nil_append]

end HasExtra

/-! ## Over a target's defaults -/

theorem known_targetDefaults (target : String) : ∀ e ∈ targetDefaults target, isKnown e = true ∧ e.1 ≠ customKey := by
  unfold targetDefaults
  split
  · decide
  · split
    · decide
    · simp

theorem distinct_targetDefaults (target : String) : Assoc.Distinct ((targetDefaults target).map Prod.fst) := by
  unfold targetDefaults
  split
  · exact Assoc.distinct_iff_nodup.2 (by decide)
  · split
    · exact Assoc.distinct_iff_nodup.2 (by decide)
    · exact List.Pairwise.nil

section Layered
variable {c : Config} {extra : List (String × Json)} (has : c.HasExtra extra) (target : String)
include has

theorem customKey_not_mem :
    customKey ∉ (Assoc.putAll (targetDefaults target) (c.fieldMembers ++ extra)).map Prod.fst := by
  have every := Assoc.forall_mem_putAll (P := fun key => key ≠ customKey) (Q := fun _ : Json => True)
    (c.fieldMembers ++ extra) (targetDefaults target)
    (fun e inside => ⟨(known_targetDefaults target e inside).2, trivial⟩)
    (fun e inside => ⟨has.ne_customKey e inside, trivial⟩)
  intro inside
  obtain ⟨e, among, same⟩ := List.mem_map.1 inside
  exact (every e among).1 same

/-- The members that are no field are the custom ones: no default is among them. -/
theorem filter_putAll_defaults :
    (Assoc.putAll (targetDefaults target) (c.fieldMembers ++ extra)).filter (fun e => !isKnown e) = extra := by
  have picked := Assoc.filter_putAll (fun key => !((Field.ofKey? key).isSome || key == customKey))
    (c.fieldMembers ++ extra) (targetDefaults target)
  have defaults : (targetDefaults target).filter (fun e => !isKnown e) = [] :=
    List.filter_eq_nil_iff.2 fun e inside => by simp [(known_targetDefaults target e inside).1]
  calc
    _ = Assoc.putAll ((targetDefaults target).filter fun e => !isKnown e)
          ((c.fieldMembers ++ extra).filter fun e => !isKnown e) := picked
    _ = Assoc.putAll [] extra := by rw [defaults, has.filter_unknown]
    _ = extra := Assoc.putAll_of_distinct extra [] (Assoc.distinct_iff_nodup.2 has.distinct)

/-- Over a target's defaults the members of a configuration give it again. -/
theorem layered_members :
    ∃ loaded, layered target (c.fieldMembers ++ extra) [] = .ok loaded ∧ loaded.normal = c.normal := by
  unfold layered
  generalize Text.lower target = lowered
  have apart := Assoc.distinct_iff_nodup.2 has.nodup_names
  have once := Assoc.distinct_putAll (c.fieldMembers ++ extra) _ (distinct_targetDefaults lowered)
  obtain ⟨loaded, made, fields, collected⟩ :=
    ofMembers_of_no_custom (Assoc.distinct_iff_nodup.1 once) (customKey_not_mem has lowered)
  refine ⟨loaded, made, normal_ext (fun f => ?_) ?_⟩
  · rw [fields, Assoc.get?_putAll _ _ _ apart, has.get?_field, Option.some_or, Option.getD_some]
  · rw [collected, filter_putAll_defaults has, has.custom]

end Layered

end Config

end DesignProps
