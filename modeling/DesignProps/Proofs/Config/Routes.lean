import DesignProps.Proofs.Config.Saved
import DesignProps.Proofs.Loading
import DesignProps.Proofs.OrderedMap.Merged
import DesignProps.Registry
import DesignProps.Target.Preset

/-!
# Ways to a configuration

A generator is configured by the members of an object, by a file that holds the object, or by a preset with the members
over it.  Each way lays other tables in another order, but no preset says anything that the target's defaults do not
say, so all of them give what laying the members over the defaults gives, or fail for the same reason.

Main statements: `Config.ofMembers_laidOver`, `Config.load_preset` (a preset adds nothing),
`Registry.create_of_registered`, `Registry.routes_agree`.
-/

set_option autoImplicit false

namespace DesignProps

namespace Config

/-! ## Members laid over defaults -/

/-- The custom object that members bring along, the empty one if they bring none. -/
def ownCustom (members : List (String × Json)) : Json := (Assoc.get? customKey members).getD (.obj [])

/-- The members that have no place of their own. -/
def extras (members : List (String × Json)) : List (String × Json) := members.filter fun e => !isKnown e

/-- Each field has its member, else the target's default, else what every configuration starts from; members that have
no place of their own come after the entries of the custom object, which stays as it is where there are none. -/
structure LaidOver (target : String) (members : List (String × Json)) (c : Config) : Prop where
  fields : ∀ f, c.get f =
    (Assoc.get? f.key members).getD ((Assoc.get? f.key (targetDefaults target)).getD (base.get f))
  untouched : extras members = [] → c.custom = .value (ownCustom members)
  collected : extras members ≠ [] → ∃ own, (ownCustom members).toMap = .ok own ∧
    c.custom = .collected (own.insertAll (Json.keyed (extras members)))

/-- Members are collected in something that is no map. -/
def Uncollectable (members : List (String × Json)) (e : Fault) : Prop :=
  extras members ≠ [] ∧ (ownCustom members).toMap = .error e

section Laid
variable {members : List (String × Json)} (distinct : (members.map Prod.fst).Nodup) (target : String)

include distinct

/-- No default is among the members that have no place of their own. -/
theorem extras_putAll_defaults : extras (Assoc.putAll (targetDefaults target) members) = extras members := by
  have picked := Assoc.filter_putAll (fun key => !((Field.ofKey? key).isSome || key == customKey)) members
    (targetDefaults target)
  have defaults : (targetDefaults target).filter (fun e => !isKnown e) = [] :=
    List.filter_eq_nil_iff.2 fun e inside => by simp [(known_targetDefaults target e inside).1]
  have apart : Assoc.Distinct ((extras members).map Prod.fst) :=
    Assoc.distinct_iff_nodup.2 (distinct.sublist (List.filter_sublist.map Prod.fst))
  calc
    _ = Assoc.putAll ((targetDefaults target).filter fun e => !isKnown e) (extras members) := picked
    _ = Assoc.putAll [] (extras members) := by rw [defaults]
    _ = extras members := Assoc.putAll_of_distinct _ [] apart

theorem get?_customKey_putAll_defaults :
    Assoc.get? customKey (Assoc.putAll (targetDefaults target) members) = Assoc.get? customKey members := by
  have none : Assoc.get? customKey (targetDefaults target) = none := get?_of_not_mem fun inside => by
    obtain ⟨e, among, same⟩ := List.mem_map.1 inside
    exact (known_targetDefaults target e among).2 same
  rw [Assoc.get?_putAll _ _ _ (Assoc.distinct_iff_nodup.2 distinct), none, Option.or_none]

/-- Members over a target's defaults make a configuration unless they are collected in something that is no map. -/
theorem ofMembers_laidOver :
    (∃ c, ofMembers (Assoc.putAll (targetDefaults target) members) = .ok c ∧ LaidOver target members c) ∨
      ∃ e, ofMembers (Assoc.putAll (targetDefaults target) members) = .error e ∧ Uncollectable members e := by
  have once := Assoc.distinct_iff_nodup.1 (Assoc.distinct_putAll members _ (distinct_targetDefaults target))
  have fields : ∀ f, (base.setAll (Assoc.putAll (targetDefaults target) members)).get f =
      (Assoc.get? f.key members).getD ((Assoc.get? f.key (targetDefaults target)).getD (base.get f)) := by
    intro f
    rw [get_setAll f _ base once, Assoc.get?_putAll _ _ _ (Assoc.distinct_iff_nodup.2 distinct)]
    cases Assoc.get? f.key members <;> rfl
  have own : (base.setAll (Assoc.putAll (targetDefaults target) members)).custom = .value (ownCustom members) := by
    rw [custom_setAll _ base once, get?_customKey_putAll_defaults distinct, ownCustom]
    cases Assoc.get? customKey members <;> rfl
  have extra := extras_putAll_defaults distinct target
  unfold extras at extra
  unfold ofMembers
  dsimp only
  rw [own]
  split
  · next none =>
      have alone : extras members = [] := extra.symm.trans none
      exact Or.inl ⟨_, rfl, fields, fun _ => own, fun some => absurd alone some⟩
  · next found some =>
      have among : extras members ≠ [] := fun none => some (extra.trans none)
      rw [extra]
      cases read : (Custom.value (ownCustom members)).toMap with
      | error e => exact Or.inr ⟨e, rfl, among, read⟩
      | ok entries =>
          exact Or.inl ⟨_, rfl, fun f => (get_withCustom ..).trans (fields f), fun none => absurd none among,
            fun _ => ⟨entries, read, rfl⟩⟩

end Laid

end Config

/-! ## Generators of a target -/

theorem Target.lower_name (target : Target) : Text.lower target.name = target.name := by
  cases target <;> decide +kernel

namespace Registry

theorem get?_builtin (target : Target) : builtin.targets.get? target.name = some target := by
  cases target <;> decide +kernel

/-- A target that is registered under its own name is created by that name. -/
theorem create_of_registered {r : Registry} {target : Target} (known : r.targets.get? target.name = some target)
    (fs : Files) (source : ConfigSource) (lookup : String → Option String) :
    r.create fs target.name source lookup =
      (configure fs target.name target.name source).map fun c => ⟨target, c, lookup⟩ := by
  have contained : r.targets.contains (Text.lower target.name) = true := by
    simp only [Target.lower_name, OrderedMap.contains, known, Option.isSome_some]
  simp only [create, resolve_of_contains _ _ contained, Target.lower_name, registered, known, bind, Except.bind]
  cases configure fs target.name target.name source <;> rfl

end Registry

namespace Config

/-- The members of one layer over the defaults of a target. -/
def laid (target : Target) (members : List (String × Json)) : Except Fault Config :=
  ofMembers (Assoc.putAll (targetDefaults target.name) members)

/-- A preset repeats some of the target's defaults. -/
theorem putAll_presetMembers (target : Target) :
    Assoc.putAll (targetDefaults target.name) (Generator.presetMembers target) = targetDefaults target.name := by
  cases target <;> rfl

section Routes
variable (target : Target) (members : List (String × Json)) (fs : Files)

theorem load_overrides : load fs target.name members none = (laid target members).mapError .fault := by
  simp only [load, fileLayer, layered, Target.lower_name, Assoc.putAll_nil, laid]
  cases ofMembers (Assoc.putAll (targetDefaults target.name) members) <;> rfl

theorem load_file {path : String} (layer : fileLayer fs (some path) = .ok members) :
    load fs target.name [] (some path) = (laid target members).mapError .fault := by
  simp only [load, layer, layered, Target.lower_name, Assoc.putAll_nil, laid]
  cases ofMembers (Assoc.putAll (targetDefaults target.name) members) <;> rfl

theorem load_preset (distinct : (members.map Prod.fst).Nodup) :
    load fs target.name (Assoc.putAll (Generator.presetMembers target) members) none =
      (laid target members).mapError .fault := by
  have preset : Assoc.Distinct ((Generator.presetMembers target).map Prod.fst) := by
    cases target <;> exact Assoc.distinct_iff_nodup.2 (by decide)
  rw [load_overrides, laid, laid, ← Assoc.putAll_assoc (distinct_targetDefaults target.name) preset
    (Assoc.distinct_iff_nodup.2 distinct), putAll_presetMembers]

end Routes

/-! ## Files -/

/-- The path leads to a file with the extension of JSON files that holds an object of these members. -/
structure IsFileOf (fs : Files) (path : String) (members : List (String × Json)) : Prop where
  there : fs.exists? path = .ok true
  extension : Path.hasJsonExtension path = true
  content : fs.HoldsValue path (.obj members)

theorem fileLayer_of_file {fs : Files} {path : String} {members : List (String × Json)}
    (file : IsFileOf fs path members) : fileLayer fs (some path) = .ok members := by
  obtain ⟨content, cs, found, spelled, parsed⟩ := file.content
  have named : path ≠ "" := by
    rintro rfl
    cases file.extension
  have read := contentMembers_of_parsed (Files.read_of_spells found spelled) parsed
  simp only [fileLayer_of_ne named, fileMembers, file.there, file.extension, if_true, read]

end Config

namespace Registry

/-- Whether the members of an object are given to the registry, as a file to the registry, to the target itself or to
its preset: each time the generator has the configuration in which they are laid over the target's defaults, or each
time there is none, because members that have no place of their own are to be collected in something that is no map. -/
theorem routes_agree {r : Registry} {target : Target} (known : r.targets.get? target.name = some target)
    {members : List (String × Json)} (distinct : (members.map Prod.fst).Nodup) {fs : Files} {path : String}
    (file : Config.IsFileOf fs path members) (lookup : String → Option String) :
    (∃ c, Config.LaidOver target.name members c ∧
      r.create fs target.name (.overrides members) lookup = .ok ⟨target, c, lookup⟩ ∧
      r.create fs target.name (.file path) lookup = .ok ⟨target, c, lookup⟩ ∧
      Generator.ofOverrides target members lookup = .ok ⟨target, c, lookup⟩ ∧
      Generator.preset target members lookup = .ok ⟨target, c, lookup⟩) ∨
    ∃ e, Config.Uncollectable members e ∧
      r.create fs target.name (.overrides members) lookup = .error (.notCreated target.name (.fault e)) ∧
      r.create fs target.name (.file path) lookup = .error (.notCreated target.name (.fault e)) ∧
      Generator.ofOverrides target members lookup = .error (.fault e) ∧
      Generator.preset target members lookup = .error (.fault e) := by
  have overrides := fun fs => Config.load_overrides target members fs
  have filed := Config.load_file target members fs (Config.fileLayer_of_file file)
  have preset := fun fs => Config.load_preset target members fs distinct
  rcases Config.ofMembers_laidOver distinct target.name with ⟨c, made, laid⟩ | ⟨e, failed, why⟩
  · have made : Config.laid target members = .ok c := made
    refine Or.inl ⟨c, laid, ?_, ?_, ?_, ?_⟩
    · simp only [create_of_registered known, configure, overrides, made, Except.mapError, Except.map]
    · simp only [create_of_registered known, configure, filed, made, Except.mapError, Except.map]
    · simp only [Generator.ofOverrides, overrides, made, Except.mapError]
    · simp only [Generator.preset, Generator.ofOverrides, preset, made, Except.mapError]
  · have failed : Config.laid target members = .error e := failed
    refine Or.inr ⟨e, why, ?_, ?_, ?_, ?_⟩
    · simp only [create_of_registered known, configure, overrides, failed, Except.mapError, Except.map]
    · simp only [create_of_registered known, configure, filed, failed, Except.mapError, Except.map]
    · simp only [Generator.ofOverrides, overrides, failed, Except.mapError]
    · simp only [Generator.preset, Generator.ofOverrides, preset, failed, Except.mapError]

/-! An object with a field that counts as false, an unknown member, and a custom object that has one of that name. -/

def accented : List (String × Json) :=
  [("show_defaults", .int 0), ("accent", .str "a"), ("custom", .obj [("note", .null), ("accent", .bool false)])]

def accentedText : String :=
  "\x7b\"show_defaults\": 0, \"accent\": \"a\", \"custom\": \x7b\"note\": null, \"accent\": false\x7d\x7d"

def accentedFiles : Files := .ofList [("c.json", .text accentedText)]

theorem isFileOf_accented : Config.IsFileOf accentedFiles "c.json" accented :=
  ⟨by decide +kernel, by decide +kernel, .text accentedText, accentedText.toList, rfl, rfl, by decide +kernel⟩

theorem routes_agree_accented : builtin.targets.get? Target.vue.name = some .vue ∧ (accented.map Prod.fst).Nodup ∧
    Config.IsFileOf accentedFiles "c.json" accented ∧ ∀ lookup : String → Option String,
      ∃ c : Config, c.showDefaults = .int 0 ∧ c.slotTag = .str "span" ∧
        c.custom = .collected (.ofList [(.text "note", .null), (.text "accent", .str "a")]) ∧
        builtin.create accentedFiles Target.vue.name (.overrides accented) lookup = .ok ⟨.vue, c, lookup⟩ ∧
        builtin.create accentedFiles Target.vue.name (.file "c.json") lookup = .ok ⟨.vue, c, lookup⟩ ∧
        Generator.ofOverrides .vue accented lookup = .ok ⟨.vue, c, lookup⟩ ∧
        Generator.preset .vue accented lookup = .ok ⟨.vue, c, lookup⟩ := by
  have distinct : (accented.map Prod.fst).Nodup := by decide
  refine ⟨get?_builtin .vue, distinct, isFileOf_accented, fun lookup => ?_⟩
  rcases routes_agree (get?_builtin .vue) distinct isFileOf_accented lookup with ⟨c, laid, same⟩ | ⟨e, why, -⟩
  · obtain ⟨own, read, custom⟩ := laid.collected (by decide)
    refine ⟨c, laid.fields .showDefaults, laid.fields .slotTag, custom.trans ?_, same⟩
    obtain rfl := Except.ok.inj read
    rfl
  · cases why.2

end Registry

end DesignProps
