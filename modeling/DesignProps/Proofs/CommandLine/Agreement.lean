import DesignProps.Proofs.CommandLine.Input
import DesignProps.Proofs.Config.Overrides
import DesignProps.Proofs.Formatting.Degraded
import DesignProps.Proofs.Json.Characters

/-!
# The command line and formatting agree

A run that prints JSON goes its own way from the document to the code: it names the targets itself, lays the flags over
the configuration file as overrides, builds one model for all targets, and gives the toggles as positional settings.
All the same it prints, for each target in turn, what formatting the document for this target gives, with the flags set
in the configuration and without settings.  Only a surrogate that stands alone keeps the list from being printed.

Main statements: `targetsOf_of_standsFor`, `configFor_eq_ok_iff` (the configuration of a run), `generate_settings` (the
toggles of a configuration as settings change nothing), `generations_eq_ok_iff`, `AsksJson.run_of_formats`,
`json_run_agrees`.
-/

set_option autoImplicit false

namespace DesignProps

/-! ## Targets -/

/-- The names of a target in lower case: its own name and its aliases. -/
def Target.spellings : Target → List String
  | .react => ["react", "jsx", "tsx"]
  | .vue => ["vue"]

/-- A name of a target in letters of any case is resolved to the target. -/
theorem Registry.resolve_builtin {name : String} {target : Target} (called : Text.lower name ∈ target.spellings) :
    builtin.resolve name = .ok target.name := by
  have spelled : ∀ key ∈ target.spellings, (if builtin.targets.contains key then some key else builtin.aliases.get? key) =
      some target.name := by
    cases target <;> decide +kernel
  have known := spelled (Text.lower name) called
  unfold resolve
  split at known
  · next contained =>
      rw [if_pos contained, Option.some.inj known]
  · next other =>
      rw [if_neg other, known]

/-- A generator is created by the name of its target, with the configuration that is ready. -/
theorem Registry.create_ready (fs : Files) (target : Target) (c : Config) (lookup : String → Option String) :
    builtin.create fs target.name (.ready c) lookup = .ok ⟨target, c, lookup⟩ := by
  rw [create_of_registered (get?_builtin target)]
  rfl

namespace CommandLine

/-- The targets that a name stands for. -/
inductive StandsFor (name : String) : List Target → Prop
  | every (all : Text.lower name = allTargets) : StandsFor name [.react, .vue]
  | one {target : Target} (called : Text.lower name ∈ target.spellings) : StandsFor name [target]

theorem targetsOf_of_standsFor {name : String} {targets : List Target} (stands : StandsFor name targets) :
    targetsOf (some name) = .ok (targets.map Target.name) := by
  cases stands with
  | every all =>
      have both : targetNames = [Target.react, .vue].map Target.name := by decide +kernel
      rw [targetsOf, if_pos all, both]
  | @one target called =>
      have other : ∀ key ∈ target.spellings, key ≠ allTargets := by
        cases target <;> decide
      rw [targetsOf, if_neg (other _ called), Registry.resolve_builtin called]
      rfl

/-! ## Configurations -/

/-- The configuration with the flags set; the options form is for Vue alone. -/
def Arguments.flagged (a : Arguments) (target : Target) (c : Config) : Config :=
  { c with
    showDefaults := if a.showDefaults then .bool true else c.showDefaults
    explicitBoolean := if a.explicitBoolean then .bool true else c.explicitBoolean
    optionsApi := if a.optionsApi ∧ target = .vue then .bool true else c.optionsApi
    addComments := if a.noComments then .bool false else c.addComments }

/-- The flags as fields with their values. -/
def Arguments.flags (a : Arguments) (target : Target) : List (Config.Field × Json) :=
  (if a.showDefaults then [(.showDefaults, .bool true)] else [])
    ++ (if a.explicitBoolean then [(.explicitBoolean, .bool true)] else [])
    ++ (if a.optionsApi ∧ target = .vue then [(.optionsApi, .bool true)] else [])
    ++ (if a.noComments then [(.addComments, .bool false)] else [])

theorem overrides_eq (a : Arguments) (target : Target) :
    overrides a target.name = Config.fieldEntries (a.flags target) := by
  have vue : (target.name == "vue") = true ↔ target = .vue := by cases target <;> decide
  simp only [overrides, Arguments.flags, Config.fieldEntries, List.map_append, Bool.and_eq_true, vue]
  congr 1
  · congr 1
    · congr 1
      · split <;> rfl
      · split <;> rfl
    · split <;> rfl
  · split <;> rfl

theorem setFields_flags (a : Arguments) (target : Target) (c : Config) :
    c.setFields (a.flags target) = a.flagged target c := by
  unfold Config.setFields Arguments.flags Arguments.flagged
  split_ifs <;> rfl

variable {w : World} {a : Arguments} {target : Target}

/-- The configuration of a run is the one of its configuration file with the flags set. -/
theorem configFor_eq_ok_iff {c : Config} : configFor w a target.name = .ok c ↔
    ∃ own, Config.load w.files target.name [] a.config = .ok own ∧ c = a.flagged target own := by
  unfold configFor
  rw [overrides_eq, Config.load_fields]
  cases Config.load w.files target.name [] a.config with
  | error e => cases e <;> simp [Except.map]
  | ok own => simp [Except.map, setFields_flags, eq_comm]

end CommandLine

/-! ## Settings -/

/-- The toggles of a configuration, given as settings, are the toggles that there are without settings. -/
theorem Generator.generate_settings (g : Generator) (m : Model) :
    g.generate m (CommandLine.settingsJson g.config.instanceSettings)
      (CommandLine.settingsJson g.config.definitionSettings) = g.generate m .null .null := by
  have instances : g.config.instanceToggles (CommandLine.settingsJson g.config.instanceSettings) =
      g.config.instanceToggles .null := rfl
  have definitions : g.config.optionsApiToggle (CommandLine.settingsJson g.config.definitionSettings) =
      g.config.optionsApiToggle .null := rfl
  simp only [generate, format, formatInstances, formatDefinitions, instances, definitions]

namespace CommandLine

variable {w : World} {a : Arguments} {target : Target} {ix : Index} {m : Model}

/-! ## Generations -/

theorem generateFor_eq_ok_iff {done : Generation} : generateFor w a ix m target.name = .ok done ↔
    ∃ own, Config.load w.files target.name [] a.config = .ok own ∧
      (Generator.mk target (a.flagged target own) ix.nameOf?).generate m .null .null = .ok done := by
  unfold generateFor
  cases made : configFor w a target.name with
  | error e =>
      have none : ∀ own, Config.load w.files target.name [] a.config ≠ .ok own := by
        intro own loaded
        have there := configFor_eq_ok_iff.2 ⟨own, loaded, rfl⟩
        cases made.symm.trans there
      simp [none]
  | ok c =>
      obtain ⟨own, loaded, rfl⟩ := configFor_eq_ok_iff.1 made
      have settings := Generator.generate_settings ⟨target, a.flagged target own, ix.nameOf?⟩ m
      simp only [Registry.create_ready, loaded, Except.ok.injEq, exists_eq_left']
      rw [settings]
      cases (Generator.mk target (a.flagged target own) ix.nameOf?).generate m .null .null <;> simp

theorem generateAll_eq_ok_iff : ∀ {names : List String} {results : List Generation},
    generateAll w a ix m names = .ok results ↔
      List.Forall₂ (fun name done => generateFor w a ix m name = .ok done) names results := by
  intro names
  induction names with
  | nil =>
      intro results
      simp [generateAll, List.forall₂_nil_left_iff, eq_comm]
  | cons name rest ih =>
      intro results
      rw [generateAll, List.forall₂_cons_left_iff]
      cases generateFor w a ix m name with
      | error e => simp
      | ok done =>
          simp only [Except.ok.injEq, map_eq_ok_iff, ih]
          constructor
          · rintro ⟨later, each, rfl⟩
            exact ⟨done, later, rfl, each, rfl⟩
          · rintro ⟨_, later, rfl, each, rfl⟩
            exact ⟨later, each, rfl⟩

/-! ## Agreement -/

/-- Formatting the document for a target, with the configuration file and the flags and without settings. -/
def Formats (w : World) (a : Arguments) (ids : Option (List String)) (data : Json) (target : Target)
    (done : Generation) : Prop :=
  ∃ own, Config.load w.files target.name [] a.config = .ok own ∧
    (FormatRequest.mk target.name (.ready (a.flagged target own)) ids .null .null).formatData w.files data = .ok done

/-- A node of the document is selected. -/
def Selects (data : Json) (ids : Option (List String)) : Prop :=
  ∃ ix, Index.ofData data = .ok ix ∧ ix.relevant ids ≠ []

variable {ids : Option (List String)} {data : Json}

theorem formats_iff (accepted : Index.ofData data = .ok ix) {done : Generation} : Formats w a ids data target done ↔
    ∃ m, ix.model ids = .ok m ∧ generateFor w a ix m target.name = .ok done := by
  simp only [Formats, generateFor_eq_ok_iff, FormatRequest.formatData, accepted, FormatRequest.format,
    Registry.create_ready, FormatRequest.generate]
  cases ix.model ids with
  | error e => simp
  | ok m =>
      simp only [Except.ok.injEq, exists_eq_left']
      refine exists_congr fun own => and_congr_right fun _ => ?_
      cases (Generator.mk target (a.flagged target own) ix.nameOf?).generate m .null .null <;> simp

theorem nodesOf_eq (nodes : a.nodes = ids.map (List.map some)) : nodesOf a = .ok ids := by
  unfold nodesOf
  rw [nodes]
  cases ids with
  | none => rfl
  | some ids => simp [List.all_map, Function.comp_def, List.filterMap_map]

theorem forall₂_formats_iff (accepted : Index.ofData data = .ok ix) {targets : List Target} (filled : targets ≠ [])
    {results : List Generation} : List.Forall₂ (Formats w a ids data) targets results ↔
      ∃ m, ix.model ids = .ok m ∧
        List.Forall₂ (fun name done => generateFor w a ix m name = .ok done) (targets.map Target.name) results := by
  simp only [List.forall₂_map_left_iff]
  cases built : ix.model ids with
  | error e =>
      have none : ∀ target done, ¬ Formats w a ids data target done := by
        intro target done formats
        obtain ⟨m, impossible, -⟩ := (formats_iff accepted).1 formats
        cases built.symm.trans impossible
      obtain ⟨target, rest, rfl⟩ := List.exists_cons_of_ne_nil filled
      simp [List.forall₂_cons_left_iff, none]
  | ok m =>
      have each : Formats w a ids data = fun target done => generateFor w a ix m target.name = .ok done := by
        funext target done
        simp only [formats_iff accepted, built, Except.ok.injEq, exists_eq_left']
      simp only [each, Except.ok.injEq, exists_eq_left']

/-- The generations of a run are those of its targets, each formatted on its own. -/
theorem generations_eq_ok_iff (accepted : Index.ofData data = .ok ix) (nodes : a.nodes = ids.map (List.map some))
    {targets : List Target} (filled : targets ≠ []) {results : List Generation} :
    generations w a ix (targets.map Target.name) = .ok results ↔
      ix.relevant ids ≠ [] ∧ List.Forall₂ (Formats w a ids data) targets results := by
  rw [forall₂_formats_iff accepted filled]
  simp only [generations, nodesOf_eq nodes]
  cases ix.relevant ids with
  | nil => simp
  | cons o rest =>
      simp only [List.isEmpty_cons, Bool.false_eq_true, if_false, ne_eq, reduceCtorEq, not_false_eq_true, true_and]
      cases ix.model ids with
      | error e => simp
      | ok m => simp [generateAll_eq_ok_iff]

theorem ne_nil_of_standsFor {name : String} {targets : List Target} (stands : StandsFor name targets) : targets ≠ [] := by
  cases stands <;> exact List.cons_ne_nil _ _

/-- The list of what formatting gives. -/
def listed (results : List Generation) : Json := .arr (results.map fun done => done.output.toJson)

/-- The list as it is printed. -/
def listText (results : List Generation) : String := Json.writeIndented (listed results) ++ "\n"

/-- Neither the document nor the configuration file spells a surrogate that stands alone, or none is in the list, nor a
character that is taken for one. -/
def Plain (w : World) (a : Arguments) (results : List Generation) : Prop :=
  readsStray w a = false ∨ ∀ s ∈ Json.strings (listed results), ∀ c ∈ s.toList, Json.Reader.isStandIn c = false

theorem not_plain {results : List Generation} (reads : readsStray w a = true)
    (held : ((Json.strings (listed results)).any fun s => s.toList.any Json.Reader.isStandIn) = true) :
    ¬ Plain w a results := by
  obtain ⟨s, inside, among⟩ := List.any_eq_true.1 held
  obtain ⟨c, spelled, stands⟩ := List.any_eq_true.1 among
  rintro (none | none)
  · exact Bool.false_ne_true (none.symm.trans reads)
  · exact Bool.false_ne_true ((none s inside c spelled).symm.trans stands)

theorem canEncode_read {results : List Generation} : (w.read a).canEncode (listText results) = true ↔ Plain w a results := by
  have wide : ∀ c, ¬ Json.Reader.isStandIn c = false → 0x80 ≤ c.toNat := by
    intro c stands
    simp only [Json.Reader.isStandIn, decide_eq_false_iff_not] at stands
    omega
  have feed : Json.Reader.isStandIn '\n' = false := by decide
  rw [Plain, ← Json.forall_mem_writeIndented wide]
  simp [World.canEncode, World.read, listText, feed]

/-- What a run for JSON prints. -/
theorem output_json (json : a.json = true) (printed : LoadRequest.given a.output = none) (results : List Generation) :
    output w a results =
      if w.canEncode (listText results) then ⟨.exit 0, listText results, w.files⟩
      else ⟨.crash .unencodable, "", w.files⟩ := by
  simp only [output, printed, json, remarks, if_true, List.append_nil, sayAll, List.foldr_cons, List.foldr_nil,
    say_verbatim, ends, String.append_empty]
  rfl

/-- A run that is to print the JSON of a document, for some targets and with the nodes of some ids. -/
structure AsksJson (w : World) (argv : List String) (a : Arguments) (ids : Option (List String)) (data : Json)
    (targets : List Target) : Prop where
  parsed : parse argv = .ok a
  runs : a.listTargets = false
  json : a.json = true
  printed : LoadRequest.given a.output = none
  named : ∃ name, a.target = some name ∧ StandsFor name targets
  nodes : a.nodes = ids.map (List.map some)
  gives : Gives w a data

section Run
variable {argv : List String} {targets : List Target} (asks : AsksJson w argv a ids data targets)
include asks

theorem AsksJson.filled : targets ≠ [] := by
  obtain ⟨name, -, stands⟩ := asks.named
  exact ne_nil_of_standsFor stands

theorem AsksJson.starts : Starts argv a (targets.map Target.name) := by
  obtain ⟨name, named, stands⟩ := asks.named
  exact ⟨asks.parsed, asks.runs, by rw [named, targetsOf_of_standsFor stands]⟩

/-- Where formatting succeeds, the list is printed if it can be encoded. -/
theorem AsksJson.run_of_formats (selects : Selects data ids) {results : List Generation}
    (formats : List.Forall₂ (Formats w a ids data) targets results) :
    run w argv = if (w.read a).canEncode (listText results) then ⟨.exit 0, listText results, w.files⟩
      else ⟨.crash .unencodable, "", w.files⟩ := by
  obtain ⟨ix, accepted, selected⟩ := selects
  have rooted : ix.roots ≠ [] := fun none => selected (relevant_of_no_roots accepted none ids)
  obtain ⟨loaded, there, rfl⟩ := (load_eq_ok_iff asks.gives).2 ⟨accepted, rooted⟩
  -- Reading the document leaves the files alone, and formatting looks at nothing else.
  have same : Formats (w.read a) a ids data = Formats w a ids data := rfl
  rw [← same] at formats
  have generated := (generations_eq_ok_iff accepted asks.nodes asks.filled).2 ⟨selected, formats⟩
  rw [asks.starts.run_of_loaded there asks.json]
  simp only [render, generated, output_json asks.json asks.printed]
  rfl

/-- A run succeeds only where a node is selected and formatting succeeds, and then it prints the list. -/
theorem AsksJson.formats_of_run (ended : (run w argv).ending = .exit 0) : Selects data ids ∧
    ∃ results, List.Forall₂ (Formats w a ids data) targets results ∧ (run w argv).stdout = listText results := by
  have same : Formats (w.read a) a ids data = Formats w a ids data := rfl
  cases there : load w a with
  | error e =>
      rw [asks.starts.run_of_unloaded there] at ended
      exact absurd ended (fails_ending_ne_zero w e)
  | ok loaded =>
      obtain ⟨accepted, -⟩ := (load_eq_ok_iff asks.gives).1 ⟨loaded, there, rfl⟩
      rw [asks.starts.run_of_loaded there asks.json, render] at ended ⊢
      cases generated : generations (w.read a) a loaded.index (targets.map Target.name) with
      | error e =>
          rw [generated] at ended
          exact absurd ended (fails_ending_ne_zero _ e)
      | ok results =>
          obtain ⟨selected, formats⟩ := (generations_eq_ok_iff accepted asks.nodes asks.filled).1 generated
          rw [same] at formats
          simp only [generated, output_json asks.json asks.printed] at ended ⊢
          refine ⟨⟨loaded.index, accepted, selected⟩, results, formats, ?_⟩
          split at ended
          · next encoded => rw [if_pos encoded]
          · cases ended

end Run

/-- A file and nothing else. -/
def fileWorld (text : String) : World := ⟨.ofList [("d.json", .text text)], "", fun _ => .error .timeout, 80, "", false⟩

def fileArguments (target : String) : Arguments :=
  { Arguments.none with file := some "d.json", target := some target, json := true }

theorem load_fileWorld (text : String) : Config.load (fileWorld text).files Target.react.name [] none = .ok Config.base := by
  unfold Config.load Config.layered
  rw [Target.lower_name]
  rfl

def chipText : String := "\x7b\"type\": \"INSTANCE\", \"name\": \"chip\"\x7d"

def chipNode : Json := .obj [("type", .str "INSTANCE"), ("name", .str "chip")]

def chipArguments : Arguments := { fileArguments "JSX" with showDefaults := true }

def strayText : String :=
  "\x7b\"type\": \"INSTANCE\", \"componentProperties\": \x7b\"Label\": \x7b\"type\": \"TEXT\", \"value\": \"\\ud800\"\x7d\x7d\x7d"

def strayNode : Json :=
  .obj [("type", .str "INSTANCE"), ("componentProperties", .obj [("Label", .obj [("type", .str "TEXT"),
    ("value", .str (String.singleton (Json.Reader.standIn 0xD800)))])])]

def dashText : String := "\x7b\"type\": \"INSTANCE\", \"id\": \"-1:2\"\x7d"

def dashNode : Json := .obj [("type", .str "INSTANCE"), ("id", .str "-1:2")]

def dashArguments : Arguments := { fileArguments "react" with nodes := some [some "-1:2"] }

end CommandLine

end DesignProps
