import DesignProps.CommandLine.Run
import DesignProps.Proofs.Document.Links
import DesignProps.Proofs.Loading

/-!
# Input and endings of a run

A run reads its document from a file or from the standard input.  A line that cannot be printed ends it, and a failure
never ends it with the code of a success.

Main statements: `say_of_canPrint`, `fails_ending`, `Starts.run_of_unloaded`, `Starts.run_of_loaded`, `load_eq_ok_iff`
(what is loaded from a JSON value).
-/

set_option autoImplicit false

namespace DesignProps.CommandLine

open Console (Printed)

/-! ## Endings -/

/-- The console does not refuse what is to be printed, and it can be encoded. -/
def CanPrint (w : World) (p : Printed) : Prop := ∃ text, p.text w.columns = .ok text ∧ w.canEncode text = true

theorem say_of_canPrint {w : World} {p : Printed} (printed : CanPrint w p) (next : Outcome) :
    (say w p next).ending = next.ending := by
  obtain ⟨text, shown, encoded⟩ := printed
  simp only [say, shown, encoded, if_true]

theorem say_of_not_canPrint {w : World} {p : Printed} (refused : ¬ CanPrint w p) (next : Outcome) :
    ∃ e, (say w p next).ending = .crash e := by
  unfold say
  cases shown : p.text w.columns with
  | error e => exact ⟨.print e, rfl⟩
  | ok text =>
      have stray : ¬ w.canEncode text = true := fun encoded => refused ⟨text, shown, encoded⟩
      exact ⟨.unencodable, by simp only [if_neg stray]⟩

/-- A failure ends a run with the code of a failure, or without a code. -/
theorem fails_ending (w : World) (e : RunFailure) : (fails w e).ending = .exit 1 ∨ ∃ c, (fails w e).ending = .crash c := by
  cases e with
  | crash e => exact Or.inr ⟨.fault e, rfl⟩
  | error e =>
      by_cases printed : CanPrint w (.markup ("[red]✗ Error:[/red] " ++ e.message) true)
      · exact Or.inl (say_of_canPrint printed (ends w 1))
      · exact Or.inr (say_of_not_canPrint printed (ends w 1))
  | generation e =>
      by_cases printed : CanPrint w (.markup ("[red]✗ Code generation failed:[/red] " ++ Generation.failureMessage e) true)
      · exact Or.inl (say_of_canPrint printed (ends w 1))
      · exact Or.inr (say_of_not_canPrint printed (ends w 1))

theorem fails_ending_ne_zero (w : World) (e : RunFailure) : (fails w e).ending ≠ .exit 0 := by
  rcases fails_ending w e with one | ⟨c, none⟩
  · simp [one]
  · simp [none]

/-! ## Runs -/

/-- The arguments are taken and ask for the code of targets that there are. -/
structure Starts (argv : List String) (a : Arguments) (targets : List String) : Prop where
  parsed : parse argv = .ok a
  runs : a.listTargets = false
  known : targetsOf a.target = .ok targets

namespace Starts

variable {w : World} {argv : List String} {a : Arguments} {targets : List String} (starts : Starts argv a targets)
include starts

theorem run_eq_format : run w argv = format w a := by
  simp only [run, starts.parsed, execute, starts.runs, Bool.false_eq_true, if_false]

theorem run_of_unloaded {e : RunFailure} (refused : load w a = .error e) : run w argv = fails w e := by
  rw [starts.run_eq_format]
  simp only [format, starts.known, refused]

theorem run_of_loaded {loaded : Loaded} (there : load w a = .ok loaded) (json : a.json = true) :
    run w argv = render (w.read a) a loaded.index targets := by
  rw [starts.run_eq_format]
  simp only [format, starts.known, there, json, if_true]

end Starts

/-! ## Input -/

theorem given_eq_some {path : String} {s : Option String} (named : LoadRequest.given s = some path) :
    LoadRequest.given (some path) = some path := by
  obtain ⟨-, counts⟩ := Option.filter_eq_some_iff.1 named
  simpa [LoadRequest.given, Option.filter] using counts

theorem loading_of_file {w : World} {a : Arguments} {path : String} (named : LoadRequest.given a.file = some path) :
    loading w a = some (.ofFile w.files path) := by
  have none : LoadRequest.given none = none := rfl
  simp only [loading, named, LoadRequest.load, given_eq_some named, none]

/-- The JSON value that the arguments lead to: what a file holds, or the standard input where neither a file nor an
address is given. -/
inductive Gives (w : World) (a : Arguments) (data : Json) : Prop
  | file {path : String} (named : LoadRequest.given a.file = some path) (asked : Path.holdsNul path = false)
      (held : w.files.HoldsValue path data)
  | stdin (unnamed : LoadRequest.given a.file = none) (unaddressed : LoadRequest.given a.url = none)
      (asked : a.stdin = true) (read : Json.parse w.stdin = .ok data)

/-- Loading the input is loading its value. -/
theorem loading_of_gives {w : World} {a : Arguments} {data : Json} (gives : Gives w a data) :
    ∃ source l, loading w a = some l ∧ l.result = (Loading.ofData source data).result := by
  cases gives with
  | @file path named asked held =>
      obtain ⟨content, cs, found, spelled, parsed⟩ := held
      refine ⟨Path.shown path, _, loading_of_file named, ?_⟩
      rw [Loading.result_ofFile asked found, Loading.ofContent, Files.read_of_spells found spelled]
      simp only [Loading.ofChars, parsed]
  | stdin unnamed unaddressed asked read =>
      refine ⟨"<stdin>", Loading.ofText "<stdin>" w.stdin, by simp [loading, unnamed, unaddressed, asked], ?_⟩
      have parsed : Json.parseChars w.stdin.toList = .ok data := read
      simp only [Loading.ofText, Loading.ofChars, parsed]

theorem load_eq_ok_iff_result {w : World} {a : Arguments} {loaded : Loaded} :
    load w a = .ok loaded ↔ ∃ l, loading w a = some l ∧ l.result = .ok loaded := by
  unfold load
  cases loading w a with
  | none => simp
  | some l =>
      cases result : l.result with
      | ok found => simp [result]
      | error e => cases e <;> simp [result]

theorem result_ofData_eq_ok_iff {source : String} {data : Json} {loaded : Loaded} :
    (Loading.ofData source data).result = .ok loaded ↔
      ∃ ix, Index.ofData data = .ok ix ∧ ix.roots ≠ [] ∧ loaded = ⟨source, ix⟩ := by
  cases accepted : Index.ofData data with
  | error e => simp [Loading.ofData, accepted]
  | ok ix =>
      cases rooted : ix.roots with
      | nil => simp [Loading.ofData, accepted, rooted]
      | cons root rest => simp [Loading.ofData, accepted, rooted, eq_comm]

/-- What is loaded is the index of the value, if it has a root. -/
theorem load_eq_ok_iff {w : World} {a : Arguments} {data : Json} (gives : Gives w a data) {ix : Index} :
    (∃ loaded, load w a = .ok loaded ∧ loaded.index = ix) ↔ Index.ofData data = .ok ix ∧ ix.roots ≠ [] := by
  obtain ⟨source, l, asked, result⟩ := loading_of_gives gives
  simp only [load_eq_ok_iff_result, asked, Option.some.injEq, exists_eq_left', result, result_ofData_eq_ok_iff]
  constructor
  · rintro ⟨_, ⟨found, accepted, rooted, rfl⟩, rfl⟩
    exact ⟨accepted, rooted⟩
  · rintro ⟨accepted, rooted⟩
    exact ⟨⟨source, ix⟩, ⟨ix, accepted, rooted, rfl⟩, rfl⟩

/-- Without a root there is nothing to select. -/
theorem relevant_of_no_roots {data : Json} {ix : Index} (accepted : Index.ofData data = .ok ix) (none : ix.roots = [])
    (ids : Option (List String)) : ix.relevant ids = [] := by
  have rooted := Index.eq_ofRoots accepted
  rw [none] at rooted
  subst rooted
  cases ids with
  | none => rfl
  | some ids =>
      have unknown : ∀ id ∈ ids, (Index.ofRoots []).resolve id = Option.none := fun _ _ => rfl
      exact List.filterMap_eq_nil_iff.2 unknown

end DesignProps.CommandLine
