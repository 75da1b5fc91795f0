import DesignProps.Proofs.CommandLine.Input

/-!
# Runs on files that hold no document

A run on a file that holds no value ends with the exit code of a failure exactly if loading the file reports an error
and the line that says so can be printed.  What escapes the loader escapes the run; so does a message that the console
refuses, since the path in it is read as markup.

Main statements: `run_of_reported`, `run_of_broken`, `unread_file_reported`.
-/

set_option autoImplicit false

namespace DesignProps.CommandLine

open Console (Printed)

/-! ## Runs on files -/

/-- The arguments ask for the code of a file's document. -/
structure Asks (argv : List String) (a : Arguments) (path : String) : Prop where
  starts : ∃ targets, Starts argv a targets
  named : LoadRequest.given a.file = some path

/-- The line that an error is reported in. -/
def errorLine (e : LoadError) : Printed := .markup ("[red]✗ Error:[/red] " ++ e.message) true

variable {w : World} {argv : List String} {a : Arguments} {path : String}

theorem run_of_reported (asks : Asks argv a path) {e : LoadError}
    (reported : (Loading.ofFile w.files path).result = .error (.load e)) :
    run w argv = say w (errorLine e) (ends w 1) := by
  obtain ⟨targets, starts⟩ := asks.starts
  have unloaded : load w a = .error (.error (.load e)) := by simp only [load, loading_of_file asks.named, reported]
  exact starts.run_of_unloaded unloaded

theorem run_of_broken (asks : Asks argv a path) {e : Fault}
    (broken : (Loading.ofFile w.files path).result = .error (.fault e)) :
    (run w argv).ending = .crash (.fault e) := by
  obtain ⟨targets, starts⟩ := asks.starts
  have unloaded : load w a = .error (.crash e) := by simp only [load, loading_of_file asks.named, broken]
  rw [starts.run_of_unloaded unloaded]
  rfl

/-- A file that holds no value is reported as an error of loading unless it escapes; then it is none.  A run on the file
ends with the code of a failure exactly if there is such an error and it can be printed, and else with no code. -/
theorem unread_file_reported {fs : Files} {path : String} (unread : ∀ data, ¬ fs.HoldsValue path data) :
    ((Loading.ofFile fs path).Reports ↔ ¬ fs.Escapes path) ∧ ((Loading.ofFile fs path).Breaks ↔ fs.Escapes path) ∧
    ∀ (w : World) (argv : List String) (a : Arguments), w.files = fs → Asks argv a path →
      ((run w argv).ending = .exit 1 ↔
        ∃ e, (Loading.ofFile fs path).result = .error (.load e) ∧ CanPrint w (errorLine e)) ∧
      ∀ code, (run w argv).ending = .exit code → code = 1 := by
  rcases Loading.reported_or_escapes unread with ⟨reports, contained⟩ | ⟨breaks, escapes⟩
  · refine ⟨by simp [reports, contained], by simp [reports.not_breaks, contained], ?_⟩
    rintro w argv a rfl asks
    obtain ⟨e, reported⟩ := reports
    have same : ∀ f, (Loading.ofFile w.files path).result = .error (.load f) ↔ f = e := by
      intro f
      rw [reported, Except.error.injEq, LoadFailure.load.injEq, eq_comm]
    rw [run_of_reported asks reported]
    by_cases printed : CanPrint w (errorLine e)
    · simp [say_of_canPrint printed, ends, same, printed, eq_comm]
    · obtain ⟨crash, ending⟩ := say_of_not_canPrint printed (ends w 1)
      simp [ending, same, printed]
  · have unreported : ¬ (Loading.ofFile fs path).Reports := fun reports => reports.not_breaks breaks
    refine ⟨by simp [unreported, escapes], by simp [breaks, escapes], ?_⟩
    rintro w argv a rfl asks
    obtain ⟨e, broken⟩ := breaks
    simp [run_of_broken asks broken, broken]

/-! A list that is not closed, and a byte that begins no character. -/

def single (content : FileContent) : Files := .ofList [("d.json", content)]

def singleArguments : Arguments := { Arguments.none with file := some "d.json" }

theorem asks_single : Asks ["d.json"] singleArguments "d.json" := by
  have every : Text.lower allTargets = allTargets := by decide +kernel
  have known : targetsOf (some allTargets) = .ok targetNames := by simp [targetsOf, every]
  exact ⟨⟨targetNames, rfl, rfl, known⟩, rfl⟩

theorem unread_open_list : ∀ data, ¬ (single (.text "[1, 2")).HoldsValue "d.json" data := by
  rintro data ⟨content, cs, found, spelled, parsed⟩
  have there : (single (.text "[1, 2")).find? "d.json" = .ok (.text "[1, 2") := rfl
  obtain rfl := Except.ok.inj (there.symm.trans found)
  obtain rfl : "[1, 2".toList = cs := spelled
  have refused : Json.parseChars (Text.unifyNewlines "[1, 2".toList) = .error (.malformed .comma ⟨1, 6, 5⟩) := rfl
  cases refused.symm.trans parsed

theorem open_list_reported : (∀ data, ¬ (single (.text "[1, 2")).HoldsValue "d.json" data) ∧
    ((Loading.ofFile (single (.text "[1, 2")) "d.json").Reports ↔ ¬ (single (.text "[1, 2")).Escapes "d.json") ∧
    ∀ w : World, w.files = single (.text "[1, 2") → Asks ["d.json"] singleArguments "d.json" ∧
      ((run w ["d.json"]).ending = .exit 1 ↔
        ∃ e, (Loading.ofFile (single (.text "[1, 2")) "d.json").result = .error (.load e) ∧ CanPrint w (errorLine e)) := by
  obtain ⟨reported, -, runs⟩ := unread_file_reported unread_open_list
  exact ⟨unread_open_list, reported, fun w same => ⟨asks_single, (runs w _ _ same asks_single).1⟩⟩

/-- The byte 255 is no text, and so no JSON value, but it is not reported: the run ends without an exit code. -/
theorem byte_unreported : ∃ w : World, (∀ data, ¬ w.files.HoldsValue "d.json" data) ∧
    ¬ (Loading.ofFile w.files "d.json").Reports ∧ ∃ e, (run w ["d.json"]).ending = .crash (.fault e) := by
  let w : World := ⟨single (.bytes [0xff]), "", fun _ => .error .timeout, 80, "", false⟩
  have there : w.files.find? "d.json" = .ok (.bytes [0xff]) := rfl
  have broken : (Loading.ofFile w.files "d.json").result = .error (.fault (.notText ⟨0xff, 0, 1, .startByte⟩)) := rfl
  have undecodable : ∀ cs, [(0xff : UInt8)] ≠ Text.Utf8.encode cs := by
    intro cs same
    have refused : Text.Utf8.decode [0xff] = .error ⟨0xff, 0, 1, .startByte⟩ := rfl
    cases refused.symm.trans (Text.Utf8.decode_eq_ok_iff.2 same)
  refine ⟨w, ?unread, fun reports => reports.not_breaks ⟨_, broken⟩, _, run_of_broken asks_single broken⟩
  rintro data ⟨content, cs, found, spelled, -⟩
  obtain rfl := Except.ok.inj (there.symm.trans found)
  exact undecodable cs spelled

end DesignProps.CommandLine
