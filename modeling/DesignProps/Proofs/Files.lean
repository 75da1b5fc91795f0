import DesignProps.Files

/-!
# Paths and written files

A path that ends in `.json` leads to a name that ends so; only the name `.json` itself has no extension.  A file that
was written is there.

Main statements: `Path.hasJsonExtension_iff`, `Files.write_of_isWritable`, `Files.exists?_write`.
-/

set_option autoImplicit false

namespace DesignProps

/-- A text without carriage returns is read as it is. -/
theorem Text.unifyNewlines_of_not_mem {cs : List Char} (none : '\r' ∉ cs) : unifyNewlines cs = cs := by
  induction cs with
  | nil => rfl
  | cons c rest ih =>
      obtain ⟨other, none⟩ := not_or.1 fun inside => none (List.mem_cons.2 inside)
      unfold unifyNewlines
      split
      · next same => simp at same
      · next same => exact absurd (List.cons.inj same).1.symm other
      · next d later _ same =>
          obtain ⟨rfl, rfl⟩ := List.cons.inj same
          rw [if_neg (Ne.symm other), ih none]

/-! ## Extensions -/

/-- What stands after the last cut of a text grows with the text. -/
theorem Text.splitOn_append_of_free {sep : Char} {tail : List Char} (free : sep ∉ tail) (front : List Char) :
    ∃ before last, splitOn sep (front ++ tail) = before ++ [last ++ tail] := by
  induction front with
  | nil => exact ⟨[], [], splitOn_of_not_mem free⟩
  | cons c front ih =>
      obtain ⟨before, last, pieces⟩ := ih
      by_cases cut : c = sep
      · exact ⟨[] :: before, last, by simp [splitOn, cut, pieces]⟩
      · cases before with
        | nil => exact ⟨[], c :: last, by simp [splitOn, cut, pieces]⟩
        | cons piece before => exact ⟨(c :: piece) :: before, last, by simp [splitOn, cut, pieces]⟩

namespace Path

/-- Only a dot that begins the name does not begin an extension. -/
theorem extension_json (name : List Char) :
    extension (name ++ ".json".toList) = if name = [] then [] else ".json".toList := by
  simp [extension]

/-- The last name of a path that ends in an extension ends in it too. -/
theorem exists_getLast?_names {path : String} (ends : ".json".toList <:+ path.toList) :
    ∃ name, (names path).getLast? = some (String.ofList (name ++ ".json".toList)) := by
  obtain ⟨front, parts⟩ := ends
  have free : '/' ∉ ".json".toList := by decide
  obtain ⟨before, last, pieces⟩ := Text.splitOn_append_of_free free front
  have counts : significant (last ++ ".json".toList) = true := by
    have other : last ++ ".json".toList ≠ ['.'] := fun same => by
      have := congrArg List.length same
      simp at this
    simpa [significant] using other
  refine ⟨last, ?_⟩
  rw [names, ← parts, pieces, List.filter_append, List.filter_cons_of_pos counts, List.filter_nil, List.map_append,
    List.map_cons, List.map_nil, List.getLast?_concat]

theorem hasJsonExtension_iff {path : String} (ends : ".json".toList <:+ path.toList) :
    hasJsonExtension path = true ↔ (names path).getLast? ≠ some ".json" := by
  obtain ⟨name, last⟩ := exists_getLast?_names ends
  have lower : Text.lower ".json" = ".json" := by decide +kernel
  have none : Text.lower "" = "" := by decide +kernel
  have bare : (some (String.ofList (name ++ ".json".toList)) ≠ some ".json") ↔ name ≠ [] := by
    rw [Ne, Option.some_inj, ← String.toList_inj, String.toList_ofList, List.append_left_eq_self]
  simp only [hasJsonExtension, last, bare, String.toList_ofList, extension_json]
  split
  · next empty => simp [empty, none]
  · next some => simp [some, lower]

end Path

namespace Files

/-- A path that leads to a place where a file may be written. -/
def IsWritable (fs : Files) (path : String) : Prop :=
  Path.holdsNul path = false ∧ ∃ place, fs.place path = .ok place ∧ fs.at? place ≠ some .directory

theorem write_of_isWritable {fs : Files} {path : String} (writable : fs.IsWritable path) (text : String) :
    ∃ after, fs.write path text = .ok after := by
  obtain ⟨-, place, led, free⟩ := writable
  exact ⟨fs.put place text, by simp [write, led, free]⟩

theorem exists?_write {fs after : Files} {path text : String} (named : Path.holdsNul path = false)
    (h : fs.write path text = .ok after) : after.exists? path = .ok true := by
  obtain ⟨place, led, free, rfl⟩ := write_ok h
  simp [exists?, named, find?, place_put led text free, at?_put_self fs place text free]

end Files

end DesignProps
