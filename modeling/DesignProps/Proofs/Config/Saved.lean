import DesignProps.Config.File
import DesignProps.Proofs.Config.Layers
import DesignProps.Proofs.Files
import DesignProps.Proofs.Json.Characters
import DesignProps.Proofs.Json.Written

/-!
# Saved configurations

A configuration that was saved is loaded again as it was, for every target: each field and each custom entry, in
order.  Only a file named `.json` and nothing else is written but not read.

Main statements: `fileMembers_write` (a saved object gives its members), `save_ok_iff` (only the path can keep a
configuration from being saved), `load_save`, `load_save_of_bare_name`.
-/

set_option autoImplicit false

namespace DesignProps.Config

/-- Fields hold plain values, and the custom object has plain members none of which is a field. -/
structure Storable (c : Config) : Prop where
  fields : ∀ f, (c.get f).Plain
  custom : ∃ extra, c.HasExtra extra ∧ ∀ e ∈ extra, e.2.Plain

/-! ## Files -/

section Files
variable {fs after : Files} {path : String} {members : List (String × Json)}

theorem contentMembers_of_parsed {text : List Char} (read : fs.read path = .ok text)
    (parsed : Json.parseChars text = .ok (.obj members)) : contentMembers fs path = .ok members := by
  delta contentMembers
  rw [read]
  dsimp only
  rw [parsed]

/-- A saved object gives its members: it is read as it was written, and parsed as what was written. -/
theorem fileMembers_write (named : Path.holdsNul path = false) (extension : Path.hasJsonExtension path = true)
    (plain : (Json.obj members).Plain) (written : fs.write path (Json.writeIndented (.obj members)) = .ok after) :
    fileMembers after path = .ok members := by
  have text : after.read path = .ok (Json.writeIndented (.obj members)).toList := by
    rw [Files.read_write written, Text.unifyNewlines_of_not_mem (Json.return_not_mem_writeIndented _)]
  have content := contentMembers_of_parsed text (Json.parseChars_writeIndented plain)
  simp only [fileMembers, Files.exists?_write named written, extension, if_true, content]

theorem fileMembers_of_bare_name (there : after.exists? path = .ok true)
    (extension : Path.hasJsonExtension path = false) : fileMembers after path = .error (.config (.notJson path)) := by
  simp [fileMembers, there, extension]

theorem fileLayer_of_ne (given : path ≠ "") : fileLayer fs (some path) = fileMembers fs path := by
  simp [fileLayer, given]

end Files

/-! ## Saving and loading -/

theorem plain_members {c : Config} {extra : List (String × Json)} (fields : ∀ f, (c.get f).Plain)
    (has : c.HasExtra extra) (each : ∀ e ∈ extra, e.2.Plain) : (Json.obj (c.fieldMembers ++ extra)).Plain := by
  refine .obj has.nodup_names fun e inside => ?_
  rcases List.mem_append.1 inside with field | other
  · obtain ⟨f, -, rfl⟩ := List.mem_map.1 field
    exact fields f
  · exact each e other

/-- A storable configuration is saved wherever a file can be written, and its file gives its members. -/
theorem save_of_storable {fs : Files} {c : Config} {path : String} (storable : c.Storable)
    (writable : fs.IsWritable path) : ∃ after extra, save fs c path = .ok after ∧ c.HasExtra extra ∧
      after.exists? path = .ok true ∧
      (Path.hasJsonExtension path = true → fileMembers after path = .ok (c.fieldMembers ++ extra)) := by
  obtain ⟨fields, extra, has, each⟩ := storable
  have text : c.fileText = .ok (Json.writeIndented (.obj (c.fieldMembers ++ extra))) := by
    rw [fileText, has.toMembers]
    rfl
  obtain ⟨after, written⟩ := Files.write_of_isWritable writable (Json.writeIndented (.obj (c.fieldMembers ++ extra)))
  refine ⟨after, extra, ?_, has, Files.exists?_write writable.1 written, fun extension => ?_⟩
  · simp [save, text, writable.1, written]
  · exact fileMembers_write writable.1 extension (plain_members fields has each) written

/-- Only a path that cannot be written keeps a storable configuration from being saved. -/
theorem save_ok_iff {fs : Files} {c : Config} {path : String} (storable : c.Storable) :
    (∃ after, save fs c path = .ok after) ↔ fs.IsWritable path := by
  constructor
  · rintro ⟨after, saved⟩
    unfold save at saved
    split at saved
    · cases saved
    · next text _ =>
        split at saved
        · cases saved
        · next named =>
            split at saved
            · next written same =>
                obtain ⟨place, led, free, -⟩ := Files.write_ok same
                exact ⟨Bool.eq_false_iff.2 named, place, led, free⟩
            · cases saved
  · intro writable
    obtain ⟨after, _, saved, -⟩ := save_of_storable storable writable
    exact ⟨after, saved⟩

theorem ne_empty_of_ends {path : String} (ends : ".json".toList <:+ path.toList) : path ≠ "" := by
  rintro rfl
  exact absurd ends (by decide)

/-- What is loaded from a saved file is what was saved, in every target. -/
theorem load_save {fs : Files} {c : Config} {path : String} (storable : c.Storable) (writable : fs.IsWritable path)
    (ends : ".json".toList <:+ path.toList) (named : (Path.names path).getLast? ≠ some ".json") (target : String) :
    ∃ after loaded, save fs c path = .ok after ∧ load after target [] (some path) = .ok loaded ∧
      loaded.normal = c.normal := by
  obtain ⟨after, extra, saved, has, -, read⟩ := save_of_storable storable writable
  obtain ⟨loaded, made, same⟩ := layered_members has target
  have members := read ((Path.hasJsonExtension_iff ends).2 named)
  refine ⟨after, loaded, saved, ?_, same⟩
  simp only [load, fileLayer_of_ne (ne_empty_of_ends ends), members, made]

/-- A configuration with a custom object: a list, a text with a quote and an object within it. -/
def themed : Config :=
  { base with
    slotTag := .str "div"
    custom := .value (.obj [("accent", .arr [.int (-3), .str "a\"b"]), ("theme", .obj [("dark", .bool true)])]) }

theorem storable_themed : themed.Storable := by
  refine ⟨fun f => ?_, _, ⟨rfl, by decide, by decide⟩, ?_⟩
  · cases f
    case showDefaults | explicitBoolean | optionsApi | addComments => exact .bool _
    case slotTag => exact .str _
    case indentSize => exact .int (by decide)
  · have three : (Json.int (-3)).Plain := .int (by decide)
    have accent : (Json.arr [.int (-3), .str "a\"b"]).Plain := .arr (by simp [three, Json.Plain.str])
    have theme : (Json.obj [("dark", .bool true)]).Plain := .obj (by decide) (by simp [Json.Plain.bool])
    simp [accent, theme]

theorem load_save_themed : themed.Storable ∧ Files.empty.IsWritable "out.json" ∧
    ".json".toList <:+ "out.json".toList ∧ (Path.names "out.json").getLast? ≠ some ".json" ∧
    ∃ after loaded, save .empty themed "out.json" = .ok after ∧ load after "vue" [] (some "out.json") = .ok loaded ∧
      loaded.normal = themed.normal := by
  have writable : Files.empty.IsWritable "out.json" := ⟨by decide, ["out.json"], by decide, by decide⟩
  have ends : ".json".toList <:+ "out.json".toList := by decide
  have named : (Path.names "out.json").getLast? ≠ some ".json" := by decide
  exact ⟨storable_themed, writable, ends, named, load_save storable_themed writable ends named "vue"⟩

/-- A name that is nothing but the extension is written but never read, whatever the target. -/
theorem load_save_of_bare_name {fs : Files} {c : Config} {path : String} (storable : c.Storable)
    (writable : fs.IsWritable path) (ends : ".json".toList <:+ path.toList)
    (bare : (Path.names path).getLast? = some ".json") (target : String) (overrides : List (String × Json)) :
    ∃ after, save fs c path = .ok after ∧
      load after target overrides (some path) = .error (.config (.notJson path)) := by
  obtain ⟨after, extra, saved, -, there, -⟩ := save_of_storable storable writable
  have extension : Path.hasJsonExtension path = false :=
    Bool.eq_false_iff.2 fun has => (Path.hasJsonExtension_iff ends).1 has bare
  refine ⟨after, saved, ?_⟩
  simp only [load, fileLayer_of_ne (ne_empty_of_ends ends), fileMembers_of_bare_name there extension]

/-- The path `.json` ends in an extension that its name does not have. -/
theorem not_load_save_bare : themed.Storable ∧ Files.empty.IsWritable ".json" ∧ ".json".toList <:+ ".json".toList ∧
    ¬ ∃ after loaded, save .empty themed ".json" = .ok after ∧ load after "react" [] (some ".json") = .ok loaded ∧
      loaded.normal = themed.normal := by
  have writable : Files.empty.IsWritable ".json" := ⟨by decide, [".json"], by decide, by decide⟩
  refine ⟨storable_themed, writable, List.suffix_refl _, ?_⟩
  rintro ⟨after, loaded, saved, read, -⟩
  obtain ⟨written, same, refused⟩ :=
    load_save_of_bare_name storable_themed writable (List.suffix_refl _) (by decide) "react" []
  obtain rfl := Except.ok.inj (saved.symm.trans same)
  rw [read] at refused
  cases refused

end DesignProps.Config
