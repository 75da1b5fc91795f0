import DesignProps.Loading
import DesignProps.Proofs.Text.Utf8

/-!
# Files that hold no document

A file holds a JSON value if its bytes are those of a text that is read as one.  A file that does not is reported as an
error of loading, whether nothing is there, a directory is there, or a text that is malformed.  Three causes are no
error of loading but end the work: a path that is too long to be asked for, bytes that are no text, and an integer with
more digits than are converted.

Main statements: `FileContent.directory_or_spells`, `Loading.reported_or_escapes` (every file that holds no value is
reported, or it has one of the three causes and is not).
-/

set_option autoImplicit false

namespace DesignProps

open Text.Utf8 (encode decode decode_eq_ok_iff)

/-! ## Content -/

/-- The bytes of a file are those of a text. -/
def FileContent.Spells : FileContent → List Char → Prop
  | .text content, cs => content.toList = cs
  | .bytes content, cs => content = encode cs
  | .directory, _ => False

/-- The bytes of a file are those of no text. -/
def FileContent.Undecodable : FileContent → Prop
  | .bytes content => ∀ cs, content ≠ encode cs
  | _ => False

namespace FileContent

variable {content : FileContent} {cs : List Char}

theorem spells_unique {other : List Char} (first : content.Spells cs) (second : content.Spells other) : cs = other := by
  cases content with
  | text content => exact first.symm.trans second
  | bytes content => exact Except.ok.inj ((decode_eq_ok_iff.2 first).symm.trans (decode_eq_ok_iff.2 second))
  | directory => exact first.elim

theorem not_undecodable_of_spells (spelled : content.Spells cs) : ¬ content.Undecodable := by
  cases content with
  | bytes content => exact fun undecodable => undecodable cs spelled
  | _ => exact id

/-- What a path leads to is a directory, the bytes of a text, or other bytes. -/
theorem directory_or_spells (content : FileContent) :
    content = .directory ∨ (∃ cs, content.Spells cs) ∨ content.Undecodable := by
  cases content with
  | text content => exact Or.inr (Or.inl ⟨content.toList, rfl⟩)
  | directory => exact Or.inl rfl
  | bytes content =>
      by_cases spelled : ∃ cs, content = encode cs
      · exact Or.inr (Or.inl spelled)
      · exact Or.inr (Or.inr (not_exists.1 spelled))

end FileContent

namespace Files

variable {fs : Files} {path : String} {content : FileContent} {cs : List Char}

theorem read_of_spells (found : fs.find? path = .ok content) (spelled : content.Spells cs) :
    fs.read path = .ok (Text.unifyNewlines cs) := by
  cases content with
  | text content =>
      obtain rfl : content.toList = cs := spelled
      simp only [read, found]
  | bytes content => simp only [read, found, decode_eq_ok_iff.2 spelled]
  | directory => exact spelled.elim

theorem read_of_undecodable (found : fs.find? path = .ok content) (undecodable : content.Undecodable) :
    ∃ e, fs.read path = .error (.notText e) := by
  cases content with
  | bytes content =>
      cases decoded : decode content with
      | ok cs => exact absurd (decode_eq_ok_iff.1 decoded) (undecodable cs)
      | error e => exact ⟨e, by simp only [read, found, decoded]⟩
  | text content => exact undecodable.elim
  | directory => exact undecodable.elim

/-- The path leads to a file of a text that is read as the value. -/
def HoldsValue (fs : Files) (path : String) (data : Json) : Prop :=
  ∃ content cs, fs.find? path = .ok content ∧ content.Spells cs ∧
    Json.parseChars (Text.unifyNewlines cs) = .ok data

/-- What ends the work on a file without being an error of loading. -/
inductive Escape (fs : Files) (path : String) : Prop
  | tooLong (refused : fs.find? path = .error .nameTooLong)
  | notText {content : FileContent} (found : fs.find? path = .ok content) (undecodable : content.Undecodable)
  | tooManyDigits {content : FileContent} {cs : List Char} {e : TooManyDigits} (found : fs.find? path = .ok content)
      (spelled : content.Spells cs) (refused : Json.parseChars (Text.unifyNewlines cs) = .error (.tooManyDigits e))

theorem escape_iff_of_error {e : FileRefusal} (refused : fs.find? path = .error e) :
    fs.Escape path ↔ e = .nameTooLong := by
  constructor
  · rintro (same | ⟨found, -⟩ | ⟨found, -, -⟩)
    · exact Except.error.inj (refused.symm.trans same)
    · cases refused.symm.trans found
    · cases refused.symm.trans found
  · rintro rfl
    exact .tooLong refused

theorem escape_iff_of_ok (found : fs.find? path = .ok content) : fs.Escape path ↔
    content.Undecodable ∨ ∃ cs e, content.Spells cs ∧ Json.parseChars (Text.unifyNewlines cs) = .error (.tooManyDigits e) := by
  constructor
  · rintro (same | ⟨same, undecodable⟩ | ⟨same, spelled, refused⟩)
    · cases found.symm.trans same
    · exact Or.inl (Except.ok.inj (same.symm.trans found) ▸ undecodable)
    · exact Or.inr ⟨_, _, Except.ok.inj (same.symm.trans found) ▸ spelled, refused⟩
  · rintro (undecodable | ⟨cs, e, spelled, refused⟩)
    · exact .notText found undecodable
    · exact .tooManyDigits found spelled refused

/-- A path that no file can have is not asked for, so nothing escapes there. -/
def Escapes (fs : Files) (path : String) : Prop := Path.holdsNul path = false ∧ fs.Escape path

end Files

namespace Loading

variable {fs : Files} {path : String}

/-- Loading ends in an error of its own. -/
def Reports (l : Loading) : Prop := ∃ e, l.result = .error (.load e)

/-- Loading ends in something that is no error of loading. -/
def Breaks (l : Loading) : Prop := ∃ e, l.result = .error (.fault e)

theorem Reports.not_breaks {l : Loading} (reports : l.Reports) : ¬ l.Breaks := by
  obtain ⟨e, reported⟩ := reports
  rintro ⟨f, broken⟩
  cases reported.symm.trans broken

/-- A path that leads to something has it read; what is noted of its name aside. -/
theorem result_ofFile {content : FileContent} (named : Path.holdsNul path = false)
    (found : fs.find? path = .ok content) : (ofFile fs path).result = (ofContent fs path).result := by
  simp only [ofFile, Files.exists?, named, found, Bool.false_eq_true, if_false, withNotices]

theorem not_escapes_of_nul (nul : Path.holdsNul path = true) : ¬ fs.Escapes path := by
  simp [Files.Escapes, nul]

theorem escapes_iff (named : Path.holdsNul path = false) : fs.Escapes path ↔ fs.Escape path := by
  simp [Files.Escapes, named]

theorem reported_or_escapes_of_error {e : FileRefusal} (named : Path.holdsNul path = false)
    (refused : fs.find? path = .error e) :
    (ofFile fs path).Reports ∧ ¬ fs.Escapes path ∨ (ofFile fs path).Breaks ∧ fs.Escapes path := by
  rw [escapes_iff named, Files.escape_iff_of_error refused]
  cases e with
  | nameTooLong =>
      refine Or.inr ⟨⟨.pathTooLong (Path.shown path), ?_⟩, rfl⟩
      simp only [ofFile, Files.exists?, named, refused, Bool.false_eq_true, if_false, faulty]
  | _ =>
      refine Or.inl ⟨⟨.fileNotFound path, ?_⟩, FileRefusal.noConfusion⟩
      simp only [ofFile, Files.exists?, named, refused, Bool.false_eq_true, if_false, failed]

theorem reported_or_escapes_of_spells {content : FileContent} {cs : List Char} (named : Path.holdsNul path = false)
    (found : fs.find? path = .ok content) (spelled : content.Spells cs)
    (unread : ∀ data, Json.parseChars (Text.unifyNewlines cs) ≠ .ok data) :
    (ofFile fs path).Reports ∧ ¬ fs.Escapes path ∨ (ofFile fs path).Breaks ∧ fs.Escapes path := by
  have result : (ofFile fs path).result =
      (ofChars (Path.shown path) (.malformedFile path) (Text.unifyNewlines cs)).result := by
    rw [result_ofFile named found, ofContent, Files.read_of_spells found spelled]
  rw [escapes_iff named, Files.escape_iff_of_ok found, Reports, Breaks, result, ofChars]
  cases parsed : Json.parseChars (Text.unifyNewlines cs) with
  | ok data => exact absurd parsed (unread data)
  | error e =>
      cases e with
      | malformed cause place =>
          refine Or.inl ⟨⟨.malformedFile path cause place, rfl⟩, ?_⟩
          rintro (undecodable | ⟨other, e, again, refused⟩)
          · exact FileContent.not_undecodable_of_spells spelled undecodable
          · rw [← FileContent.spells_unique spelled again, parsed] at refused
            cases refused
      | tooManyDigits e => exact Or.inr ⟨⟨.tooManyDigits e, rfl⟩, Or.inr ⟨cs, e, spelled, parsed⟩⟩

/-- Every file that holds no value is reported, or it escapes. -/
theorem reported_or_escapes (unread : ∀ data, ¬ fs.HoldsValue path data) :
    (ofFile fs path).Reports ∧ ¬ fs.Escapes path ∨ (ofFile fs path).Breaks ∧ fs.Escapes path := by
  cases named : Path.holdsNul path with
  | true =>
      refine Or.inl ⟨⟨.fileNotFound path, ?_⟩, not_escapes_of_nul named⟩
      simp only [ofFile, Files.exists?, named, if_true, failed]
  | false =>
      cases found : fs.find? path with
      | error e => exact reported_or_escapes_of_error named found
      | ok content =>
          rcases content.directory_or_spells with rfl | ⟨cs, spelled⟩ | undecodable
          · refine Or.inl ⟨⟨.unreadableFile path .isADirectory, ?_⟩, ?_⟩
            · simp only [result_ofFile named found, ofContent, Files.read, found, failed]
            · rw [escapes_iff named, Files.escape_iff_of_ok found]
              simp [FileContent.Undecodable, FileContent.Spells]
          · refine reported_or_escapes_of_spells named found spelled fun data parsed => ?_
            exact unread data ⟨content, cs, found, spelled, parsed⟩
          · obtain ⟨e, refused⟩ := Files.read_of_undecodable found undecodable
            refine Or.inr ⟨⟨.notText e, ?_⟩, named, .notText found undecodable⟩
            rw [result_ofFile named found, ofContent, refused]
            rfl

end Loading

end DesignProps
