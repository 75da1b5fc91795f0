import DesignProps.Proofs.Json.Written

/-!
# Reading values written on one line

A text is read back from its literal, and an object whose members are texts from its line, as long as no name stands
twice.

Main statements: `parse_stringLiteral`, `parse_write_texts`.
-/

set_option autoImplicit false

namespace DesignProps.Json

theorem parse_stringLiteral (s : String) : parse (stringLiteral s) = .ok (.str s) := by
  have written : writeIndented (.str s) = stringLiteral s := by
    simp [writeIndented, indented, write]
  rw [parse, ← written]
  exact parseChars_writeIndented (.str s)

/-! ## Objects of texts -/

/-- An object whose members are texts. -/
def texts (ms : List (String × String)) : Json := .obj (ms.map fun m => (m.1, .str m.2))

namespace Reader

theorem value_str (s : String) (fuel : Nat) (rest : List Char) :
    value (fuel + 1) ('"' :: (s.toList.flatMap escape ++ '"' :: rest)) = .ok (.str s, rest) := by
  have named := string_name s ('"' :: (s.toList.flatMap escape ++ '"' :: rest)).length rest
  rw [value, if_pos rfl, named]
  simp only [String.ofList_toList]

/-- Named texts with commas between them. -/
def line : List (String × String) → List Char
  | [] => []
  | [m] => (stringLiteral m.1 ++ ": " ++ stringLiteral m.2).toList
  | m :: n :: rest => (stringLiteral m.1 ++ ": " ++ stringLiteral m.2).toList ++ ',' :: ' ' :: line (n :: rest)

theorem toList_named (m : String × String) (rest : List Char) :
    (stringLiteral m.1 ++ ": " ++ stringLiteral m.2).toList ++ rest =
      '"' :: (m.1.toList.flatMap escape ++ '"' :: ':' :: ' ' :: '"' :: (m.2.toList.flatMap escape ++ '"' :: rest)) := by
  simp [stringLiteral, stringChars]

theorem opens_line (m : String × String) (rest : List (String × String)) (tail : List Char) :
    Opens (line (m :: rest) ++ tail) := by
  cases rest with
  | nil => exact ⟨'"', _, toList_named m tail, by decide⟩
  | cons n rest =>
      rw [line, List.append_assoc]
      exact ⟨'"', _, toList_named m _, by decide⟩

theorem members_line (tail : List Char) : ∀ (m : String × String) (rest : List (String × String)) (fuel : Nat),
    rest.length + 1 < fuel → members fuel (line (m :: rest) ++ '\x7d' :: tail) =
      .ok ((m :: rest).map fun m => (m.1, Json.str m.2), tail) := by
  intro m rest
  induction rest generalizing m with
  | nil =>
      intro fuel enough
      obtain ⟨more, rfl⟩ := Nat.exists_eq_add_of_le' enough
      have read := value_str m.2 more ('\x7d' :: tail)
      rw [line, toList_named]
      exact members_last ⟨'"', _, rfl, by decide⟩ read rfl
  | cons n rest ih =>
      intro fuel enough
      rw [List.length_cons] at enough
      obtain ⟨more, rfl⟩ := Nat.exists_eq_add_of_le' (Nat.lt_of_le_of_lt (Nat.le_add_left 1 _) enough)
      have read := value_str m.2 more (',' :: ' ' :: (line (n :: rest) ++ '\x7d' :: tail))
      have later := ih n (more + 1) (by omega)
      have opens := opens_line n rest ('\x7d' :: tail)
      have blank : dropBlanks (' ' :: (line (n :: rest) ++ '\x7d' :: tail)) = line (n :: rest) ++ '\x7d' :: tail :=
        opens.dropBlanks
      rw [← blank] at later
      rw [line, List.append_assoc, toList_named]
      exact members_more ⟨'"', _, rfl, by decide⟩ read rfl later

theorem length_le_line (m : String × String) (rest : List (String × String)) :
    rest.length < (line (m :: rest)).length := by
  induction rest generalizing m with
  | nil => simp [line, stringLiteral, stringChars]
  | cons n rest ih =>
      have later := ih n
      rw [line, List.length_append, List.length_cons, List.length_cons, List.length_cons]
      omega

theorem document_line (ms : List (String × String)) (distinct : (ms.map Prod.fst).Nodup) :
    document ('\x7b' :: (line ms ++ ['\x7d'])) = .ok (texts ms) := by
  refine document_of_value ⟨'\x7b', _, rfl, by decide⟩ ?_
  cases ms with
  | nil => rfl
  | cons m rest =>
      have enough := length_le_line m rest
      have opens := opens_line m rest ['\x7d']
      have names : (((m :: rest).map fun m => (m.1, Json.str m.2)).map Prod.fst).Nodup := by
        rwa [List.map_map]
      refine value_of_members opens.dropBlanks opens names (members_line [] m rest _ ?_)
      rw [List.length_cons, List.length_append]
      omega

end Reader

theorem toList_write_texts (ms : List (String × String)) :
    (write (texts ms)).toList = '\x7b' :: (Reader.line ms ++ ['\x7d']) := by
  have parts : (String.intercalate ", " (writeMembers (ms.map fun m => (m.1, Json.str m.2)))).toList =
      Reader.line ms := by
    induction ms with
    | nil => rfl
    | cons m rest ih =>
        cases rest with
        | nil => simp [writeMembers, write, Reader.line]
        | cons n rest =>
            rw [Reader.line, ← ih]
            simp [writeMembers, write, String.toList_intercalate]
  rw [texts, write]
  simp [parts]

theorem parse_write_texts {ms : List (String × String)} (distinct : (ms.map Prod.fst).Nodup) :
    parse (write (texts ms)) = .ok (texts ms) := by
  rw [parse, parseChars, toList_write_texts, Reader.document_line ms distinct]

end DesignProps.Json
