import DesignProps.Json.Reader

/-!
# Character references

A reference stands for a character between quotes that end at that character.  Where the character is replaced and the
`&` of a reference is not, a text may already hold what the character is replaced by.  So texts are told apart after
the replacement exactly as far as they are told apart with their references read.

Main statements: `CharacterReference.written_eq_iff`, `CharacterReference.read_flatMap` (reading references goes past
a replacement that leaves them alone).
-/

set_option autoImplicit false

namespace DesignProps

/-- A reference to a character: what follows its `&`. -/
structure CharacterReference where
  char : Char
  name : List Char
  char_ne : char ≠ '&'
  char_notMem : char ∉ name
  mark_notMem : '&' ∉ name

/-! ## Beginnings of a text -/

theorem Json.Reader.after?_append (w rest : List Char) : after? w (w ++ rest) = some rest := by
  induction w with
  | nil => rfl
  | cons x w ih =>
      rw [List.cons_append, after?, if_pos rfl]
      exact ih

theorem Json.Reader.eq_of_after? : ∀ {w s rest : List Char}, after? w s = some rest → s = w ++ rest := by
  intro w
  induction w with
  | nil =>
      intro s rest found
      exact Option.some.inj found
  | cons x w ih =>
      intro s rest found
      cases s with
      | nil => simp [after?] at found
      | cons c s =>
          rw [after?] at found
          split at found
          · next same => rw [same, ih found, List.cons_append]
          · simp at found

/-- A replacement that puts nothing into a word: each character stays or is replaced by a text that begins elsewhere. -/
def KeepsWord (w : List Char) (φ : Char → List Char) : Prop :=
  ∀ c, φ c = [c] ∨ c ∉ w ∧ ∃ d tail, φ c = d :: tail ∧ d ∉ w

theorem flatMap_eq_self {φ : Char → List Char} {w : List Char} (kept : ∀ c ∈ w, φ c = [c]) : w.flatMap φ = w := by
  induction w with
  | nil => rfl
  | cons c w ih =>
      obtain ⟨first, later⟩ := List.forall_mem_cons.1 kept
      rw [List.flatMap_cons, first, ih later, List.singleton_append]

theorem after?_flatMap {φ : Char → List Char} : ∀ {w : List Char}, KeepsWord w φ → ∀ s : List Char,
    Json.Reader.after? w (s.flatMap φ) = (Json.Reader.after? w s).map (List.flatMap φ) := by
  intro w
  induction w with
  | nil =>
      intro _ s
      rfl
  | cons x w ih =>
      intro keeps s
      have later : KeepsWord w φ := by
        intro c
        obtain kept | ⟨outside, d, tail, replaced, elsewhere⟩ := keeps c
        · exact .inl kept
        · exact .inr ⟨List.not_mem_of_not_mem_cons outside, d, tail, replaced, List.not_mem_of_not_mem_cons elsewhere⟩
      cases s with
      | nil => rfl
      | cons c s =>
          rw [List.flatMap_cons]
          obtain kept | ⟨outside, d, tail, replaced, elsewhere⟩ := keeps c
          · rw [kept, List.singleton_append, Json.Reader.after?, Json.Reader.after?]
            split
            · exact ih later s
            · rfl
          · have before : x ≠ c := Ne.symm (List.ne_of_not_mem_cons outside)
            have after : x ≠ d := Ne.symm (List.ne_of_not_mem_cons elsewhere)
            rw [replaced, List.cons_append, Json.Reader.after?, Json.Reader.after?, if_neg before, if_neg after]
            rfl

namespace CharacterReference

/-! ## Writing and reading references -/

variable (r : CharacterReference)

def replace (c : Char) : List Char := if c = r.char then '&' :: r.name else [c]

/-- A text with each such character as a reference. -/
def written (s : List Char) : List Char := s.flatMap r.replace

/-- A text with each reference as its character. -/
def read : List Char → List Char
  | [] => []
  | c :: rest =>
      if c = '&' then
        match _found : Json.Reader.after? r.name rest with
        | some more => r.char :: read more
        | none => c :: read rest
      else c :: read rest
termination_by s => s.length
decreasing_by
  · rw [Json.Reader.eq_of_after? _found, List.length_cons, List.length_append]
    omega
  · simp
  · simp

theorem read_reference (more : List Char) : r.read ('&' :: (r.name ++ more)) = r.char :: r.read more := by
  rw [read, if_pos rfl]
  split
  · next found =>
      rw [Json.Reader.after?_append] at found
      rw [Option.some.inj found]
  · next none => simp [Json.Reader.after?_append] at none

theorem read_mark {rest : List Char} (none : Json.Reader.after? r.name rest = none) :
    r.read ('&' :: rest) = '&' :: r.read rest := by
  rw [read, if_pos rfl]
  split
  · next found => simp [none] at found
  · rfl

theorem read_cons {c : Char} (other : c ≠ '&') (rest : List Char) : r.read (c :: rest) = c :: r.read rest := by
  rw [read, if_neg other]

theorem read_append {s : List Char} (none : '&' ∉ s) (rest : List Char) : r.read (s ++ rest) = s ++ r.read rest := by
  induction s with
  | nil => rfl
  | cons c s ih =>
      have first : c ≠ '&' := Ne.symm (List.ne_of_not_mem_cons none)
      rw [List.cons_append, read_cons r first, ih (List.not_mem_of_not_mem_cons none)]
      rfl

theorem read_of_no_mark {s : List Char} (none : '&' ∉ s) : r.read s = s := by
  have whole := r.read_append none []
  rwa [List.append_nil, read, List.append_nil] at whole

theorem replace_char : r.replace r.char = '&' :: r.name := if_pos rfl

theorem replace_mark : r.replace '&' = ['&'] := if_neg (Ne.symm r.char_ne)

theorem replace_keepsWord : KeepsWord r.name r.replace := by
  intro c
  by_cases own : c = r.char
  · subst own
    exact .inr ⟨r.char_notMem, '&', r.name, r.replace_char, r.mark_notMem⟩
  · exact .inl (if_neg own)

theorem written_cons (c : Char) (s : List Char) : r.written (c :: s) = r.replace c ++ r.written s := rfl

theorem written_append (s t : List Char) : r.written (s ++ t) = r.written s ++ r.written t := List.flatMap_append

theorem written_name : r.written r.name = r.name := by
  refine flatMap_eq_self ?_
  intro c inside
  refine if_neg ?_
  rintro rfl
  exact r.char_notMem inside

/-- A character that has been replaced is read again. -/
theorem read_written (s : List Char) : r.read (r.written s) = r.read s := by
  induction s using read.induct r with
  | case1 => rfl
  | case2 rest more found ih =>
      obtain rfl := Json.Reader.eq_of_after? found
      rw [written_cons, replace_mark, written_append, written_name, List.singleton_append, read_reference,
        read_reference, ih]
  | case3 rest none ih =>
      have later : Json.Reader.after? r.name (r.written rest) = Option.none := by
        rw [written, after?_flatMap r.replace_keepsWord, none]
        rfl
      rw [written_cons, replace_mark, List.singleton_append, read_mark r none, read_mark r later, ih]
  | case4 c rest other ih =>
      rw [written_cons, read_cons r other]
      by_cases own : c = r.char
      · subst own
        rw [replace_char, List.cons_append, read_reference, ih]
      · rw [replace, if_neg own, List.singleton_append, read_cons r other, ih]

/-- A reference that has been read is written again. -/
theorem written_read (s : List Char) : r.written (r.read s) = r.written s := by
  induction s using read.induct r with
  | case1 => rw [read]
  | case2 rest more found ih =>
      obtain rfl := Json.Reader.eq_of_after? found
      rw [read_reference, written_cons, written_cons, written_append, written_name, replace_char, replace_mark, ih]
      rfl
  | case3 rest none ih => rw [read_mark r none, written_cons, written_cons, ih]
  | case4 c rest other ih => rw [read_cons r other, written_cons, written_cons, ih]

theorem written_eq_iff (s t : List Char) : r.written s = r.written t ↔ r.read s = r.read t := by
  constructor
  · intro same
    rw [← read_written, same, read_written]
  · intro same
    rw [← written_read, same, written_read]

/-- What holds no such character once its references are read has no references. -/
theorem read_eq_self {s : List Char} (none : r.char ∉ r.read s) : r.read s = s := by
  induction s using read.induct r with
  | case1 => rw [read]
  | case2 rest more found ih =>
      obtain rfl := Json.Reader.eq_of_after? found
      rw [read_reference] at none
      exact absurd List.mem_cons_self none
  | case3 rest absent ih =>
      rw [read_mark r absent] at none ⊢
      rw [ih (List.not_mem_of_not_mem_cons none)]
  | case4 c rest other ih =>
      rw [read_cons r other] at none ⊢
      rw [ih (List.not_mem_of_not_mem_cons none)]

/-- A replacement that keeps references, and makes none, may come before or after reading them. -/
theorem read_flatMap {φ : Char → List Char} (mark : φ '&' = ['&']) (own : φ r.char = [r.char])
    (others : ∀ c, c ≠ '&' → '&' ∉ φ c) (name : ∀ c ∈ r.name, φ c = [c]) (keeps : KeepsWord r.name φ) (s : List Char) :
    r.read (s.flatMap φ) = (r.read s).flatMap φ := by
  induction s using read.induct r with
  | case1 => rw [List.flatMap_nil, read, List.flatMap_nil]
  | case2 rest more found ih =>
      obtain rfl := Json.Reader.eq_of_after? found
      rw [List.flatMap_cons, List.flatMap_append, mark, flatMap_eq_self name, List.singleton_append, read_reference,
        read_reference, List.flatMap_cons, own, ih]
      rfl
  | case3 rest none ih =>
      have later : Json.Reader.after? r.name (rest.flatMap φ) = Option.none := by
        rw [after?_flatMap keeps, none]
        rfl
      rw [List.flatMap_cons, mark, List.singleton_append, read_mark r later, read_mark r none, List.flatMap_cons, mark,
        ih]
      rfl
  | case4 c rest other ih =>
      rw [List.flatMap_cons, read_append r (others c other), read_cons r other, List.flatMap_cons, ih]

end CharacterReference

end DesignProps
