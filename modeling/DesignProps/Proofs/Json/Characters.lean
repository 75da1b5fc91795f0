import DesignProps.Proofs.Json.Layout
import DesignProps.Proofs.Number.Characters

/-!
# Characters of written values

Of what is written of a value, brackets, commas, quotes, margins, numbers and words are made of a few characters.  Any
other character is in it exactly if it is in the escaped form of one of the texts of the value.

Main statements: `mem_indented_iff`, `return_not_mem_writeIndented` (no carriage return is written),
`mem_writeIndented_iff` and `forall_mem_writeIndented` (beyond ASCII, just the characters of the texts are written).
-/

set_option autoImplicit false

namespace DesignProps.Json

mutual

/-- The texts in a value, names of members included. -/
def strings : Json → List String
  | .str s => [s]
  | .arr items => stringsOfItems items
  | .obj members => stringsOfMembers members
  | _ => []

def stringsOfItems : List Json → List String
  | [] => []
  | v :: rest => strings v ++ stringsOfItems rest

def stringsOfMembers : List (String × Json) → List String
  | [] => []
  | (name, v) :: rest => name :: strings v ++ stringsOfMembers rest

end

/-- A character that is written for other reasons than that it is in a text. -/
def isFrame (c : Char) : Bool :=
  isNumberChar c || ['"', '[', ']', '\x7b', '\x7d', ',', ':', ' ', '\n'].contains c

theorem numeric_floatText (x : Binary64) : Numeric (floatText x).toList := by
  unfold floatText
  split
  · decide
  · decide
  · decide
  · rw [Binary64.text, String.toList_ofList]
    exact x.numeric_chars

/-! ## Parts -/

section Parts
variable {c : Char} (apart : isFrame c = false)
include apart

theorem ne_of_isFrame {d : Char} (frame : isFrame d = true) : c ≠ d := by
  rintro rfl
  exact Bool.false_ne_true (apart.symm.trans frame)

theorem notMem_of_numeric {cs : List Char} (numeric : Numeric cs) : c ∉ cs := by
  intro inside
  have frame : isFrame c = true := by simp [isFrame, numeric c inside]
  exact ne_of_isFrame apart frame rfl

theorem notMem_gap (depth : Nat) : c ∉ gap depth := by
  have feed : c ≠ '\n' := ne_of_isFrame apart (by decide)
  have blank : c ≠ ' ' := ne_of_isFrame apart (by decide)
  simp [gap, feed, blank]

theorem mem_stringLiteral_iff (s : String) : c ∈ (stringLiteral s).toList ↔ c ∈ s.toList.flatMap escape := by
  have quote : c ≠ '"' := ne_of_isFrame apart (by decide)
  simp [stringLiteral, stringChars, quote]

theorem mem_joined_iff (depth : Nat) (parts : List String) :
    c ∈ joined depth parts ↔ ∃ part ∈ parts, c ∈ part.toList := by
  have comma : c ≠ ',' := ne_of_isFrame apart (by decide)
  induction parts with
  | nil => simp [joined]
  | cons part rest ih =>
      cases rest with
      | nil => simp [joined_singleton]
      | cons next others =>
          rw [joined_cons_cons, List.exists_mem_cons_iff]
          simp only [List.mem_append, List.mem_cons (a := c), comma, notMem_gap apart, false_or, ih]

theorem mem_block_iff {opening closing : String} (first : c ∉ opening.toList) (last : c ∉ closing.toList) (depth : Nat)
    (parts : List String) : c ∈ (block opening closing depth parts).toList ↔ ∃ part ∈ parts, c ∈ part.toList := by
  cases parts with
  | nil => simp [block, first, last]
  | cons part rest =>
      rw [toList_block _ _ _ (List.cons_ne_nil part rest)]
      simp only [List.mem_append, first, last, notMem_gap apart, mem_joined_iff apart, false_or, or_false]

end Parts

/-! ## Values -/

mutual

theorem mem_indented_iff {c : Char} (apart : isFrame c = false) (depth : Nat) : ∀ v : Json,
    c ∈ (indented depth v).toList ↔ ∃ s ∈ strings v, c ∈ s.toList.flatMap escape
  | .null => by
      have outside : c ∉ "null".toList := notMem_of_numeric apart (by decide)
      simp only [toList_null, outside, strings, List.not_mem_nil, false_and, exists_false]
  | .bool true => by
      have outside : c ∉ "true".toList := notMem_of_numeric apart (by decide)
      simp only [toList_true, outside, strings, List.not_mem_nil, false_and, exists_false]
  | .bool false => by
      have outside : c ∉ "false".toList := notMem_of_numeric apart (by decide)
      simp only [toList_false, outside, strings, List.not_mem_nil, false_and, exists_false]
  | .int n => by
      have outside : c ∉ intChars n := notMem_of_numeric apart (numeric_intChars n)
      simp only [toList_int, outside, strings, List.not_mem_nil, false_and, exists_false]
  | .float x => by
      have written : indented depth (.float x) = floatText x := by simp [indented, write]
      have outside : c ∉ (floatText x).toList := notMem_of_numeric apart (numeric_floatText x)
      simp only [written, outside, strings, List.not_mem_nil, false_and, exists_false]
  | .str s => by
      have written : indented depth (.str s) = stringLiteral s := by simp [indented, write]
      rw [written, mem_stringLiteral_iff apart]
      simp [strings]
  | .arr items => by
      have opening : c ∉ "[".toList := by simpa using ne_of_isFrame apart (by decide)
      have closing : c ∉ "]".toList := by simpa using ne_of_isFrame apart (by decide)
      rw [indented, strings, mem_block_iff apart opening closing, mem_indentedItems_iff apart (depth + 1) items]
  | .obj members => by
      have opening : c ∉ "\x7b".toList := by simpa using ne_of_isFrame apart (by decide)
      have closing : c ∉ "\x7d".toList := by simpa using ne_of_isFrame apart (by decide)
      rw [indented, strings, mem_block_iff apart opening closing, mem_indentedMembers_iff apart (depth + 1) members]

theorem mem_indentedItems_iff {c : Char} (apart : isFrame c = false) (depth : Nat) : ∀ items : List Json,
    (∃ part ∈ indentedItems depth items, c ∈ part.toList) ↔
      ∃ s ∈ stringsOfItems items, c ∈ s.toList.flatMap escape
  | [] => by simp [indentedItems, stringsOfItems]
  | v :: rest => by
      have first := mem_indented_iff apart depth v
      have later := mem_indentedItems_iff apart depth rest
      simp only [indentedItems, stringsOfItems, List.mem_cons, List.mem_append, or_and_right, exists_or,
        exists_eq_left, first, later]

theorem mem_indentedMembers_iff {c : Char} (apart : isFrame c = false) (depth : Nat) :
    ∀ members : List (String × Json), (∃ part ∈ indentedMembers depth members, c ∈ part.toList) ↔
      ∃ s ∈ stringsOfMembers members, c ∈ s.toList.flatMap escape
  | [] => by simp [indentedMembers, stringsOfMembers]
  | (name, v) :: rest => by
      have colon : c ≠ ':' := ne_of_isFrame apart (by decide)
      have blank : c ≠ ' ' := ne_of_isFrame apart (by decide)
      have mark : c ∉ ": ".toList := by simp [colon, blank]
      have first := mem_indented_iff apart depth v
      have later := mem_indentedMembers_iff apart depth rest
      simp only [indentedMembers, stringsOfMembers, List.mem_cons, List.mem_append, or_and_right, exists_or,
        exists_eq_left, String.toList_append, mem_stringLiteral_iff apart, mark, or_false, first, later, List.cons_append,
        or_assoc]

end

/-! ## Carriage returns -/

theorem return_not_mem_escape (c : Char) : '\r' ∉ escape c := by
  by_cases own : c = '\r'
  · subst own
    decide
  · exact notMem_escape (by decide) own

theorem return_not_mem_writeIndented (v : Json) : '\r' ∉ (writeIndented v).toList := by
  intro inside
  obtain ⟨s, -, spelled⟩ := (mem_indented_iff (by decide) 0 v).1 inside
  obtain ⟨c, -, escaped⟩ := List.mem_flatMap.1 spelled
  exact return_not_mem_escape c escaped

/-! ## Characters beyond ASCII -/

theorem toNat_of_isAlphanum {c : Char} (letter : c.isAlphanum = true) : c.toNat < 0x80 := by
  have below : ∀ {last : Char}, c.val ≤ last.val → last.toNat < 0x80 → c.toNat < 0x80 :=
    fun before low => Nat.lt_of_le_of_lt (UInt32.le_iff_toNat_le.1 before) low
  rcases Bool.or_eq_true_iff.1 letter with alpha | digit
  · rcases Bool.or_eq_true_iff.1 alpha with upper | lower
    · have range : c.val ≥ 'A'.val ∧ c.val ≤ 'Z'.val := of_decide_eq_true upper
      exact below range.2 (by decide)
    · have range : c.val ≤ 'z'.val := of_decide_eq_true (Bool.and_eq_true_iff.1 lower).2
      exact below range (by decide)
  · have range : c.val ≤ '9'.val := of_decide_eq_true (Bool.and_eq_true_iff.1 digit).2
    exact below range (by decide)

section Wide
variable {c : Char} (wide : 0x80 ≤ c.toNat)
include wide

theorem isAlphanum_of_wide : c.isAlphanum = false := by
  by_contra letter
  have low := toNat_of_isAlphanum (Bool.of_not_eq_false letter)
  omega

theorem isFrame_of_wide : isFrame c = false := by
  have other : ∀ d : Char, d.toNat < 0x80 → c ≠ d := by
    rintro d low rfl
    omega
  simp [isFrame, isNumberChar, isAlphanum_of_wide wide, other]

theorem mem_escape_iff (d : Char) : c ∈ escape d ↔ c = d := by
  have quote : c ≠ '"' := ne_of_isFrame (isFrame_of_wide wide) (by decide)
  have backslash : c ≠ '\\' := by
    rintro rfl
    exact absurd wide (by decide)
  constructor
  · intro inside
    by_contra other
    exact notMem_escape ⟨isAlphanum_of_wide wide, quote, backslash⟩ (Ne.symm other) inside
  · rintro rfl
    rw [escape_of_plain (by omega) quote backslash]
    exact List.mem_singleton_self c

theorem mem_writeIndented_iff (v : Json) : c ∈ (writeIndented v).toList ↔ ∃ s ∈ strings v, c ∈ s.toList := by
  rw [writeIndented, mem_indented_iff (isFrame_of_wide wide)]
  simp [mem_escape_iff wide]

end Wide

/-- What is so of every ASCII character is so of all that is written if it is so of the texts. -/
theorem forall_mem_writeIndented {p : Char → Prop} (ascii : ∀ c, ¬ p c → 0x80 ≤ c.toNat) (v : Json) :
    (∀ c ∈ (writeIndented v).toList, p c) ↔ ∀ s ∈ strings v, ∀ c ∈ s.toList, p c := by
  constructor
  · intro every s inside c among
    by_contra other
    exact other (every c ((mem_writeIndented_iff (ascii c other) v).2 ⟨s, inside, among⟩))
  · intro every c written
    by_contra other
    obtain ⟨s, inside, among⟩ := (mem_writeIndented_iff (ascii c other) v).1 written
    exact other (every s inside c among)

end DesignProps.Json
