import DesignProps.Proofs.Json.Scalars

/-!
# The layout of written values

The characters that `writeIndented` writes, part by part: an empty list or object is a pair of brackets, the parts of
any other stand on lines of their own.

Main statements: `escaped_inj`, `toList_block`, `toList_member`.
-/

set_option autoImplicit false

namespace DesignProps.Json

/-- A value without doubles, whose integers are short enough to be read, and whose objects have no name twice. -/
inductive Plain : Json → Prop
  | null : Plain .null
  | bool (b : Bool) : Plain (.bool b)
  | int {n : Int} (few : (Nat.toDigits 10 n.natAbs).length ≤ digitLimit) : Plain (.int n)
  | str (s : String) : Plain (.str s)
  | arr {items : List Json} (each : ∀ v ∈ items, Plain v) : Plain (.arr items)
  | obj {members : List (String × Json)} (distinct : (members.map Prod.fst).Nodup)
      (each : ∀ e ∈ members, Plain e.2) : Plain (.obj members)

/-! ## Escapes -/

/-- A character stands for itself or is escaped: by a backslash, and then by letters, digits, or itself. -/
theorem escape_cases (c : Char) : escape c = [c] ∨ (c = '"' ∨ c = '\\' ∨ c.toNat < 0x20) ∧
    ∃ tail, escape c = '\\' :: tail ∧ ∀ d ∈ tail, d.isAlphanum = true ∨ d = '"' ∨ d = '\\' := by
  have digit : ∀ n, (hexDigit n).isAlphanum = true := by
    intro n
    have each : ∀ k < 16, (Nat.digitChar k).isAlphanum = true := by decide
    exact each _ (Nat.mod_lt n (by decide))
  have letter : 'n'.isAlphanum = true ∧ 'r'.isAlphanum = true ∧ 't'.isAlphanum = true ∧ 'b'.isAlphanum = true ∧
      'f'.isAlphanum = true ∧ 'u'.isAlphanum = true ∧ '0'.isAlphanum = true := by decide
  by_cases special : c = '"' ∨ c = '\\' ∨ c.toNat < 0x20
  · refine .inr ⟨special, ?_⟩
    unfold escape
    repeat' split
    any_goals exact ⟨_, rfl, by simp [digit, letter]⟩
    · next quote backslash _ _ _ _ _ control =>
        obtain same | same | low := special
        · exact absurd same quote
        · exact absurd same backslash
        · exact absurd low control
  · simp only [not_or] at special
    obtain ⟨quote, backslash, control⟩ := special
    exact .inl (escape_of_plain (by omega) quote backslash)

/-- No escape has any other sign than those. -/
theorem notMem_escape {c d : Char} (sign : d.isAlphanum = false ∧ d ≠ '"' ∧ d ≠ '\\') (other : c ≠ d) :
    d ∉ escape c := by
  obtain ⟨strange, quote, backslash⟩ := sign
  obtain same | ⟨-, tail, same, known⟩ := escape_cases c
  · simpa [same] using Ne.symm other
  · have outside : d ∉ tail := by
      intro inside
      simpa [strange, quote, backslash] using known d inside
    simpa [same, backslash] using outside

theorem escaped_inj {s t : List Char} (same : s.flatMap escape = t.flatMap escape) : s = t := by
  have first := Reader.string_escaped 0 [] s (s.length + t.length + 1) (by omega)
  have second := Reader.string_escaped 0 [] t (s.length + t.length + 1) (by omega)
  rw [same, second] at first
  exact (Prod.mk.inj (Except.ok.inj first)).1.symm

theorem stringLiteral_inj {s t : String} (same : stringLiteral s = stringLiteral t) : s = t := by
  have texts : s.toList.flatMap escape = t.toList.flatMap escape := by
    simpa [stringLiteral, stringChars] using congrArg String.toList same
  exact String.toList_inj.1 (escaped_inj texts)

/-! ## Layout -/

/-- A line end and the margin of the next line. -/
def gap (depth : Nat) : List Char := '\n' :: List.replicate (2 * depth) ' '

/-- Parts on lines of their own. -/
def joined (depth : Nat) (parts : List String) : List Char :=
  List.intercalate (',' :: gap depth) (parts.map String.toList)

theorem joined_cons_cons (depth : Nat) (part next : String) (rest : List String) :
    joined depth (part :: next :: rest) = part.toList ++ (',' :: gap depth ++ joined depth (next :: rest)) := by
  simp [joined, List.intercalate_cons_cons]

theorem joined_singleton (depth : Nat) (part : String) : joined depth [part] = part.toList := by
  simp [joined]

theorem toList_block (opening closing : String) (depth : Nat) {parts : List String} (some : parts ≠ []) :
    (block opening closing depth parts).toList =
      opening.toList ++ (gap (depth + 1) ++ (joined (depth + 1) parts ++ (gap depth ++ closing.toList))) := by
  have filled : parts.isEmpty = false := by simpa using some
  simp [block, filled, margin, gap, joined, String.toList_intercalate]

theorem indentedItems_eq_map (depth : Nat) (vs : List Json) : indentedItems depth vs = vs.map (indented depth) := by
  induction vs with
  | nil => rfl
  | cons v rest ih => rw [indentedItems, ih, List.map_cons]

theorem indentedMembers_eq_map (depth : Nat) (ms : List (String × Json)) :
    indentedMembers depth ms = ms.map fun m => stringLiteral m.1 ++ ": " ++ indented depth m.2 := by
  induction ms with
  | nil => rfl
  | cons m rest ih => rw [indentedMembers, ih, List.map_cons]

section Characters
variable (depth : Nat)

attribute [local simp] indented indentedItems indentedMembers

theorem toList_null : (indented depth .null).toList = "null".toList := by
  simp [write]

theorem toList_true : (indented depth (.bool true)).toList = "true".toList := by
  simp [write]

theorem toList_false : (indented depth (.bool false)).toList = "false".toList := by
  simp [write]

theorem toList_int (n : Int) : (indented depth (.int n)).toList = intChars n := by
  simp [write, intText]

theorem toList_str (s : String) : (indented depth (.str s)).toList = '"' :: (s.toList.flatMap escape ++ ['"']) := by
  simp [write, stringLiteral, stringChars]

theorem toList_arr_nil : (indented depth (.arr [])).toList = ['[', ']'] := by
  simp [block]

theorem toList_arr_cons (v : Json) (rest : List Json) : (indented depth (.arr (v :: rest))).toList =
    '[' :: (gap (depth + 1) ++ (joined (depth + 1) (indentedItems (depth + 1) (v :: rest)) ++ (gap depth ++ [']']))) := by
  rw [indented, toList_block _ _ _ (by simp)]
  rfl

theorem toList_obj_nil : (indented depth (.obj [])).toList = ['\x7b', '\x7d'] := by
  simp [block]

theorem toList_obj_cons (m : String × Json) (rest : List (String × Json)) :
    (indented depth (.obj (m :: rest))).toList =
      '\x7b' :: (gap (depth + 1) ++
        (joined (depth + 1) (indentedMembers (depth + 1) (m :: rest)) ++ (gap depth ++ ['\x7d']))) := by
  rw [indented, toList_block _ _ _ (by simp)]
  rfl

theorem toList_member (key : String) (v : Json) :
    (stringLiteral key ++ ": " ++ indented depth v).toList =
      '"' :: (key.toList.flatMap escape ++ '"' :: ':' :: ' ' :: (indented depth v).toList) := by
  simp [stringLiteral, stringChars]

end Characters

end DesignProps.Json
