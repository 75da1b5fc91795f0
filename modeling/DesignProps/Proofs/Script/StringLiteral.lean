import DesignProps.Json.Reader

/-!
# String literals of a script

A literal in single quotes, as a script is read: a line does not end inside it, a backslash begins an escape, and the
text it stands for is a sequence of code units.  `union?` reads literals with bars between them.

What a literal stands for is limited by the room its characters have: two for each code unit, and one for a quote, a
backslash or a line end, which stand for nothing alone.

Main statements: `body_room`, `members?_room` (nothing is read that a text has no room for).
-/

set_option autoImplicit false

namespace DesignProps.StringLiteral

/-! ## Code units -/

/-- The code units of a code point, two surrogates above the first plane. -/
def units (n : Nat) : List Nat :=
  if n < 0x10000 then [n] else [0xD800 + (n - 0x10000) / 0x400, 0xDC00 + (n - 0x10000) % 0x400]

def unitsOf (s : List Char) : List Nat := s.flatMap fun c => units c.toNat

theorem unitsOf_cons (c : Char) (s : List Char) : unitsOf (c :: s) = units c.toNat ++ unitsOf s := rfl

theorem length_units_le (n : Nat) : (units n).length ≤ 2 := by
  unfold units
  split <;> simp

theorem units_length_pos (n : Nat) : 1 ≤ (units n).length := by
  unfold units
  split <;> simp

/-- The first unit of a character says whether a second one belongs to it: no character is a surrogate. -/
theorem units_append_inj {c d : Char} {s t : List Nat} (same : units c.toNat ++ s = units d.toNat ++ t) :
    c = d ∧ s = t := by
  have first : c.toNat < 0xD800 ∨ 0xDFFF < c.toNat ∧ c.toNat < 0x110000 := c.valid
  have second : d.toNat < 0xD800 ∨ 0xDFFF < d.toNat ∧ d.toNat < 0x110000 := d.valid
  have number : c.toNat = d.toNat ∧ s = t := by
    unfold units at same
    split at same <;> split at same <;>
      simp only [List.cons_append, List.nil_append, List.cons.injEq] at same
    · exact same
    · omega
    · omega
    · exact ⟨by omega, same.2.2⟩
  exact ⟨Char.toNat_inj.1 number.1, number.2⟩

theorem unitsOf_inj : ∀ {s t : List Char}, unitsOf s = unitsOf t → s = t := by
  intro s
  induction s with
  | nil =>
      intro t same
      cases t with
      | nil => rfl
      | cons d t =>
          have some := units_length_pos d.toNat
          have lengths := congrArg List.length same
          rw [unitsOf_cons, List.length_append] at lengths
          simp only [unitsOf, List.flatMap_nil, List.length_nil] at lengths
          omega
  | cons c s ih =>
      intro t same
      cases t with
      | nil =>
          have some := units_length_pos c.toNat
          have lengths := congrArg List.length same
          rw [unitsOf_cons, List.length_append] at lengths
          simp only [unitsOf, List.flatMap_nil, List.length_nil] at lengths
          omega
      | cons d t =>
          obtain ⟨rfl, rest⟩ := units_append_inj same
          rw [ih rest]

/-! ## Reading -/

/-- A line end that no literal holds. -/
def isLineEnd (c : Char) : Bool := c == '\n' || c == '\r'

/-- A character that an escape may use to go on with the next line. -/
def isLineTerminator (c : Char) : Bool := isLineEnd c || c == '\u2028' || c == '\u2029'

/-- An escape of one character, before the next one. -/
def simpleEscape? (c : Char) (next : Option Char) : Option (List Nat) :=
  if c = 'b' then some [0x08]
  else if c = 't' then some [0x09]
  else if c = 'n' then some [0x0A]
  else if c = 'v' then some [0x0B]
  else if c = 'f' then some [0x0C]
  else if c = 'r' then some [0x0D]
  else if c = '0' then if next.any Char.isDigit then none else some [0]
  else if c = 'x' ∨ c = 'u' ∨ c.isDigit then none
  else if isLineTerminator c then some []
  else some (units c.toNat)

def isHex (c : Char) : Bool := (Json.Reader.hexValue? c).isSome

def hexNumber (digits : List Char) : Nat :=
  digits.foldl (fun n c => n * 16 + (Json.Reader.hexValue? c).getD 0) 0

/-- A code point in braces, behind the first one. -/
def codePoint? (text : List Char) : Option (List Nat × List Char) :=
  match text.takeWhile isHex, text.dropWhile isHex with
  | d :: digits, '\x7d' :: rest =>
      if hexNumber (d :: digits) ≤ 0x10FFFF then some (units (hexNumber (d :: digits)), rest) else none
  | _, _ => none

/-- What an escape stands for, behind its backslash, and what follows it. -/
def escape? : List Char → Option (List Nat × List Char)
  | 'x' :: a :: b :: rest => (Json.Reader.hexCode? '0' '0' a b).map fun n => ([n], rest)
  | 'u' :: '\x7b' :: rest => codePoint? rest
  | 'u' :: a :: b :: c :: d :: rest => (Json.Reader.hexCode? a b c d).map fun n => ([n], rest)
  | '\r' :: '\n' :: rest => some ([], rest)
  | c :: rest => (simpleEscape? c rest.head?).map fun value => (value, rest)
  | [] => none

/-! ## Room -/

/-- A character that stands for nothing alone, or ends a literal. -/
def isMark (c : Char) : Bool := c == '\'' || c == '\\' || isLineEnd c

/-- Twice the number of code units that a text can stand for. -/
def room : List Char → Nat
  | [] => 0
  | c :: text => (if isMark c then 1 else 2 * (units c.toNat).length) + room text

theorem room_cons (c : Char) (text : List Char) :
    room (c :: text) = (if isMark c then 1 else 2 * (units c.toNat).length) + room text := rfl

theorem room_append (s t : List Char) : room (s ++ t) = room s + room t := by
  induction s with
  | nil => simp [room]
  | cons c s ih =>
      rw [List.cons_append, room_cons, room_cons, ih]
      omega

theorem length_le_room (text : List Char) : text.length ≤ room text := by
  induction text with
  | nil => exact Nat.le_refl 0
  | cons c rest ih =>
      have some := units_length_pos c.toNat
      rw [room_cons, List.length_cons]
      split <;> omega

/-- What stands in a text and is used up by reading a value from it has room for the value, with one backslash. -/
def Uses (text : List Char) (v : List Nat) (rest : List Char) : Prop :=
  ∃ used, text = used ++ rest ∧ used ≠ [] ∧ 2 * v.length ≤ room used + 1

theorem uses_of_length {text rest : List Char} {v : List Nat} (used : List Char) (parts : text = used ++ rest)
    (some : used ≠ []) (few : 2 * v.length ≤ used.length + 1) : Uses text v rest := by
  have enough := length_le_room used
  exact ⟨used, parts, some, by omega⟩

theorem simpleEscape?_uses {c : Char} {v : List Nat} {rest : List Char}
    (read : simpleEscape? c rest.head? = some v) : Uses (c :: rest) v rest := by
  have single : ∀ n : Nat, v = [n] → Uses (c :: rest) v rest := by
    rintro n rfl
    exact uses_of_length [c] rfl (List.cons_ne_nil _ _) (by simp)
  unfold simpleEscape? at read
  repeat' split at read
  all_goals first
    | exact single _ (Option.some.inj read).symm
    | obtain rfl := Option.some.inj read
    | cases read
  · exact uses_of_length [c] rfl (List.cons_ne_nil _ _) (by simp)
  · next goesOn =>
      have inside : isLineEnd c = false := by
        simp only [isLineTerminator, Bool.or_eq_true, not_or, Bool.not_eq_true] at goesOn
        exact goesOn.1.1
      have quoted : isMark c = true → (units c.toNat).length = 1 := by
        simp only [isMark, inside, Bool.or_false, Bool.or_eq_true, beq_iff_eq]
        rintro (rfl | rfl) <;> decide
      refine ⟨[c], rfl, List.cons_ne_nil _ _, ?_⟩
      rw [room_cons]
      split
      · next mark =>
          have single := quoted mark
          omega
      · omega

theorem codePoint?_uses {text rest : List Char} {v : List Nat} (read : codePoint? text = some (v, rest)) :
    Uses ('u' :: '\x7b' :: text) v rest := by
  unfold codePoint? at read
  split at read
  · next d digits after found closed =>
      split at read
      · obtain ⟨rfl, rfl⟩ := Prod.mk.inj (Option.some.inj read)
        have parts : text = d :: digits ++ '\x7d' :: after := by
          rw [← found, ← closed, List.takeWhile_append_dropWhile]
        have few := length_units_le (hexNumber (d :: digits))
        refine uses_of_length ('u' :: '\x7b' :: d :: digits ++ ['\x7d']) (by simp [parts]) (by simp) ?_
        simp only [List.length_cons, List.length_append]
        omega
      · cases read
  · cases read

theorem escape?_uses {text rest : List Char} {v : List Nat} (read : escape? text = some (v, rest)) :
    Uses text v rest := by
  unfold escape? at read
  split at read
  · next a b after =>
      obtain ⟨n, -, same⟩ := Option.map_eq_some_iff.1 read
      obtain ⟨rfl, rfl⟩ := Prod.mk.inj same
      exact uses_of_length ['x', a, b] rfl (by simp) (by simp)
  · exact codePoint?_uses read
  · next a b c d after _ =>
      obtain ⟨n, -, same⟩ := Option.map_eq_some_iff.1 read
      obtain ⟨rfl, rfl⟩ := Prod.mk.inj same
      exact uses_of_length ['u', a, b, c, d] rfl (by simp) (by simp)
  · next after =>
      obtain ⟨rfl, rfl⟩ := Prod.mk.inj (Option.some.inj read)
      exact uses_of_length ['\r', '\n'] rfl (by simp) (by simp)
  · next c after _ _ _ _ =>
      obtain ⟨value, simple, same⟩ := Option.map_eq_some_iff.1 read
      obtain ⟨rfl, rfl⟩ := Prod.mk.inj same
      exact simpleEscape?_uses simple
  · cases read

theorem Uses.length_lt {text rest : List Char} {v : List Nat} (uses : Uses text v rest) :
    rest.length < text.length := by
  obtain ⟨used, rfl, some, -⟩ := uses
  have positive := List.length_pos_iff.2 some
  rw [List.length_append]
  omega

theorem Uses.room_le {text rest : List Char} {v : List Nat} (uses : Uses text v rest) :
    2 * v.length + room rest ≤ room text + 1 := by
  obtain ⟨used, rfl, -, enough⟩ := uses
  rw [room_append]
  omega

/-! ## Literals -/

/-- The text up to the closing quote, and what follows it. -/
def body : List Char → Option (List Nat × List Char)
  | [] => none
  | c :: rest =>
      if c = '\'' then some ([], rest)
      else if isLineEnd c then none
      else if c = '\\' then
        match _read : escape? rest with
        | none => none
        | some (v, after) => (body after).map fun found => (v ++ found.1, found.2)
      else (body rest).map fun found => (units c.toNat ++ found.1, found.2)
termination_by text => text.length
decreasing_by
  · have shorter := (escape?_uses _read).length_lt
    simp only [List.length_cons]
    omega
  · simp

/-- A literal in single quotes, and what follows it. -/
def literal? : List Char → Option (List Nat × List Char)
  | '\'' :: rest => body rest
  | _ => none

theorem body_quote (rest : List Char) : body ('\'' :: rest) = some ([], rest) := by
  rw [body, if_pos rfl]

theorem body_lineEnd {c : Char} (ends : isLineEnd c = true) (rest : List Char) : body (c :: rest) = none := by
  have inside : c ≠ '\'' := by
    rintro rfl
    exact absurd ends (by decide)
  rw [body, if_neg inside, if_pos ends]

theorem body_escape (rest : List Char) : body ('\\' :: rest) =
    (escape? rest).bind fun found => (body found.2).map fun more => (found.1 ++ more.1, more.2) := by
  rw [body, if_neg (by decide), if_neg (by decide), if_pos rfl]
  split
  · next none => rw [none, Option.bind_none]
  · next v after some => rw [some, Option.bind_some]

theorem body_plain {c : Char} (plain : isMark c = false) (rest : List Char) :
    body (c :: rest) = (body rest).map fun found => (units c.toNat ++ found.1, found.2) := by
  simp only [isMark, Bool.or_eq_false_iff, beq_eq_false_iff_ne] at plain
  obtain ⟨⟨quote, backslash⟩, inside⟩ := plain
  rw [body, if_neg quote, if_neg (Bool.eq_false_iff.1 inside), if_neg backslash]

/-- What a literal stands for has room between its quotes. -/
theorem body_room {text rest : List Char} {v : List Nat} (read : body text = some (v, rest)) :
    2 * v.length + 1 + room rest ≤ room text := by
  induction text using body.induct generalizing v rest with
  | case1 =>
      rw [body] at read
      cases read
  | case2 tail =>
      rw [body_quote] at read
      obtain ⟨rfl, rfl⟩ := Prod.mk.inj (Option.some.inj read)
      rw [room_cons, if_pos (by decide)]
      simp
  | case3 c tail _ ends =>
      rw [body_lineEnd ends] at read
      cases read
  | case4 tail none =>
      rw [body_escape, none] at read
      cases read
  | case5 tail w after escaped _ _ ih =>
      rw [body_escape, escaped, Option.bind_some] at read
      obtain ⟨⟨more, last⟩, later, same⟩ := Option.map_eq_some_iff.1 read
      obtain ⟨rfl, rfl⟩ := Prod.mk.inj same
      have own := (escape?_uses escaped).room_le
      have others := ih later
      rw [room_cons, if_pos (by decide), List.length_append]
      dsimp only at own others ⊢
      omega
  | case6 c tail quote inside backslash ih =>
      have plain : isMark c = false := by
        simp [isMark, quote, inside, backslash]
      rw [body_plain plain] at read
      obtain ⟨⟨more, last⟩, later, same⟩ := Option.map_eq_some_iff.1 read
      obtain ⟨rfl, rfl⟩ := Prod.mk.inj same
      have others := ih later
      rw [room_cons, if_neg (Bool.eq_false_iff.1 plain), List.length_append]
      dsimp only at others ⊢
      omega

theorem literal?_room {text rest : List Char} {v : List Nat} (read : literal? text = some (v, rest)) :
    2 * v.length + 2 + room rest ≤ room text := by
  unfold literal? at read
  split at read
  · next inner =>
      have enough := body_room read
      rw [room_cons, if_pos (by decide)]
      omega
  · cases read

/-! ## Unions -/

/-- Literals with bars between them. -/
def members? (text : List Char) : Option (List (List Nat)) :=
  match _read : literal? text with
  | some (v, ' ' :: '|' :: ' ' :: rest) => (members? rest).map (v :: ·)
  | some (v, []) => some [v]
  | _ => none
termination_by room text
decreasing_by
  have enough := literal?_room _read
  rw [room_cons, room_cons, room_cons] at enough
  omega

/-- The values of a union's literals; a union without any has no text. -/
def union? (text : List Char) : Option (List (List Nat)) := if text = [] then some [] else members? text

theorem members?_last {text : List Char} {v : List Nat} (read : literal? text = some (v, [])) :
    members? text = some [v] := by
  rw [members?]
  split
  · next same => simp [read] at same
  · next same =>
      rw [read] at same
      obtain ⟨rfl, -⟩ := Prod.mk.inj (Option.some.inj same)
      rfl
  · next other => exact absurd read (other v)

theorem members?_more {text rest : List Char} {v : List Nat}
    (read : literal? text = some (v, ' ' :: '|' :: ' ' :: rest)) :
    members? text = (members? rest).map (v :: ·) := by
  rw [members?]
  split
  · next same =>
      rw [read] at same
      obtain ⟨rfl, same⟩ := Prod.mk.inj (Option.some.inj same)
      simp at same
      subst same
      rfl
  · next same => simp [read] at same
  · next other _ => exact absurd read (other v rest)

/-- The room that values need: for their units, for two quotes each, and for a bar. -/
def needed : List (List Nat) → Nat
  | [] => 0
  | v :: vs => 2 * v.length + 8 + needed vs

/-- A text has room for the values of its literals, for their quotes and for the bars between them. -/
theorem members?_room {text : List Char} {vs : List (List Nat)} (read : members? text = some vs) :
    needed vs ≤ room text + 6 := by
  induction text using members?.induct generalizing vs with
  | case1 text v rest found ih =>
      rw [members?_more found] at read
      obtain ⟨others, later, rfl⟩ := Option.map_eq_some_iff.1 read
      have own := literal?_room found
      have more := ih later
      have bar : room (' ' :: '|' :: ' ' :: rest) = 6 + room rest := room_append [' ', '|', ' '] rest
      rw [needed]
      omega
  | case2 text v found =>
      rw [members?_last found] at read
      obtain rfl := Option.some.inj read
      have own := literal?_room found
      rw [needed, needed]
      omega
  | case3 text neither none =>
      rw [members?] at read
      split at read
      · next found => exact (neither _ _ found).elim
      · next found => exact (none _ found).elim
      · cases read

end DesignProps.StringLiteral
