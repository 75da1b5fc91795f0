import DesignProps.Proofs.Json.Layout
import DesignProps.Proofs.OrderedMap

/-!
# Reading written values

What `writeIndented` writes of a plain value is read back as that value: its items and members in their order, its
integers, and its texts character by character.

Main statements: `Reader.value_indented` (a value is read back whatever follows it), `parseChars_writeIndented`.
-/

set_option autoImplicit false

namespace DesignProps.Json

namespace Reader

/-! ## Between the parts -/

theorem dropBlanks_gap (depth : Nat) (cs : List Char) : dropBlanks (gap depth ++ cs) = dropBlanks cs := by
  refine List.dropWhile_append_of_pos fun c inside => ?_
  rcases List.mem_cons.1 inside with rfl | margin
  · rfl
  · rw [List.eq_of_mem_replicate margin]
    rfl

/-- No value begins with a blank, a closing bracket or brace, or a byte order mark. -/
def nonOpening : List Char := [' ', '\t', '\n', '\r', ']', '\x7d', '\uFEFF']

/-- A text that begins as values do. -/
def Opens (cs : List Char) : Prop := ∃ c tail, cs = c :: tail ∧ c ∉ nonOpening

theorem Opens.append {cs : List Char} (opens : Opens cs) (rest : List Char) : Opens (cs ++ rest) := by
  obtain ⟨c, tail, rfl, opening⟩ := opens
  exact ⟨c, tail ++ rest, rfl, opening⟩

theorem Opens.dropBlanks {cs : List Char} (opens : Opens cs) : dropBlanks cs = cs := by
  obtain ⟨c, tail, rfl, opening⟩ := opens
  have visible : isBlank c = false := by
    refine Bool.eq_false_iff.2 fun blank => opening ?_
    simp only [isBlank, Bool.or_eq_true, beq_iff_eq] at blank
    rcases blank with ((rfl | rfl) | rfl) | rfl <;> decide
  simp [Reader.dropBlanks, visible]

theorem stops_gap (depth : Nat) (cs : List Char) : Stops (gap depth ++ cs) := by
  intro c tail same
  obtain ⟨rfl, -⟩ := List.cons.inj same
  decide

theorem stops_comma (cs : List Char) : Stops (',' :: cs) := by
  intro c tail same
  obtain ⟨rfl, -⟩ := List.cons.inj same
  decide

theorem dropBlanks_comma (cs : List Char) : dropBlanks (',' :: cs) = ',' :: cs := rfl

theorem stops_nil : Stops [] := by
  intro c tail same
  simp at same

/-! ## Values in their layout -/

theorem opening_of_digit {c : Char} (digit : isDigit c = true) : c ∉ nonOpening := by
  have none : nonOpening.all (fun d => !isDigit d) = true := by decide
  intro inside
  have other := List.all_eq_true.1 none c inside
  simp [digit] at other

theorem opens_indented {v : Json} (plain : v.Plain) (depth : Nat) : Opens (indented depth v).toList := by
  cases plain with
  | null => exact ⟨'n', ['u', 'l', 'l'], toList_null depth, by decide⟩
  | bool b =>
      cases b with
      | true => exact ⟨'t', ['r', 'u', 'e'], toList_true depth, by decide⟩
      | false => exact ⟨'f', ['a', 'l', 's', 'e'], toList_false depth, by decide⟩
  | @int n =>
      rw [toList_int]
      obtain ⟨c, tail, digit, unsigned | signed, -⟩ := exists_digit n
      · exact ⟨c, tail, unsigned, opening_of_digit digit⟩
      · exact ⟨'-', c :: tail, signed, by decide⟩
  | str s => exact ⟨'"', _, toList_str depth s, by decide⟩
  | @arr items =>
      cases items with
      | nil => exact ⟨'[', _, toList_arr_nil depth, by decide⟩
      | cons w rest => exact ⟨'[', _, toList_arr_cons depth w rest, by decide⟩
  | @obj members =>
      cases members with
      | nil => exact ⟨'\x7b', _, toList_obj_nil depth, by decide⟩
      | cons m rest => exact ⟨'\x7b', _, toList_obj_cons depth m rest, by decide⟩

theorem opens_joined {part : String} (opens : Opens part.toList) (depth : Nat) (rest : List String) :
    Opens (joined depth (part :: rest)) := by
  cases rest with
  | nil => rwa [joined_singleton]
  | cons next others =>
      rw [joined_cons_cons]
      exact opens.append _

/-- The written value is read back, whatever stops it, with as many steps as it has characters. -/
def ReadsBack (v : Json) : Prop :=
  ∀ (depth fuel : Nat) (rest : List Char), (indented depth v).toList.length ≤ fuel → Stops rest →
    value fuel ((indented depth v).toList ++ rest) = .ok (v, rest)

/-- Values on lines of their own are read up to the closing bracket. -/
theorem items_joined (depth outer : Nat) (tail : List Char) : ∀ {vs : List Json}, vs ≠ [] →
    (∀ v ∈ vs, v.Plain ∧ ReadsBack v) → ∀ fuel, (joined depth (indentedItems depth vs)).length < fuel →
      items fuel (joined depth (indentedItems depth vs) ++ (gap outer ++ ']' :: tail)) = .ok (vs, tail) := by
  intro vs
  induction vs with
  | nil => exact fun some => absurd rfl some
  | cons v rest ih =>
      intro _ each fuel enough
      obtain ⟨⟨plain, reads⟩, later⟩ := List.forall_mem_cons.1 each
      obtain ⟨more, rfl⟩ := Nat.exists_eq_add_one_of_ne_zero (Nat.ne_zero_of_lt enough)
      cases rest with
      | nil =>
          simp only [indentedItems, joined_singleton] at enough ⊢
          have read := reads depth more (gap outer ++ ']' :: tail) (Nat.le_of_lt_succ enough) (stops_gap _ _)
          have closes : dropBlanks (gap outer ++ ']' :: tail) = ']' :: tail := dropBlanks_gap outer _
          simp only [items, read, closes]
      | cons w others =>
          have parts : joined depth (indentedItems depth (v :: w :: others)) =
              (indented depth v).toList ++ (',' :: gap depth ++ joined depth (indentedItems depth (w :: others))) :=
            joined_cons_cons ..
          have opens : Opens (joined depth (indentedItems depth (w :: others))) :=
            opens_joined (opens_indented (later w List.mem_cons_self).1 depth) depth _
          rw [parts] at enough ⊢
          simp only [List.length_append, List.length_cons] at enough
          have read := reads depth more
            (',' :: (gap depth ++ (joined depth (indentedItems depth (w :: others)) ++ (gap outer ++ ']' :: tail))))
            (by omega) (stops_comma _)
          have goesOn := ih (List.cons_ne_nil _ _) later more (by omega)
          simp only [items, List.append_assoc, List.cons_append, read, dropBlanks_comma, dropBlanks_gap,
            (opens.append _).dropBlanks, goesOn]

theorem escape_ne_nil (c : Char) : escape c ≠ [] := by
  unfold escape
  repeat' split
  all_goals exact List.cons_ne_nil _ _

theorem length_le_escaped (s : List Char) : s.length ≤ (s.flatMap escape).length := by
  induction s with
  | nil => exact Nat.le_refl _
  | cons c s ih =>
      have some : 0 < (escape c).length := List.length_pos_iff.2 (escape_ne_nil c)
      rw [List.flatMap_cons, List.length_append, List.length_cons]
      omega

/-- A text between quotes is read whole, whatever follows the closing one. -/
theorem string_name (key : String) (opened : Nat) (more : List Char) :
    string opened ('"' :: (key.toList.flatMap escape ++ '"' :: more)).length (key.toList.flatMap escape ++ '"' :: more) =
      .ok (key.toList, more) := by
  have short := length_le_escaped key.toList
  exact string_escaped opened more key.toList _ (by simp only [List.length_cons, List.length_append]; omega)

section Member
variable {fuel : Nat} {key : String} {v : Json} {text rest : List Char}

theorem members_last (opens : Opens text) (read : value fuel text = .ok (v, rest)) {tail : List Char}
    (closes : dropBlanks rest = '\x7d' :: tail) :
    members (fuel + 1) ('"' :: (key.toList.flatMap escape ++ '"' :: ':' :: ' ' :: text)) = .ok ([(key, v)], tail) := by
  have colon : dropBlanks (':' :: ' ' :: text) = ':' :: ' ' :: text := rfl
  have blank : dropBlanks (' ' :: text) = text := opens.dropBlanks
  simp only [members, string_name, colon, blank, read, closes, String.ofList_toList]

theorem members_more (opens : Opens text) (read : value fuel text = .ok (v, rest)) {more : List Char}
    (goesOn : dropBlanks rest = ',' :: more) {ms : List (String × Json)} {tail : List Char}
    (later : members fuel (dropBlanks more) = .ok (ms, tail)) :
    members (fuel + 1) ('"' :: (key.toList.flatMap escape ++ '"' :: ':' :: ' ' :: text)) = .ok ((key, v) :: ms, tail) := by
  have colon : dropBlanks (':' :: ' ' :: text) = ':' :: ' ' :: text := rfl
  have blank : dropBlanks (' ' :: text) = text := opens.dropBlanks
  simp only [members, string_name, colon, blank, read, goesOn, later, String.ofList_toList]

end Member

/-- Named values on lines of their own are read up to the closing brace. -/
theorem members_joined (depth outer : Nat) (tail : List Char) : ∀ {ms : List (String × Json)}, ms ≠ [] →
    (∀ m ∈ ms, m.2.Plain ∧ ReadsBack m.2) → ∀ fuel, (joined depth (indentedMembers depth ms)).length < fuel →
      members fuel (joined depth (indentedMembers depth ms) ++ (gap outer ++ '\x7d' :: tail)) = .ok (ms, tail) := by
  intro ms
  induction ms with
  | nil => exact fun some => absurd rfl some
  | cons m rest ih =>
      intro _ each fuel enough
      obtain ⟨key, v⟩ := m
      obtain ⟨⟨plain, reads⟩, later⟩ := List.forall_mem_cons.1 each
      dsimp only at plain reads
      obtain ⟨more, rfl⟩ := Nat.exists_eq_add_one_of_ne_zero (Nat.ne_zero_of_lt enough)
      have opens := opens_indented plain depth
      cases rest with
      | nil =>
          simp only [indentedMembers, joined_singleton, toList_member, List.length_cons, List.length_append] at enough ⊢
          have read := reads depth more (gap outer ++ '\x7d' :: tail) (by omega) (stops_gap _ _)
          have closes : dropBlanks (gap outer ++ '\x7d' :: tail) = '\x7d' :: tail := dropBlanks_gap outer _
          simpa only [List.cons_append, List.append_assoc] using members_last (opens.append _) read closes
      | cons n others =>
          have parts : joined depth (indentedMembers depth ((key, v) :: n :: others)) =
              (stringLiteral key ++ ": " ++ indented depth v).toList ++
                (',' :: gap depth ++ joined depth (indentedMembers depth (n :: others))) := joined_cons_cons ..
          have named : Opens (joined depth (indentedMembers depth (n :: others))) :=
            opens_joined ⟨'"', _, toList_member .., by decide⟩ depth _
          rw [parts, toList_member] at enough ⊢
          simp only [List.length_append, List.length_cons] at enough
          have read := reads depth more
            (',' :: (gap depth ++ (joined depth (indentedMembers depth (n :: others)) ++ (gap outer ++ '\x7d' :: tail))))
            (by omega) (stops_comma _)
          have goesOn := ih (List.cons_ne_nil _ _) later more (by omega)
          rw [← (named.append _).dropBlanks, ← dropBlanks_gap depth] at goesOn
          simpa only [List.cons_append, List.append_assoc] using
            members_more (opens.append _) read (dropBlanks_comma _) goesOn

/-! ## Every value -/

theorem value_of_scalar {c : Char} {cs : List Char} {fuel : Nat} (quote : c ≠ '"') (brace : c ≠ '\x7b')
    (bracket : c ≠ '[') : value (fuel + 1) (c :: cs) = scalar (c :: cs) := by
  simp only [value, if_neg quote, if_neg brace, if_neg bracket]

theorem value_of_digit {c : Char} (digit : isDigit c = true) {cs : List Char} {fuel : Nat} :
    value (fuel + 1) (c :: cs) = scalar (c :: cs) := by
  refine value_of_scalar ?_ ?_ ?_ <;> (rintro rfl; exact absurd digit (by decide))

section Parts
variable {fuel : Nat} {before text tail : List Char}

theorem value_of_items {vs : List Json} (start : dropBlanks before = text) (opens : Opens text)
    (read : items fuel text = .ok (vs, tail)) : value (fuel + 1) ('[' :: before) = .ok (.arr vs, tail) := by
  obtain ⟨c, more, rfl, opening⟩ := opens
  rw [value, if_neg (by decide), if_neg (by decide), if_pos rfl, start]
  split
  · next same =>
      obtain ⟨rfl, -⟩ := List.cons.inj same
      exact absurd (by decide) opening
  · rw [read]

theorem value_of_members {ms : List (String × Json)} (start : dropBlanks before = text) (opens : Opens text)
    (distinct : (ms.map Prod.fst).Nodup) (read : members fuel text = .ok (ms, tail)) :
    value (fuel + 1) ('\x7b' :: before) = .ok (.obj ms, tail) := by
  have apart : Assoc.putAll [] ms = ms := Assoc.putAll_of_distinct ms [] (Assoc.distinct_iff_nodup.2 distinct)
  obtain ⟨c, more, rfl, opening⟩ := opens
  rw [value, if_neg (by decide), if_pos rfl, start]
  split
  · next same =>
      obtain ⟨rfl, -⟩ := List.cons.inj same
      exact absurd (by decide) opening
  · rw [read]
    exact congrArg (fun found => Except.ok (Json.obj found, tail)) apart

end Parts

/-- At least one step is left for a value. -/
theorem readsBack_of_succ {v : Json} (plain : v.Plain)
    (reads : ∀ (depth more : Nat) (rest : List Char), (indented depth v).toList.length ≤ more + 1 → Stops rest →
      value (more + 1) ((indented depth v).toList ++ rest) = .ok (v, rest)) : ReadsBack v := by
  intro depth fuel rest enough stops
  obtain ⟨c, tail, parts, -⟩ := opens_indented plain depth
  obtain ⟨more, rfl⟩ := Nat.exists_eq_add_one_of_ne_zero (n := fuel) (by
    rintro rfl
    simp [parts] at enough)
  exact reads depth more rest enough stops

/-- A value is read back whatever follows it; a list or an object by the reading of its parts. -/
theorem value_indented {v : Json} (plain : v.Plain) : ReadsBack v := by
  induction plain with
  | null =>
      refine readsBack_of_succ .null fun depth more rest _ _ => ?_
      rw [toList_null, ← scalar_null rest]
      exact value_of_scalar (by decide) (by decide) (by decide)
  | bool b =>
      refine readsBack_of_succ (.bool b) fun depth more rest _ _ => ?_
      cases b with
      | true =>
          rw [toList_true, ← scalar_true rest]
          exact value_of_scalar (by decide) (by decide) (by decide)
      | false =>
          rw [toList_false, ← scalar_false rest]
          exact value_of_scalar (by decide) (by decide) (by decide)
  | @int n few =>
      refine readsBack_of_succ (.int few) fun depth more rest _ stops => ?_
      rw [toList_int, ← scalar_intChars few stops]
      obtain ⟨c, tail, digit, unsigned | signed, -⟩ := exists_digit n
      · rw [unsigned, List.cons_append, value_of_digit digit]
      · rw [signed, List.cons_append, value_of_scalar (by decide) (by decide) (by decide)]
  | str s =>
      refine readsBack_of_succ (.str s) fun depth more rest _ _ => ?_
      have named := string_name s ('"' :: (s.toList.flatMap escape ++ '"' :: rest)).length rest
      rw [toList_str]
      simp only [List.cons_append, List.append_assoc, List.nil_append, value, if_true, named, String.ofList_toList]
  | @arr vs each ih =>
      refine readsBack_of_succ (.arr each) fun depth more rest enough _ => ?_
      cases vs with
      | nil =>
          rw [toList_arr_nil]
          rfl
      | cons w others =>
          have opens : Opens (joined (depth + 1) (indentedItems (depth + 1) (w :: others))) :=
            opens_joined (opens_indented (each w List.mem_cons_self) _) _ _
          rw [toList_arr_cons] at enough ⊢
          simp only [List.length_cons, List.length_append] at enough
          have read := items_joined (depth + 1) depth rest (List.cons_ne_nil w others)
            (fun u inside => ⟨each u inside, ih u inside⟩) more (by omega)
          simpa only [List.cons_append, List.append_assoc, List.nil_append] using
            value_of_items ((dropBlanks_gap _ _).trans (opens.append _).dropBlanks) (opens.append _) read
  | @obj ms distinct each ih =>
      refine readsBack_of_succ (.obj distinct each) fun depth more rest enough _ => ?_
      cases ms with
      | nil =>
          rw [toList_obj_nil]
          rfl
      | cons m others =>
          have opens : Opens (joined (depth + 1) (indentedMembers (depth + 1) (m :: others))) :=
            opens_joined ⟨'"', _, toList_member .., by decide⟩ _ _
          rw [toList_obj_cons] at enough ⊢
          simp only [List.length_cons, List.length_append] at enough
          have read := members_joined (depth + 1) depth rest (List.cons_ne_nil m others)
            (fun e inside => ⟨each e inside, ih e inside⟩) more (by omega)
          simpa only [List.cons_append, List.append_assoc, List.nil_append] using
            value_of_members ((dropBlanks_gap _ _).trans (opens.append _).dropBlanks) (opens.append _) distinct read

/-! ## Whole texts -/

/-- A value that is read up to the end of a text is the text's value. -/
theorem document_of_value {cs : List Char} {v : Json} (opens : Opens cs)
    (read : value (2 * cs.length + 2) cs = .ok (v, [])) : document cs = .ok v := by
  have start := opens.dropBlanks
  unfold document
  split
  · next rest =>
      obtain ⟨c, tail, parts, opening⟩ := opens
      obtain ⟨rfl, -⟩ := List.cons.inj parts
      exact absurd (by decide) opening
  · rw [start, read]
    rfl

theorem document_indented {v : Json} (plain : v.Plain) : document (indented 0 v).toList = .ok v := by
  have read := value_indented plain 0 (2 * (indented 0 v).toList.length + 2) [] (by omega) stops_nil
  rw [List.append_nil] at read
  exact document_of_value (opens_indented plain 0) read

end Reader

theorem parseChars_writeIndented {v : Json} (plain : v.Plain) : parseChars (writeIndented v).toList = .ok v := by
  rw [parseChars, writeIndented, Reader.document_indented plain]

end DesignProps.Json
