import DesignProps.Proofs.Naming.Rewritten

/-!
# Capitals that a name keeps

A name in camel case shows its words by capitals.  Read again, a capital right behind a word that is a single letter
only begins a word if a small letter follows it.  So a name is read as it was written exactly if none of its words runs
into the one before it.

Main statements: `recased_capitalize_iff` (one word), `recased_capitals_iff` (the words behind one), `camel_camel_iff`.
-/

set_option autoImplicit false

namespace DesignProps.Naming

/-- Whether a word loses its capital behind another word: that one is a single letter, and behind its own first letter
there is no small one. -/
def runsInto : List Char → List Char → Bool
  | [a], c :: rest => a.isLower && c.isLower && !rest.head?.any Char.isLower
  | _, _ => false

/-- Words that keep their capitals. -/
def KeptApart (ws : List (List Char)) : Prop := ws.IsChain fun v w => runsInto v w = false

instance (ws : List (List Char)) : Decidable (KeptApart ws) := by
  unfold KeptApart
  infer_instance

/-- The last character of a word that is written with a capital. -/
def lastWritten (word : List Char) : Char := (capitalize word).getLastD '_'

section Words
variable {c previous : Char} {word : List Char} {others : List (List Char)}

theorem isUpper_eq_false_of_isSmall (small : isSmall c = true) : c.isUpper = false := by
  rcases Bool.or_eq_true_iff.1 small with lower | digit
  · exact Bool.eq_false_iff.2 (Char.not_isUpper_of_isLower lower)
  · exact Bool.eq_false_iff.2 fun upper => absurd (by simp [Char.isAlpha, upper]) (not_isAlpha_of_isDigit digit)

/-- Small letters and digits stay as they are. -/
theorem recased_append_of_small (more : List Char) : ∀ {word : List Char}, (∀ c ∈ word, isSmall c = true) →
    ∀ previous : Char, recased previous (word ++ more) = word ++ recased (word.getLastD previous) more := by
  intro word
  induction word with
  | nil => exact fun _ _ => rfl
  | cons c rest ih =>
      intro small previous
      obtain ⟨own, later⟩ := List.forall_mem_cons.1 small
      have plain := isUpper_eq_false_of_isSmall own
      have kept : c.toLower = c := Char.toLower_eq_of_not_isUpper (Bool.eq_false_iff.1 plain)
      rw [List.getLastD_cons]
      simp [recased, beginsWord_of_not_isUpper plain, kept, ih later]

theorem head?_capitals_any_isLower (each : ∀ w ∈ others, IsWord w) :
    (others.flatMap capitalize).head?.any Char.isLower = false := by
  cases others with
  | nil => rfl
  | cons w rest =>
      obtain ⟨c, more, rfl⟩ := List.exists_cons_of_ne_nil (each w List.mem_cons_self).nonempty
      simp [capitalize]

/-- A word keeps its capital unless that stands between a capital and what is no small letter. -/
theorem capital_kept_iff (first : isSmall c = true) (next : Option Char) (plain : previous.isAlphanum = true) :
    (if beginsWord previous c.toUpper next then c.toUpper else c.toUpper.toLower) = c.toUpper ↔
      (previous.isUpper && c.isLower && !next.any Char.isLower) = false := by
  by_cases letter : c.isLower = true
  · have capital : c.toUpper.isUpper = true := by simp [Char.isAlpha, letter]
    have small : c.toUpper.toLower ≠ c.toUpper := by
      intro same
      rw [← same, Char.isUpper_toLower_eq_false] at capital
      exact absurd capital (by simp)
    have begins : beginsWord previous c.toUpper next = !(previous.isUpper && !next.any Char.isLower) := by
      rw [beginsWord, capital]
      by_cases upper : previous.isUpper = true
      · have digit : previous.isDigit = false :=
          Bool.eq_false_iff.2 fun digit => not_isAlpha_of_isDigit digit (by simp [Char.isAlpha, upper])
        simp [upper, Bool.eq_false_iff.2 (Char.not_isLower_of_isUpper upper), digit]
      · simp only [Char.isAlphanum, Char.isAlpha] at plain
        simp_all
    rw [begins]
    cases lost : previous.isUpper && !next.any Char.isLower <;> simp_all
  · have kept : c.toUpper = c := Char.toUpper_eq_of_not_isLower letter
    have plain := isUpper_eq_false_of_isSmall first
    have same : c.toLower = c := Char.toLower_eq_of_not_isUpper (Bool.eq_false_iff.1 plain)
    simp [kept, same, letter]

theorem head?_append_any_isLower (front : List Char) {back : List Char} (none : back.head?.any Char.isLower = false) :
    (front ++ back).head?.any Char.isLower = front.head?.any Char.isLower := by
  cases front with
  | nil => exact none
  | cons c rest => rfl

/-- A word is read as it was written if it keeps its capital, and what is behind it does. -/
theorem recased_capitalize_iff {more : List Char} (small : ∀ d ∈ c :: word, isSmall d = true)
    (behind : more.head?.any Char.isLower = false) (plain : previous.isAlphanum = true) :
    recased previous (capitalize (c :: word) ++ more) = capitalize (c :: word) ++ more ↔
      (previous.isUpper && c.isLower && !word.head?.any Char.isLower) = false ∧
        recased (lastWritten (c :: word)) more = more := by
  obtain ⟨first, later⟩ := List.forall_mem_cons.1 small
  rw [← head?_append_any_isLower word behind, ← capital_kept_iff first _ plain]
  simp only [capitalize, List.cons_append, recased, recased_append_of_small more later, lastWritten,
    List.getLastD_cons, List.cons.injEq, List.append_cancel_left_eq]

/-- Only a word that is a single letter ends in a capital. -/
theorem runsInto_eq {v : List Char} (some : v ≠ []) (small : ∀ d ∈ v, isSmall d = true) (c : Char) (word : List Char) :
    runsInto v (c :: word) = ((lastWritten v).isUpper && c.isLower && !word.head?.any Char.isLower) := by
  obtain ⟨a, rest, rfl⟩ := List.exists_cons_of_ne_nil some
  cases rest with
  | nil =>
      have first : isSmall a = true := small a List.mem_cons_self
      have capital : (lastWritten [a]).isUpper = a.isLower := by
        simp [lastWritten, capitalize, Char.isAlpha, isUpper_eq_false_of_isSmall first]
      rw [capital]
      rfl
  | cons b more =>
      have low : (lastWritten (a :: b :: more)).isUpper = false := by
        have last : isSmall (lastWritten (a :: b :: more)) = true := by
          simp only [lastWritten, capitalize, List.getLastD_cons]
          exact small _ (List.mem_cons_of_mem _ List.getLastD_mem_cons)
        exact isUpper_eq_false_of_isSmall last
      rw [low]
      rfl

theorem isAlphanum_lastWritten {v : List Char} (word : IsWord v) : (lastWritten v).isAlphanum = true := by
  refine isAlphanum_of_mem_capitalize word ?_
  obtain ⟨a, rest, rfl⟩ := List.exists_cons_of_ne_nil word.nonempty
  simp only [lastWritten, capitalize, List.getLastD_cons]
  exact List.getLastD_mem_cons

/-- The words behind a word are read as they were written if none runs into the one before it. -/
theorem recased_capitals_iff (each : ∀ w ∈ others, IsWord w) : ∀ {v : List Char}, IsWord v →
    (recased (lastWritten v) (others.flatMap capitalize) = others.flatMap capitalize ↔ KeptApart (v :: others)) := by
  induction others with
  | nil => simp [KeptApart, recased]
  | cons w rest ih =>
      intro v word
      obtain ⟨next, later⟩ := List.forall_mem_cons.1 each
      obtain ⟨c, more, rfl⟩ := List.exists_cons_of_ne_nil next.nonempty
      have plain := isAlphanum_lastWritten word
      rw [List.flatMap_cons, recased_capitalize_iff next.small (head?_capitals_any_isLower later) plain,
        ← runsInto_eq word.nonempty word.small, ih later next]
      unfold KeptApart
      rw [List.isChain_cons_cons]

end Words

/-- A name in camel case is read as it was written exactly if no word behind the first runs into the one before it. -/
theorem camel_camel_iff (label : List Char) : camel (camel label) = camel label ↔ KeptApart (words label).tail := by
  rcases words_eq label with none | ⟨c, word, others, found, letter⟩
  · have empty : camel label = [] := by rw [camel, none]; rfl
    rw [empty, none]
    exact iff_of_true rfl .nil
  · have small : ∀ w ∈ words label, IsWord w := fun _ => isWord_of_mem_words
    have spelled : camel label ∈ camelSpelling := camel_spelled (by simp [found])
    rw [found] at small
    obtain ⟨first, later⟩ := List.forall_mem_cons.1 small
    have written : camel label = (c :: word) ++ others.flatMap capitalize := by
      rw [camel, found]
      rfl
    rw [camel_of_spelled (camelSpelling_le spelled), written, found, List.tail_cons,
      recased_append_of_small _ first.small, List.append_cancel_left_eq]
    cases others with
    | nil => simp [KeptApart, recased]
    | cons w rest =>
        obtain ⟨next, behind⟩ := List.forall_mem_cons.1 later
        obtain ⟨d, more, rfl⟩ := List.exists_cons_of_ne_nil next.nonempty
        have last : isSmall ((c :: word).getLastD '_') = true := by
          rw [List.getLastD_cons]
          exact first.small _ List.getLastD_mem_cons
        rw [List.flatMap_cons, recased_capitalize_iff next.small (head?_capitals_any_isLower behind)
          (isAlphanum_of_isSmall last), isUpper_eq_false_of_isSmall last, recased_capitals_iff behind next]
        simp

/-! ## Names of properties -/

/-- The words of a key. -/
def keyWords (key : Key) : List (List Char) := words (withoutNodeId key.label.toList)

/-- The name of a property is that of its identifier, but for the mark of a reserved word, exactly if no word of its key
behind the first runs into the one before it. -/
theorem bareName_eq_iff (key : Key) : bareName key = propertyName key ↔ KeptApart (keyWords key).tail := by
  by_cases none : keyWords key = []
  · have fallback : propertyName key = "property" := camelName_of_no_words none
    rw [bareName, fallback, none]
    exact iff_of_true rfl .nil
  · have written : (propertyName key).toList = camel (withoutNodeId key.label.toList) := toList_camelName_of_words none
    have spelled := camelSpelling_le (propertyName_spelled key)
    rw [← String.toList_inj, toList_bareName, ← camel_of_spelled spelled, written]
    exact camel_camel_iff _

end DesignProps.Naming
