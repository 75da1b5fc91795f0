import DesignProps.Proofs.Naming.Spelling

/-!
# Names that are written again

A name is itself a label: its words are found by its capitals.  Where several capitals stand together not all of them
begin a word, so a name that is written again may lose some of them; it keeps its letters, and after the second time
nothing changes any more.

Main statements: `camel_of_spelled` (a name that is written again is the name recased), `recased_recased`,
`identifier_identifier`, `names_settle`.
-/

set_option autoImplicit false

namespace DesignProps.Naming

/-- The words of a label in camel case. -/
def camel (label : List Char) : List Char := write .camel (words label)

/-- The words of a label in Pascal case. -/
def pascal (label : List Char) : List Char := write .pascal (words label)

/-- A text whose capitals become small unless they begin a word. -/
def recased (previous : Char) : List Char → List Char
  | [] => []
  | c :: rest => (if beginsWord previous c rest.head? then c else c.toLower) :: recased c rest

/-! ## Recasing -/

theorem not_isAlpha_of_isDigit {c : Char} (digit : c.isDigit = true) : ¬ c.isAlpha = true := by
  simp only [Char.isDigit, Char.isAlpha, Char.isUpper, Char.isLower, Bool.and_eq_true, Bool.or_eq_true,
    decide_eq_true_eq, UInt32.le_iff_toNat_le] at digit ⊢
  simp at digit ⊢
  omega

theorem beginsWord_of_not_isUpper {previous c : Char} {next : Option Char} (small : c.isUpper = false) :
    beginsWord previous c next = false := by
  simp [beginsWord, small]

theorem recased_separator (c : Char) (rest : List Char) : recased '_' (c :: rest) = c.toLower :: recased c rest := by
  simp [recased, beginsWord_separator]

/-- A small letter that follows is still there after recasing. -/
theorem head?_recased_any_isLower (previous : Char) {text : List Char} (small : text.head?.any Char.isLower = true) :
    (recased previous text).head?.any Char.isLower = true := by
  cases text with
  | nil => simp at small
  | cons c rest =>
      have letter : c.isLower = true := by simpa using small
      have plain : c.isUpper = false := Bool.eq_false_iff.2 (Char.not_isUpper_of_isLower letter)
      simp [recased, beginsWord_of_not_isUpper plain, Char.isAlpha, letter]

/-- A capital that begins a word does so behind a recased character and before a recased text. -/
theorem beginsWord_recased {previous before c : Char} {rest : List Char}
    (alike : before = previous ∨ before = previous.toLower) (begins : beginsWord previous c rest.head? = true) :
    beginsWord before c (recased c rest).head? = true := by
  simp only [beginsWord, Bool.and_eq_true, Bool.or_eq_true] at begins ⊢
  obtain ⟨capital, (low | digit) | ⟨high, next⟩⟩ := begins
  · have same : previous.toLower = previous := Char.toLower_eq_of_not_isUpper (Char.not_isUpper_of_isLower low)
    rw [same, or_self] at alike
    exact ⟨capital, .inl (.inl (alike ▸ low))⟩
  · have same : previous.toLower = previous := by
      refine Char.toLower_eq_of_not_isUpper fun high => ?_
      exact not_isAlpha_of_isDigit digit (by simp [Char.isAlpha, high])
    rw [same, or_self] at alike
    exact ⟨capital, .inl (.inr (alike ▸ digit))⟩
  · rcases alike with rfl | rfl
    · exact ⟨capital, .inr ⟨high, head?_recased_any_isLower c next⟩⟩
    · exact ⟨capital, .inl (.inl (by simp [Char.isAlpha, high]))⟩

/-- A recased text does not change when it is recased again. -/
theorem recased_recased (text : List Char) : ∀ {previous before : Char},
    before = previous ∨ before = previous.toLower → recased before (recased previous text) = recased previous text := by
  induction text with
  | nil => exact fun _ => rfl
  | cons c rest ih =>
      intro previous before alike
      by_cases begins : beginsWord previous c rest.head? = true
      · simp only [recased, if_pos begins, beginsWord_recased alike begins, if_true, ih (.inl rfl)]
      · simp only [recased, if_neg begins, Char.toLower_toLower_eq_toLower, ite_self, ih (.inr rfl)]

/-- Recasing changes no letter. -/
theorem map_toLower_recased (text : List Char) : ∀ previous : Char,
    (recased previous text).map Char.toLower = text.map Char.toLower := by
  induction text with
  | nil => exact fun _ => rfl
  | cons c rest ih =>
      intro previous
      by_cases begins : beginsWord previous c rest.head? = true <;> simp [recased, begins, ih c]

/-! ## Names as labels -/

/-- The words of a text without separators, written together again. -/
theorem exists_cut_eq {text : List Char} (plain : ∀ c ∈ text, c.isAlphanum = true) : ∀ previous : Char,
    ∃ first others, cut previous text = first :: others ∧ (∀ word ∈ others, word ≠ []) ∧
      first ++ others.flatMap capitalize = recased previous text := by
  induction text with
  | nil => exact fun _ => ⟨[], [], rfl, by simp, rfl⟩
  | cons c rest ih =>
      intro previous
      obtain ⟨own, later⟩ := List.forall_mem_cons.1 plain
      obtain ⟨first, others, parts, filled, together⟩ := ih later c
      by_cases begins : beginsWord previous c rest.head? = true
      · have capital : c.isUpper = true := by
          simp only [beginsWord, Bool.and_eq_true] at begins
          exact begins.1
        have kept : c.toUpper = c := Char.toUpper_eq_of_not_isLower (Char.not_isLower_of_isUpper capital)
        refine ⟨[], (c.toLower :: first) :: others, ?parts, ?filled, ?together⟩
        case parts => simp [cut, own, begins, parts, extend]
        case filled => exact List.forall_mem_cons.2 ⟨by simp, filled⟩
        case together => simp [recased, begins, capitalize, kept, ← together]
      · refine ⟨c.toLower :: first, others, ?parts, filled, ?together⟩
        case parts => simp [cut, own, begins, parts, extend]
        case together => simp [recased, begins, ← together]

/-- A name in camel or Pascal case begins with its first word. -/
theorem words_of_spelled {text : List Char} (spelled : text ∈ pascalSpelling) :
    ∃ first others, words text = first :: others ∧
      first ++ others.flatMap capitalize = recased '_' text := by
  obtain ⟨c, rest, rfl, letter, later⟩ := exists_of_mem_one_mul_star spelled
  have plain : ∀ d ∈ c :: rest, d.isAlphanum = true :=
    List.forall_mem_cons.2 ⟨by simp [Char.isAlphanum, letter], later⟩
  obtain ⟨word, others, begun⟩ := cut_of_isAlpha letter rest
  obtain ⟨first, more, parts, filled, together⟩ := exists_cut_eq plain '_'
  obtain ⟨rfl, rfl⟩ : c.toLower :: word = first ∧ others = more := by simpa [begun] using parts
  refine ⟨c.toLower :: word, others, ?_, together⟩
  have whole : ∀ w ∈ others, (!w.isEmpty) = true := fun w among => by simpa using filled w among
  simp [words, letter, begun, List.filter_eq_self.2 whole]

theorem words_ne_nil_of_spelled {text : List Char} (spelled : text ∈ pascalSpelling) : words text ≠ [] := by
  obtain ⟨first, others, found, -⟩ := words_of_spelled spelled
  simp [found]

theorem camelSpelling_le : camelSpelling ≤ pascalSpelling := by
  intro text spelled
  obtain ⟨c, rest, rfl, first, later⟩ := exists_of_mem_one_mul_star spelled
  exact mem_one_mul_star.2 ⟨by simp [Char.isAlpha, first], later⟩

/-- A name that is written in camel case again is recased. -/
theorem camel_of_spelled {text : List Char} (spelled : text ∈ pascalSpelling) : camel text = recased '_' text := by
  obtain ⟨first, others, found, together⟩ := words_of_spelled spelled
  rw [camel, found, ← together]
  rfl

/-- Pascal case is camel case with a capital in front. -/
theorem pascal_eq (label : List Char) : pascal label = capitalize (camel label) := by
  unfold pascal camel
  rcases words_eq label with none | ⟨c, word, others, found, -⟩
  · rw [none]
    rfl
  · rw [found]
    rfl

theorem camel_spelled {label : List Char} (some : words label ≠ []) : camel label ∈ camelSpelling :=
  write_words_spelled .camel some

theorem pascal_of_displaySpelling {c : Char} {rest : List Char} (spelled : c :: rest ∈ displaySpelling) :
    pascal (c :: rest) = c :: recased c rest := by
  obtain ⟨capital, -⟩ := mem_one_mul_star.1 spelled
  have kept : c.toUpper = c := Char.toUpper_eq_of_not_isLower (Char.not_isLower_of_isUpper capital)
  rw [pascal_eq, camel_of_spelled (displaySpelling_le spelled), recased_separator]
  simp [capitalize, kept]

theorem camel_camel_of_spelled {text : List Char} (spelled : text ∈ pascalSpelling) :
    camel (camel text) = camel text := by
  have again := camelSpelling_le (camel_spelled (words_ne_nil_of_spelled spelled))
  rw [camel_of_spelled again, camel_of_spelled spelled, recased_recased text (.inl rfl)]

theorem pascal_pascal_of_spelled {text : List Char} (spelled : text ∈ displaySpelling) :
    pascal (pascal text) = pascal text := by
  obtain ⟨c, rest, rfl, -, -⟩ := exists_of_mem_one_mul_star spelled
  have again : pascal (c :: rest) ∈ displaySpelling :=
    pascal_words_spelled (words_ne_nil_of_spelled (displaySpelling_le spelled))
  rw [pascal_of_displaySpelling spelled] at again ⊢
  rw [pascal_of_displaySpelling again, recased_recased rest (.inl rfl)]

/-! ## Names of properties -/

/-- A label with words is named by them where no word is reserved. -/
theorem toList_name_of_words {rules : Sanitizer} (free : rules.reserved = []) (target : NameCase) (suffix : String)
    {label : String} (some : words label.toList ≠ []) :
    (rules.name target suffix label).toList = write target (words label.toList) := by
  obtain ⟨c, word, others, found, -⟩ := (words_eq label.toList).resolve_left some
  have written : (write target (words label.toList)).isEmpty = false := by
    rw [found]
    cases target <;> simp [write, capitalize, joinWith_eq]
  simp [Sanitizer.name, Sanitizer.protect, free, written]

/-- A label as a name in camel case. -/
def camelName (label : String) : String := plainSanitizer.name .camel "_" label

theorem camelName_spelled (label : String) : (camelName label).toList ∈ camelSpelling := plain_spelled .camel "_" label

theorem camelName_of_no_words {label : List Char} (none : words label = []) :
    camelName (String.ofList label) = "property" := by
  simp [camelName, Sanitizer.name, Sanitizer.protect, plainSanitizer, none, write]

theorem toList_camelName_of_words {label : List Char} (some : words label ≠ []) :
    (camelName (String.ofList label)).toList = camel label := by
  have listed : words (String.ofList label).toList ≠ [] := by rwa [String.toList_ofList]
  rw [camelName, toList_name_of_words rfl .camel "_" listed, String.toList_ofList]
  rfl

theorem toList_camelName_of_spelled {label : String} (spelled : label.toList ∈ pascalSpelling) :
    (camelName label).toList = recased '_' label.toList :=
  (toList_name_of_words rfl .camel "_" (words_ne_nil_of_spelled spelled)).trans (camel_of_spelled spelled)

/-- A name that was written twice stays as it is. -/
theorem camelName_settles (label : String) : camelName (camelName (camelName label)) = camelName (camelName label) := by
  have first := camelSpelling_le (camelName_spelled label)
  have second := camelSpelling_le (camelName_spelled (camelName label))
  refine String.toList_inj.1 ?_
  rw [toList_camelName_of_spelled second, toList_camelName_of_spelled first, recased_recased _ (.inl rfl)]

/-- The name of a property in generated code, but for the mark of a reserved word. -/
def bareName (key : Key) : String := camelName (propertyName key)

theorem propertyName_spelled (key : Key) : (propertyName key).toList ∈ camelSpelling := camelName_spelled _

theorem toList_bareName (key : Key) : (bareName key).toList = recased '_' (propertyName key).toList :=
  toList_camelName_of_spelled (camelSpelling_le (propertyName_spelled key))

theorem identifier_eq_protect (key : Key) : identifier key = codeSanitizer.protect "_" (bareName key) :=
  identifier_eq key

/-- A name without the mark of a reserved word. -/
def unmarked (name : String) : String := String.ofList (name.toList.takeWhile (· ≠ '_'))

theorem unmarked_protect {name : String} (spelled : name.toList ∈ camelSpelling) :
    unmarked (codeSanitizer.protect "_" name) = name := by
  obtain ⟨c, rest, begins, letter, others⟩ := exists_of_mem_one_mul_star (camelSpelling_le spelled)
  have own : ∀ d ∈ name.toList, decide (d ≠ '_') = true := by
    rw [begins]
    refine List.forall_mem_cons.2 ⟨decide_eq_true ?_, fun d inside => decide_eq_true ?_⟩
    · rintro rfl
      exact absurd letter (by decide)
    · rintro rfl
      exact absurd (others '_' inside) (by decide)
  unfold unmarked Sanitizer.protect
  split
  · rw [String.toList_append, List.takeWhile_append_of_pos own]
    simp
  · rw [List.takeWhile_eq_self_iff.2 own, String.ofList_toList]

theorem unmarked_identifier (key : Key) : unmarked (identifier key) = bareName key := by
  rw [identifier_eq_protect]
  exact unmarked_protect (camelName_spelled _)

/-- Properties have one identifier exactly if they have one name in generated code. -/
theorem identifier_eq_iff (a b : Key) : identifier a = identifier b ↔ bareName a = bareName b := by
  constructor
  · intro same
    rw [← unmarked_identifier, ← unmarked_identifier, same]
  · intro same
    rw [identifier_eq_protect, identifier_eq_protect, same]

/-! ## Identifiers as keys -/

theorem mem_of_dropWhile {p : Char → Bool} {text rest : List Char} {c : Char} (found : text.dropWhile p = c :: rest) :
    c ∈ text ∧ ∀ d ∈ rest, d ∈ text := by
  have inside : c :: rest ⊆ text := found ▸ (List.dropWhile_suffix p).subset
  exact List.forall_mem_cons.1 inside

/-- Only a text with a number sign can end in a node id. -/
theorem withoutNodeId_of_not_mem {key : List Char} (free : '#' ∉ key) : withoutNodeId key = key := by
  unfold withoutNodeId
  dsimp only
  split
  · next before _ colon =>
      split
      · next number =>
          refine absurd ?_ free
          have among := (mem_of_dropWhile colon).2 _ (mem_of_dropWhile number).1
          rw [← List.mem_reverse]
          split at among
          · next feed => exact feed ▸ List.mem_cons_of_mem _ among
          · exact among
      · rfl
  · rfl

theorem cut_ne_nil (previous : Char) (text : List Char) : cut previous text ≠ [] := by
  cases text with
  | nil => simp [cut]
  | cons c rest =>
      obtain ⟨word, others, begun⟩ := extend_eq c.toLower (cut c rest)
      simp only [cut, begun]
      split
      · simp
      · split <;> simp

/-- A separator behind a text adds no word. -/
theorem cut_append_separator (text : List Char) : ∀ previous : Char,
    cut previous (text ++ ['_']) = cut previous text ++ [[]] := by
  induction text with
  | nil => exact fun _ => rfl
  | cons c rest ih =>
      intro previous
      have next : beginsWord previous c (rest ++ ['_']).head? = beginsWord previous c rest.head? := by
        cases rest with
        | nil => simp [beginsWord, Char.isLower]
        | cons d more => rfl
      obtain ⟨first, others, parts⟩ := List.exists_cons_of_ne_nil (cut_ne_nil c rest)
      simp only [List.cons_append, cut, next, ih, parts]
      split
      · rfl
      · split <;> rfl

theorem words_append_separator {text : List Char} (spelled : text ∈ pascalSpelling) :
    words (text ++ ['_']) = words text := by
  obtain ⟨c, rest, rfl, letter, -⟩ := exists_of_mem_one_mul_star spelled
  have cut := cut_append_separator (c :: rest) '_'
  rw [List.cons_append] at cut ⊢
  simp [words, letter, cut]

theorem number_sign_not_mem_identifier (key : Key) : '#' ∉ (identifier key).toList := by
  obtain ⟨word, spelled, same⟩ := exists_word_of_identifier key
  obtain ⟨c, rest, begins, letter, others⟩ := exists_of_mem_one_mul_star spelled
  have free : '#' ∉ word.toList := by
    rw [begins]
    rintro (_ | ⟨_, among⟩)
    · exact absurd letter (by decide)
    · exact absurd (others '#' among) (by decide)
  rw [same]
  split <;> simp [free]

/-- Named by its identifier a property keeps its name in generated code. -/
theorem propertyName_identifier (key : Key) : propertyName (.text (identifier key)) = bareName key := by
  have spelled := camelSpelling_le (camelName_spelled (propertyName key))
  have own : propertyName (.text (identifier key)) = camelName (identifier key) := by
    rw [propertyName, Key.label_text, withoutNodeId_of_not_mem (number_sign_not_mem_identifier key),
      String.ofList_toList]
    rfl
  rw [own, identifier_eq_protect]
  unfold Sanitizer.protect
  split
  · have same : words (bareName key ++ "_").toList = words (bareName key).toList := by
      rw [String.toList_append]
      exact words_append_separator spelled
    calc
      camelName (bareName key ++ "_") = camelName (bareName key) := by
        simp only [camelName, Sanitizer.name, same]
      _ = bareName key := camelName_settles _
  · exact camelName_settles _

theorem identifier_identifier (key : Key) : identifier (.text (identifier key)) = identifier key := by
  have settled : bareName (.text (identifier key)) = bareName key := by
    rw [bareName, propertyName_identifier]
    exact camelName_settles _
  rw [identifier_eq_protect (.text _), settled, ← identifier_eq_protect]

/-! ## Fixed points -/

theorem camel_camel_camel (label : List Char) : camel (camel (camel label)) = camel (camel label) := by
  by_cases none : words label = []
  · have empty : camel label = [] := by rw [camel, none]; rfl
    rw [empty]
    rfl
  · exact camel_camel_of_spelled (camelSpelling_le (camel_spelled none))

theorem toList_displayName_of_spelled {label : String} (spelled : label.toList ∈ pascalSpelling) :
    (displayName label).toList = pascal label.toList :=
  toList_name_of_words rfl .pascal "_" (words_ne_nil_of_spelled spelled)

/-- An identifier taken for a key is its own identifier.  Camel case does not change any more after it was applied
twice, with or without a fallback for labels that hold no letter, and neither does a display name. -/
theorem names_settle :
    (∀ key : Key, identifier (.text (identifier key)) = identifier key) ∧
    (∀ label : List Char, camel (camel (camel label)) = camel (camel label)) ∧
    (∀ label : String, camelName (camelName (camelName label)) = camelName (camelName label)) ∧
    ∀ label : String, displayName (displayName (displayName label)) = displayName (displayName label) := by
  refine ⟨identifier_identifier, camel_camel_camel, camelName_settles, fun label => String.toList_inj.1 ?_⟩
  have first := displayName_spelled label
  have second := displayName_spelled (displayName label)
  rw [toList_displayName_of_spelled (displaySpelling_le second), toList_displayName_of_spelled (displaySpelling_le first),
    pascal_pascal_of_spelled first]

end DesignProps.Naming
