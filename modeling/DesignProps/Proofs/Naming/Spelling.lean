import DesignProps.Naming.Labels
import DesignProps.Proofs.Naming.Memo
import Mathlib

/-!
# How names are spelled

Whatever the label, a name begins with a letter and goes on with letters and digits: small ones with a separator
between words in snake and kebab case, letters of both cases otherwise.  A display name begins with a capital, and an
identifier with a small letter.  The library's laws of small letters and capitals are in none of its modules but the
one of everything, which is why that one is imported.

Main statements: `write_words_spelled`, `name_spelled` (without reserved words), `exists_word_of_identifier`,
`names_spelled`.
-/

set_option autoImplicit false

open scoped Computability

namespace DesignProps.Naming

/-! ## Spellings -/

/-- One character of a class. -/
def one (accepts : Char → Bool) : Language Char := {text | ∃ c, text = [c] ∧ accepts c = true}

/-- A small letter or a digit. -/
def isSmall (c : Char) : Bool := c.isLower || c.isDigit

/-- `[a-z][A-Za-z0-9]*` -/
def camelSpelling : Language Char := one Char.isLower * (one Char.isAlphanum)∗

/-- `[A-Za-z][A-Za-z0-9]*` -/
def pascalSpelling : Language Char := one Char.isAlpha * (one Char.isAlphanum)∗

/-- `[A-Z][A-Za-z0-9]*` -/
def displaySpelling : Language Char := one Char.isUpper * (one Char.isAlphanum)∗

/-- `[a-z][a-z0-9]*(_[a-z0-9]+)*`, with any separator. -/
def separatedSpelling (separator : Char) : Language Char :=
  one Char.isLower * (one isSmall)∗ * (one (· == separator) * (one isSmall * (one isSmall)∗))∗

def spelling : NameCase → Language Char
  | .snake => separatedSpelling '_'
  | .camel => camelSpelling
  | .pascal => pascalSpelling
  | .kebab => separatedSpelling '-'

section Spellings
variable {p q : Char → Bool} {c : Char} {rest : List Char}

theorem mem_star_one {text : List Char} : text ∈ (one p)∗ ↔ ∀ c ∈ text, p c = true := by
  rw [Language.mem_kstar]
  constructor
  · rintro ⟨parts, rfl, each⟩ c inside
    obtain ⟨part, listed, among⟩ := List.mem_flatten.1 inside
    obtain ⟨d, rfl, accepted⟩ := each part listed
    rwa [List.mem_singleton.1 among]
  · intro each
    refine ⟨text.map fun c => [c], by simp [← List.flatMap_def], fun part listed => ?_⟩
    obtain ⟨c, inside, rfl⟩ := List.mem_map.1 listed
    exact ⟨c, rfl, each c inside⟩

theorem mem_one_mul_star : c :: rest ∈ one p * (one q)∗ ↔ p c = true ∧ ∀ d ∈ rest, q d = true := by
  rw [Language.mem_mul]
  constructor
  · rintro ⟨_, ⟨d, rfl, accepted⟩, tail, starred, same⟩
    obtain ⟨rfl, rfl⟩ := List.cons.inj same
    exact ⟨accepted, mem_star_one.1 starred⟩
  · rintro ⟨first, each⟩
    exact ⟨[c], ⟨c, rfl, first⟩, rest, mem_star_one.2 each, rfl⟩

theorem exists_of_mem_one_mul_star {text : List Char} (spelled : text ∈ one p * (one q)∗) :
    ∃ c rest, text = c :: rest ∧ p c = true ∧ ∀ d ∈ rest, q d = true := by
  obtain ⟨_, ⟨c, rfl, first⟩, rest, starred, rfl⟩ := Language.mem_mul.1 spelled
  exact ⟨c, rest, rfl, first, mem_star_one.1 starred⟩

end Spellings

/-! ## Words -/

theorem isSmall_toLower {c : Char} (plain : c.isAlphanum = true) : isSmall c.toLower = true := by
  by_cases letter : c.isAlpha = true
  · simp [isSmall, letter]
  · have digit : c.isDigit = true := by simpa [Char.isAlphanum, letter] using plain
    have same : c.toLower = c := Char.toLower_eq_of_not_isUpper fun upper => letter (by simp [Char.isAlpha, upper])
    simp [isSmall, same, digit]

theorem isAlphanum_of_isSmall {c : Char} (small : isSmall c = true) : c.isAlphanum = true := by
  rcases Bool.or_eq_true_iff.1 small with lower | digit
  · simp [Char.isAlphanum, Char.isAlpha, lower]
  · simp [Char.isAlphanum, digit]

structure IsWord (word : List Char) : Prop where
  nonempty : word ≠ []
  small : ∀ c ∈ word, isSmall c = true

theorem isWord_of_mem_words {label word : List Char} (listed : word ∈ words label) : IsWord word := by
  refine ⟨mem_words_ne_nil listed, fun c inside => ?_⟩
  obtain ⟨d, plain, rfl⟩ := mem_words_isAlphanum listed inside
  exact isSmall_toLower plain

theorem extend_eq (c : Char) (ws : List (List Char)) : ∃ word others, extend c ws = (c :: word) :: others := by
  cases ws with
  | nil => exact ⟨[], [], rfl⟩
  | cons word others => exact ⟨word, others, rfl⟩

/-- Behind a separator no word begins by its capital. -/
theorem beginsWord_separator (c : Char) (next : Option Char) : beginsWord '_' c next = false := by
  simp [beginsWord, Char.isLower, Char.isUpper, Char.isDigit]

/-- A letter at the beginning of a label begins its first word: nothing before it makes it begin a second one. -/
theorem cut_of_isAlpha {c : Char} (letter : c.isAlpha = true) (rest : List Char) :
    ∃ word others, cut '_' (c :: rest) = (c.toLower :: word) :: others := by
  have plain : c.isAlphanum = true := by simp [Char.isAlphanum, letter]
  obtain ⟨word, others, extended⟩ := extend_eq c.toLower (cut c rest)
  exact ⟨word, others, by simp [cut, plain, beginsWord_separator, extended]⟩

/-- The first word, if there is one, begins with a letter. -/
theorem words_eq (label : List Char) :
    words label = [] ∨ ∃ c word others, words label = (c :: word) :: others ∧ c.isLower = true := by
  unfold words
  cases cleaned : label.dropWhile fun c => !c.isAlpha with
  | nil => exact Or.inl rfl
  | cons c rest =>
      have letter : c.isAlpha = true := by
        have stopped := List.head?_dropWhile_not (fun c : Char => !c.isAlpha) label
        simpa [cleaned] using stopped
      obtain ⟨word, others, first⟩ := cut_of_isAlpha letter rest
      exact Or.inr ⟨c.toLower, word, others.filter fun word => !word.isEmpty, by simp [first], by simp [letter]⟩

/-! ## Written words -/

section Written
variable {c : Char} {word : List Char} {others : List (List Char)}

theorem joinWith_eq (separator : Char) (word : List Char) (others : List (List Char)) :
    joinWith separator (word :: others) = word ++ (others.map (separator :: ·)).flatten := by
  induction others generalizing word with
  | nil => simp [joinWith]
  | cons next rest ih => simp [joinWith, ih]

theorem isAlphanum_of_mem_capitalize {d : Char} (small : IsWord word) (inside : d ∈ capitalize word) :
    d.isAlphanum = true := by
  obtain ⟨-, each⟩ := small
  cases word with
  | nil => simp [capitalize] at inside
  | cons c rest =>
      obtain ⟨first, later⟩ := List.forall_mem_cons.1 each
      rcases List.mem_cons.1 inside with rfl | inside
      · by_cases letter : c.isAlpha = true
        · simp [Char.isAlphanum, letter]
        · have same : c.toUpper = c :=
            Char.toUpper_eq_of_not_isLower fun lower => letter (by simp [Char.isAlpha, lower])
          rw [same]
          exact isAlphanum_of_isSmall first
      · exact isAlphanum_of_isSmall (later d inside)

theorem isAlphanum_of_mem_capitals {d : Char} (small : ∀ word ∈ others, IsWord word)
    (inside : d ∈ others.flatMap capitalize) : d.isAlphanum = true := by
  obtain ⟨word, listed, among⟩ := List.mem_flatMap.1 inside
  exact isAlphanum_of_mem_capitalize (small word listed) among

theorem joinWith_spelled (separator : Char) (letter : c.isLower = true)
    (small : ∀ w ∈ (c :: word) :: others, IsWord w) :
    joinWith separator ((c :: word) :: others) ∈ separatedSpelling separator := by
  obtain ⟨first, later⟩ := List.forall_mem_cons.1 small
  rw [joinWith_eq]
  refine Language.append_mem_mul (mem_one_mul_star.2 ⟨letter, ?_⟩) (Language.join_mem_kstar fun part listed => ?_)
  · exact fun d inside => first.small d (List.mem_cons_of_mem _ inside)
  · obtain ⟨next, among, rfl⟩ := List.mem_map.1 listed
    obtain ⟨some, each⟩ := later next among
    obtain ⟨d, rest, rfl⟩ := List.exists_cons_of_ne_nil some
    exact Language.append_mem_mul (a := [separator]) ⟨separator, rfl, by simp⟩
      (mem_one_mul_star.2 (List.forall_mem_cons.1 each))

theorem write_camel_spelled (letter : c.isLower = true) (small : ∀ w ∈ (c :: word) :: others, IsWord w) :
    write .camel ((c :: word) :: others) ∈ camelSpelling := by
  obtain ⟨first, later⟩ := List.forall_mem_cons.1 small
  refine mem_one_mul_star.2 ⟨letter, fun d inside => ?_⟩
  rcases List.mem_append.1 inside with own | next
  · exact isAlphanum_of_isSmall (first.small d (List.mem_cons_of_mem _ own))
  · exact isAlphanum_of_mem_capitals later next

theorem write_pascal_spelled (letter : c.isLower = true) (small : ∀ w ∈ (c :: word) :: others, IsWord w) :
    write .pascal ((c :: word) :: others) ∈ displaySpelling := by
  have capital : c.toUpper.isUpper = true := by simp [Char.isAlpha, letter]
  refine mem_one_mul_star.2 ⟨capital, fun d inside => ?_⟩
  have among : d ∈ ((c :: word) :: others).flatMap capitalize := List.mem_cons_of_mem _ inside
  exact isAlphanum_of_mem_capitals small among

end Written

theorem displaySpelling_le : displaySpelling ≤ pascalSpelling := by
  intro text spelled
  obtain ⟨c, rest, rfl, first, later⟩ := exists_of_mem_one_mul_star spelled
  exact mem_one_mul_star.2 ⟨by simp [Char.isAlpha, first], later⟩

theorem pascal_words_spelled {label : List Char} (some : words label ≠ []) :
    write .pascal (words label) ∈ displaySpelling := by
  obtain ⟨c, word, others, first, letter⟩ := (words_eq label).resolve_left some
  have small : ∀ word ∈ words label, IsWord word := fun _ => isWord_of_mem_words
  rw [first] at small ⊢
  exact write_pascal_spelled letter small

theorem write_words_spelled (target : NameCase) {label : List Char} (some : words label ≠ []) :
    write target (words label) ∈ spelling target := by
  obtain ⟨c, word, others, first, letter⟩ := (words_eq label).resolve_left some
  have small : ∀ word ∈ words label, IsWord word := fun _ => isWord_of_mem_words
  rw [first] at small ⊢
  cases target with
  | snake => exact joinWith_spelled '_' letter small
  | camel => exact write_camel_spelled letter small
  | pascal => exact displaySpelling_le (write_pascal_spelled letter small)
  | kebab => exact joinWith_spelled '-' letter small

/-! ## Names -/

/-- A label without words is named by the fallback. -/
theorem name_spelled {rules : Sanitizer} (free : rules.reserved = []) {target : NameCase} {spelled : Language Char}
    (fallback : rules.fallback.toList ∈ spelled)
    (written : ∀ label, words label ≠ [] → write target (words label) ∈ spelled) (suffix label : String) :
    (rules.name target suffix label).toList ∈ spelled := by
  have unchanged : ∀ name, rules.protect suffix name = name := by simp [Sanitizer.protect, free]
  simp only [Sanitizer.name, unchanged]
  split
  · exact fallback
  · next some =>
      rw [String.toList_ofList]
      refine written _ fun none => some ?_
      rw [none]
      cases target <;> rfl

theorem displayName_spelled (label : String) : (displayName label).toList ∈ displaySpelling := by
  refine name_spelled rfl ?fallback (fun _ => pascal_words_spelled) "_" label
  case fallback =>
    change 'U' :: "nnamed".toList ∈ displaySpelling
    exact mem_one_mul_star.2 ⟨by decide, List.all_eq_true.1 (by decide)⟩

theorem plain_spelled (target : NameCase) (suffix label : String) :
    (plainSanitizer.name target suffix label).toList ∈ spelling target := by
  refine name_spelled rfl ?fallback (fun label some => write_words_spelled target some) suffix label
  case fallback =>
    change 'p' :: "roperty".toList ∈ spelling target
    cases target with
    | snake | kebab =>
        have word : 'p' :: "roperty".toList ∈ one Char.isLower * (one isSmall)∗ :=
          mem_one_mul_star.2 ⟨by decide, List.all_eq_true.1 (by decide)⟩
        exact ⟨_, word, [], Language.nil_mem_kstar _, rfl⟩
    | camel | pascal => exact mem_one_mul_star.2 ⟨by decide, List.all_eq_true.1 (by decide)⟩

/-! ## Identifiers -/

theorem not_mem_reservedWords (word : String) : word ++ "_" ∉ reservedWords := by
  have plain : ∀ reserved ∈ reservedWords, '_' ∉ reserved.toList := by decide
  exact fun reserved => plain _ reserved (by simp)

/-- An identifier is a word that is not reserved, or a reserved one and an underscore. -/
theorem exists_word_of_identifier (key : Key) : ∃ word : String, word.toList ∈ camelSpelling ∧
    identifier key = if word ∈ reservedWords then word ++ "_" else word := by
  refine ⟨_, plain_spelled .camel "_" (propertyName key), ?_⟩
  rw [identifier_eq, Sanitizer.protect]
  simp only [codeSanitizer, List.contains_iff_mem]

theorem identifier_spelled (key : Key) :
    (identifier key).toList ∈ camelSpelling * (1 + one (· == '_')) ∧ identifier key ∉ reservedWords := by
  obtain ⟨word, spelled, same⟩ := exists_word_of_identifier key
  rw [same]
  split
  · refine ⟨?_, not_mem_reservedWords word⟩
    rw [String.toList_append]
    exact Language.append_mem_mul spelled (Or.inr ⟨'_', rfl, rfl⟩)
  · next free => exact ⟨⟨_, spelled, [], Or.inl rfl, List.append_nil _⟩, free⟩

/-- Whatever a property, a component or a label is called, its names can be written in code: an identifier is
`[a-z][A-Za-z0-9]*_?` and not reserved, and ends in an underscore exactly behind a reserved word; a display name is
`[A-Z][A-Za-z0-9]*`; and a name in one of the four cases is spelled as its case asks, also by a sanitizer that
remembers what it was asked before. -/
theorem names_spelled :
    (∀ key : Key, (identifier key).toList ∈ camelSpelling * (1 + one (· == '_')) ∧ identifier key ∉ reservedWords ∧
      ∃ word : String, word.toList ∈ camelSpelling ∧
        identifier key = if word ∈ reservedWords then word ++ "_" else word) ∧
    (∀ label, (displayName label).toList ∈ displaySpelling) ∧
    ∀ (suffix : String) (asked : List (NameCase × String)) (target : NameCase) (label : String),
      (((Sanitizer.Memo.new plainSanitizer).askAll (asked.map fun e => ⟨e.1, suffix, e.2⟩)).name target suffix
        label).1.toList ∈ spelling target := by
  refine ⟨fun key => ?_, displayName_spelled, fun suffix asked target label => ?_⟩
  · obtain ⟨spelled, free⟩ := identifier_spelled key
    exact ⟨spelled, free, exists_word_of_identifier key⟩
  · rw [Sanitizer.Memo.name_askAll_of_suffix]
    exact plain_spelled target suffix label

end DesignProps.Naming
