/-!
# Words of a label

A label such as `Button / Primary` or `HTMLInput2` is read as a list of lower-case words: everything before the first
letter is dropped, other characters than ASCII letters and digits separate words, and a capital begins a word after a
small letter or digit, or as the last capital of several before a small letter.  Names are words written together
again in one of four cases.

Main statements: `mem_words_ne_nil` (no word is empty), `mem_words_isAlphanum` (words hold letters and digits only).
-/

set_option autoImplicit false

namespace DesignProps

inductive NameCase
  | snake
  | camel
  | pascal
  | kebab
  deriving DecidableEq, Repr

namespace Naming

/-- Whether a capital begins a word, by its two neighbours. -/
def beginsWord (previous c : Char) (next : Option Char) : Bool :=
  c.isUpper && (previous.isLower || previous.isDigit || (previous.isUpper && next.any Char.isLower))

/-- Adds a character to the first word. -/
def extend (c : Char) : List (List Char) → List (List Char)
  | [] => [[c]]
  | word :: others => (c :: word) :: others

/-- Cuts a text into words, some of them empty; the first one goes on the word of `previous`. -/
def cut (previous : Char) : List Char → List (List Char)
  | [] => [[]]
  | c :: rest =>
      if !c.isAlphanum then [] :: cut c rest
      else if beginsWord previous c rest.head? then [] :: extend c.toLower (cut c rest)
      else extend c.toLower (cut c rest)

def words (label : List Char) : List (List Char) :=
  (cut '_' (label.dropWhile fun c => !c.isAlpha)).filter fun word => !word.isEmpty

def capitalize : List Char → List Char
  | [] => []
  | c :: rest => c.toUpper :: rest

def joinWith (separator : Char) : List (List Char) → List Char
  | [] => []
  | [word] => word
  | word :: next :: rest => word ++ separator :: joinWith separator (next :: rest)

def write : NameCase → List (List Char) → List Char
  | .snake, ws => joinWith '_' ws
  | .kebab, ws => joinWith '-' ws
  | .pascal, ws => ws.flatMap capitalize
  | .camel, [] => []
  | .camel, first :: rest => first ++ rest.flatMap capitalize

/-! ## What words are made of -/

theorem mem_words_ne_nil {label word : List Char} (h : word ∈ words label) : word ≠ [] := by
  simpa using (List.mem_filter.1 h).2

theorem mem_extend {c d : Char} {word : List Char} {ws : List (List Char)} (h : word ∈ extend c ws)
    (hd : d ∈ word) : d = c ∨ ∃ w ∈ ws, d ∈ w := by
  cases ws with
  | nil =>
      simp only [extend, List.mem_singleton] at h
      subst h
      exact Or.inl (List.mem_singleton.1 hd)
  | cons first others =>
      rcases List.mem_cons.1 h with rfl | h
      · rcases List.mem_cons.1 hd with rfl | hd
        · exact Or.inl rfl
        · exact Or.inr ⟨first, List.mem_cons_self, hd⟩
      · exact Or.inr ⟨word, List.mem_cons_of_mem _ h, hd⟩

theorem mem_cut {d : Char} : ∀ (label : List Char) (previous : Char), ∀ word ∈ cut previous label, d ∈ word →
    ∃ c : Char, c.isAlphanum = true ∧ d = c.toLower := by
  intro label
  induction label with
  | nil => simp [cut]
  | cons c rest ih =>
      intro previous word h hd
      simp only [cut] at h
      by_cases plain : c.isAlphanum = true
      · have step : ∀ w ∈ extend c.toLower (cut c rest), d ∈ w → ∃ c : Char, c.isAlphanum = true ∧ d = c.toLower := by
          intro w hw hdw
          rcases mem_extend hw hdw with rfl | ⟨v, hv, hdv⟩
          · exact ⟨c, plain, rfl⟩
          · exact ih c v hv hdv
        rw [if_neg (by simp [plain])] at h
        split at h
        · rcases List.mem_cons.1 h with rfl | h
          · simp at hd
          · exact step word h hd
        · exact step word h hd
      · rw [if_pos (by simp [plain])] at h
        rcases List.mem_cons.1 h with rfl | h
        · simp at hd
        · exact ih c word h hd

theorem mem_words_isAlphanum {d : Char} {label word : List Char} (h : word ∈ words label) (hd : d ∈ word) :
    ∃ c : Char, c.isAlphanum = true ∧ d = c.toLower :=
  mem_cut _ _ word (List.mem_filter.1 h).1 hd

end Naming

end DesignProps
