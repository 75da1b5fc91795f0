import DesignProps.Text.Ranges
import DesignProps.Text.Split

/-!
# Blank characters

Spaces, line ends and separators: a line of nothing else counts as empty, and the words of a text stand between them.

Main statement: `blankFree_of_mem_words` (no word holds a blank).
-/

set_option autoImplicit false

namespace DesignProps.Text

def blankRanges : List (Nat × Nat) := [
  (0x9, 0xD), (0x1C, 0x20), (0x85, 0x85), (0xA0, 0xA0), (0x1680, 0x1680), (0x2000, 0x200A), (0x2028, 0x2029),
  (0x202F, 0x202F), (0x205F, 0x205F), (0x3000, 0x3000)]

def isBlank (c : Char) : Bool := inRanges c.toNat blankRanges

/-- Without the blanks at both ends. -/
def trimBlanks (cs : List Char) : List Char :=
  ((cs.dropWhile isBlank).reverse.dropWhile isBlank).reverse

/-- What stands between blanks. -/
def words (cs : List Char) : List (List Char) :=
  (splitOn ' ' (cs.map fun c => if isBlank c then ' ' else c)).filter fun word => !word.isEmpty

theorem mem_of_mem_splitOn {sep c : Char} {piece cs : List Char} (piece_mem : piece ∈ splitOn sep cs)
    (h : c ∈ piece) : c ∈ cs := by
  rw [← joinWith_splitOn sep cs]
  generalize splitOn sep cs = pieces at piece_mem
  induction pieces with
  | nil => simp at piece_mem
  | cons first rest ih =>
      cases rest with
      | nil => simp_all [joinWith]
      | cons next rest =>
          rw [joinWith, List.mem_append, List.mem_cons]
          rcases List.mem_cons.1 piece_mem with rfl | later
          · exact .inl h
          · exact .inr (.inr (ih later))

theorem blankFree_of_mem_words {word cs : List Char} (h : word ∈ words cs) : ∀ c ∈ word, isBlank c = false := by
  intro c c_mem
  have piece := (List.mem_filter.1 h).1
  obtain ⟨d, _, d_eq⟩ := List.mem_map.1 (mem_of_mem_splitOn piece c_mem)
  split at d_eq
  · exact absurd (d_eq ▸ c_mem) (not_mem_of_mem_splitOn ' ' piece)
  · next free => exact d_eq ▸ Bool.eq_false_iff.2 free

end DesignProps.Text
