/-!
# Splitting

`splitOn` cuts a text at a character and `joinWith` joins the pieces again; there is one piece more than there are
cuts.  `cutFrom` cuts a text at places.

Main statements: `joinWith_splitOn` (cutting and joining loses nothing), `not_mem_of_mem_splitOn` (no piece holds the
character), `splitOn_joinWith` (pieces without the character are found again), `flatten_cutFrom`.
-/

set_option autoImplicit false

namespace DesignProps.Text

def splitOn (sep : Char) : List Char → List (List Char)
  | [] => [[]]
  | c :: rest =>
      if c = sep then [] :: splitOn sep rest
      else
        match splitOn sep rest with
        | [] => [[c]]
        | first :: others => (c :: first) :: others

def joinWith (sep : Char) : List (List Char) → List Char
  | [] => []
  | [piece] => piece
  | piece :: next :: rest => piece ++ sep :: joinWith sep (next :: rest)

theorem splitOn_ne_nil (sep : Char) (cs : List Char) : splitOn sep cs ≠ [] := by
  cases cs with
  | nil => simp [splitOn]
  | cons c rest =>
      simp only [splitOn]
      split
      · simp
      · split <;> simp

theorem joinWith_cons (sep c : Char) (piece : List Char) (rest : List (List Char)) :
    joinWith sep ((c :: piece) :: rest) = c :: joinWith sep (piece :: rest) := by
  cases rest <;> rfl

theorem joinWith_splitOn (sep : Char) (cs : List Char) : joinWith sep (splitOn sep cs) = cs := by
  induction cs with
  | nil => rfl
  | cons c rest ih =>
      simp only [splitOn]
      cases h : splitOn sep rest with
      | nil => exact absurd h (splitOn_ne_nil sep rest)
      | cons first others =>
          rw [h] at ih
          split
          · next e => rw [e, joinWith, ih]; rfl
          · rw [joinWith_cons, ih]

theorem not_mem_of_mem_splitOn (sep : Char) {piece cs : List Char} (h : piece ∈ splitOn sep cs) : sep ∉ piece := by
  induction cs generalizing piece with
  | nil => simp_all [splitOn]
  | cons c rest ih =>
      simp only [splitOn] at h
      split at h
      · rcases List.mem_cons.1 h with rfl | h
        · simp
        · exact ih h
      · next e =>
          split at h
          · next none => exact absurd none (splitOn_ne_nil sep rest)
          · next first others some =>
              rcases List.mem_cons.1 h with rfl | h
              · have := ih (some ▸ List.mem_cons_self)
                simp [this, Ne.symm e]
              · exact ih (some ▸ List.mem_cons_of_mem _ h)

theorem splitOn_of_not_mem {sep : Char} {piece : List Char} (h : sep ∉ piece) : splitOn sep piece = [piece] := by
  induction piece with
  | nil => rfl
  | cons c rest ih =>
      obtain ⟨ne, free⟩ := not_or.1 fun e => h (List.mem_cons.2 e)
      simp only [splitOn, Ne.symm ne, if_false, ih free]

theorem splitOn_append {sep : Char} {piece : List Char} (h : sep ∉ piece) (rest : List Char) :
    splitOn sep (piece ++ sep :: rest) = piece :: splitOn sep rest := by
  induction piece with
  | nil => simp [splitOn]
  | cons c piece ih =>
      obtain ⟨ne, free⟩ := not_or.1 fun e => h (List.mem_cons.2 e)
      simp only [List.cons_append, splitOn, Ne.symm ne, if_false, ih free]

theorem splitOn_joinWith {sep : Char} {pieces : List (List Char)} (some : pieces ≠ [])
    (free : ∀ piece ∈ pieces, sep ∉ piece) : splitOn sep (joinWith sep pieces) = pieces := by
  induction pieces with
  | nil => exact absurd rfl some
  | cons piece rest ih =>
      cases rest with
      | nil => exact splitOn_of_not_mem (free piece List.mem_cons_self)
      | cons next rest =>
          rw [joinWith, splitOn_append (free piece List.mem_cons_self),
            ih (List.cons_ne_nil _ _) fun p h => free p (List.mem_cons_of_mem _ h)]

/-! ## Places -/

/-- Cuts a text that begins at a place at ascending places. -/
def cutFrom (start : Nat) : List Nat → List Char → List (List Char)
  | [], cs => [cs]
  | place :: later, cs => cs.take (place - start) :: cutFrom (max start place) later (cs.drop (place - start))

theorem flatten_cutFrom (start : Nat) (places : List Nat) (cs : List Char) :
    (cutFrom start places cs).flatten = cs := by
  induction places generalizing start cs with
  | nil => simp [cutFrom]
  | cons place later ih => rw [cutFrom, List.flatten_cons, ih, List.take_append_drop]

/-- Where the pieces of a text end that begins at a place. -/
def stopsFrom (start : Nat) : List (List Char) → List Nat
  | [] => []
  | piece :: rest => (start + piece.length) :: stopsFrom (start + piece.length) rest

/-- The pieces that are not empty. -/
def filled (pieces : List (List Char)) : List (List Char) := pieces.filter fun piece => !piece.isEmpty

theorem flatten_filled (pieces : List (List Char)) : (filled pieces).flatten = pieces.flatten := by
  induction pieces with
  | nil => rfl
  | cons piece rest ih => cases piece <;> simp [filled] at ih ⊢ <;> exact ih

theorem ne_nil_of_mem_filled {piece : List Char} {pieces : List (List Char)} (h : piece ∈ filled pieces) :
    piece ≠ [] := by
  have := (List.mem_filter.1 h).2
  intro empty
  simp [empty] at this

end DesignProps.Text
