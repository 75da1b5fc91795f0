/-!
# Sorting by comparisons that may be refused

A comparison may have no answer.  A list is sorted by keeping the run it begins with and by searching the place of
every later element by halving; `refusal?` is the first comparison on that way that is refused.

Main statement: `refusal?_eq_none` (where every two elements can be compared, nothing is refused).
-/

set_option autoImplicit false

namespace DesignProps

namespace Sorting

variable {α ε : Type}

/-- The first elements that go on a run, falling or not falling, after its last element; and the others. -/
def run (lt : α → α → Except ε Bool) (falling : Bool) (last : α) : List α → Except ε (List α × List α)
  | [] => .ok ([], [])
  | a :: rest =>
      match lt a last with
      | .error e => .error e
      | .ok less =>
          if less = falling then (run lt falling a rest).map fun found => (a :: found.1, found.2)
          else .ok ([], a :: rest)

/-- The run that a list begins with, put in order, and the others. -/
def firstRun (lt : α → α → Except ε Bool) : List α → Except ε (List α × List α)
  | a :: b :: rest =>
      match lt b a with
      | .error e => .error e
      | .ok falling =>
          (run lt falling b rest).map fun found =>
            (if falling then (a :: b :: found.1).reverse else a :: b :: found.1, found.2)
  | short => .ok (short, [])

/-- How many of the ordered elements between two positions an element goes after. -/
def search (lt : α → α → Except ε Bool) (a : α) (ordered : List α) (low high : Nat) : Except ε Nat :=
  if low < high then
    match ordered[(low + high) / 2]? with
    | none => .ok low
    | some b =>
        match lt a b with
        | .error e => .error e
        | .ok true => search lt a ordered low ((low + high) / 2)
        | .ok false => search lt a ordered ((low + high) / 2 + 1) high
  else .ok low
termination_by high - low

def insertAll (lt : α → α → Except ε Bool) (ordered : List α) : List α → Except ε (List α)
  | [] => .ok ordered
  | a :: rest =>
      match search lt a ordered 0 ordered.length with
      | .error e => .error e
      | .ok place => insertAll lt (ordered.take place ++ a :: ordered.drop place) rest

def halving (lt : α → α → Except ε Bool) (xs : List α) : Except ε (List α) :=
  match firstRun lt xs with
  | .error e => .error e
  | .ok (ordered, rest) => insertAll lt ordered rest

/-- The first comparison that is refused. -/
def refusal? (lt : α → α → Except ε Bool) (xs : List α) : Option ε :=
  match halving lt xs with
  | .ok _ => none
  | .error e => some e

/-! ## Where nothing is refused -/

variable {lt : α → α → Except ε Bool} {p : α → Prop}

/-- Any two of these elements can be compared. -/
def Comparable (lt : α → α → Except ε Bool) (p : α → Prop) : Prop := ∀ a b, p a → p b → ∃ less, lt a b = .ok less

theorem run_ok (comparable : Comparable lt p) (falling : Bool) : ∀ (xs : List α) (last : α), p last →
    (∀ x ∈ xs, p x) → ∃ found, run lt falling last xs = .ok found ∧ xs = found.1 ++ found.2 := by
  intro xs
  induction xs with
  | nil => exact fun _ _ _ => ⟨_, rfl, rfl⟩
  | cons a rest ih =>
      intro last hlast hxs
      obtain ⟨ha, hrest⟩ := List.forall_mem_cons.1 hxs
      obtain ⟨less, answer⟩ := comparable a last ha hlast
      obtain ⟨found, done, split⟩ := ih a ha hrest
      by_cases goes : less = falling
      · exact ⟨(a :: found.1, found.2), by simp [run, answer, goes, done, Except.map], by simp [split]⟩
      · exact ⟨_, by simp only [run, answer, if_neg goes]; rfl, rfl⟩

theorem firstRun_ok (comparable : Comparable lt p) (xs : List α) (hxs : ∀ x ∈ xs, p x) :
    ∃ found, firstRun lt xs = .ok found ∧ (∀ x ∈ found.1, p x) ∧ ∀ x ∈ found.2, p x := by
  match xs, hxs with
  | [], _ => exact ⟨_, rfl, by simp, by simp⟩
  | [a], hxs => exact ⟨_, rfl, hxs, by simp⟩
  | a :: b :: rest, hxs =>
      obtain ⟨ha, hb, hrest⟩ : p a ∧ p b ∧ ∀ x ∈ rest, p x := by simpa using hxs
      obtain ⟨falling, answer⟩ := comparable b a hb ha
      obtain ⟨found, done, split⟩ := run_ok comparable falling rest b hb hrest
      have both : ∀ x ∈ found.1 ++ found.2, p x := split ▸ hrest
      refine ⟨_, by simp only [firstRun, answer, done, Except.map]; rfl, ?_, ?_⟩
      · intro x hx
        have : x = a ∨ x = b ∨ x ∈ found.1 := by
          dsimp only at hx
          split at hx
          · simpa [or_comm, or_assoc, or_left_comm] using hx
          · simpa using hx
        rcases this with rfl | rfl | hx
        · exact ha
        · exact hb
        · exact both x (List.mem_append_left _ hx)
      · exact fun x hx => both x (List.mem_append_right _ hx)

theorem search_ok (comparable : Comparable lt p) (a : α) (ha : p a) (ordered : List α) (ho : ∀ x ∈ ordered, p x)
    (low high : Nat) : ∃ place, search lt a ordered low high = .ok place := by
  fun_induction search lt a ordered low high with
  | case1 => exact ⟨_, rfl⟩
  | case2 low high between b found e refused =>
      obtain ⟨less, answer⟩ := comparable a b ha (ho b (List.mem_of_getElem? found))
      rw [answer] at refused
      cases refused
  | case3 low high between b found answer ih => exact ih
  | case4 low high between b found answer ih => exact ih
  | case5 => exact ⟨_, rfl⟩

theorem insertAll_ok (comparable : Comparable lt p) : ∀ (xs ordered : List α), (∀ x ∈ xs, p x) →
    (∀ x ∈ ordered, p x) → ∃ done, insertAll lt ordered xs = .ok done := by
  intro xs
  induction xs with
  | nil => exact fun _ _ _ => ⟨_, rfl⟩
  | cons a rest ih =>
      intro ordered hxs ho
      obtain ⟨ha, hrest⟩ := List.forall_mem_cons.1 hxs
      obtain ⟨place, found⟩ := search_ok comparable a ha ordered ho 0 ordered.length
      simp only [insertAll, found]
      refine ih _ hrest fun x hx => ?_
      rcases List.mem_append.1 hx with hx | hx
      · exact ho x (List.mem_of_mem_take hx)
      · rcases List.mem_cons.1 hx with rfl | hx
        · exact ha
        · exact ho x (List.mem_of_mem_drop hx)

theorem refusal?_eq_none (comparable : Comparable lt p) (xs : List α) (hxs : ∀ x ∈ xs, p x) :
    refusal? lt xs = none := by
  obtain ⟨found, first, hf, hr⟩ := firstRun_ok comparable xs hxs
  obtain ⟨done, inserted⟩ := insertAll_ok comparable found.2 found.1 hr hf
  simp [refusal?, halving, first, inserted]

end Sorting

end DesignProps
