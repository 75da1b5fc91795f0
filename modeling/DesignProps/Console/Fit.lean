import DesignProps.Console.Cells

/-!
# Fitted lines

A line is brought to a number of cells: filled up with blanks, or cut off between two clusters.  Where a cluster of
two cells stands in the way of the cut, a blank takes its place.  A text that begins with joiners can have more cells
than its clusters; it cannot be cut where they have come to an end.

Main statements: `cells_fit` (without joiners a fitted line has the width it is fitted to), `cells_fit_le` (and if it
only does not begin with one, it is not wider).
-/

set_option autoImplicit false

namespace DesignProps.Console

/-- Why a text cannot be cut off: its clusters end before the width is reached, or have no cells at all. -/
inductive CutError
  | tooShort
  | noCells
  deriving DecidableEq, Repr

/-- The beginning of a text of clusters that has the width. -/
def cut? (width : Nat) : List Cluster → Option (List Char)
  | [] => if width = 0 then some [] else none
  | k :: rest =>
      if width = 0 then some []
      else if k.width ≤ width then (cut? (width - k.width) rest).map (k.chars ++ ·)
      else some [' ']

/-- A text filled up with blanks. -/
def padded (width : Nat) (cs : List Char) : List Char := cs ++ List.replicate (width - cells cs) ' '

/-- A text brought to a width: filled up with blanks or cut off. -/
def fit (width : Nat) (cs : List Char) : Except CutError (List Char) :=
  if cells cs ≤ width then .ok (padded width cs)
  else
    match cut? width (clusters cs) with
    | some cs => .ok cs
    | none => .error (if (clusters cs).all (·.width == 0) then .noCells else .tooShort)

/-- A text in the middle of a line of the filling character. -/
def centered (width : Nat) (filling : Char) (cs : List Char) : List Char :=
  let left := (width - cells cs) / 2
  List.replicate left filling ++ cs ++ List.replicate (width - cells cs - left) filling

/-- A tab moves to the next multiple of the stop, any other character by one, and a line end back to the start. -/
def expandTabs (stop column : Nat) : List Char → List Char
  | [] => []
  | c :: rest =>
      if c = '\t' then
        let blanks := stop - column % stop
        List.replicate blanks ' ' ++ expandTabs stop (column + blanks) rest
      else if c = '\n' ∨ c = '\r' then c :: expandTabs stop 0 rest
      else c :: expandTabs stop (column + 1) rest

/-! ## Laws -/

theorem Context.cells_blank (s : Context) (free : s.joined = false) : s.cells [' '] = 1 :=
  s.cells_replicate_blank free 1

/-- The cluster of the last character has no more cells than the character itself. -/
def Cluster.IsOf (k : Cluster) (s : Context) : Prop :=
  k.width ≤ 2 ∧ ∀ c, s.last = some c → k.width = cellWidth c

theorem Cluster.isOf_add {k : Cluster} {s : Context} {c : Char} (h : k.IsOf s) (same : s.separates c = false) :
    (k.add c (s.cellsOf c)).IsOf (s.after c) := by
  obtain ⟨small, last⟩ := h
  simp only [Context.separates, Bool.and_eq_false_iff, Bool.not_eq_false', bne_eq_false_iff_eq] at same
  by_cases joined : s.joined = true
  · simp only [Cluster.IsOf, Cluster.add, Context.cellsOf, Context.after, joined, if_true, Nat.add_zero]
    exact ⟨small, last⟩
  · by_cases is_joiner : c = joiner
    · have : joiner ≠ selector := by decide
      simp only [Cluster.IsOf, Cluster.add, Context.cellsOf, Context.after, joined, is_joiner, this, if_true,
        if_false, Nat.add_zero, Bool.false_eq_true]
      exact ⟨small, last⟩
    · by_cases is_selector : c = selector
      · have : selector ≠ joiner := by decide
        simp only [Cluster.IsOf, Cluster.add, Context.cellsOf, Context.after, joined, is_selector, this, if_true,
          if_false, Bool.false_eq_true]
        refine ⟨?_, by simp⟩
        split
        · next pictured =>
            obtain ⟨x, x_eq, x_pictured⟩ := (Option.any_eq_true _ _).1 pictured
            have one : cellWidth x = 1 := by
              simp only [isPictured, Bool.and_eq_true, beq_iff_eq] at x_pictured
              exact x_pictured.1
            have := last x x_eq
            omega
        · omega
      · have none : cellWidth c = 0 := by simpa [joined, is_joiner, is_selector] using same
        simp only [Cluster.IsOf, Cluster.add, Context.cellsOf, Context.after, joined, is_joiner, is_selector, none,
          if_true, if_false, Nat.add_zero, Bool.false_eq_true]
        exact ⟨small, last⟩

theorem Context.of_separates {s : Context} {c : Char} (own : s.separates c = true) :
    s.joined = false ∧ s.cellsOf c = cellWidth c ∧ s.after c = { s with last := some c } := by
  simp only [Context.separates, Bool.and_eq_true, Bool.not_eq_true', bne_iff_ne] at own
  obtain ⟨⟨⟨free, not_joiner⟩, not_selector⟩, wide⟩ := own
  refine ⟨free, ?_, ?_⟩
  · simp [Context.cellsOf, free, not_joiner, not_selector]
  · simp [Context.after, free, not_joiner, not_selector, wide]

theorem cut?_zero (ks : List Cluster) : cut? 0 ks = some [] := by cases ks <;> simp [cut?]

theorem cells_cut?_large (before : Context) (free : before.joined = false) {width : Nat} (pos : 0 < width)
    {k : Cluster} (large : width < k.width) (small : k.width ≤ 2) (later : List Cluster) :
    ∃ r, cut? width (k :: later) = some r ∧ before.cells r = width := by
  have one : width = 1 := by omega
  refine ⟨[' '], ?_, (before.cells_blank free).trans one.symm⟩
  simp only [cut?, if_neg (Nat.ne_of_gt pos), if_neg (Nat.not_le.2 large)]

theorem cells_cut? (before s : Context) (k : Cluster) (cs : List Char) (width : Nat) (pos : 0 < width)
    (free : before.joined = false) (here : before.behind k.chars = s) (sum : before.cells k.chars = k.width)
    (own : k.IsOf s) (enough : width ≤ k.width + s.cells cs) :
    ∃ r, cut? width (clustersFrom s k cs) = some r ∧ before.cells r = width := by
  induction cs generalizing before s k width with
  | nil =>
      simp only [Context.cells, Nat.add_zero] at enough
      rw [clustersFrom]
      by_cases fits : k.width ≤ width
      · have same : width = k.width := Nat.le_antisymm enough fits
        have filled : k.width ≠ 0 := by omega
        refine ⟨k.chars, ?_, sum.trans same.symm⟩
        simp [cut?, same, filled]
      · exact cells_cut?_large before free pos (Nat.not_le.1 fits) own.1 []
  | cons c rest ih =>
      by_cases alone : s.separates c = true
      · obtain ⟨unjoined, width_eq, after_eq⟩ := Context.of_separates alone
        rw [clustersFrom, if_pos alone]
        by_cases fits : k.width ≤ width
        · simp only [cut?, if_neg (Nat.ne_of_gt pos), if_pos fits]
          by_cases full : width - k.width = 0
          · refine ⟨k.chars, ?_, by omega⟩
            simp [full, cut?_zero]
          · have last : ∀ x, (s.after c).last = some x → cellWidth c = cellWidth x := fun x eq => by
              rw [after_eq] at eq
              rw [Option.some.inj eq]
            simp only [Context.cells, width_eq] at enough
            obtain ⟨r, found, wide⟩ := ih s (s.after c) ⟨[c], cellWidth c⟩ (width - k.width) (by omega) unjoined
              (by simp [Context.behind]) (by simp [Context.cells, width_eq]) ⟨cellWidth_le_two c, last⟩
              (by dsimp only; omega)
            refine ⟨k.chars ++ r, by rw [found, Option.map_some], ?_⟩
            rw [before.cells_append, here, sum, wide]
            omega
        · exact cells_cut?_large before free pos (Nat.not_le.1 fits) own.1 _
      · have same : s.separates c = false := by simpa using alone
        rw [clustersFrom, if_neg alone]
        have behind_eq : before.behind (k.add c (s.cellsOf c)).chars = s.after c := by
          simp [Cluster.add, Context.behind, List.foldl_append, ← here]
        have sum_eq : before.cells (k.add c (s.cellsOf c)).chars = (k.add c (s.cellsOf c)).width := by
          simp only [Cluster.add]
          rw [before.cells_append, here, sum]
          simp [Context.cells]
        simp only [Context.cells] at enough
        exact ih before (s.after c) (k.add c (s.cellsOf c)) width pos free behind_eq sum_eq
          (Cluster.isOf_add own same) (by simp only [Cluster.add]; omega)

/-- The first character of a text is a cluster. -/
theorem Cluster.isOf_first (c : Char) (ne : c ≠ joiner) :
    (⟨[c], Context.start.cellsOf c⟩ : Cluster).IsOf (Context.start.after c) := by
  have two := cellWidth_le_two c
  by_cases is_selector : c = selector
  · have : selector ≠ joiner := by decide
    simp [Cluster.IsOf, Context.cellsOf, Context.after, Context.start, is_selector, this]
  · by_cases none : cellWidth c = 0
    · simp [Cluster.IsOf, Context.cellsOf, Context.after, Context.start, is_selector, ne, none]
    · simpa [Cluster.IsOf, Context.cellsOf, Context.after, Context.start, is_selector, ne, none] using two

theorem cells_cut?_clusters {width : Nat} {cs : List Char} (long : width < cells cs) (ne : cs.head? ≠ some joiner) :
    ∃ r, cut? width (clusters cs) = some r ∧ cells r = width := by
  cases cs with
  | nil => simp at long
  | cons c rest =>
      have ne : c ≠ joiner := fun e => ne (by simp [e])
      rw [clusters, contextAfterFirst, if_neg ne]
      by_cases zero : width = 0
      · exact ⟨[], by rw [zero, cut?_zero], zero.symm⟩
      · simp only [cells, Context.cells] at long
        exact cells_cut? .start _ _ _ _ (by omega) rfl (by simp [Context.behind]) (by simp [Context.cells])
          (Cluster.isOf_first c ne) (by dsimp only; omega)

theorem fit_of_cells_le {width : Nat} {cs : List Char} (h : cells cs ≤ width) : fit width cs = .ok (padded width cs) :=
  if_pos h

theorem cells_fit_long {width : Nat} {cs : List Char} (long : width < cells cs) (ne : cs.head? ≠ some joiner) :
    ∃ r, fit width cs = .ok r ∧ cells r = width := by
  obtain ⟨r, found, wide⟩ := cells_cut?_clusters long ne
  exact ⟨r, by rw [fit, if_neg (Nat.not_le.2 long), found], wide⟩

theorem cells_fit (width : Nat) {cs : List Char} (plain : joiner ∉ cs) :
    ∃ r, fit width cs = .ok r ∧ cells r = width := by
  by_cases short : cells cs ≤ width
  · refine ⟨_, fit_of_cells_le short, ?_⟩
    rw [padded, cells_append, Context.cells_replicate_blank _ (Context.start.joined_behind rfl cs plain)]
    omega
  · exact cells_fit_long (Nat.not_le.1 short) fun e => plain (List.mem_of_mem_head? e)

theorem Context.cells_replicate_blank_le (s : Context) (n : Nat) : s.cells (List.replicate n ' ') ≤ n := by
  cases n with
  | zero => exact Nat.le_refl 0
  | succ n =>
      cases free : s.joined with
      | false => exact Nat.le_of_eq (s.cells_replicate_blank free (n + 1))
      | true =>
          rw [List.replicate_succ, Context.cells, Context.cells_replicate_blank _ (by simp [Context.after, free])]
          simp [Context.cellsOf, free]

theorem cells_fit_le (width : Nat) {cs : List Char} (ne : cs.head? ≠ some joiner) :
    ∃ r, fit width cs = .ok r ∧ cells r ≤ width := by
  by_cases short : cells cs ≤ width
  · refine ⟨_, fit_of_cells_le short, ?_⟩
    rw [padded, cells_append]
    have := (Context.start.behind cs).cells_replicate_blank_le (width - cells cs)
    omega
  · obtain ⟨r, found, wide⟩ := cells_fit_long (Nat.not_le.1 short) ne
    exact ⟨r, found, Nat.le_of_eq wide⟩

end DesignProps.Console
