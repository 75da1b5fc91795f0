import DesignProps.Fault
import DesignProps.Sorting
import DesignProps.Sorting.Halving

/-!
# The order of keys

Keys are put in order by a name each of them has, and by themselves where the names agree.  Keys of different kinds
can not be compared, so this may fail.

Main statements: `sortNamed_perm` (sorting loses no key), `sortNamed_text` (texts can always be sorted),
`sortNamed_eq_of_perm` (the order of the input does not matter when no key occurs twice).
-/

set_option autoImplicit false

namespace DesignProps

namespace Key

/-- An order of all marks: null, numbers, texts. -/
def Mark.le : Mark → Mark → Bool
  | .null, _ => true
  | .number _, .null => false
  | .number a, .number b => a.1 < b.1 || (a.1 == b.1 && a.2 ≤ b.2)
  | .number _, .text _ => true
  | .text _, .null => false
  | .text _, .number _ => false
  | .text a, .text b => a ≤ b

/-- The order of named keys, where they are comparable. -/
def namedLe (a b : String × Key) : Bool := a.1 < b.1 || (a.1 = b.1 && a.2.mark.le b.2.mark)

/-- Whether a named key comes before another one; keys that are the same do not. -/
def namedPrecedes (a b : String × Key) : Except Fault Bool :=
  if a.1 ≠ b.1 then .ok (a.1 < b.1)
  else if a.2 == b.2 then .ok false
  else
    match precedes? a.2 b.2 with
    | some less => .ok less
    | none => .error (.notComparable a.2 b.2)

/-- Named keys in order, or the comparison that fails. -/
def sortNamed (xs : List (String × Key)) : Except Fault (List (String × Key)) :=
  match Sorting.refusal? namedPrecedes xs with
  | some e => .error e
  | none => .ok (Sorting.sort namedLe xs)

/-! ## The order of marks -/

theorem Mark.le_total (a b : Mark) (h : a.le b = false) : b.le a = true := by
  cases a with
  | null => simp [Mark.le] at h
  | number a =>
      cases b with
      | null => rfl
      | number b =>
          simp only [Mark.le, Bool.or_eq_false_iff, Bool.and_eq_false_iff, beq_eq_false_iff_ne,
            decide_eq_false_iff_not, Bool.or_eq_true, Bool.and_eq_true, beq_iff_eq, decide_eq_true_eq] at h ⊢
          omega
      | text t => simp [Mark.le] at h
  | text s =>
      cases b with
      | null => rfl
      | number b => rfl
      | text t =>
          have not : ¬ s ≤ t := of_decide_eq_false h
          exact decide_eq_true ((String.le_total s t).resolve_left not)

theorem Mark.le_trans (a b c : Mark) (hab : a.le b = true) (hbc : b.le c = true) : a.le c = true := by
  cases a <;> cases b <;> cases c <;> simp_all [Mark.le]
  · omega
  · exact String.le_trans hab hbc

theorem Mark.le_antisymm (a b : Mark) (hab : a.le b = true) (hba : b.le a = true) : a = b := by
  cases a <;> cases b <;> simp_all [Mark.le]
  · exact Prod.ext (by omega) (by omega)
  · exact String.le_antisymm hab hba

theorem namedLe_iff (a b : String × Key) :
    namedLe a b = true ↔ a.1 < b.1 ∨ (a.1 = b.1 ∧ a.2.mark.le b.2.mark = true) := by
  simp [namedLe]

theorem namedLe_total (a b : String × Key) (h : namedLe a b = false) : namedLe b a = true := by
  rw [namedLe_iff]
  have not : ¬ (a.1 < b.1 ∨ (a.1 = b.1 ∧ a.2.mark.le b.2.mark = true)) := fun g => by simp [(namedLe_iff a b).2 g] at h
  rcases Sorting.lt_or_eq_or_gt a.1 b.1 with lt | eq | gt
  · exact absurd (Or.inl lt) not
  · refine Or.inr ⟨eq.symm, Mark.le_total _ _ (Bool.eq_false_iff.2 fun le => not (Or.inr ⟨eq, le⟩))⟩
  · exact Or.inl gt

theorem namedLe_trans (a b c : String × Key) (hab : namedLe a b = true) (hbc : namedLe b c = true) :
    namedLe a c = true := by
  rw [namedLe_iff] at hab hbc ⊢
  rcases hab with ab | ⟨ab, ab'⟩ <;> rcases hbc with bc | ⟨bc, bc'⟩
  · exact Or.inl (String.lt_trans ab bc)
  · exact Or.inl (bc ▸ ab)
  · exact Or.inl (ab ▸ bc)
  · exact Or.inr ⟨ab.trans bc, Mark.le_trans _ _ _ ab' bc'⟩

theorem beq_of_namedLe (a b : String × Key) (hab : namedLe a b = true) (hba : namedLe b a = true) :
    (a.2 == b.2) = true := by
  rw [namedLe_iff] at hab hba
  rcases hab with ab | ⟨ab, ab'⟩ <;> rcases hba with ba | ⟨ba, ba'⟩
  · exact absurd ba (String.lt_asymm ab)
  · exact absurd (ba ▸ ab) (String.lt_irrefl _)
  · exact absurd (ab ▸ ba) (String.lt_irrefl _)
  · exact (beq_iff _ _).2 (Mark.le_antisymm _ _ ab' ba')

/-! ## Sorted keys -/

theorem sortNamed_ok {xs ys : List (String × Key)} (h : sortNamed xs = .ok ys) : ys = Sorting.sort namedLe xs := by
  unfold sortNamed at h
  split at h
  · cases h
  · exact (Except.ok.inj h).symm

theorem sortNamed_perm {xs ys : List (String × Key)} (h : sortNamed xs = .ok ys) : ys.Perm xs :=
  sortNamed_ok h ▸ Sorting.sort_perm namedLe xs

theorem sortNamed_text (xs : List (String × Key)) (texts : ∀ x ∈ xs, ∃ s, x.2 = .text s) :
    sortNamed xs = .ok (Sorting.sort namedLe xs) := by
  have comparable : Sorting.Comparable namedPrecedes fun x => ∃ s, x.2 = Key.text s := by
    rintro ⟨a, _⟩ ⟨b, _⟩ ⟨s, rfl⟩ ⟨t, rfl⟩
    unfold namedPrecedes
    split
    · exact ⟨_, rfl⟩
    · split
      · exact ⟨_, rfl⟩
      · exact ⟨_, rfl⟩
  rw [sortNamed, Sorting.refusal?_eq_none comparable xs texts]

theorem sortNamed_eq_of_perm {xs ys sorted : List (String × Key)} (h : xs.Perm ys)
    (once : xs.Pairwise fun a b => (a.2 == b.2) = false) (hx : sortNamed xs = .ok sorted)
    {others : List (String × Key)} (hy : sortNamed ys = .ok others) : sorted = others := by
  rw [sortNamed_ok hx, sortNamed_ok hy]
  let Apart (a b : String × Key) : Prop := a ≠ b → (a.2 == b.2) = false
  have there : xs.Pairwise Apart := once.imp (S := Apart) fun h _ => h
  have back : xs.Pairwise (flip Apart) := once.imp (S := flip Apart) fun h _ => BEq.symm_false h
  have apart : ∀ a ∈ xs, ∀ b ∈ xs, Apart a b := fun a ha b hb =>
    List.Pairwise.forall_of_forall_of_flip (fun _ _ ne => absurd rfl ne) there back ha hb
  refine List.Perm.eq_of_pairwise (fun a b ha hb hab hba => ?_)
    (Sorting.pairwise_sort namedLe_total namedLe_trans xs) (Sorting.pairwise_sort namedLe_total namedLe_trans ys)
    ((Sorting.sort_perm namedLe xs).trans (h.trans (Sorting.sort_perm namedLe ys).symm))
  by_cases same : a = b
  · exact same
  · have := apart a ((Sorting.sort_perm _ _).mem_iff.1 ha) b (h.mem_iff.2 ((Sorting.sort_perm _ _).mem_iff.1 hb)) same
    exact absurd (beq_of_namedLe a b hab hba) (by simp [this])

end Key

end DesignProps
