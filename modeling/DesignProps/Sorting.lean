/-!
# Sorting

Insertion sort by a Boolean order, and the order of pairs of texts by their first and then their second part.

Main statements: `sort_perm`, `pairwise_sort` (the result is ordered), `sort_eq_of_perm` (the order of the input does
not matter when the order is antisymmetric).
-/

set_option autoImplicit false

namespace DesignProps

namespace Sorting

variable {α : Type}

def insert (le : α → α → Bool) (a : α) : List α → List α
  | [] => [a]
  | b :: rest => if le a b then a :: b :: rest else b :: insert le a rest

def sort (le : α → α → Bool) : List α → List α
  | [] => []
  | a :: rest => insert le a (sort le rest)

theorem insert_perm (le : α → α → Bool) (a : α) : ∀ xs : List α, (insert le a xs).Perm (a :: xs) := by
  intro xs
  induction xs with
  | nil => exact List.Perm.refl _
  | cons b rest ih =>
      simp only [insert]
      split
      · exact List.Perm.refl _
      · exact (ih.cons b).trans (List.Perm.swap a b rest)

theorem sort_perm (le : α → α → Bool) : ∀ xs : List α, (sort le xs).Perm xs := by
  intro xs
  induction xs with
  | nil => exact List.Perm.refl _
  | cons a rest ih => exact (insert_perm le a _).trans (ih.cons a)

theorem pairwise_insert {le : α → α → Bool} (total : ∀ a b, le a b = false → le b a = true)
    (trans : ∀ a b c, le a b = true → le b c = true → le a c = true) (a : α) : ∀ xs : List α,
    xs.Pairwise (fun x y => le x y = true) → (insert le a xs).Pairwise (fun x y => le x y = true) := by
  intro xs
  induction xs with
  | nil => simp [insert]
  | cons b rest ih =>
      intro ordered
      simp only [insert]
      cases h : le a b with
      | true =>
          simp only [if_true]
          refine List.pairwise_cons.2 ⟨?_, ordered⟩
          intro c hc
          rcases List.mem_cons.1 hc with rfl | hc
          · exact h
          · exact trans a b c h ((List.pairwise_cons.1 ordered).1 c hc)
      | false =>
          simp only [Bool.false_eq_true, if_false]
          refine List.pairwise_cons.2 ⟨?_, ih (List.pairwise_cons.1 ordered).2⟩
          intro c hc
          rcases List.mem_cons.1 ((insert_perm le a rest).mem_iff.1 hc) with rfl | hc
          · exact total _ _ h
          · exact (List.pairwise_cons.1 ordered).1 c hc

theorem pairwise_sort {le : α → α → Bool} (total : ∀ a b, le a b = false → le b a = true)
    (trans : ∀ a b c, le a b = true → le b c = true → le a c = true) : ∀ xs : List α,
    (sort le xs).Pairwise (fun x y => le x y = true) := by
  intro xs
  induction xs with
  | nil => exact List.Pairwise.nil
  | cons a rest ih => exact pairwise_insert total trans a _ ih

theorem sort_eq_of_perm {le : α → α → Bool} (total : ∀ a b, le a b = false → le b a = true)
    (trans : ∀ a b c, le a b = true → le b c = true → le a c = true)
    (antisymm : ∀ a b, le a b = true → le b a = true → a = b) {xs ys : List α} (h : xs.Perm ys) :
    sort le xs = sort le ys :=
  List.Perm.eq_of_pairwise (fun a b _ _ => antisymm a b) (pairwise_sort total trans xs)
    (pairwise_sort total trans ys) ((sort_perm le xs).trans (h.trans (sort_perm le ys).symm))

/-! ## Pairs of texts -/

def pairLe (a b : String × String) : Bool := a.1 < b.1 || (a.1 = b.1 && a.2 ≤ b.2)

theorem pairLe_iff (a b : String × String) : pairLe a b = true ↔ a.1 < b.1 ∨ (a.1 = b.1 ∧ a.2 ≤ b.2) := by
  simp [pairLe]

theorem lt_or_eq_or_gt (a b : String) : a < b ∨ a = b ∨ b < a := by
  by_cases h : a < b
  · exact Or.inl h
  · by_cases g : b < a
    · exact Or.inr (Or.inr g)
    · exact Or.inr (Or.inl (String.le_antisymm g h))

theorem pairLe_total (a b : String × String) (h : pairLe a b = false) : pairLe b a = true := by
  rw [pairLe_iff]
  have not : ¬ (a.1 < b.1 ∨ (a.1 = b.1 ∧ a.2 ≤ b.2)) := fun g => by simp [(pairLe_iff a b).2 g] at h
  rcases lt_or_eq_or_gt a.1 b.1 with lt | eq | gt
  · exact absurd (Or.inl lt) not
  · rcases String.le_total a.2 b.2 with le | ge
    · exact absurd (Or.inr ⟨eq, le⟩) not
    · exact Or.inr ⟨eq.symm, ge⟩
  · exact Or.inl gt

theorem pairLe_trans (a b c : String × String) (hab : pairLe a b = true) (hbc : pairLe b c = true) :
    pairLe a c = true := by
  rw [pairLe_iff] at hab hbc ⊢
  rcases hab with ab | ⟨ab, ab'⟩ <;> rcases hbc with bc | ⟨bc, bc'⟩
  · exact Or.inl (String.lt_trans ab bc)
  · exact Or.inl (bc ▸ ab)
  · exact Or.inl (ab ▸ bc)
  · exact Or.inr ⟨ab.trans bc, String.le_trans ab' bc'⟩

theorem pairLe_antisymm (a b : String × String) (hab : pairLe a b = true) (hba : pairLe b a = true) : a = b := by
  rw [pairLe_iff] at hab hba
  rcases hab with ab | ⟨ab, ab'⟩ <;> rcases hba with ba | ⟨ba, ba'⟩
  · exact absurd ba (String.lt_asymm ab)
  · exact absurd (ba ▸ ab) (String.lt_irrefl _)
  · exact absurd (ab ▸ ba) (String.lt_irrefl _)
  · exact Prod.ext ab (String.le_antisymm ab' ba')

/-- Pairs in order, by their first parts and then by their second ones. -/
def sortPairs (xs : List (String × String)) : List (String × String) := sort pairLe xs

theorem sortPairs_perm (xs : List (String × String)) : (sortPairs xs).Perm xs := sort_perm pairLe xs

theorem sortPairs_eq_of_perm {xs ys : List (String × String)} (h : xs.Perm ys) : sortPairs xs = sortPairs ys :=
  sort_eq_of_perm pairLe_total pairLe_trans pairLe_antisymm h

end Sorting

end DesignProps
