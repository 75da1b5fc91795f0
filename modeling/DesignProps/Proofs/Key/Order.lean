import DesignProps.Key.Order
import DesignProps.Proofs.Sorting.Halving

/-!
# Which keys can be sorted

Null, numbers with booleans, and texts are three groups; keys of one group can be compared.  Named keys are sorted
without a fault exactly if keys of one name are of one group, so whether they can be sorted does not depend on their
order, and neither does the result.

Main statements: `sortNamed_isOk_iff`, `sortNamed_ok_iff_of_perm`.
-/

set_option autoImplicit false

namespace DesignProps

namespace Key

/-- The keys that a key can be compared with. -/
inductive Group
  | null
  | number
  | text
  deriving DecidableEq

def group : Key → Group
  | .null => .null
  | .bool _ => .number
  | .number _ => .number
  | .text _ => .text

theorem comparable_iff (a b : Key) : (a == b) = true ∨ (precedes? a b).isSome = true ↔ a.group = b.group := by
  rw [beq_iff]
  cases a <;> cases b <;> simp [mark, precedes?, group]

/-! ## One comparison -/

/-- Keys of one name are of one group. -/
def Alike (a b : String × Key) : Prop := a.1 = b.1 → a.2.group = b.2.group

theorem namedPrecedes_isOk_iff (a b : String × Key) : (∃ less, namedPrecedes a b = .ok less) ↔ Alike a b := by
  unfold namedPrecedes Alike
  by_cases apart : a.1 = b.1
  · rw [if_neg (not_not.2 apart), ← comparable_iff]
    by_cases same : (a.2 == b.2) = true
    · simp [same]
    · cases precedes? a.2 b.2 <;> simp [same, apart]
  · simp [apart]

/-- An earlier name, or the same name and a key of the same group. -/
def Sorted (a b : String × Key) : Prop := a.1 < b.1 ∨ (a.1 = b.1 ∧ a.2.group = b.2.group)

theorem sorted_of_follows {a b : String × Key} (follows : Sorting.Follows namedPrecedes a b) : Sorted a b := by
  rcases Sorting.lt_or_eq_or_gt a.1 b.1 with less | same | greater
  · exact Or.inl less
  · refine Or.inr ⟨same, ?_⟩
    rcases follows with answer | answer
    · exact ((namedPrecedes_isOk_iff b a).1 ⟨_, answer⟩ same.symm).symm
    · exact (namedPrecedes_isOk_iff a b).1 ⟨_, answer⟩ same
  · -- names that differ are compared without looking at the keys
    have apart : b.1 ≠ a.1 := fun same => String.lt_irrefl _ (same ▸ greater)
    rcases follows with answer | answer
    · simp [namedPrecedes, apart, greater] at answer
    · simp [namedPrecedes, apart.symm, String.lt_asymm greater] at answer

theorem sorted_trans {a b c : String × Key} (first : Sorted a b) (second : Sorted b c) : Sorted a c := by
  rcases first with ab | ⟨ab, group⟩ <;> rcases second with bc | ⟨bc, group'⟩
  · exact Or.inl (String.lt_trans ab bc)
  · exact Or.inl (bc ▸ ab)
  · exact Or.inl (ab ▸ bc)
  · exact Or.inr ⟨ab.trans bc, group.trans group'⟩

theorem alike_of_sorted {a b : String × Key} (sorted : Sorted a b) : Alike a b := by
  intro same
  rcases sorted with less | ⟨-, group⟩
  · exact absurd (same ▸ less) (String.lt_irrefl _)
  · exact group

/-! ## Whole lists -/

theorem sortNamed_isOk_iff (xs : List (String × Key)) :
    (∃ ys, sortNamed xs = .ok ys) ↔ ∀ a ∈ xs, ∀ b ∈ xs, Alike a b := by
  constructor
  · rintro ⟨ys, done⟩
    have unrefused : Sorting.refusal? namedPrecedes xs = none := by
      unfold sortNamed at done
      split at done
      · simp at done
      · next h => exact h
    obtain ⟨zs, halved⟩ := Sorting.exists_halving unrefused
    obtain ⟨perm, chain⟩ := Sorting.halving_chain halved
    have : Trans Sorted Sorted Sorted := ⟨sorted_trans⟩
    have : Std.Symm Alike := ⟨fun _ _ alike same => (alike same.symm).symm⟩
    have ordered : zs.Pairwise Sorted := List.isChain_iff_pairwise.1 (chain.imp fun _ _ => sorted_of_follows)
    have alike := (ordered.imp alike_of_sorted).forall_of_forall fun _ _ _ => rfl
    exact fun a ha b hb => alike (perm.mem_iff.2 ha) (perm.mem_iff.2 hb)
  · intro alike
    have comparable : Sorting.Comparable namedPrecedes (· ∈ xs) :=
      fun a b ha hb => (namedPrecedes_isOk_iff a b).2 (alike a ha b hb)
    rw [sortNamed, Sorting.refusal?_eq_none comparable xs fun _ inside => inside]
    exact ⟨_, rfl⟩

theorem sortNamed_ok_iff_of_perm {xs ys sorted : List (String × Key)} (perm : xs.Perm ys)
    (once : xs.Pairwise fun a b => (a.2 == b.2) = false) : sortNamed xs = .ok sorted ↔ sortNamed ys = .ok sorted := by
  have alike : (∃ zs, sortNamed xs = .ok zs) ↔ ∃ zs, sortNamed ys = .ok zs := by
    simp only [sortNamed_isOk_iff, perm.mem_iff]
  constructor
  · intro done
    obtain ⟨others, also⟩ := alike.1 ⟨_, done⟩
    rw [also, sortNamed_eq_of_perm perm once done also]
  · intro done
    obtain ⟨others, also⟩ := alike.2 ⟨_, done⟩
    rw [also, sortNamed_eq_of_perm perm once also done]

end Key

end DesignProps
