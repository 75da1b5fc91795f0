import DesignProps.Sorting.Halving
import Mathlib.Data.List.Chain

/-!
# What sorting by halving compares

A comparison may be refused.  When none is on the way, the list that comes out holds the same elements, and each two
neighbours in it have been compared and stand in order.  So a list is sorted without a refusal only where every two
elements that end up side by side can be compared.

Main statements: `search_place` (the place that is found has been compared on both sides), `halving_chain`.
-/

set_option autoImplicit false

namespace DesignProps

namespace Sorting

variable {α ε : Type} {lt : α → α → Except ε Bool}

/-- The two were compared, and the first one may stand before the second one. -/
def Follows (lt : α → α → Except ε Bool) (a b : α) : Prop := lt b a = .ok false ∨ lt a b = .ok true

/-! ## The first run -/

theorem run_chain (falling : Bool) : ∀ (xs : List α) (last : α) (found : List α × List α),
    run lt falling last xs = .ok found →
      xs = found.1 ++ found.2 ∧ (last :: found.1).IsChain fun a b => lt b a = .ok falling := by
  intro xs
  induction xs with
  | nil =>
      intro last found done
      obtain rfl := Except.ok.inj done
      exact ⟨rfl, List.isChain_singleton _⟩
  | cons a rest ih =>
      intro last found done
      simp only [run] at done
      split at done
      · simp at done
      · next less answer =>
          split at done
          · next goes =>
              cases later : run lt falling a rest with
              | error e => simp [later, Except.map] at done
              | ok more =>
                  rw [later] at done
                  obtain rfl := Except.ok.inj done
                  obtain ⟨split, chain⟩ := ih a more later
                  exact ⟨by simp [split], List.isChain_cons_cons.2 ⟨goes ▸ answer, chain⟩⟩
          · obtain rfl := Except.ok.inj done
            exact ⟨rfl, List.isChain_singleton _⟩

theorem firstRun_chain {xs : List α} {found : List α × List α} (done : firstRun lt xs = .ok found) :
    (found.1 ++ found.2).Perm xs ∧ found.1.IsChain (Follows lt) := by
  match xs, done with
  | [], done =>
      obtain rfl := Except.ok.inj done
      exact ⟨List.Perm.refl _, List.isChain_nil⟩
  | [a], done =>
      obtain rfl := Except.ok.inj done
      exact ⟨List.Perm.refl _, List.isChain_singleton a⟩
  | a :: b :: rest, done =>
      simp only [firstRun] at done
      split at done
      · simp at done
      · next falling answer =>
          cases later : run lt falling b rest with
          | error e => simp [later, Except.map] at done
          | ok more =>
              rw [later] at done
              obtain rfl := Except.ok.inj done
              obtain ⟨rfl, chain⟩ := run_chain falling rest b more later
              have whole : (a :: b :: more.1).IsChain fun a b => lt b a = .ok falling :=
                List.isChain_cons_cons.2 ⟨answer, chain⟩
              cases falling with
              | false => exact ⟨List.Perm.refl _, whole.imp fun _ _ compared => Or.inl compared⟩
              | true =>
                  -- a falling run is turned round, and with it every comparison
                  refine ⟨(List.reverse_perm _).append_right more.2, ?_⟩
                  exact (List.isChain_reverse.2 whole).imp fun _ _ compared => Or.inr compared

/-! ## Later elements -/

/-- An element was compared with what stands on both sides of a place. -/
structure Fits (lt : α → α → Except ε Bool) (a : α) (ordered : List α) (low high : Nat) : Prop where
  bounded : low ≤ high ∧ high ≤ ordered.length
  below : ∀ b, 0 < low → ordered[low - 1]? = some b → lt a b = .ok false
  above : ∀ b, ordered[high]? = some b → lt a b = .ok true

theorem search_place {a : α} {ordered : List α} {low high place : Nat} (fits : Fits lt a ordered low high)
    (done : search lt a ordered low high = .ok place) : Fits lt a ordered place place := by
  fun_induction search lt a ordered low high with
  | case1 low high between absent =>
      have := fits.bounded
      have : ordered.length ≤ (low + high) / 2 := List.getElem?_eq_none_iff.1 absent
      omega
  | case2 low high between b found e refused => simp at done
  | case3 low high between b found answer ih =>
      refine ih ⟨?_, fits.below, ?_⟩ done
      · have := fits.bounded
        omega
      · intro c at_
        rw [found] at at_
        exact Option.some.inj at_ ▸ answer
  | case4 low high between b found answer ih =>
      refine ih ⟨?_, ?_, fits.above⟩ done
      · have := fits.bounded
        omega
      · intro c _ at_
        rw [Nat.add_sub_cancel, found] at at_
        exact Option.some.inj at_ ▸ answer
  | case5 low high met =>
      obtain rfl := Except.ok.inj done
      have equal : low = high := by
        have := fits.bounded
        omega
      exact ⟨⟨Nat.le_refl _, equal ▸ fits.bounded.2⟩, fits.below, equal ▸ fits.above⟩

theorem fits_whole (a : α) (ordered : List α) : Fits lt a ordered 0 ordered.length :=
  ⟨⟨Nat.zero_le _, Nat.le_refl _⟩, fun _ positive => absurd positive (Nat.lt_irrefl 0), by simp⟩

theorem insert_chain {a : α} {ordered : List α} {place : Nat} (chain : ordered.IsChain (Follows lt))
    (fits : Fits lt a ordered place place) :
    (ordered.take place ++ a :: ordered.drop place).IsChain (Follows lt) := by
  refine List.isChain_append.2 ⟨chain.take place, List.isChain_cons.2 ⟨?after, chain.drop place⟩, ?before⟩
  case after =>
    intro b first
    rw [List.head?_drop] at first
    exact Or.inr (fits.above b first)
  case before =>
    intro b last c first
    obtain rfl := Option.some.inj first
    rw [List.getLast?_take] at last
    split at last
    · simp at last
    · next positive =>
        have bound := fits.bounded
        cases at_ : ordered[place - 1]? with
        | none =>
            have := List.getElem?_eq_none_iff.1 at_
            omega
        | some d =>
            rw [at_, Option.some_or] at last
            obtain rfl := Option.some.inj last
            exact Or.inl (fits.below d (Nat.pos_of_ne_zero positive) at_)

theorem insertAll_chain : ∀ (xs ordered done : List α), ordered.IsChain (Follows lt) →
    insertAll lt ordered xs = .ok done → done.Perm (ordered ++ xs) ∧ done.IsChain (Follows lt) := by
  intro xs
  induction xs with
  | nil =>
      intro ordered done chain inserted
      obtain rfl := Except.ok.inj inserted
      exact ⟨by simp, chain⟩
  | cons a rest ih =>
      intro ordered done chain inserted
      simp only [insertAll] at inserted
      split at inserted
      · simp at inserted
      · next place found =>
          obtain ⟨same, longer⟩ := ih _ done (insert_chain chain (search_place (fits_whole a ordered) found)) inserted
          refine ⟨same.trans ?_, longer⟩
          have moved : (ordered.take place ++ a :: ordered.drop place).Perm (ordered ++ [a]) := by
            refine List.perm_middle.trans ?_
            rw [List.take_append_drop]
            exact (List.perm_append_singleton a ordered).symm
          simpa using moved.append_right rest

/-! ## The whole list -/

theorem halving_chain {xs ys : List α} (done : halving lt xs = .ok ys) : ys.Perm xs ∧ ys.IsChain (Follows lt) := by
  unfold halving at done
  split at done
  · simp at done
  · next ordered rest first =>
      obtain ⟨same, chain⟩ := firstRun_chain first
      obtain ⟨more, longer⟩ := insertAll_chain rest ordered ys chain done
      exact ⟨more.trans same, longer⟩

theorem exists_halving {xs : List α} (unrefused : refusal? lt xs = none) : ∃ ys, halving lt xs = .ok ys := by
  unfold refusal? at unrefused
  split at unrefused
  · next ys done => exact ⟨ys, done⟩
  · simp at unrefused

end Sorting

end DesignProps
