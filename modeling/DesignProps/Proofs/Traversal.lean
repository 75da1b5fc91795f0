import DesignProps.Fault
import Mathlib.Data.List.Forall2

/-!
# Traversals that may fail

A traversal without a fault gives the results of its items, one by one and in order, and every list of such results is
what it gives.

Main statements: `bind_eq_ok_iff`, `map_eq_ok_iff`, `cases_of_map_eq`, `mapM_eq_ok_iff`, `mapM_isOk` (a traversal
succeeds where every item does), `mapM_ok_congr` (traversals by functions that succeed alike succeed alike),
`mapM_of_forall₂`, `exists_forall₂`.
-/

set_option autoImplicit false

namespace DesignProps

variable {α β : Type}

theorem bind_eq_ok_iff {x : Except Fault α} {f : α → Except Fault β} {b : β} :
    x >>= f = .ok b ↔ ∃ a, x = .ok a ∧ f a = .ok b := by
  cases x <;> simp [bind, Except.bind]

theorem map_eq_ok_iff {ε : Type} {x : Except ε α} {f : α → β} {b : β} :
    x.map f = .ok b ↔ ∃ a, x = .ok a ∧ f a = b := by
  cases x <;> simp [Except.map]

/-- Results that are mapped alike are the same fault, or both are there. -/
theorem cases_of_map_eq {γ ε : Type} {x : Except ε α} {y : Except ε β} {f : α → γ} {g : β → γ}
    (same : x.map f = y.map g) :
    (∃ e, x = .error e ∧ y = .error e) ∨ ∃ a b, x = .ok a ∧ y = .ok b ∧ f a = g b := by
  cases x with
  | error e =>
      cases y with
      | error e' => exact Or.inl ⟨e, rfl, congrArg Except.error (Except.error.inj same).symm⟩
      | ok b => cases same
  | ok a =>
      cases y with
      | error e => cases same
      | ok b => exact Or.inr ⟨a, b, rfl, rfl, Except.ok.inj same⟩

theorem map_of_ok {p : α → β} {a : α} : (Except.ok a : Except Fault α).map p = .ok (p a) := rfl

theorem map_of_bind {γ : Type} {x : Except Fault α} {f : α → Except Fault β} {p : β → γ} :
    (x >>= f).map p = x >>= fun a => (f a).map p := by
  cases x <;> rfl

theorem bind_of_map {γ : Type} {x : Except Fault α} {p : α → β} {f : β → Except Fault γ} :
    x.map p >>= f = x >>= fun a => f (p a) := by
  cases x <;> rfl

theorem exists_map_eq_ok_iff {ε : Type} {x : Except ε α} {f : α → β} : (∃ b, x.map f = .ok b) ↔ ∃ a, x = .ok a := by
  simp [map_eq_ok_iff]

theorem mapM_eq_ok_iff {f : α → Except Fault β} : ∀ {xs : List α} {ys : List β},
    xs.mapM f = .ok ys ↔ List.Forall₂ (fun x y => f x = .ok y) xs ys := by
  intro xs
  induction xs with
  | nil =>
      intro ys
      rw [List.forall₂_nil_left_iff, List.mapM_nil]
      exact ⟨fun run => (Except.ok.inj run).symm, fun empty => congrArg Except.ok empty.symm⟩
  | cons x rest ih =>
      intro ys
      rw [List.mapM_cons]
      simp only [bind_eq_ok_iff, ih, pure, Except.pure, Except.ok.injEq, List.forall₂_cons_left_iff]
      constructor
      · rintro ⟨y, first, zs, later, rfl⟩
        exact ⟨y, zs, first, later, rfl⟩
      · rintro ⟨y, zs, first, later, rfl⟩
        exact ⟨y, first, zs, later, rfl⟩

/-- A traversal succeeds where every item does, and what holds of the results of the items holds of its own. -/
theorem mapM_isOk_of_forall {Q : β → Prop} {f : α → Except Fault β} {xs : List α}
    (each : ∀ x ∈ xs, ∃ y, f x = .ok y ∧ Q y) : ∃ ys, xs.mapM f = .ok ys ∧ ∀ y ∈ ys, Q y := by
  simp only [mapM_eq_ok_iff]
  induction xs with
  | nil => exact ⟨[], .nil, by simp⟩
  | cons x rest ih =>
      obtain ⟨⟨y, now, holds⟩, later⟩ := List.forall_mem_cons.1 each
      obtain ⟨ys, done, all⟩ := ih later
      exact ⟨y :: ys, .cons now done, List.forall_mem_cons.2 ⟨holds, all⟩⟩

theorem mapM_isOk {f : α → Except Fault β} {xs : List α} (each : ∀ x ∈ xs, ∃ y, f x = .ok y) :
    ∃ ys, xs.mapM f = .ok ys := by
  have unconditionally : ∀ x ∈ xs, ∃ y, f x = .ok y ∧ True := by simpa using each
  obtain ⟨ys, done, -⟩ := mapM_isOk_of_forall unconditionally
  exact ⟨ys, done⟩

theorem mapM_ok_congr {f g : α → Except Fault β} {xs : List α} {ys : List β}
    (alike : ∀ x ∈ xs, ∀ y, f x = .ok y ↔ g x = .ok y) : xs.mapM f = .ok ys ↔ xs.mapM g = .ok ys := by
  rw [mapM_eq_ok_iff, mapM_eq_ok_iff]
  induction xs generalizing ys with
  | nil => simp only [List.forall₂_nil_left_iff]
  | cons x rest ih =>
      obtain ⟨now, later⟩ := List.forall_mem_cons.1 alike
      simp only [List.forall₂_cons_left_iff, now, ih later]

/-- Traversals of two lists agree where they do item by item. -/
theorem mapM_of_forall₂ {γ : Type} {f : α → Except Fault β} {g : γ → Except Fault β} {xs : List α} {ys : List γ}
    (alike : List.Forall₂ (fun x y => f x = g y) xs ys) : xs.mapM f = ys.mapM g := by
  induction alike with
  | nil => rfl
  | cons first _ ih => rw [List.mapM_cons, List.mapM_cons, first, ih]

/-- Two lists are mapped to the same one where their items are, one by one. -/
theorem map_eq_of_forall₂ {γ δ : Type} {f : α → δ} {g : γ → δ} {xs : List α} {ys : List γ}
    (alike : List.Forall₂ (fun x y => f x = g y) xs ys) : xs.map f = ys.map g := by
  rwa [← List.forall₂_eq_eq_eq, List.forall₂_map_left_iff, List.forall₂_map_right_iff]

theorem mapM_congr {f g : α → Except Fault β} {xs : List α} (alike : ∀ x ∈ xs, f x = g x) : xs.mapM f = xs.mapM g :=
  mapM_of_forall₂ (List.forall₂_same.2 alike)

/-! ## Related lists -/

section Related
variable {R : α → β → Prop} {xs : List α} {ys : List β}

theorem exists_related_left (related : List.Forall₂ R xs ys) : ∀ x ∈ xs, ∃ y ∈ ys, R x y := by
  induction related with
  | nil => simp
  | @cons a b as bs first _ ih =>
      intro x inside
      rcases List.mem_cons.1 inside with rfl | inside
      · exact ⟨b, List.mem_cons_self, first⟩
      · obtain ⟨y, found, holds⟩ := ih x inside
        exact ⟨y, List.mem_cons_of_mem b found, holds⟩

theorem exists_related_right (related : List.Forall₂ R xs ys) : ∀ y ∈ ys, ∃ x ∈ xs, R x y :=
  exists_related_left related.flip

/-- Related lists have related items at the same positions. -/
theorem getElem?_of_forall₂ (related : List.Forall₂ R xs ys) :
    ∀ i : Nat, (∀ x, xs[i]? = some x → ∃ y, ys[i]? = some y ∧ R x y) ∧
      ∀ y, ys[i]? = some y → ∃ x, xs[i]? = some x ∧ R x y := by
  induction related with
  | nil => simp
  | cons first _ ih =>
      intro i
      cases i with
      | zero => simpa using first
      | succ i => simpa using ih i

/-- Where related items go with items that can be matched, so do the lists. -/
theorem exists_forall₂ {γ δ : Type} {S : α → γ → Prop} {P : β → δ → Prop} {Q : γ → δ → Prop}
    (first : List.Forall₂ R xs ys) : ∀ {zs : List γ}, List.Forall₂ S xs zs →
      (∀ x y z, z ∈ zs → R x y → S x z → ∃ w, P y w ∧ Q z w) → ∃ ws, List.Forall₂ P ys ws ∧ List.Forall₂ Q zs ws := by
  induction first with
  | nil =>
      intro zs second _
      cases second
      exact ⟨[], .nil, .nil⟩
  | cons now _ ih =>
      intro zs second each
      cases second with
      | cons also later =>
          obtain ⟨w, p, q⟩ := each _ _ _ List.mem_cons_self now also
          obtain ⟨ws, ps, qs⟩ := ih later fun x y z inside => each x y z (List.mem_cons_of_mem _ inside)
          exact ⟨w :: ws, .cons p ps, .cons q qs⟩

end Related

end DesignProps
