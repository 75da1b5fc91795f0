import DesignProps.OrderedMap
import Mathlib.Data.List.Forall2

/-!
# Maps that are filled in sequence

What one insertion does to the sequence of keys, to the entries of all other keys, and to every look-up.  A first
writer (`insertNew`) and a last writer (`insert`) give the same sequence of keys.

Main statements: `keys_insert` (the keys are the old ones and the new one, each at its first position),
`keys_insertNew`, `others_insert` (other entries are untouched, in place), `get?_insertAll` (a look-up asks the map put
in last first), `entries_ofList`, `forall_mem_ofList`, `Assoc.get?_of_forall₂` (look-ups in maps that are related entry
by entry), `Reordered.get?` (look-ups do not depend on the order of entries).
-/

set_option autoImplicit false

namespace DesignProps

/-! ## First positions -/

section FirstPositions
variable {α : Type} [BEq α]

/-- Items can be picked before or after repeated ones are left out, if all that count as the same are picked alike. -/
theorem filter_eraseDups {p : α → Bool} (respects : ∀ a b, (a == b) = true → p a = p b) (xs : List α) :
    xs.eraseDups.filter p = (xs.filter p).eraseDups := by
  -- the tail is filtered before it is gone through, so the induction is on the length
  induction size : xs.length using Nat.strongRecOn generalizing xs with
  | ind n ih =>
      cases xs with
      | nil => rfl
      | cons x rest =>
          have shorter : (rest.filter fun y => !y == x).length < n := by
            rw [← size]
            exact Nat.lt_succ_of_le (List.length_filter_le _ rest)
          rw [List.eraseDups_cons, List.filter_cons, List.filter_cons, ih _ shorter _ rfl, List.filter_filter]
          cases picked : p x with
          | true => simp only [if_true, List.eraseDups_cons, List.filter_filter, Bool.and_comm]
          | false =>
              have others : ∀ y ∈ rest, (p y && !y == x) = p y := by
                intro y _
                by_cases same : (y == x) = true
                · simp [respects y x same, picked]
                · simp [same]
              simp only [Bool.false_eq_true, if_false, List.filter_congr others]

variable [EquivBEq α]

theorem eraseDups_of_distinct : ∀ {xs : List α}, Assoc.Distinct xs → xs.eraseDups = xs := by
  intro xs
  induction xs with
  | nil => intro _; rfl
  | cons x rest ih =>
      intro distinct
      obtain ⟨apart, distinct⟩ := List.pairwise_cons.1 distinct
      have kept : rest.filter (fun y => !y == x) = rest := by
        refine List.filter_eq_self.2 fun y inside => ?_
        simp [BEq.symm_false (apart y inside)]
      rw [List.eraseDups_cons, kept, ih distinct]

theorem eraseDups_eraseDups_append (xs ys : List α) : (xs.eraseDups ++ ys).eraseDups = (xs ++ ys).eraseDups := by
  induction size : xs.length using Nat.strongRecOn generalizing xs ys with
  | ind n ih =>
      cases xs with
      | nil => rfl
      | cons x rest =>
          have shorter : (rest.filter fun y => !y == x).length < n := by
            rw [← size]
            exact Nat.lt_succ_of_le (List.length_filter_le _ rest)
          have respects : ∀ a b, (a == b) = true → (!a == x) = !b == x := fun a b same => by rw [BEq.congr_left same]
          rw [List.eraseDups_cons, List.cons_append, List.eraseDups_cons, List.cons_append, List.eraseDups_cons,
            List.filter_append, List.filter_append, filter_eraseDups respects, List.filter_filter]
          simp only [Bool.and_self]
          rw [ih _ shorter _ _ rfl]

/-- What follows a list counts where nothing in the list is the same. -/
theorem eraseDups_append_eq (xs ys : List α) :
    (xs ++ ys).eraseDups = xs.eraseDups ++ (ys.filter fun y => !xs.any (· == y)).eraseDups := by
  induction size : xs.length using Nat.strongRecOn generalizing xs ys with
  | ind n ih =>
      cases xs with
      | nil => simp
      | cons x rest =>
          have shorter : (rest.filter fun y => !y == x).length < n := by
            rw [← size]
            exact Nat.lt_succ_of_le (List.length_filter_le _ rest)
          have later : ∀ y ∈ ys, ((!(rest.filter fun z => !z == x).any (· == y)) && !y == x) =
              !(x :: rest).any (· == y) := by
            intro y _
            by_cases same : (y == x) = true
            · simp [same, BEq.symm same]
            · have apart : ∀ z, ((!z == x) && z == y) = (z == y) := by
                intro z
                by_cases equal : (z == y) = true
                · have other : ¬ (z == x) = true := fun h => same (BEq.trans (BEq.symm equal) h)
                  simp [equal, other]
                · simp [equal]
              have other : (x == y) = false := BEq.symm_false (Bool.eq_false_iff.2 same)
              simp [List.any_filter, apart, same, other]
          rw [List.cons_append, List.eraseDups_cons, List.filter_append, ih _ shorter _ _ rfl, List.filter_filter,
            List.filter_congr later, List.eraseDups_cons, List.cons_append]

theorem eraseDups_append_eraseDups (xs ys : List α) : (xs ++ ys.eraseDups).eraseDups = (xs ++ ys).eraseDups := by
  have once : ∀ zs : List α, zs.eraseDups.eraseDups = zs.eraseDups := by
    intro zs
    simpa using eraseDups_eraseDups_append zs []
  have respects : ∀ a b, (a == b) = true → (!xs.any (· == a)) = !xs.any (· == b) := by
    intro a b same
    simp only [BEq.congr_right same]
  rw [eraseDups_append_eq, eraseDups_append_eq xs ys, filter_eraseDups respects, once]

end FirstPositions

variable {κ ν : Type} [BEq κ]

namespace Assoc

theorem distinct_iff_nodup [LawfulBEq κ] {keys : List κ} : Distinct keys ↔ keys.Nodup := by
  simp [Distinct, List.Nodup]

@[simp] theorem putAll_nil (base : List (κ × ν)) : putAll base [] = base := rfl

theorem put_of_absent (k : κ) (v : ν) : ∀ xs : List (κ × ν), (∀ j ∈ xs.map Prod.fst, (j == k) = false) →
    put k v xs = xs ++ [(k, v)] := by
  intro xs
  induction xs with
  | nil => intro _; rfl
  | cons p rest ih =>
      intro absent
      obtain ⟨i, w⟩ := p
      obtain ⟨apart, absent⟩ := List.forall_mem_cons.1 absent
      simp only [put, apart, Bool.false_eq_true, if_false, ih absent, List.cons_append]

theorem putAll_of_distinct (pairs : List (κ × ν)) : ∀ base : List (κ × ν),
    Distinct ((base ++ pairs).map Prod.fst) → putAll base pairs = base ++ pairs := by
  induction pairs with
  | nil => intro base _; simp [putAll]
  | cons p rest ih =>
      intro base distinct
      have absent : ∀ j ∈ base.map Prod.fst, (j == p.1) = false := by
        intro j hj
        rw [List.map_append] at distinct
        exact (List.pairwise_append.1 distinct).2.2 j hj p.1 List.mem_cons_self
      have step : putAll base (p :: rest) = putAll (base ++ [p]) rest := by
        simp only [putAll, List.foldl_cons, put_of_absent p.1 p.2 base absent]
      rw [step, ih (base ++ [p]) (by simpa using distinct), List.append_assoc, List.singleton_append]

/-- A key that is apart from all of a list is not found in it, and neither is one that counts as the same. -/
theorem get?_eq_none_of_apart [EquivBEq κ] {i k : κ} {rest : List (κ × ν)}
    (apart : ∀ j ∈ rest.map Prod.fst, (i == j) = false) (same : (i == k) = true) : get? k rest = none := by
  refine (get?_eq_none_iff k rest).2 fun j inside => ?_
  rw [← BEq.congr_right same]
  exact BEq.symm_false (apart j inside)

theorem get?_putAll [EquivBEq κ] (k : κ) (pairs : List (κ × ν)) : ∀ base : List (κ × ν),
    Distinct (pairs.map Prod.fst) → get? k (putAll base pairs) = (get? k pairs).or (get? k base) := by
  induction pairs with
  | nil => intro base _; simp [putAll, get?]
  | cons p rest ih =>
      intro base distinct
      obtain ⟨apart, distinct⟩ := List.pairwise_cons.1 distinct
      have step : putAll base (p :: rest) = putAll (put p.1 p.2 base) rest := rfl
      rw [step, ih _ distinct, get?_put]
      by_cases same : (p.1 == k) = true
      · -- no later pair has this key
        simp [get?, same, get?_eq_none_of_apart apart same]
      · simp [get?, same]

theorem forall_mem_put {P : κ → Prop} {Q : ν → Prop} {k : κ} {v : ν} (key : P k) (value : Q v) :
    ∀ {xs : List (κ × ν)}, (∀ e ∈ xs, P e.1 ∧ Q e.2) → ∀ e ∈ put k v xs, P e.1 ∧ Q e.2 := by
  intro xs
  induction xs with
  | nil => simp [put, key, value]
  | cons p rest ih =>
      intro each
      obtain ⟨i, w⟩ := p
      obtain ⟨first, later⟩ := List.forall_mem_cons.1 each
      simp only [put]
      split
      · exact List.forall_mem_cons.2 ⟨⟨first.1, value⟩, later⟩
      · exact List.forall_mem_cons.2 ⟨first, ih later⟩

theorem forall_mem_putAll {P : κ → Prop} {Q : ν → Prop} (pairs : List (κ × ν)) : ∀ base : List (κ × ν),
    (∀ e ∈ base, P e.1 ∧ Q e.2) → (∀ e ∈ pairs, P e.1 ∧ Q e.2) → ∀ e ∈ putAll base pairs, P e.1 ∧ Q e.2 := by
  induction pairs with
  | nil => exact fun _ old _ => old
  | cons p rest ih =>
      intro base old new
      obtain ⟨first, later⟩ := List.forall_mem_cons.1 new
      exact ih (put p.1 p.2 base) (forall_mem_put first.1 first.2 old) later

theorem filter_put [ReflBEq κ] (k : κ) (v : ν) : ∀ xs : List (κ × ν),
    (put k v xs).filter (fun e => !e.1 == k) = xs.filter fun e => !e.1 == k := by
  intro xs
  induction xs with
  | nil => simp [put]
  | cons p rest ih =>
      obtain ⟨i, w⟩ := p
      by_cases same : (i == k) = true
      · simp [put, same]
      · simp [put, same, ih]

theorem get?_filter {p : κ → Bool} {k : κ} (respects : ∀ j, (j == k) = true → p j = p k) (kept : p k = true) :
    ∀ xs : List (κ × ν), get? k (xs.filter fun e => p e.1) = get? k xs := by
  intro xs
  induction xs with
  | nil => rfl
  | cons e rest ih =>
      obtain ⟨i, w⟩ := e
      by_cases same : (i == k) = true
      · simp [get?, same, respects i same, kept]
      · cases stays : p i with
        | true => simp [get?, same, stays, ih]
        | false => simp [get?, same, stays, ih]

theorem get?_erase_of_ne [EquivBEq κ] {k j : κ} (apart : (k == j) = false) :
    ∀ xs : List (κ × ν), get? j (erase k xs) = get? j xs := by
  intro xs
  induction xs with
  | nil => rfl
  | cons e rest ih =>
      obtain ⟨i, w⟩ := e
      by_cases same : (i == k) = true
      · have other : (i == j) = false := (BEq.congr_left same).trans apart
        simp [erase, get?, same, other]
      · simp [erase, get?, same, ih]

theorem filter_put_of_key [LawfulBEq κ] (kept : κ → Bool) (k : κ) (v : ν) : ∀ xs : List (κ × ν),
    (put k v xs).filter (fun e => kept e.1) =
      if kept k then put k v (xs.filter fun e => kept e.1) else xs.filter fun e => kept e.1 := by
  intro xs
  induction xs with
  | nil => cases stays : kept k <;> simp [put, stays]
  | cons e rest ih =>
      obtain ⟨i, w⟩ := e
      by_cases same : (i == k) = true
      · obtain rfl := eq_of_beq same
        cases stays : kept i <;> simp [put, stays]
      · cases stays : kept i with
        | true => cases new : kept k <;> simp [put, same, stays, ih, new]
        | false => simp [put, same, stays, ih]

/-- Entries that are picked by their keys can be picked before they are put in. -/
theorem filter_putAll [LawfulBEq κ] (kept : κ → Bool) (pairs : List (κ × ν)) : ∀ base : List (κ × ν),
    (putAll base pairs).filter (fun e => kept e.1) =
      putAll (base.filter fun e => kept e.1) (pairs.filter fun e => kept e.1) := by
  induction pairs with
  | nil => exact fun _ => rfl
  | cons p rest ih =>
      intro base
      have step : putAll base (p :: rest) = putAll (put p.1 p.2 base) rest := rfl
      rw [step, ih, filter_put_of_key]
      cases stays : kept p.1 <;> simp [putAll, stays]

section Related
variable {ω : Type} {R : ν → ω → Prop} {xs : List (κ × ν)} {ys : List (κ × ω)}

omit [BEq κ] in
theorem keys_of_forall₂ (related : List.Forall₂ (fun a b => a.1 = b.1) xs ys) : xs.map Prod.fst = ys.map Prod.fst := by
  induction related with
  | nil => rfl
  | cons first _ ih => rw [List.map_cons, List.map_cons, first, ih]

/-- Where entries of the same keys are related, so is what is found. -/
theorem get?_of_forall₂ (k : κ) (related : List.Forall₂ (fun a b => a.1 = b.1 ∧ R a.2 b.2) xs ys) :
    Option.Rel R (get? k xs) (get? k ys) := by
  induction related with
  | nil => exact .none
  | @cons a b _ _ first _ ih =>
      obtain ⟨i, v⟩ := a
      obtain ⟨j, w⟩ := b
      obtain ⟨rfl, holds⟩ : i = j ∧ R v w := first
      simp only [get?]
      split
      · exact .some holds
      · exact ih

end Related

end Assoc

namespace OrderedMap

/-- The entries of all other keys, in order. -/
def others (m : OrderedMap κ ν) (k : κ) : List (κ × ν) := m.entries.filter fun e => !e.1 == k

theorem others_insert [ReflBEq κ] (m : OrderedMap κ ν) (k : κ) (v : ν) : (m.insert k v).others k = m.others k :=
  Assoc.filter_put k v m.entries

theorem others_insertNew [ReflBEq κ] (m : OrderedMap κ ν) (k : κ) (v : ν) :
    (m.insertNew k v).others k = m.others k := by
  unfold insertNew
  split
  · rfl
  · exact others_insert m k v

theorem get?_insertNew [EquivBEq κ] (m : OrderedMap κ ν) (k : κ) (v : ν) (j : κ) :
    (m.insertNew k v).get? j = (m.get? j).or (if k == j then some v else none) := by
  unfold insertNew contains
  cases found : m.get? k with
  | none =>
      simp only [Option.isSome_none, Bool.false_eq_true, if_false, get?_insert]
      by_cases same : (k == j) = true
      · simp [same, ← get?_congr m same, found]
      · simp [same]
  | some w =>
      by_cases same : (k == j) = true
      · simp [same, ← get?_congr m same, found]
      · simp [same]

theorem get?_insertAll [EquivBEq κ] (m n : OrderedMap κ ν) (k : κ) :
    (m.insertAll n.entries).get? k = (n.get? k).or (m.get? k) :=
  Assoc.get?_putAll k n.entries m.entries n.distinct

theorem get?_filter (m : OrderedMap κ ν) {p : κ → Bool} {k : κ} (respects : ∀ j, (j == k) = true → p j = p k)
    (kept : p k = true) : (m.filter fun j _ => p j).get? k = m.get? k :=
  Assoc.get?_filter respects kept m.entries

theorem get?_erase_of_ne [EquivBEq κ] (m : OrderedMap κ ν) {k j : κ} (apart : (k == j) = false) :
    (m.erase k).get? j = m.get? j :=
  Assoc.get?_erase_of_ne apart m.entries

theorem eraseDups_keys [EquivBEq κ] (m : OrderedMap κ ν) : m.keys.eraseDups = m.keys :=
  eraseDups_of_distinct m.distinct

theorem keys_insert [EquivBEq κ] (m : OrderedMap κ ν) (k : κ) (v : ν) :
    (m.insert k v).keys = (m.keys ++ [k]).eraseDups := by
  rw [eraseDups_append_eq, eraseDups_keys, List.filter_singleton, ← contains_eq_any]
  cases known : m.contains k with
  | true => simp [keys_insert_of_contains m k v known]
  | false => simp [keys_insert_of_not_contains m k v known, List.eraseDups_cons]

theorem keys_insertNew [EquivBEq κ] (m : OrderedMap κ ν) (k : κ) (v : ν) :
    (m.insertNew k v).keys = (m.keys ++ [k]).eraseDups := by
  unfold insertNew
  split
  · next known => rw [← keys_insert m k v, keys_insert_of_contains m k v known]
  · exact keys_insert m k v

theorem entries_ofList (pairs : List (κ × ν)) (distinct : Assoc.Distinct (pairs.map Prod.fst)) :
    (ofList pairs).entries = pairs :=
  Assoc.putAll_of_distinct pairs [] distinct

/-- What holds of all keys and values of a list holds of those of its map. -/
theorem forall_mem_ofList {P : κ → Prop} {Q : ν → Prop} {pairs : List (κ × ν)} (each : ∀ e ∈ pairs, P e.1 ∧ Q e.2) :
    ∀ e ∈ (ofList pairs).entries, P e.1 ∧ Q e.2 :=
  Assoc.forall_mem_putAll pairs [] (by simp) each

/-! ### Maps that differ in order -/

/-- The same entries, perhaps in another order. -/
def Reordered (m n : OrderedMap κ ν) : Prop := m.entries.Perm n.entries

namespace Reordered

theorem refl (m : OrderedMap κ ν) : m.Reordered m := List.Perm.refl _

theorem symm {m n : OrderedMap κ ν} (reordered : m.Reordered n) : n.Reordered m := List.Perm.symm reordered

theorem trans {l m n : OrderedMap κ ν} (first : l.Reordered m) (second : m.Reordered n) : l.Reordered n :=
  List.Perm.trans first second

theorem keys {m n : OrderedMap κ ν} (reordered : m.Reordered n) : m.keys.Perm n.keys := List.Perm.map Prod.fst reordered

theorem get? [EquivBEq κ] {m n : OrderedMap κ ν} (reordered : m.Reordered n) (k : κ) : m.get? k = n.get? k := by
  cases found : m.get? k with
  | none =>
      refine ((n.get?_eq_none_iff k).2 fun j inside => ?_).symm
      exact (m.get?_eq_none_iff k).1 found j (reordered.keys.mem_iff.2 inside)
  | some v =>
      obtain ⟨j, same, inside⟩ := Assoc.exists_mem_of_get? k v m.entries found
      rw [← n.get?_congr same, n.get?_of_mem_entries (List.Perm.mem_iff reordered |>.1 inside)]

end Reordered

end OrderedMap

end DesignProps
