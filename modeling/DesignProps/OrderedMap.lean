/-!
# Insertion-ordered maps

`Assoc` holds the operations on bare lists of pairs: the first pair of a key counts, and `put` overwrites in
place or appends.  `OrderedMap` is such a list in which no key occurs twice.  Keys are told apart by `==`, which need
not be equality: an overwritten entry keeps the key that came in first.

Main statements: `get?_insert` (an insertion answers for its own key and no other), `keys_insert_of_contains` and
`keys_insert_of_not_contains` (overwriting keeps every position, a new key goes last), `mem_entries_iff` (where `==` is
equality, an entry is listed exactly when it is found).
-/

set_option autoImplicit false

namespace DesignProps

variable {κ ν ω : Type} [BEq κ]

/-! ## Lists of pairs -/

namespace Assoc

def get? (k : κ) : List (κ × ν) → Option ν
  | [] => none
  | (j, v) :: rest => if j == k then some v else get? k rest

def put (k : κ) (v : ν) : List (κ × ν) → List (κ × ν)
  | [] => [(k, v)]
  | (j, w) :: rest => if j == k then (j, v) :: rest else (j, w) :: put k v rest

def erase (k : κ) : List (κ × ν) → List (κ × ν)
  | [] => []
  | (j, w) :: rest => if j == k then rest else (j, w) :: erase k rest

/-- Puts pairs one after the other: a repeated key keeps its first position and its last value. -/
def putAll (base : List (κ × ν)) (pairs : List (κ × ν)) : List (κ × ν) :=
  pairs.foldl (fun acc p => put p.1 p.2 acc) base

/-- No two keys count as the same. -/
def Distinct (keys : List κ) : Prop := keys.Pairwise fun a b => (a == b) = false

theorem get?_congr [EquivBEq κ] {j k : κ} (h : (j == k) = true) : ∀ xs : List (κ × ν), get? j xs = get? k xs := by
  intro xs
  induction xs with
  | nil => rfl
  | cons p rest ih => simp only [get?, BEq.congr_right h, ih]

theorem get?_put [EquivBEq κ] (k : κ) (v : ν) (j : κ) : ∀ xs : List (κ × ν),
    get? j (put k v xs) = if k == j then some v else get? j xs := by
  intro xs
  induction xs with
  | nil => simp [put, get?]
  | cons p rest ih =>
      obtain ⟨i, w⟩ := p
      by_cases hik : (i == k) = true
      · have same : (i == j) = (k == j) := BEq.congr_left hik
        by_cases hkj : (k == j) = true <;> simp [put, get?, hik, same, hkj]
      · by_cases hij : (i == j) = true
        · have apart : ¬ (k == j) = true := fun h => hik (BEq.trans hij (BEq.symm h))
          simp [put, get?, hik, hij, apart]
        · simp [put, get?, hik, hij, ih]

theorem keys_put (k : κ) (v : ν) : ∀ xs : List (κ × ν),
    (put k v xs).map Prod.fst =
      if (xs.map Prod.fst).any (· == k) then xs.map Prod.fst else xs.map Prod.fst ++ [k] := by
  intro xs
  induction xs with
  | nil => simp [put]
  | cons p rest ih =>
      obtain ⟨i, w⟩ := p
      by_cases hik : (i == k) = true
      · simp [put, hik]
      · have apart : (i == k) = false := Bool.eq_false_iff.2 hik
        simp only [put, apart, Bool.false_eq_true, if_false, List.map_cons, ih, List.any_cons, Bool.false_or]
        split <;> rfl

theorem get?_eq_none_iff (k : κ) : ∀ xs : List (κ × ν),
    get? k xs = none ↔ ∀ j ∈ xs.map Prod.fst, (j == k) = false := by
  intro xs
  induction xs with
  | nil => simp [get?]
  | cons p rest ih =>
      obtain ⟨i, w⟩ := p
      by_cases hik : (i == k) = true
      · simp [get?, hik]
      · have apart : (i == k) = false := Bool.eq_false_iff.2 hik
        simp only [get?, apart, Bool.false_eq_true, if_false, ih, List.map_cons, List.forall_mem_cons, true_and]

theorem exists_mem_of_get? (k : κ) (v : ν) : ∀ xs : List (κ × ν), get? k xs = some v →
    ∃ j, (j == k) = true ∧ (j, v) ∈ xs := by
  intro xs
  induction xs with
  | nil => simp [get?]
  | cons p rest ih =>
      obtain ⟨i, w⟩ := p
      intro h
      by_cases hik : (i == k) = true
      · simp only [get?, if_pos hik, Option.some.injEq] at h
        exact ⟨i, hik, h ▸ List.mem_cons_self⟩
      · simp only [get?, if_neg hik] at h
        obtain ⟨j, same, inside⟩ := ih h
        exact ⟨j, same, List.mem_cons_of_mem _ inside⟩

theorem get?_of_mem [EquivBEq κ] (k : κ) (v : ν) : ∀ xs : List (κ × ν), Distinct (xs.map Prod.fst) →
    (k, v) ∈ xs → get? k xs = some v := by
  intro xs
  induction xs with
  | nil => simp
  | cons p rest ih =>
      obtain ⟨i, w⟩ := p
      intro hd hm
      obtain ⟨apart, hd⟩ := List.pairwise_cons.1 hd
      rcases List.mem_cons.1 hm with h | h
      · obtain ⟨rfl, rfl⟩ := Prod.mk.injEq .. ▸ h
        simp [get?]
      · have : (i == k) = false := apart k (List.mem_map.2 ⟨_, h, rfl⟩)
        simp [get?, this, ih hd h]

theorem keys_erase_sublist (k : κ) : ∀ xs : List (κ × ν),
    ((erase k xs).map Prod.fst).Sublist (xs.map Prod.fst) := by
  intro xs
  induction xs with
  | nil => exact List.Sublist.slnil
  | cons p rest ih =>
      obtain ⟨i, w⟩ := p
      by_cases hik : (i == k) = true
      · simp [erase, hik]
      · simpa [erase, hik] using ih

theorem distinct_put (k : κ) (v : ν) {xs : List (κ × ν)} (h : Distinct (xs.map Prod.fst)) :
    Distinct ((put k v xs).map Prod.fst) := by
  rw [keys_put]
  split
  · exact h
  · next absent =>
      refine List.pairwise_append.2 ⟨h, List.pairwise_singleton _ _, ?_⟩
      intro a ha b hb
      rw [List.mem_singleton.1 hb]
      exact Bool.eq_false_iff.2 fun e => absent (List.any_eq_true.2 ⟨a, ha, e⟩)

theorem distinct_putAll (pairs : List (κ × ν)) : ∀ base : List (κ × ν),
    Distinct (base.map Prod.fst) → Distinct ((putAll base pairs).map Prod.fst) := by
  induction pairs with
  | nil => exact fun _ h => h
  | cons p rest ih => exact fun base h => ih _ (distinct_put p.1 p.2 h)

end Assoc

/-! ## Maps -/

/-- Entries in the order in which their keys first came in; no key occurs twice. -/
@[ext]
structure OrderedMap (κ ν : Type) [BEq κ] where
  entries : List (κ × ν)
  distinct : Assoc.Distinct (entries.map Prod.fst)

namespace OrderedMap

instance [DecidableEq κ] [DecidableEq ν] : DecidableEq (OrderedMap κ ν) := fun a b =>
  if h : a.entries = b.entries then isTrue (OrderedMap.ext h) else isFalse fun e => h (congrArg _ e)

def empty : OrderedMap κ ν := ⟨[], List.Pairwise.nil⟩

instance : Inhabited (OrderedMap κ ν) := ⟨empty⟩

def keys (m : OrderedMap κ ν) : List κ := m.entries.map Prod.fst

def values (m : OrderedMap κ ν) : List ν := m.entries.map Prod.snd

def size (m : OrderedMap κ ν) : Nat := m.entries.length

def isEmpty (m : OrderedMap κ ν) : Bool := m.entries.isEmpty

def get? (m : OrderedMap κ ν) (k : κ) : Option ν := Assoc.get? k m.entries

def contains (m : OrderedMap κ ν) (k : κ) : Bool := (m.get? k).isSome

/-- Overwrites in place, or appends a new key. -/
def insert (m : OrderedMap κ ν) (k : κ) (v : ν) : OrderedMap κ ν :=
  ⟨Assoc.put k v m.entries, Assoc.distinct_put k v m.distinct⟩

/-- Keeps an entry that is already there. -/
def insertNew (m : OrderedMap κ ν) (k : κ) (v : ν) : OrderedMap κ ν :=
  if m.contains k then m else m.insert k v

def erase (m : OrderedMap κ ν) (k : κ) : OrderedMap κ ν :=
  ⟨Assoc.erase k m.entries, List.Pairwise.sublist (Assoc.keys_erase_sublist k m.entries) m.distinct⟩

def insertAll (m : OrderedMap κ ν) (pairs : List (κ × ν)) : OrderedMap κ ν :=
  ⟨Assoc.putAll m.entries pairs, Assoc.distinct_putAll pairs m.entries m.distinct⟩

def ofList (pairs : List (κ × ν)) : OrderedMap κ ν := empty.insertAll pairs

theorem distinct_filter (p : κ × ν → Bool) (m : OrderedMap κ ν) :
    Assoc.Distinct ((m.entries.filter p).map Prod.fst) :=
  List.Pairwise.sublist (List.filter_sublist.map Prod.fst) m.distinct

def filter (p : κ → ν → Bool) (m : OrderedMap κ ν) : OrderedMap κ ν :=
  ⟨m.entries.filter fun e => p e.1 e.2, distinct_filter _ m⟩

def mapValues (f : κ → ν → ω) (m : OrderedMap κ ν) : OrderedMap κ ω :=
  ⟨m.entries.map fun e => (e.1, f e.1 e.2), by
    simpa [List.map_map, Function.comp_def] using m.distinct⟩

/-! ### What the operations do to the entries -/

@[simp] theorem entries_empty : (empty : OrderedMap κ ν).entries = [] := rfl

@[simp] theorem get?_empty (k : κ) : (empty : OrderedMap κ ν).get? k = none := rfl

theorem get?_insert [EquivBEq κ] (m : OrderedMap κ ν) (k : κ) (v : ν) (j : κ) :
    (m.insert k v).get? j = if k == j then some v else m.get? j :=
  Assoc.get?_put k v j m.entries

theorem get?_congr [EquivBEq κ] (m : OrderedMap κ ν) {j k : κ} (h : (j == k) = true) : m.get? j = m.get? k :=
  Assoc.get?_congr h m.entries

theorem get?_eq_none_iff (m : OrderedMap κ ν) (k : κ) :
    m.get? k = none ↔ ∀ j ∈ m.keys, (j == k) = false :=
  Assoc.get?_eq_none_iff k m.entries

theorem contains_eq_any (m : OrderedMap κ ν) (k : κ) : m.contains k = m.keys.any (· == k) := by
  cases h : m.get? k with
  | none =>
      have absent : m.keys.any (· == k) = false :=
        List.any_eq_false.2 fun j hj e => by simp [(m.get?_eq_none_iff k).1 h j hj] at e
      simp [contains, h, absent]
  | some v =>
      obtain ⟨j, same, inside⟩ := Assoc.exists_mem_of_get? k v m.entries h
      have present : m.keys.any (· == k) = true := List.any_eq_true.2 ⟨j, List.mem_map.2 ⟨_, inside, rfl⟩, same⟩
      simp [contains, h, present]

theorem keys_insert_of_contains (m : OrderedMap κ ν) (k : κ) (v : ν) (h : m.contains k = true) :
    (m.insert k v).keys = m.keys :=
  (Assoc.keys_put k v m.entries).trans (if_pos (m.contains_eq_any k ▸ h))

theorem keys_insert_of_not_contains (m : OrderedMap κ ν) (k : κ) (v : ν) (h : m.contains k = false) :
    (m.insert k v).keys = m.keys ++ [k] :=
  (Assoc.keys_put k v m.entries).trans
    (if_neg fun e => Bool.false_ne_true (h.symm.trans ((m.contains_eq_any k).trans e)))

theorem get?_of_mem_entries [EquivBEq κ] (m : OrderedMap κ ν) {k : κ} {v : ν} (h : (k, v) ∈ m.entries) :
    m.get? k = some v :=
  Assoc.get?_of_mem k v m.entries m.distinct h

/-! ### Keys that are told apart by equality -/

theorem contains_iff [LawfulBEq κ] (m : OrderedMap κ ν) (k : κ) : m.contains k = true ↔ k ∈ m.keys := by
  simp [contains_eq_any, List.any_eq_true]

theorem mem_entries_iff [LawfulBEq κ] (m : OrderedMap κ ν) (k : κ) (v : ν) :
    (k, v) ∈ m.entries ↔ m.get? k = some v := by
  refine ⟨m.get?_of_mem_entries, fun h => ?_⟩
  obtain ⟨j, same, inside⟩ := Assoc.exists_mem_of_get? k v m.entries h
  exact eq_of_beq same ▸ inside

theorem nodup_keys [LawfulBEq κ] (m : OrderedMap κ ν) : m.keys.Nodup :=
  List.Pairwise.imp (fun h => by simpa using h) m.distinct

end OrderedMap

end DesignProps
