import DesignProps.Proofs.OrderedMap

/-!
# Merged maps

`mergeWith` puts the entries of one map into another one.  A key that both have keeps its first position, and its value
is made of the two; a new key goes last.  A map is told from its keys in order and from what it answers, so what is
known of the way two values are put together carries over to maps, order included.

Main statements: `get?_mergeWith`, `keys_mergeWith`, `ext_get?`, `mergeWith_assoc`, `mergeWith_self`,
`get?_mergeWith_comm`, `Assoc.putAll_assoc` (layers of overwritten entries).
-/

set_option autoImplicit false

namespace DesignProps

variable {κ ν : Type} [BEq κ]

namespace Assoc

variable [EquivBEq κ]

theorem ext_get? : ∀ {xs ys : List (κ × ν)}, Distinct (xs.map Prod.fst) → xs.map Prod.fst = ys.map Prod.fst →
    (∀ k, get? k xs = get? k ys) → xs = ys := by
  intro xs
  induction xs with
  | nil =>
      intro ys _ sameKeys _
      exact (List.map_eq_nil_iff.1 sameKeys.symm).symm
  | cons x rest ih =>
      intro ys distinct sameKeys sameValues
      obtain ⟨k, v⟩ := x
      cases ys with
      | nil => simp at sameKeys
      | cons y others =>
          obtain ⟨j, w⟩ := y
          obtain ⟨rfl, laterKeys⟩ : k = j ∧ rest.map Prod.fst = others.map Prod.fst := by simpa using sameKeys
          obtain ⟨apart, distinct⟩ := List.pairwise_cons.1 distinct
          obtain rfl : v = w := by simpa [get?] using sameValues k
          have later : ∀ i, get? i rest = get? i others := by
            intro i
            by_cases same : (k == i) = true
            · -- no later entry has the first key
              rw [get?_eq_none_of_apart apart same, get?_eq_none_of_apart (laterKeys ▸ apart) same]
            · simpa [get?, same] using sameValues i
          rw [ih distinct laterKeys later]

end Assoc

namespace OrderedMap

/-- A map is told from its keys in order and from what it answers. -/
theorem ext_get? [EquivBEq κ] {m n : OrderedMap κ ν} (sameKeys : m.keys = n.keys)
    (sameValues : ∀ k, m.get? k = n.get? k) : m = n :=
  OrderedMap.ext (Assoc.ext_get? m.distinct sameKeys sameValues)

/-- Puts one entry into a map; where its key is known, `both` makes the value of the old one and the new one. -/
def insertWith (both : ν → ν → ν) (m : OrderedMap κ ν) (e : κ × ν) : OrderedMap κ ν :=
  m.insert e.1 (match m.get? e.1 with
    | some v => both v e.2
    | none => e.2)

/-- Puts all entries of a second map into a first one. -/
def mergeWith (both : ν → ν → ν) (m n : OrderedMap κ ν) : OrderedMap κ ν := n.entries.foldl (insertWith both) m

theorem mergeWith_empty (both : ν → ν → ν) (a : OrderedMap κ ν) : a.mergeWith both empty = a := rfl

variable [EquivBEq κ] (both : ν → ν → ν)

theorem get?_insertWith (m : OrderedMap κ ν) (e : κ × ν) (k : κ) : (m.insertWith both e).get? k =
    Option.merge both (m.get? k) (if e.1 == k then some e.2 else none) := by
  rw [insertWith, get?_insert]
  by_cases same : (e.1 == k) = true
  · rw [if_pos same, if_pos same, get?_congr m same]
    cases m.get? k <;> rfl
  · rw [if_neg same, if_neg same, Option.merge_none_right]

theorem get?_foldl_insertWith (k : κ) : ∀ (entries : List (κ × ν)), Assoc.Distinct (entries.map Prod.fst) →
    ∀ m : OrderedMap κ ν, (entries.foldl (insertWith both) m).get? k =
      Option.merge both (m.get? k) (Assoc.get? k entries) := by
  intro entries
  induction entries with
  | nil => intro _ m; simp [Assoc.get?]
  | cons e rest ih =>
      intro distinct m
      obtain ⟨apart, distinct⟩ := List.pairwise_cons.1 distinct
      rw [List.foldl_cons, ih distinct, get?_insertWith]
      by_cases same : (e.1 == k) = true
      · simp [Assoc.get?, same, Assoc.get?_eq_none_of_apart apart same]
      · simp [Assoc.get?, same]

theorem get?_mergeWith (m n : OrderedMap κ ν) (k : κ) :
    (m.mergeWith both n).get? k = Option.merge both (m.get? k) (n.get? k) :=
  get?_foldl_insertWith both k n.entries n.distinct m

theorem keys_foldl_insertWith : ∀ (entries : List (κ × ν)) (m : OrderedMap κ ν),
    (entries.foldl (insertWith both) m).keys = (m.keys ++ entries.map Prod.fst).eraseDups := by
  intro entries
  induction entries with
  | nil => intro m; simp [eraseDups_keys]
  | cons e rest ih =>
      intro m
      rw [List.foldl_cons, ih, insertWith, keys_insert, eraseDups_eraseDups_append, List.append_assoc]
      rfl

theorem keys_mergeWith (m n : OrderedMap κ ν) : (m.mergeWith both n).keys = (m.keys ++ n.keys).eraseDups :=
  keys_foldl_insertWith both n.entries m

/-! ### Laws -/

theorem mergeWith_assoc [Std.Associative both] (a b c : OrderedMap κ ν) :
    (a.mergeWith both b).mergeWith both c = a.mergeWith both (b.mergeWith both c) := by
  apply ext_get?
  · simp only [keys_mergeWith, eraseDups_eraseDups_append, eraseDups_append_eraseDups, List.append_assoc]
  · intro k
    simp only [get?_mergeWith]
    exact Std.Associative.assoc _ _ _

theorem empty_mergeWith (a : OrderedMap κ ν) : empty.mergeWith both a = a := by
  apply ext_get?
  · rw [keys_mergeWith]
    exact eraseDups_keys a
  · intro k
    rw [get?_mergeWith, get?_empty, Option.merge_none_left]

theorem mergeWith_self [Std.IdempotentOp both] (a : OrderedMap κ ν) : a.mergeWith both a = a := by
  apply ext_get?
  · have known : a.keys.filter (fun k => !a.keys.any (· == k)) = [] := by
      refine List.filter_eq_nil_iff.2 fun k inside => ?_
      have found : a.keys.any (· == k) = true := List.any_eq_true.2 ⟨k, inside, BEq.rfl⟩
      simp [found]
    rw [keys_mergeWith, eraseDups_append_eq, known, eraseDups_keys]
    simp
  · intro k
    rw [get?_mergeWith]
    exact Std.IdempotentOp.idempotent _

/-- Where values commute, the order of two maps only counts for the order of keys. -/
theorem get?_mergeWith_comm [Std.Commutative both] (a b : OrderedMap κ ν) (k : κ) :
    (a.mergeWith both b).get? k = (b.mergeWith both a).get? k := by
  rw [get?_mergeWith, get?_mergeWith]
  exact Std.Commutative.comm _ _

/-! ### Overwriting -/

omit [EquivBEq κ] in
theorem insertAll_eq_mergeWith (m n : OrderedMap κ ν) : m.insertAll n.entries = m.mergeWith (fun _ new => new) n := by
  have step : ∀ (entries : List (κ × ν)) (m : OrderedMap κ ν),
      m.insertAll entries = entries.foldl (insertWith fun _ new => new) m := by
    intro entries
    induction entries with
    | nil => exact fun _ => rfl
    | cons e rest ih =>
        intro m
        have first : m.insertWith (fun _ new => new) e = m.insert e.1 e.2 := by
          unfold insertWith
          split <;> rfl
        rw [List.foldl_cons, first, ← ih]
        rfl
  exact step n.entries m

instance : Std.Associative fun _ new : ν => new := ⟨fun _ _ _ => rfl⟩

theorem insertAll_assoc (a b c : OrderedMap κ ν) :
    (a.insertAll b.entries).insertAll c.entries = a.insertAll (b.insertAll c.entries).entries := by
  simp only [insertAll_eq_mergeWith, mergeWith_assoc]

end OrderedMap

/-- Entries put over entries put over a base are the former put over the base and the latter. -/
theorem Assoc.putAll_assoc [EquivBEq κ] {base first later : List (κ × ν)} (distinctBase : Distinct (base.map Prod.fst))
    (distinctFirst : Distinct (first.map Prod.fst)) (distinctLater : Distinct (later.map Prod.fst)) :
    putAll (putAll base first) later = putAll base (putAll first later) :=
  congrArg OrderedMap.entries (OrderedMap.insertAll_assoc ⟨base, distinctBase⟩ ⟨first, distinctFirst⟩ ⟨later, distinctLater⟩)

end DesignProps
