import DesignProps.Proofs.OrderedMap.Merged
import DesignProps.Reference.Map

/-!
# Merged references

What a property is bound to in a merged map: a text if any of the maps says so, and as a swapped instance what the last
map says that knows it.  Order included, merging is associative, the empty map is its unit, and a map merged with
itself stays as it is.

Main statements: `isTextBound_mergeAll`, `get?_instances_mergeAll`, `merge_assoc`, `merge_self`,
`mergeAll_eq_merge` (maps can be merged among themselves first).
-/

set_option autoImplicit false

namespace DesignProps

/-- Of two entries for a swapped component, the later one stays. -/
def InstanceReference.overwrite (_ later : InstanceReference) : InstanceReference := later

instance : Std.Associative InstanceReference.overwrite := ⟨fun _ _ _ => rfl⟩

instance : Std.IdempotentOp InstanceReference.overwrite := ⟨fun _ => rfl⟩

instance : Std.Associative PropertyReference.join := ⟨PropertyReference.join_assoc⟩

instance : Std.Commutative PropertyReference.join := ⟨PropertyReference.join_comm⟩

instance : Std.IdempotentOp PropertyReference.join := ⟨PropertyReference.join_self⟩

namespace ReferenceMap

/-! ## Entry by entry -/

theorem addFlags_eq_insertWith (properties : OrderedMap Key PropertyReference) (key : Key) (r : PropertyReference) :
    addFlags properties key r = properties.insertWith PropertyReference.join (key, r) := by
  unfold addFlags OrderedMap.insertWith
  cases properties.get? key <;> simp

theorem insertAll_eq_foldl : ∀ (entries : List (Key × InstanceReference))
    (instances : OrderedMap Key InstanceReference),
    instances.insertAll entries = entries.foldl (OrderedMap.insertWith InstanceReference.overwrite) instances := by
  intro entries
  induction entries with
  | nil => intro instances; rfl
  | cons e rest ih =>
      intro instances
      have overwritten : instances.insertWith InstanceReference.overwrite e = instances.insert e.1 e.2 := by
        unfold OrderedMap.insertWith InstanceReference.overwrite
        split <;> rfl
      rw [List.foldl_cons, ← ih, overwritten]
      rfl

theorem merge_eq (a b : ReferenceMap) : a.merge b =
    ⟨a.instances.mergeWith InstanceReference.overwrite b.instances,
      a.properties.mergeWith PropertyReference.join b.properties⟩ := by
  simp only [merge, insertAll_eq_foldl, addFlags_eq_insertWith, OrderedMap.mergeWith]

/-! ## Laws -/

theorem merge_assoc (a b c : ReferenceMap) : (a.merge b).merge c = a.merge (b.merge c) := by
  simp only [merge_eq, OrderedMap.mergeWith_assoc]

theorem empty_merge (a : ReferenceMap) : empty.merge a = a := by
  simp only [merge_eq, empty, OrderedMap.empty_mergeWith]

theorem merge_empty (a : ReferenceMap) : a.merge empty = a := by
  simp only [merge_eq, empty, OrderedMap.mergeWith_empty]

theorem merge_self (a : ReferenceMap) : a.merge a = a := by
  simp only [merge_eq, OrderedMap.mergeWith_self]

theorem get?_properties_merge_comm (a b : ReferenceMap) (key : Key) :
    (a.merge b).properties.get? key = (b.merge a).properties.get? key := by
  simp only [merge_eq]
  exact OrderedMap.get?_mergeWith_comm PropertyReference.join a.properties b.properties key

/-! ## Look-ups -/

theorem isTextBound_merge (a b : ReferenceMap) (key : Key) :
    (a.merge b).isTextBound key = (a.isTextBound key || b.isTextBound key) := by
  simp only [isTextBound, flags_merge, PropertyReference.join]

theorem get?_instances_merge (a b : ReferenceMap) (key : Key) :
    (a.merge b).instances.get? key = (b.instances.get? key).or (a.instances.get? key) :=
  OrderedMap.get?_insertAll a.instances b.instances key

/-- All maps together, one merged after the other. -/
def mergeAll (m : ReferenceMap) (maps : List ReferenceMap) : ReferenceMap := maps.foldl merge m

@[simp] theorem mergeAll_nil (m : ReferenceMap) : m.mergeAll [] = m := rfl

theorem mergeAll_cons (m first : ReferenceMap) (rest : List ReferenceMap) :
    m.mergeAll (first :: rest) = (m.merge first).mergeAll rest := rfl

theorem mergeAll_append (m : ReferenceMap) (first rest : List ReferenceMap) :
    m.mergeAll (first ++ rest) = (m.mergeAll first).mergeAll rest := by
  simp only [mergeAll, List.foldl_append]

/-- Maps can be merged among themselves before they are merged into another one. -/
theorem mergeAll_eq_merge : ∀ (maps : List ReferenceMap) (m : ReferenceMap),
    m.mergeAll maps = m.merge (empty.mergeAll maps) := by
  intro maps
  induction maps with
  | nil => intro m; rfl
  | cons first rest ih =>
      intro m
      rw [mergeAll_cons, mergeAll_cons, ih, ih (empty.merge first), empty_merge, merge_assoc]

theorem isTextBound_mergeAll (key : Key) : ∀ (maps : List ReferenceMap) (m : ReferenceMap),
    (m.mergeAll maps).isTextBound key = (m.isTextBound key || maps.any fun r => r.isTextBound key) := by
  intro maps
  induction maps with
  | nil => intro m; simp
  | cons first rest ih =>
      intro m
      rw [mergeAll_cons, ih, isTextBound_merge, List.any_cons, Bool.or_assoc]

theorem get?_instances_mergeAll (key : Key) : ∀ (maps : List ReferenceMap) (m : ReferenceMap),
    (m.mergeAll maps).instances.get? key =
      (maps.reverse.findSome? fun r => r.instances.get? key).or (m.instances.get? key) := by
  intro maps
  induction maps with
  | nil => intro m; simp
  | cons first rest ih =>
      intro m
      rw [mergeAll_cons, ih, get?_instances_merge, List.reverse_cons, List.findSome?_append, List.findSome?_singleton,
        Option.or_assoc]

end ReferenceMap

end DesignProps
