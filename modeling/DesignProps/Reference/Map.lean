import DesignProps.Key
import DesignProps.OrderedMap

/-!
# Reference maps

Nodes below a definition may be bound to its properties: a property decides whether a node is visible, gives its text,
or names the component that is swapped in.  `properties` says which bindings a property takes part in, and
`instances` which properties drive a swapped component.

Main statement: `flags_merge` (the flags of a property in a merged map are those of either map).
-/

set_option autoImplicit false

namespace DesignProps

/-- The properties that drive a swapped component. -/
structure InstanceReference where
  visible : Option Key
  characters : Option Key
  deriving DecidableEq, Repr

/-- The kinds of binding a property takes part in. -/
structure PropertyReference where
  visible : Bool
  characters : Bool
  deriving DecidableEq, Repr

namespace PropertyReference

def none : PropertyReference := ⟨false, false⟩

def join (a b : PropertyReference) : PropertyReference := ⟨a.visible || b.visible, a.characters || b.characters⟩

@[simp] theorem none_join (a : PropertyReference) : none.join a = a := by simp [none, join]

@[simp] theorem join_self (a : PropertyReference) : a.join a = a := by simp [join]

theorem join_comm (a b : PropertyReference) : a.join b = b.join a := by simp [join, Bool.or_comm]

theorem join_assoc (a b c : PropertyReference) : (a.join b).join c = a.join (b.join c) := by
  simp [join, Bool.or_assoc]

end PropertyReference

structure ReferenceMap where
  instances : OrderedMap Key InstanceReference
  properties : OrderedMap Key PropertyReference
  deriving DecidableEq

namespace ReferenceMap

def empty : ReferenceMap := ⟨.empty, .empty⟩

def flags (m : ReferenceMap) (key : Key) : PropertyReference := (m.properties.get? key).getD .none

def isTextBound (m : ReferenceMap) (key : Key) : Bool := (m.flags key).characters

/-- Adds flags to what is known of a property. -/
def addFlags (properties : OrderedMap Key PropertyReference) (key : Key) (r : PropertyReference) :
    OrderedMap Key PropertyReference :=
  properties.insert key (((properties.get? key).getD .none).join r)

/-- Both maps together: bindings of swapped components are overwritten, flags accumulate. -/
def merge (a b : ReferenceMap) : ReferenceMap where
  instances := a.instances.insertAll b.instances.entries
  properties := b.properties.entries.foldl (fun acc e => addFlags acc e.1 e.2) a.properties

theorem get?_addFlags (properties : OrderedMap Key PropertyReference) (key : Key) (r : PropertyReference)
    (j : Key) : ((addFlags properties key r).get? j).getD .none =
      if key == j then ((properties.get? j).getD .none).join r else (properties.get? j).getD .none := by
  rw [addFlags, OrderedMap.get?_insert]
  by_cases same : (key == j) = true
  · rw [if_pos same, if_pos same, OrderedMap.get?_congr properties same]
    rfl
  · rw [if_neg same, if_neg same]

theorem flags_foldl (j : Key) : ∀ (entries : List (Key × PropertyReference)),
    Assoc.Distinct (entries.map Prod.fst) → ∀ properties : OrderedMap Key PropertyReference,
    ((entries.foldl (fun acc e => addFlags acc e.1 e.2) properties).get? j).getD .none =
      ((properties.get? j).getD .none).join ((Assoc.get? j entries).getD .none) := by
  intro entries
  induction entries with
  | nil => intro _ properties; simp [Assoc.get?, PropertyReference.join, PropertyReference.none]
  | cons e rest ih =>
      intro distinct properties
      obtain ⟨apart, distinct⟩ := List.pairwise_cons.1 distinct
      rw [List.foldl_cons, ih distinct, get?_addFlags]
      by_cases same : (e.1 == j) = true
      · have absent : Assoc.get? j rest = Option.none :=
          (Assoc.get?_eq_none_iff j rest).2 fun i hi =>
            Bool.eq_false_iff.2 fun h =>
              Bool.false_ne_true ((apart i hi).symm.trans (BEq.trans same (BEq.symm h)))
        simp [Assoc.get?, same, absent, PropertyReference.join, PropertyReference.none]
      · simp [Assoc.get?, same]

/-- Flags of a merged map are those of either map. -/
theorem flags_merge (a b : ReferenceMap) (key : Key) :
    (a.merge b).flags key = (a.flags key).join (b.flags key) :=
  flags_foldl key b.properties.entries b.properties.distinct a.properties

end ReferenceMap

end DesignProps
