import DesignProps.Proofs.Reference.Bindings
import DesignProps.Proofs.Reference.Merge

/-!
# What references are put together from

A map is filled binding by binding, in the order of a walk.  A property is flagged once some binding names it, so its
flags only grow; an entry for a swapped component is replaced by every later binding of it.  Both maps keep a key where
it came in first, the property that gives a text before the one that shows the node.

Main statements: `get?_properties_foldl_addBinding`, `get?_instances_foldl_addBinding`,
`keys_properties_foldl_addBinding`, `keys_instances_foldl_addBinding`, `Node.references_indexed`.
-/

set_option autoImplicit false

namespace DesignProps

namespace Binding

/-- Whether a property shows or hides the node. -/
def shows (b : Binding) (key : Key) : Bool := b.visible.any (· == key)

/-- Whether a property gives the text of the node. -/
def fills (b : Binding) (key : Key) : Bool := b.characters.any (· == key)

/-- Whether a property names the component that is swapped in. -/
def swaps (b : Binding) (key : Key) : Bool := b.target.any (· == key)

/-- What is recorded of the node for a swapped component. -/
def driven (b : Binding) : InstanceReference := ⟨b.visible, b.characters⟩

/-- The properties that are flagged for the node, in order. -/
def flagged (b : Binding) : List Key := b.characters.toList ++ b.visible.toList

end Binding

namespace PropertyReference

/-- The entry of a property, if it takes part in any binding. -/
def ofFlags (visible characters : Bool) : Option PropertyReference :=
  if visible || characters then some ⟨visible, characters⟩ else Option.none

theorem ofFlags_visible (v : Bool) : ofFlags v false = if v then some ⟨true, false⟩ else Option.none := by
  cases v <;> rfl

theorem ofFlags_characters (c : Bool) : ofFlags false c = if c then some ⟨false, true⟩ else Option.none := by
  cases c <;> rfl

theorem merge_ofFlags (v c v' c' : Bool) :
    Option.merge join (ofFlags v c) (ofFlags v' c') = ofFlags (v || v') (c || c') := by
  cases v <;> cases c <;> cases v' <;> cases c' <;> rfl

theorem isSome_ofFlags (v c : Bool) : (ofFlags v c).isSome = (v || c) := by
  cases v <;> cases c <;> rfl

theorem getD_ofFlags (v c : Bool) : (ofFlags v c).getD none = ⟨v, c⟩ := by
  cases v <;> cases c <;> rfl

theorem merge_join_assoc (a b c : Option PropertyReference) :
    Option.merge join (Option.merge join a b) c = Option.merge join a (Option.merge join b c) :=
  Std.Associative.assoc a b c

end PropertyReference

namespace ReferenceMap

open PropertyReference

/-! ## One binding -/

theorem get?_properties_addBinding (m : ReferenceMap) (b : Binding) (key : Key) :
    (m.addBinding b).properties.get? key =
      Option.merge join (m.properties.get? key) (ofFlags (b.shows key) (b.fills key)) := by
  have joined : ofFlags (b.shows key) (b.fills key) =
      Option.merge join (ofFlags false (b.fills key)) (ofFlags (b.shows key) false) := by
    rw [merge_ofFlags, Bool.false_or, Bool.or_false]
  rw [joined, ← merge_join_assoc, ofFlags_visible, ofFlags_characters]
  unfold addBinding Binding.shows Binding.fills
  cases b.characters <;> cases b.visible <;> simp [addFlags_eq_insertWith, OrderedMap.get?_insertWith]

theorem get?_instances_addBinding (m : ReferenceMap) (b : Binding) (key : Key) :
    (m.addBinding b).instances.get? key = if b.swaps key then some b.driven else m.instances.get? key := by
  unfold addBinding Binding.swaps
  cases b.target with
  | none => simp
  | some target => simp [OrderedMap.get?_insert, Binding.driven]

theorem keys_properties_addBinding (m : ReferenceMap) (b : Binding) :
    (m.addBinding b).properties.keys = (m.properties.keys ++ b.flagged).eraseDups := by
  unfold addBinding Binding.flagged
  cases b.characters <;> cases b.visible <;>
    simp [addFlags, OrderedMap.keys_insert, OrderedMap.eraseDups_keys, eraseDups_eraseDups_append]

theorem keys_instances_addBinding (m : ReferenceMap) (b : Binding) :
    (m.addBinding b).instances.keys = (m.instances.keys ++ b.target.toList).eraseDups := by
  unfold addBinding
  cases b.target <;> simp [OrderedMap.keys_insert, OrderedMap.eraseDups_keys]

/-! ## All bindings -/

theorem get?_properties_foldl_addBinding (key : Key) : ∀ (bindings : List Binding) (m : ReferenceMap),
    (bindings.foldl addBinding m).properties.get? key =
      Option.merge join (m.properties.get? key)
        (ofFlags (bindings.any fun b => b.shows key) (bindings.any fun b => b.fills key)) := by
  intro bindings
  induction bindings with
  | nil => intro m; simp [ofFlags]
  | cons b rest ih =>
      intro m
      rw [List.foldl_cons, ih, get?_properties_addBinding, merge_join_assoc, merge_ofFlags, List.any_cons,
        List.any_cons]

/-- The last binding of a swapped component is the one that is recorded. -/
theorem get?_instances_foldl_addBinding (key : Key) : ∀ (bindings : List Binding) (m : ReferenceMap),
    (bindings.foldl addBinding m).instances.get? key =
      ((bindings.reverse.find? fun b => b.swaps key).map Binding.driven).or (m.instances.get? key) := by
  intro bindings
  induction bindings with
  | nil => intro m; simp
  | cons b rest ih =>
      intro m
      rw [List.foldl_cons, ih, get?_instances_addBinding, List.reverse_cons, List.find?_append, Option.map_or,
        Option.or_assoc]
      cases swapped : b.swaps key <;> simp [swapped]

theorem keys_properties_foldl_addBinding : ∀ (bindings : List Binding) (m : ReferenceMap),
    (bindings.foldl addBinding m).properties.keys =
      (m.properties.keys ++ bindings.flatMap Binding.flagged).eraseDups := by
  intro bindings
  induction bindings with
  | nil => intro m; simp [OrderedMap.eraseDups_keys]
  | cons b rest ih =>
      intro m
      rw [List.foldl_cons, ih, keys_properties_addBinding, eraseDups_eraseDups_append, List.append_assoc,
        List.flatMap_cons]

theorem keys_instances_foldl_addBinding : ∀ (bindings : List Binding) (m : ReferenceMap),
    (bindings.foldl addBinding m).instances.keys =
      (m.instances.keys ++ bindings.filterMap Binding.target).eraseDups := by
  intro bindings
  induction bindings with
  | nil => intro m; simp [OrderedMap.eraseDups_keys]
  | cons b rest ih =>
      intro m
      rw [List.foldl_cons, ih, keys_instances_addBinding, eraseDups_eraseDups_append, List.append_assoc]
      cases named : b.target <;> simp [named]

/-! ## An index of nodes -/

/-- What a map says of the nodes it was made of. -/
structure Indexes (r : ReferenceMap) (nodes : List Node) : Prop where
  properties : ∀ key, r.properties.contains key = true ↔
    ∃ d ∈ nodes, d.binding.shows key = true ∨ d.binding.fills key = true
  visible : ∀ key, (r.flags key).visible = true ↔ ∃ d ∈ nodes, d.binding.shows key = true
  characters : ∀ key, (r.flags key).characters = true ↔ ∃ d ∈ nodes, d.binding.fills key = true
  instances : ∀ key, r.instances.contains key = true ↔ ∃ d ∈ nodes, d.binding.swaps key = true
  /-- The entry for a swapped component is that of the last node bound to it. -/
  last : ∀ before d after key, nodes = before ++ d :: after → d.binding.swaps key = true →
    (∀ e ∈ after, e.binding.swaps key = false) → r.instances.get? key = some d.binding.driven
  propertyKeys : r.properties.keys = (nodes.flatMap fun d => d.binding.flagged).eraseDups
  instanceKeys : r.instances.keys = (nodes.filterMap fun d => d.binding.target).eraseDups

theorem get?_properties_ofBindings (nodes : List Node) (key : Key) :
    (ofBindings (nodes.map Node.binding)).properties.get? key =
      ofFlags (nodes.any fun d => d.binding.shows key) (nodes.any fun d => d.binding.fills key) := by
  rw [ofBindings, get?_properties_foldl_addBinding, List.any_map, List.any_map]
  exact Option.merge_none_left

theorem get?_instances_ofBindings (nodes : List Node) (key : Key) :
    (ofBindings (nodes.map Node.binding)).instances.get? key =
      (nodes.reverse.find? fun d => d.binding.swaps key).map fun d => d.binding.driven := by
  rw [ofBindings, get?_instances_foldl_addBinding, ← List.map_reverse, List.find?_map]
  simp [Function.comp_def, empty]

theorem indexes_ofBindings (nodes : List Node) : (ofBindings (nodes.map Node.binding)).Indexes nodes := by
  have flags : ∀ key, (ofBindings (nodes.map Node.binding)).flags key =
      ⟨nodes.any fun d => d.binding.shows key, nodes.any fun d => d.binding.fills key⟩ := by
    intro key
    rw [ReferenceMap.flags, get?_properties_ofBindings, getD_ofFlags]
  refine ⟨?properties, ?visible, ?characters, ?instances, ?last, ?propertyKeys, ?instanceKeys⟩
  case properties =>
    intro key
    rw [OrderedMap.contains, get?_properties_ofBindings, isSome_ofFlags, Bool.or_eq_true, List.any_eq_true,
      List.any_eq_true, ← exists_or]
    simp only [← and_or_left]
  case visible =>
    intro key
    rw [flags, List.any_eq_true]
  case characters =>
    intro key
    rw [flags, List.any_eq_true]
  case instances =>
    intro key
    rw [OrderedMap.contains, get?_instances_ofBindings, Option.isSome_map, List.find?_isSome]
    simp only [List.mem_reverse]
  case last =>
    intro before d after key split bound unbound
    have later : (after.reverse.find? fun e => e.binding.swaps key) = Option.none := by
      rw [List.find?_eq_none]
      intro e inside
      simp [unbound e (List.mem_reverse.1 inside)]
    rw [get?_instances_ofBindings, split, List.reverse_append, List.reverse_cons, List.append_assoc, List.find?_append,
      later, Option.none_or, List.singleton_append, List.find?_cons]
    simp only [bound, Option.map_some]
  case propertyKeys =>
    rw [ofBindings, keys_properties_foldl_addBinding, List.flatMap_map]
    rfl
  case instanceKeys =>
    rw [ofBindings, keys_instances_foldl_addBinding, List.filterMap_map]
    rfl

end ReferenceMap

/-- The references of a node tell exactly what the nodes below its root are bound to.  They are made where every such
binding is a key, and the root itself is none of these nodes. -/
theorem Node.references_indexed (n : Node) (main : Option Node) :
    ((∃ r, n.references main = .ok r) ↔ ∀ d ∈ n.boundNodes main, d.NamesKeys) ∧
    (∀ root, n.bindingRoot main = some root → n.boundNodes main = root.descendants ∧ root ∉ n.boundNodes main ∧
      ∀ d, d ∈ n.boundNodes main ↔ Relation.TransGen Child root d) ∧
    (n.bindingRoot main = none → n.references main = .ok .empty) ∧
    ∀ r, n.references main = .ok r → r.Indexes (n.boundNodes main) := by
  refine ⟨?made, ?below, ?unrooted, ?indexed⟩
  case made =>
    constructor
    · rintro ⟨r, made⟩
      exact (references_eq_ok_iff.1 made).1
    · intro keys
      exact ⟨_, references_eq_ok_iff.2 ⟨keys, rfl⟩⟩
  case below =>
    intro root rooted
    have nodes : n.boundNodes main = root.descendants := by rw [boundNodes, rooted]
    rw [nodes]
    exact ⟨rfl, notMem_descendants root, fun d => mem_descendants_iff⟩
  case unrooted =>
    intro rootless
    rw [references, rootless]
  case indexed =>
    intro r made
    obtain ⟨_, rfl⟩ := references_eq_ok_iff.1 made
    exact ReferenceMap.indexes_ofBindings (n.boundNodes main)

/-! A component with an icon slot that is filled twice, the second time in a frame. -/

def Node.slot (id : String) (bindings : List (Key × Json)) : Node :=
  .mk
    ⟨id, "icon", "INSTANCE", .empty, .empty, .ofList ((.text "mainComponent", .str "Icon") :: bindings), .null⟩
    .none []

def Node.twoSlots : Node :=
  .mk ⟨"1:1", "card", "COMPONENT", .empty, .empty, .empty, .null⟩ .none
    [ slot "1:2" [(.text "visible", .str "First")],
      .mk ⟨"1:3", "row", "FRAME", .empty, .empty, .empty, .null⟩ .none
        [slot "1:4" [(.text "visible", .str "Second"), (.text "characters", .str "Label")]] ]

theorem Node.references_indexed_twoSlots : ∃ r, twoSlots.references none = .ok r ∧
    r.Indexes (twoSlots.boundNodes none) ∧
    r.instances.entries = [(.text "Icon", ⟨some (.text "Second"), some (.text "Label")⟩)] ∧
    r.properties.keys = [.text "First", .text "Label", .text "Second"] := by
  have made : twoSlots.references none = .ok _ := rfl
  exact ⟨_, made, (references_indexed twoSlots none).2.2.2 _ made, rfl, rfl⟩

end DesignProps
