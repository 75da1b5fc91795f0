import DesignProps.Proofs.Document.Mapped
import DesignProps.Proofs.Document.Reading
import DesignProps.Proofs.Property.Retyped

/-!
# Nodes whose raw values are of another type

Defaults, options and values may be given as texts anywhere in a node: in its own maps, in those of the nodes below it
and in those of its embedded main component.  However they are given, the node is read with the same plain maps, or
cannot be read for the same reason.

Main statements: `Json.toMapIfAny_of_related`, `Node.ofJson_of_retyped`.
-/

set_option autoImplicit false

namespace DesignProps

namespace Json

/-- The same value, or a pair with a related second part. -/
inductive PairRelated (R : Json → Json → Prop) : Json → Json → Prop
  | kept (v : Json) : PairRelated R v v
  | pair (key : Json) {v w : Json} (related : R v w) : PairRelated R (.arr [key, v]) (.arr [key, w])

/-- The same value, or a map with related values: an object, or a list of pairs. -/
inductive MapRelated (R : Json → Json → Prop) : Json → Json → Prop
  | kept (v : Json) : MapRelated R v v
  | object {before after : List (String × Json)} (each : EntriesRelated R before after) :
      MapRelated R (.obj before) (.obj after)
  | pairs {before after : List Json} (each : List.Forall₂ (PairRelated R) before after) :
      MapRelated R (.arr before) (.arr after)

/-- The same node, but defaults, options and values in it, below it and in what it embeds may be given as texts. -/
inductive NodeRetyped : Json → Json → Prop
  | kept (v : Json) : NodeRetyped v v
  | node {before after : List (String × Json)}
      (others : SameBut ["componentPropertyDefinitions", "componentProperties", "mainComponent", "parent", "children"]
        before after)
      (definitions : MapRelated DefinitionRetyped ((Json.obj before).member "componentPropertyDefinitions")
        ((Json.obj after).member "componentPropertyDefinitions"))
      (properties : MapRelated ValueRetyped ((Json.obj before).member "componentProperties")
        ((Json.obj after).member "componentProperties"))
      (main : NodeRetyped ((Json.obj before).member "mainComponent") ((Json.obj after).member "mainComponent"))
      (parent : NodeRetyped ((Json.obj before).member "parent") ((Json.obj after).member "parent"))
      (children : ItemsRelated NodeRetyped ((Json.obj before).member "children") ((Json.obj after).member "children")) :
      NodeRetyped (.obj before) (.obj after)

/-! ## Maps -/

section Maps
variable {R : Json → Json → Prop} (f : Json → Json) (alike : ∀ v w, R v w → f v = f w)

theorem toMapIfAny_obj (members : List (String × Json)) :
    (Json.obj members).toMapIfAny = .ok (.ofList (keyed members)) := by
  cases members <;> rfl

theorem toMapIfAny_arr (items : List Json) : (Json.arr items).toMapIfAny = (pairsFrom 0 items).map .ofList := by
  cases items with
  | nil => rfl
  | cons v rest =>
      change (pairsFrom 0 (v :: rest)).bind _ = _
      cases pairsFrom 0 (v :: rest) <;> rfl

theorem map_pairsFrom_cons (position : Nat) (v : Json) (rest : List Json) :
    (pairsFrom position (v :: rest)).map (List.map fun e => (e.1, f e.2)) =
      (do
        let pair ← (pairAt position v).map fun e => (e.1, f e.2)
        let pairs ← (pairsFrom (position + 1) rest).map (List.map fun e => (e.1, f e.2))
        .ok (pair :: pairs)) := by
  simp only [pairsFrom, map_of_bind, bind_of_map]
  rfl

include alike

theorem pairAt_of_related {v w : Json} (related : PairRelated R v w) (position : Nat) :
    (pairAt position v).map (fun e => (e.1, f e.2)) = (pairAt position w).map fun e => (e.1, f e.2) := by
  cases related with
  | kept => rfl
  | pair key related =>
      simp only [pairAt, parts]
      cases key.toKey with
      | error e => rfl
      | ok key => exact congrArg (fun v => Except.ok (key, v)) (alike _ _ related)

theorem pairsFrom_of_related {before after : List Json} (each : List.Forall₂ (PairRelated R) before after) :
    ∀ position : Nat, (pairsFrom position before).map (List.map fun e => (e.1, f e.2)) =
      (pairsFrom position after).map (List.map fun e => (e.1, f e.2)) := by
  induction each with
  | nil => exact fun _ => rfl
  | cons first _ ih =>
      intro position
      rw [map_pairsFrom_cons, map_pairsFrom_cons, pairAt_of_related f alike first, ih]

/-- Related maps have the same keys, and values with the same plain form. -/
theorem toMapIfAny_of_related {v w : Json} (related : MapRelated R v w) :
    v.toMapIfAny.map (OrderedMap.mapValues fun _ => f) = w.toMapIfAny.map (OrderedMap.mapValues fun _ => f) := by
  cases related with
  | kept => rfl
  | @object before after each =>
      have entries : EntriesRelated R (keyed before) (keyed after) := by
        unfold EntriesRelated keyed
        rw [List.forall₂_map_left_iff, List.forall₂_map_right_iff]
        exact List.Forall₂.imp (fun _ _ related => ⟨congrArg Key.text related.1, related.2⟩) each
      simp only [toMapIfAny_obj, Except.map, OrderedMap.mapValues_ofList, map_plain_of_related f alike entries]
  | @pairs before after each =>
      have listed := pairsFrom_of_related f alike each 0
      have entries : ∀ x : Except Fault (List (Key × Json)),
          (x.map OrderedMap.ofList).map (OrderedMap.mapValues fun _ => f) =
            (x.map (List.map fun e => (e.1, f e.2))).map OrderedMap.ofList := by
        intro x
        cases x with
        | error e => rfl
        | ok pairs => exact congrArg Except.ok (OrderedMap.mapValues_ofList f pairs)
      rw [toMapIfAny_arr, toMapIfAny_arr, entries, listed, ← entries]

end Maps

/-! ## Members -/

theorem SameBut.member {names : List String} {before after : List (String × Json)} (same : SameBut names before after)
    {name : String} (apart : name ∉ names) : (Json.obj after).member name = (Json.obj before).member name := by
  simp only [Json.member, same name apart]

theorem member_null_or_less_deep (key : String) (v : Json) :
    v.member key = .null ∨ (v.member key).depth < v.depth :=
  or_iff_not_imp_left.2 depth_member_lt

theorem NodeRetyped.isObject {v w : Json} (retyped : NodeRetyped v w) : v.isObject = w.isObject := by
  cases retyped <;> rfl

theorem NodeRetyped.parent_member {v w : Json} (retyped : NodeRetyped v w) :
    NodeRetyped (v.member "parent") (w.member "parent") := by
  cases retyped with
  | kept => exact .kept _
  | node _ _ _ _ parent _ => exact parent

end Json

namespace Node

/-- The node with plain raw maps. -/
abbrev plain : Node → Node := mapRaw Json.plainDefinition Json.plainValue

/-! ## Reading the parts of a node -/

section Parts
variable (f g : Json → Json) (read : Json → Except Fault Node)

theorem map_dataOf (members : List (String × Json)) :
    (dataOf members).map (NodeData.mapRaw f g) = (do
      let definitions ← ((Json.obj members).member "componentPropertyDefinitions").toMapIfAny.map
        (OrderedMap.mapValues fun _ => f)
      let properties ← ((Json.obj members).member "componentProperties").toMapIfAny.map
        (OrderedMap.mapValues fun _ => g)
      let references ← ((Json.obj members).member "componentPropertyReferences").toMapIfAny
      .ok ⟨textMember members "id", textMember members "name", textMember members "type", definitions, properties,
        references, mainIdOf (.obj members)⟩) := by
  simp only [dataOf, map_of_bind, bind_of_map]
  rfl

theorem ofParts_mapRaw (component : Node) (group : Option Node) :
    (EmbeddedMain.ofParts component group).mapRaw f g =
      .ofParts (component.mapRaw f g) (group.map (Node.mapRaw f g)) := by
  cases group with
  | none => simp only [EmbeddedMain.ofParts, EmbeddedMain.mapRaw, Option.map_none]
  | some group =>
      simp only [EmbeddedMain.ofParts, EmbeddedMain.mapRaw, Option.map_some, children_mapRaw, List.isEmpty_map]
      split
      · simp only [withChildren, mapRaw, mapRawAll, data_mapRaw, main_mapRaw]
      · rfl

theorem map_mainOf (v : Json) : (mainOf read v).map (EmbeddedMain.mapRaw f g) =
    if v.isObject then
      if (v.member "parent").isObject then do
        let group ← (read (v.member "parent")).map (mapRaw f g)
        let component ← (read v).map (mapRaw f g)
        .ok (.ofParts component (some group))
      else do
        let component ← (read v).map (mapRaw f g)
        .ok (.ofParts component none)
    else .ok .none := by
  have parts := ofParts_mapRaw f g
  cases v with
  | obj members =>
      unfold mainOf
      cases (Json.obj members).member "parent" <;>
        simp only [Json.isObject, if_true, Bool.false_eq_true, if_false, map_of_bind, bind_of_map, map_of_ok, parts,
          Option.map_some, Option.map_none]
  | _ => rfl

theorem map_mapM (items : List Json) :
    (items.mapM read).map (List.map (mapRaw f g)) = items.mapM fun v => (read v).map (mapRaw f g) := by
  induction items with
  | nil => rfl
  | cons v rest ih =>
      simp only [List.mapM_cons, ← ih, map_of_bind, bind_of_map]
      rfl

theorem map_readParts (members : List (String × Json)) :
    (readParts read members).map (mapRaw f g) = (do
      let data ← (dataOf members).map (NodeData.mapRaw f g)
      let main ← (mainOf read ((Json.obj members).member "mainComponent")).map (EmbeddedMain.mapRaw f g)
      let children ← ((Json.obj members).member "children").partsIfAny >>= fun items =>
        items.mapM fun v => (read v).map (mapRaw f g)
      .ok (.mk data main children)) := by
  simp only [readParts, ← map_mapM, map_of_bind, bind_of_map, map_of_ok, mapRaw, mapRawAll_eq_map, bind_assoc]

end Parts

/-! ## Related nodes -/

section Related
variable {before after : List (String × Json)}

theorem mainIdOf_of_retyped (name : (Json.obj after).member "componentId" = (Json.obj before).member "componentId")
    (other : (Json.obj after).member "mainComponentId" = (Json.obj before).member "mainComponentId")
    (main : Json.NodeRetyped ((Json.obj before).member "mainComponent") ((Json.obj after).member "mainComponent")) :
    mainIdOf (.obj before) = mainIdOf (.obj after) := by
  unfold mainIdOf
  rw [name, other]
  generalize (Json.obj before).member "mainComponent" = v at main ⊢
  generalize (Json.obj after).member "mainComponent" = w at main ⊢
  cases main <;> rfl

theorem dataOf_of_retyped
    (others : Json.SameBut
      ["componentPropertyDefinitions", "componentProperties", "mainComponent", "parent", "children"] before after)
    (definitions : Json.MapRelated Json.DefinitionRetyped ((Json.obj before).member "componentPropertyDefinitions")
      ((Json.obj after).member "componentPropertyDefinitions"))
    (properties : Json.MapRelated Json.ValueRetyped ((Json.obj before).member "componentProperties")
      ((Json.obj after).member "componentProperties"))
    (main : Json.NodeRetyped ((Json.obj before).member "mainComponent") ((Json.obj after).member "mainComponent")) :
    (dataOf before).map (NodeData.mapRaw Json.plainDefinition Json.plainValue) =
      (dataOf after).map (NodeData.mapRaw Json.plainDefinition Json.plainValue) := by
  have named := mainIdOf_of_retyped (others.member (by decide)) (others.member (by decide)) main
  have texts : ∀ key, key ∈ ["id", "name", "type"] → textMember after key = textMember before key := by
    intro key among
    simp only [textMember]
    rw [others key (by revert key; decide)]
  have references : (Json.obj after).member "componentPropertyReferences" =
      (Json.obj before).member "componentPropertyReferences" := others.member (by decide)
  have first := Json.toMapIfAny_of_related Json.plainDefinition (fun _ _ => Json.plainDefinition_of_retyped) definitions
  have second := Json.toMapIfAny_of_related Json.plainValue (fun _ _ => Json.plainValue_of_retyped) properties
  rw [map_dataOf, map_dataOf, first, second, references, texts "id" (by decide), texts "name" (by decide),
    texts "type" (by decide), named]

theorem mainOf_of_retyped {v w : Json} (retyped : Json.NodeRetyped v w)
    (own : (ofJson v).map plain = (ofJson w).map plain)
    (above : (ofJson (v.member "parent")).map plain = (ofJson (w.member "parent")).map plain) :
    (mainOf ofJson v).map (EmbeddedMain.mapRaw Json.plainDefinition Json.plainValue) =
      (mainOf ofJson w).map (EmbeddedMain.mapRaw Json.plainDefinition Json.plainValue) := by
  rw [map_mainOf, map_mainOf, retyped.isObject, retyped.parent_member.isObject, own, above]

theorem children_of_retyped {v w : Json} (related : Json.ItemsRelated Json.NodeRetyped v w)
    (each : ∀ x y, x.depth < v.depth → Json.NodeRetyped x y → (ofJson x).map plain = (ofJson y).map plain) :
    (v.partsIfAny >>= fun items => items.mapM fun v => (ofJson v).map plain) =
      w.partsIfAny >>= fun items => items.mapM fun v => (ofJson v).map plain := by
  cases related with
  | kept => rfl
  | @items xs ys related =>
      have inside := (List.forall₂_and_left xs ys).2 ⟨fun _ inside => inside, related⟩
      rw [Json.partsIfAny_arr, Json.partsIfAny_arr]
      refine mapM_of_forall₂ (inside.imp ?_)
      rintro x y ⟨inside, retyped⟩
      exact each x y (Nat.lt_succ_of_le (Json.depth_le_of_mem inside)) retyped

end Related

/-- However defaults, options and values are given, a node is read with the same plain maps, or not at all for the same
reason. -/
theorem ofJson_of_retyped {v w : Json} (retyped : Json.NodeRetyped v w) :
    (ofJson v).map plain = (ofJson w).map plain := by
  induction deep : v.depth using Nat.strongRecOn generalizing v w with
  | ind d ih =>
      -- a member that is not there is no less deep, but it is the same in both
      have member : ∀ {x y : Json}, x = .null ∨ x.depth < d → Json.NodeRetyped x y →
          (ofJson x).map plain = (ofJson y).map plain := by
        rintro x y (rfl | less) retyped
        · cases retyped
          rfl
        · exact ih _ less retyped rfl
      cases retyped with
      | kept => rfl
      | @node before after others definitions properties main parent children =>
          have less : ∀ key, (Json.obj before).member key = .null ∨ ((Json.obj before).member key).depth < d :=
            fun key => deep ▸ Json.member_null_or_less_deep key (.obj before)
          have above : ∀ {x : Json}, x = .null ∨ x.depth < d →
              x.member "parent" = .null ∨ (x.member "parent").depth < d := by
            rintro x (rfl | less)
            · exact Or.inl rfl
            · exact (Json.member_null_or_less_deep "parent" x).imp_right fun lower => Nat.lt_trans lower less
          have embedded := mainOf_of_retyped main (member (less _) main) (member (above (less _)) main.parent_member)
          have below := children_of_retyped children fun x y shallow retyped => by
            rcases less "children" with absent | less
            · rw [absent] at shallow
              exact absurd x.depth_pos (Nat.not_lt.2 (Nat.le_of_lt_succ shallow))
            · exact member (Or.inr (Nat.lt_trans shallow less)) retyped
          rw [ofJson_obj, ofJson_obj, map_readParts, map_readParts,
            dataOf_of_retyped others definitions properties main, embedded, below]

end Node

end DesignProps
