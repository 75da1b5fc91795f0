import DesignProps.Document.Node
import DesignProps.Proofs.Traversal

/-!
# Reading nodes

A node is read with as many steps as its value is deep, and more steps read the same.  So reading an object is reading
its parts: its own data, its main component and its children, wherever they come from.

Main statements: `Node.read_eq_of_depth_le`, `Node.ofJson_obj` (an object is read without counting steps),
`Node.ofJson_eq_ok_iff`, `Node.dataOf_eq_ok_iff`.
-/

set_option autoImplicit false

namespace DesignProps

namespace Json

/-! ## Depth of parts -/

theorem depth_pos (v : Json) : 0 < v.depth := by
  cases v <;> simp [depth]

theorem depth_le_of_get? {key : String} {v : Json} : ∀ {members : List (String × Json)},
    Assoc.get? key members = some v → v.depth ≤ depthMembers members := by
  intro members
  induction members with
  | nil => simp [Assoc.get?]
  | cons m rest ih =>
      intro found
      simp only [Assoc.get?] at found
      simp only [depthMembers]
      split at found
      · obtain rfl := Option.some.inj found
        exact Nat.le_max_left _ _
      · exact Nat.le_trans (ih found) (Nat.le_max_right _ _)

theorem depth_le_of_mem {v : Json} : ∀ {items : List Json}, v ∈ items → v.depth ≤ depthItems items := by
  intro items
  induction items with
  | nil => simp
  | cons w rest ih =>
      intro inside
      simp only [depthItems]
      rcases List.mem_cons.1 inside with rfl | inside
      · exact Nat.le_max_left _ _
      · exact Nat.le_trans (ih inside) (Nat.le_max_right _ _)

/-- A member is less deep than its object, unless it is nothing. -/
theorem depth_member_lt {v : Json} {key : String} (present : v.member key ≠ .null) : (v.member key).depth < v.depth := by
  cases v with
  | obj members =>
      simp only [member] at present ⊢
      cases found : Assoc.get? key members with
      | none => simp [found] at present
      | some w => exact Nat.lt_succ_of_le (depth_le_of_get? found)
  | _ => simp [member] at present

theorem depth_le_of_parts {v w : Json} {items : List Json} (parts : v.partsIfAny = .ok items) (inside : w ∈ items) :
    w.depth ≤ v.depth ∧ v ≠ .null := by
  unfold partsIfAny at parts
  split at parts
  · cases v with
    | arr given =>
        obtain rfl := Except.ok.inj parts
        exact ⟨Nat.le_succ_of_le (depth_le_of_mem inside), Json.noConfusion⟩
    | str s =>
        obtain rfl := Except.ok.inj parts
        obtain ⟨c, -, rfl⟩ := List.mem_map.1 inside
        exact ⟨Nat.le_refl _, Json.noConfusion⟩
    | obj members =>
        obtain rfl := Except.ok.inj parts
        obtain ⟨m, -, rfl⟩ := List.mem_map.1 inside
        exact ⟨depth_pos _, Json.noConfusion⟩
    | _ => simp [Json.parts] at parts
  · obtain rfl := Except.ok.inj parts
    simp at inside

end Json

namespace Node

/-! ## Steps -/

theorem mainOf_congr {one other : Json → Except Fault Node} {v : Json}
    (alike : ∀ w, w.depth ≤ v.depth → one w = other w) : mainOf one v = mainOf other v := by
  cases v with
  | obj members =>
      have own := alike (.obj members) (Nat.le_refl _)
      simp only [mainOf]
      cases parent : (Json.obj members).member "parent" with
      | obj group =>
          have present : (Json.obj members).member "parent" ≠ .null := by simp [parent]
          have less := Json.depth_member_lt present
          rw [parent] at less
          simp only [own, alike _ (Nat.le_of_lt less)]
      | _ => simp only [own]
  | _ => rfl

/-- Reads an object by the way its parts are read. -/
def readParts (read : Json → Except Fault Node) (members : List (String × Json)) : Except Fault Node := do
  let data ← dataOf members
  let main ← mainOf read ((Json.obj members).member "mainComponent")
  let items ← ((Json.obj members).member "children").partsIfAny
  let children ← items.mapM read
  .ok (.mk data main children)

theorem readParts_congr {one other : Json → Except Fault Node} {members : List (String × Json)}
    (alike : ∀ w, w.depth < (Json.obj members).depth → one w = other w) :
    readParts one members = readParts other members := by
  have main : mainOf one ((Json.obj members).member "mainComponent") =
      mainOf other ((Json.obj members).member "mainComponent") := by
    by_cases absent : (Json.obj members).member "mainComponent" = .null
    · rw [absent]
      rfl
    · exact mainOf_congr fun w le => alike w (Nat.lt_of_le_of_lt le (Json.depth_member_lt absent))
  unfold readParts
  rw [main]
  cases parts : ((Json.obj members).member "children").partsIfAny with
  | error e => rfl
  | ok items =>
      have each : items.mapM one = items.mapM other := mapM_congr fun w inside =>
        have ⟨le, present⟩ := Json.depth_le_of_parts parts inside
        alike w (Nat.lt_of_le_of_lt le (Json.depth_member_lt present))
      simp only [bind, Except.bind, each]

/-- Any two numbers of steps that are enough read the same. -/
theorem read_eq_of_depth_le : ∀ (a b : Nat) (v : Json), v.depth ≤ a → v.depth ≤ b → read a v = read b v := by
  intro a
  induction a with
  | zero => exact fun b v deep => absurd v.depth_pos (Nat.not_lt.2 deep)
  | succ a ih =>
      intro b v deepA deepB
      cases b with
      | zero => exact absurd v.depth_pos (Nat.not_lt.2 deepB)
      | succ b =>
          cases v with
          | obj members =>
              refine readParts_congr fun w less => ih b w ?_ ?_
              · exact Nat.le_of_lt_succ (Nat.lt_of_lt_of_le less deepA)
              · exact Nat.le_of_lt_succ (Nat.lt_of_lt_of_le less deepB)
          | _ => rfl

/-! ## Objects -/

theorem ofJson_obj (members : List (String × Json)) : ofJson (.obj members) = readParts ofJson members :=
  readParts_congr fun w less => read_eq_of_depth_le _ _ w (Nat.le_of_lt_succ less) (Nat.le_refl _)

theorem ofJson_eq_ok_iff {members : List (String × Json)} {n : Node} :
    ofJson (.obj members) = .ok n ↔ ∃ data main items children, dataOf members = .ok data ∧
      mainOf ofJson ((Json.obj members).member "mainComponent") = .ok main ∧
      ((Json.obj members).member "children").partsIfAny = .ok items ∧
      List.Forall₂ (fun v k => ofJson v = .ok k) items children ∧ n = .mk data main children := by
  simp only [ofJson_obj, readParts, bind_eq_ok_iff, mapM_eq_ok_iff, Except.ok.injEq]
  constructor
  · rintro ⟨data, own, main, embedded, items, parts, children, each, rfl⟩
    exact ⟨data, main, items, children, own, embedded, parts, each, rfl⟩
  · rintro ⟨data, main, items, children, own, embedded, parts, each, rfl⟩
    exact ⟨data, own, main, embedded, items, parts, children, each, rfl⟩

theorem dataOf_eq_ok_iff {members : List (String × Json)} {d : NodeData} :
    dataOf members = .ok d ↔ ∃ definitions properties references,
      ((Json.obj members).member "componentPropertyDefinitions").toMapIfAny = .ok definitions ∧
      ((Json.obj members).member "componentProperties").toMapIfAny = .ok properties ∧
      ((Json.obj members).member "componentPropertyReferences").toMapIfAny = .ok references ∧
      d = ⟨textMember members "id", textMember members "name", textMember members "type", definitions, properties,
        references, mainIdOf (.obj members)⟩ := by
  simp only [dataOf, bind_eq_ok_iff, Except.ok.injEq]
  constructor
  · rintro ⟨definitions, first, properties, second, references, third, rfl⟩
    exact ⟨definitions, properties, references, first, second, third, rfl⟩
  · rintro ⟨definitions, properties, references, first, second, third, rfl⟩
    exact ⟨definitions, first, properties, second, references, third, rfl⟩

theorem data_of_ofJson {members : List (String × Json)} {n : Node} (found : ofJson (.obj members) = .ok n) :
    dataOf members = .ok n.data ∧ mainOf ofJson ((Json.obj members).member "mainComponent") = .ok n.main := by
  obtain ⟨data, main, items, children, own, embedded, -, -, rfl⟩ := ofJson_eq_ok_iff.1 found
  exact ⟨own, embedded⟩

theorem texts_of_ofJson {members : List (String × Json)} {n : Node} (found : ofJson (.obj members) = .ok n) :
    n.type = textMember members "type" ∧ n.id = textMember members "id" ∧ n.data.mainId = mainIdOf (.obj members) := by
  obtain ⟨definitions, properties, references, -, -, -, data⟩ := dataOf_eq_ok_iff.1 (data_of_ofJson found).1
  simp only [type, id, data, and_self]

/-- Only objects are nodes. -/
theorem members_of_ofJson {v : Json} {n : Node} (found : ofJson v = .ok n) : ∃ members, v = .obj members := by
  cases v with
  | obj members => exact ⟨members, rfl⟩
  | _ => simp [ofJson, Json.depth, read] at found

end Node

end DesignProps
