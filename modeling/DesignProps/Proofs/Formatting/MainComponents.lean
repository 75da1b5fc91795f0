import DesignProps.Proofs.Document.Reading
import DesignProps.Proofs.Model.Respelled

/-!
# Ways to give a main component

An instance can name its main component as `mainComponent` or as `componentId`, or hold a copy of it.  Which of them
each instance of a document uses makes no difference: not for the model of the document, and not for the code.

Main statements: `Json.exists_of_met`, `Json.read_of_respelled`, `FormatRequest.formatData_of_respelled`.
-/

set_option autoImplicit false

namespace DesignProps

namespace Json

/-! ## Documents that give main components differently -/

/-- What a walk over the roots of a document meets, each node with the one it is a child of. -/
inductive Met (roots : List Json) : Json → Option Json → Prop
  | root {v : Json} (listed : v ∈ roots) : Met roots v none
  | child {v w : Json} {above : Option Json} {items : List Json} (met : Met roots v above)
      (parts : (v.member "children").partsIfAny = .ok items) (inside : w ∈ items) : Met roots w (some v)

/-- The text of an object's member, the empty text of anything else. -/
def textAt (key : String) : Json → String
  | .obj members => Node.textMember members key
  | _ => ""

@[simp] theorem textAt_obj (key : String) (members : List (String × Json)) :
    (Json.obj members).textAt key = Node.textMember members key := rfl

/-- A copy of a component: the same members, but for a copy of its parent where that is a group, and no parent where it
is none. -/
structure Copies (members : List (String × Json)) (above : Option Json) (copied : List (String × Json)) : Prop where
  others : ∀ key, key ≠ "parent" → Assoc.get? key copied = Assoc.get? key members
  parent : Assoc.get? "parent" copied = above.filter fun v => v.textAt "type" == "COMPONENT_SET"

/-- How the main component of an object is given anew. -/
inductive MainRespelled (roots : List Json) (members others : List (String × Json)) : Prop
  | kept (main : Assoc.get? "mainComponent" others = Assoc.get? "mainComponent" members)
      (name : Assoc.get? "componentId" others = Assoc.get? "componentId" members)
  /-- An instance that gave an id as `mainComponent` gives it as `componentId`. -/
  | renamed {id : String} (swaps : Node.textMember members "type" = "INSTANCE")
      (given : Assoc.get? "mainComponent" members = some (.str id))
      (main : Assoc.get? "mainComponent" others = none) (name : Assoc.get? "componentId" others = some (.str id))
  /-- An instance that gave an id as `mainComponent` holds a copy of the component of that id. -/
  | embedded {id : String} {component copied : List (String × Json)} {above : Option Json}
      (swaps : Node.textMember members "type" = "INSTANCE")
      (given : Assoc.get? "mainComponent" members = some (.str id))
      (met : Met roots (.obj component) above) (kind : Node.textMember component "type" = "COMPONENT")
      (named : Node.textMember component "id" = id) (copies : Copies component above copied)
      (main : Assoc.get? "mainComponent" others = some (.obj copied))
      (name : Assoc.get? "componentId" others = Assoc.get? "componentId" members)

/-- The same node, but some instances in it, itself included, give their main components anew. -/
inductive Respelled (roots : List Json) : Json → Json → Prop
  | obj {members others : List (String × Json)} {items parts : List Json}
      (kept : ∀ key, key ≠ "mainComponent" → key ≠ "componentId" → key ≠ "children" →
        Assoc.get? key others = Assoc.get? key members)
      (mains : MainRespelled roots members others)
      (here : ((Json.obj members).member "children").partsIfAny = .ok items)
      (there : ((Json.obj others).member "children").partsIfAny = .ok parts)
      (below : List.Forall₂ (Respelled roots) items parts) : Respelled roots (.obj members) (.obj others)

/-! ## Reading them -/

variable {values : List Json} {roots : List Node}

/-- Whatever is met is read as a node that is walked, below the node its parent is read as. -/
theorem exists_of_met (read : List.Forall₂ (fun v n => Node.ofJson v = .ok n) values roots) {v : Json}
    {above : Option Json} (met : Met values v above) : ∃ o ∈ (Index.ofRoots roots).walked, Node.ofJson v = .ok o.node ∧
      (above = none ∧ o.parent? = none ∨
        ∃ p parent, above = some p ∧ Node.ofJson p = .ok parent ∧ o.parent? = some parent ∧ o.node ∈ parent.children) := by
  induction met with
  | root listed =>
      obtain ⟨n, inside, found⟩ := exists_related_left read _ listed
      obtain ⟨o, walked, rfl, top⟩ := Index.exists_root (show n ∈ (Index.ofRoots roots).roots from inside)
      exact ⟨o, walked, found, Or.inl ⟨rfl, by simp [Located.parent?, top]⟩⟩
  | @child v w above items met parts inside ih =>
      obtain ⟨o, walked, found, -⟩ := ih
      obtain ⟨members, rfl⟩ := Node.members_of_ofJson found
      obtain ⟨data, main, given, children, -, -, same, each, node⟩ := Node.ofJson_eq_ok_iff.1 found
      obtain rfl := Except.ok.inj (same.symm.trans parts)
      obtain ⟨k, among, readToo⟩ := exists_related_left each w inside
      have child : k ∈ o.node.children := by rwa [node]
      obtain ⟨p, below, rfl, ancestors⟩ := Index.exists_child walked child
      exact ⟨p, below, readToo, Or.inr ⟨_, o.node, rfl, found, by simp [Located.parent?, ancestors], child⟩⟩

theorem member_congr {members others : List (String × Json)} {key : String}
    (same : Assoc.get? key others = Assoc.get? key members) : (Json.obj others).member key = (Json.obj members).member key := by
  simp only [member, same]

/-- A node is read from its own members but for its main component's name. -/
theorem dataOf_congr {members others : List (String × Json)}
    (kept : ∀ key, key ≠ "mainComponent" → key ≠ "componentId" → key ≠ "children" → key ≠ "parent" →
      Assoc.get? key others = Assoc.get? key members) {d : NodeData} (read : Node.dataOf members = .ok d) :
    Node.dataOf others = .ok { d with mainId := Node.mainIdOf (.obj others) } := by
  obtain ⟨definitions, properties, references, first, second, third, rfl⟩ := Node.dataOf_eq_ok_iff.1 read
  have text : ∀ key, key ≠ "mainComponent" → key ≠ "componentId" → key ≠ "children" → key ≠ "parent" →
      Node.textMember others key = Node.textMember members key := by
    intro key main name children parent
    simp only [Node.textMember, kept key main name children parent]
  refine Node.dataOf_eq_ok_iff.2 ⟨definitions, properties, references, ?_, ?_, ?_, ?_⟩
  · rwa [member_congr (kept _ (by decide) (by decide) (by decide) (by decide))]
  · rwa [member_congr (kept _ (by decide) (by decide) (by decide) (by decide))]
  · rwa [member_congr (kept _ (by decide) (by decide) (by decide) (by decide))]
  · rw [text "id" (by decide) (by decide) (by decide) (by decide),
      text "name" (by decide) (by decide) (by decide) (by decide),
      text "type" (by decide) (by decide) (by decide) (by decide)]

theorem mainIdOf_congr {members others : List (String × Json)}
    (main : Assoc.get? "mainComponent" others = Assoc.get? "mainComponent" members)
    (name : Assoc.get? "componentId" others = Assoc.get? "componentId" members)
    (other : Assoc.get? "mainComponentId" others = Assoc.get? "mainComponentId" members) :
    Node.mainIdOf (.obj others) = Node.mainIdOf (.obj members) := by
  simp only [Node.mainIdOf, member_congr main, member_congr name, member_congr other]

/-- A copy is read as the component itself. -/
theorem ofJson_of_copies {component copied : List (String × Json)} {above : Option Json}
    (copies : Copies component above copied) {n : Node} (found : Node.ofJson (.obj component) = .ok n) :
    Node.ofJson (.obj copied) = .ok n := by
  obtain ⟨data, main, items, children, own, embedded, parts, each, rfl⟩ := Node.ofJson_eq_ok_iff.1 found
  refine Node.ofJson_eq_ok_iff.2 ⟨data, main, items, children, ?_, ?_, ?_, each, rfl⟩
  · have same := dataOf_congr (fun key _ _ _ parent => copies.others key parent) own
    rw [mainIdOf_congr (copies.others _ (by decide)) (copies.others _ (by decide)) (copies.others _ (by decide)),
      ← (Node.texts_of_ofJson found).2.2] at same
    exact same
  · rwa [member_congr (copies.others _ (by decide))]
  · rwa [member_congr (copies.others _ (by decide))]

/-- A copy as main component embeds the component as it is met. -/
theorem mainOf_of_copies (read : List.Forall₂ (fun v n => Node.ofJson v = .ok n) values roots)
    {component copied : List (String × Json)} {above : Option Json} (met : Met values (.obj component) above)
    (copies : Copies component above copied) :
    ∃ o ∈ (Index.ofRoots roots).walked, Node.ofJson (.obj component) = .ok o.node ∧
      Node.mainOf Node.ofJson (.obj copied) = .ok o.toLocated.embedded := by
  obtain ⟨o, walked, found, parents⟩ := exists_of_met read met
  have own := ofJson_of_copies copies found
  refine ⟨o, walked, found, ?_⟩
  unfold Located.embedded
  rcases parents with ⟨rfl, alone⟩ | ⟨p, parent, rfl, readToo, below, child⟩
  · have absent : (Json.obj copied).member "parent" = .null := by simp [member, copies.parent]
    simp only [Node.mainOf, absent, own, alone]
    rfl
  · obtain ⟨members, rfl⟩ := Node.members_of_ofJson readToo
    have type : parent.type = Node.textMember members "type" := (Node.texts_of_ofJson readToo).1
    by_cases group : parent.isGroup = true
    · have named : Node.textMember members "type" = "COMPONENT_SET" := by simpa [Node.isGroup, type] using group
      have brought : (Json.obj copied).member "parent" = .obj members := by
        simp [member, copies.parent, Option.filter_some, named]
      have filled : parent.children.isEmpty = false := by
        cases kids : parent.children with
        | nil => simp [kids] at child
        | cons k rest => rfl
      simp only [Node.mainOf, brought, readToo, own, below, group, if_true, EmbeddedMain.ofParts, filled,
        Bool.false_eq_true, if_false, bind, Except.bind]
    · have plain : Node.textMember members "type" ≠ "COMPONENT_SET" := by simpa [Node.isGroup, type] using group
      have absent : (Json.obj copied).member "parent" = .null := by simp [member, copies.parent, Option.filter_some, plain]
      simp only [Node.mainOf, absent, own, below, group, Bool.false_eq_true, if_false]
      rfl

/-! ## Respelled nodes -/

theorem respelled_refl (values : List Json) {v : Json} {n : Node} (found : Node.ofJson v = .ok n) :
    Respelled values v v := by
  induction n using Node.tree_induction generalizing v with
  | step n _ children =>
      obtain ⟨members, rfl⟩ := Node.members_of_ofJson found
      obtain ⟨data, main, items, nodes, -, -, parts, each, rfl⟩ := Node.ofJson_eq_ok_iff.1 found
      refine .obj (fun _ _ _ _ => rfl) (.kept rfl rfl) parts parts (List.forall₂_same.2 fun w inside => ?_)
      obtain ⟨k, child, readToo⟩ := exists_related_left each w inside
      exact children k child readToo

section Read
variable (read : List.Forall₂ (fun v n => Node.ofJson v = .ok n) values roots)
  (names : ∀ o ∈ (Index.ofRoots roots).walked, o.node.isInstance = true →
    Index.NamesComponent (Index.ofRoots roots) o.node)
include read names

/-- A main component that is given anew is the same, or a copy of the one that was named. -/
theorem main_of_respelled {members others : List (String × Json)} {n : Node}
    (found : Node.ofJson (.obj members) = .ok n) (walked : ∃ o ∈ (Index.ofRoots roots).walked, o.node = n)
    (other : Assoc.get? "mainComponentId" others = Assoc.get? "mainComponentId" members)
    (mains : MainRespelled values members others) :
    ∃ embedded, Node.mainOf Node.ofJson ((Json.obj others).member "mainComponent") = .ok embedded ∧
      (embedded = n.main ∧ Node.mainIdOf (.obj others) = n.data.mainId ∨
        n.data.Embeds (Index.ofRoots roots) n.main embedded) := by
  obtain ⟨-, own⟩ := Node.data_of_ofJson found
  obtain ⟨type, -, mainId⟩ := Node.texts_of_ofJson found
  -- what an id alone is read as
  have unembedded : ∀ {id}, Assoc.get? "mainComponent" members = some (.str id) →
      n.main = .none ∧ n.data.mainId = .str id := by
    intro id given
    have value : (Json.obj members).member "mainComponent" = .str id := by simp [member, given]
    rw [value] at own
    exact ⟨(Except.ok.inj own).symm, by simp only [mainId, Node.mainIdOf, value]⟩
  cases mains with
  | kept main name =>
      exact ⟨n.main, member_congr main ▸ own, Or.inl ⟨rfl, (mainIdOf_congr main name other).trans mainId.symm⟩⟩
  | @renamed id swaps given main name =>
      obtain ⟨none_, named⟩ := unembedded given
      obtain ⟨o, met, rfl⟩ := walked
      obtain ⟨-, c, -, -, present, byId⟩ := names o met (by simp [Node.isInstance, type, swaps])
      obtain rfl := Json.str.inj (named.symm.trans byId)
      have absent : (Json.obj others).member "mainComponent" = .null := by simp [member, main]
      refine ⟨.none, by rw [absent]; rfl, Or.inl ⟨none_.symm, ?_⟩⟩
      rw [named]
      simp [Node.mainIdOf, member, main, name, truthy, present]
  | @embedded id component copied above swaps given met kind named copies main name =>
      obtain ⟨none_, byId⟩ := unembedded given
      obtain ⟨o, among, readToo, brought⟩ := mainOf_of_copies read met copies
      obtain ⟨kindToo, idToo, -⟩ := Node.texts_of_ofJson readToo
      have copy : (Json.obj others).member "mainComponent" = .obj copied := by simp [member, main]
      refine ⟨_, copy ▸ brought, Or.inr ⟨type.trans swaps, none_, o, among, ?_, ?_, rfl⟩⟩
      · simp [Node.isComponent, kindToo, kind]
      · rw [byId, idToo, named]

/-- A walked node that is respelled is read as a respelled node. -/
theorem read_of_respelled {v w : Json} {n : Node} (found : Node.ofJson v = .ok n)
    (walked : ∃ o ∈ (Index.ofRoots roots).walked, o.node = n) (respelled : Respelled values v w) :
    ∃ k, Node.ofJson w = .ok k ∧ n.Respelled (Index.ofRoots roots) k := by
  induction n using Node.tree_induction generalizing v w with
  | step n _ children =>
      cases respelled with
      | @obj members others items parts kept mains here there below =>
          obtain ⟨embedded, brought, alike⟩ :=
            main_of_respelled read names found walked (kept _ (by decide) (by decide) (by decide)) mains
          obtain ⟨data, main, given, nodes, own, -, same, each, rfl⟩ := Node.ofJson_eq_ok_iff.1 found
          obtain rfl := Except.ok.inj (same.symm.trans here)
          obtain ⟨o, met, node⟩ := walked
          obtain ⟨ks, readToo, kinds⟩ := exists_forall₂ (P := fun v k => Node.ofJson v = .ok k)
              (Q := Node.Respelled (Index.ofRoots roots)) below each fun v w k child first now => by
            obtain ⟨p, below, itself, -⟩ := Index.exists_child met (by rwa [node] : k ∈ o.node.children)
            exact children k child now ⟨p, below, itself⟩ first
          have renewed := dataOf_congr (fun key main name children _ => kept key main name children) own
          refine ⟨_, Node.ofJson_eq_ok_iff.2 ⟨_, embedded, parts, ks, renewed, brought, there, readToo, rfl⟩, ?_⟩
          exact .mk rfl alike kinds

end Read

end Json

namespace FormatRequest

/-- Let a document be accepted in which no id occurs twice and every instance names a component of the document by an
id that is not empty.  Whichever instances give their main components anew, the document is accepted, the model of its
relevant nodes is the same, and so is whatever is formatted from all of them. -/
theorem formatData_of_respelled {data other : Json} {ix : Index} (accepted : Index.ofData data = .ok ix)
    (distinct : ((Index.surveyed ix.roots).map fun o => o.node.id).Nodup)
    (names : ∀ o ∈ ix.walked, o.node.isInstance = true → ix.NamesComponent o.node)
    (respelled : List.Forall₂ (Json.Respelled (Index.rootObjects data)) (Index.rootObjects data)
      (Index.rootObjects other)) :
    ∃ anew, Index.ofData other = .ok anew ∧ anew.model none = ix.model none ∧
      ∀ (q : FormatRequest) (fs : Files), q.ids = none → q.formatData fs other = q.formatData fs data := by
  obtain ⟨roots, read, rfl, linked⟩ := Index.ofData_eq_ok_iff.1 accepted
  have reading := mapM_eq_ok_iff.1 read
  obtain ⟨others, readToo, kinds⟩ := exists_forall₂ (P := fun v k => Node.ofJson v = .ok k)
      (Q := Node.Respelled (Index.ofRoots roots)) respelled reading fun v w n listed first now => by
    obtain ⟨o, walked, itself, -⟩ := Index.exists_root (show n ∈ (Index.ofRoots roots).roots from listed)
    exact Json.read_of_respelled reading names now ⟨o, walked, itself⟩ first
  have faultless : ∀ o ∈ (Index.ofRoots others).nodes.values, Index.linkFault o = none := by
    intro p inside
    refine Index.linkFaults_respelled kinds (fun o surveyed => ?_) p
      (Index.mem_of_resolve ((Index.mem_nodes_iff others p).1 inside)).1
    exact linked o ((Index.mem_nodes_iff roots o).2 (Index.resolve_of_distinct distinct surveyed))
  have acceptedToo : Index.ofData other = .ok (Index.ofRoots others) :=
    Index.ofData_eq_ok_iff.2 ⟨others, mapM_eq_ok_iff.2 readToo, rfl, faultless⟩
  have model := Index.model_respelled kinds distinct names
  refine ⟨_, acceptedToo, model, fun q fs all => ?_⟩
  rw [format_of_data q fs other _ acceptedToo, format_of_data q fs data _ accepted, format, format, all, model,
    Index.nameOf?_respelled kinds distinct]

/-! ## A variant and two instances of it -/

def ofType (id name type : String) : List (String × Json) := [("id", .str id), ("name", .str name), ("type", .str type)]

def smallChip : List (String × Json) := ofType "2:1" "Size=Small" "COMPONENT"

def chipSet : Json := .obj (ofType "2:0" "chip" "COMPONENT_SET" ++ [("children", .arr [.obj smallChip])])

/-- An instance with the member that gives its main component. -/
def chipWith (id : String) (main : String × Json) : Json := .obj (ofType id "chip" "INSTANCE" ++ [main])

def namedChips : Json :=
  .arr [chipSet, chipWith "3:1" ("mainComponent", .str "2:1"), chipWith "3:2" ("mainComponent", .str "2:1")]

/-- The first instance holds a copy of the variant within its group. -/
def mixedChips : Json :=
  .arr [chipSet, chipWith "3:1" ("mainComponent", .obj (smallChip ++ [("parent", chipSet)])),
    chipWith "3:2" ("componentId", .str "2:1")]

theorem get?_append_of_ne {key : String} {m : String × Json} (apart : m.1 ≠ key) : ∀ members : List (String × Json),
    Assoc.get? key (members ++ [m]) = Assoc.get? key members := by
  intro members
  induction members with
  | nil => simp [Assoc.get?, apart]
  | cons first rest ih => simp only [List.cons_append, Assoc.get?, ih]

theorem chipWith_respelled {values : List Json} {id : String} {main other : String × Json}
    (first : main.1 = "mainComponent" ∨ main.1 = "componentId")
    (second : other.1 = "mainComponent" ∨ other.1 = "componentId")
    (mains : Json.MainRespelled values (ofType id "chip" "INSTANCE" ++ [main]) (ofType id "chip" "INSTANCE" ++ [other])) :
    Json.Respelled values (chipWith id main) (chipWith id other) := by
  have childless : ∀ {m : String × Json}, m.1 = "mainComponent" ∨ m.1 = "componentId" →
      ((chipWith id m).member "children").partsIfAny = .ok [] := by
    intro m named
    have absent : (chipWith id m).member "children" = .null := by
      rw [chipWith, Json.member, get?_append_of_ne (by rcases named with h | h <;> rw [h] <;> decide)]
      rfl
    rw [absent]
    rfl
  refine .obj (fun key notMain notName _ => ?_) mains (childless first) (childless second) .nil
  rw [get?_append_of_ne, get?_append_of_ne]
  · rcases first with h | h <;> rw [h] <;> exact Ne.symm ‹_›
  · rcases second with h | h <;> rw [h] <;> exact Ne.symm ‹_›

theorem formatData_chips : ∃ ix anew, Index.ofData namedChips = .ok ix ∧ Index.ofData mixedChips = .ok anew ∧
    anew.model none = ix.model none ∧
    ∀ (q : FormatRequest) (fs : Files), q.ids = none → q.formatData fs mixedChips = q.formatData fs namedChips := by
  have sound : ∀ ix, Index.ofData namedChips = .ok ix →
      ((Index.surveyed ix.roots).map fun o => o.node.id).Nodup ∧
        ∀ o ∈ ix.walked, o.node.isInstance = true → ix.NamesComponent o.node := by
    rintro _ ⟨rfl⟩
    exact ⟨by decide, by decide⟩
  have copies : Json.Copies smallChip (some chipSet) (smallChip ++ [("parent", chipSet)]) :=
    ⟨fun key apart => get?_append_of_ne (Ne.symm apart) _, rfl⟩
  have met : Json.Met (Index.rootObjects namedChips) (.obj smallChip) (some chipSet) :=
    .child (.root (.head _)) rfl (.head _)
  have respelled : List.Forall₂ (Json.Respelled (Index.rootObjects namedChips)) (Index.rootObjects namedChips)
      (Index.rootObjects mixedChips) :=
    .cons (Json.respelled_refl _ rfl)
      (.cons (chipWith_respelled (Or.inl rfl) (Or.inl rfl) (.embedded rfl rfl met rfl rfl copies rfl rfl))
        (.cons (chipWith_respelled (Or.inl rfl) (Or.inr rfl) (.renamed rfl rfl rfl rfl)) .nil))
  have accepted : Index.ofData namedChips = .ok _ := rfl
  obtain ⟨distinct, names⟩ := sound _ accepted
  obtain ⟨anew, acceptedToo, same⟩ := formatData_of_respelled accepted distinct names respelled
  exact ⟨_, anew, accepted, acceptedToo, same⟩

/-! A component without an id, and an instance that names it by the empty text. -/

def namelessChip : List (String × Json) := [("name", .str "chip"), ("type", .str "COMPONENT")]

def namedByNothing : Json := .arr [.obj namelessChip, chipWith "3:1" ("mainComponent", .str "")]

def embeddedNameless : Json := .arr [.obj namelessChip, chipWith "3:1" ("mainComponent", .obj namelessChip)]

/-- The empty text leads to no main component, though it is the id of one, so a copy in its place makes another
model. -/
theorem model_unlike_embedded : ∃ ix anew, Index.ofData namedByNothing = .ok ix ∧
    Index.ofData embeddedNameless = .ok anew ∧
    ((Index.surveyed ix.roots).map fun o => o.node.id).Nodup ∧
    (∀ o ∈ ix.walked, o.node.isInstance = true → o.node.main.component?.isNone = true ∧
      ∃ c ∈ ix.walked, c.node.isComponent = true ∧ o.node.data.mainId = .str c.node.id) ∧
    List.Forall₂ (Json.Respelled (Index.rootObjects namedByNothing)) (Index.rootObjects namedByNothing)
      (Index.rootObjects embeddedNameless) ∧
    ∃ m n, ix.model none = .ok m ∧ anew.model none = .ok n ∧
      m.components.values.map Component.name = ["Chip", "Unnamedcomponent"] ∧
      n.components.values.map Component.name = ["Chip", "Chip"] := by
  have copies : Json.Copies namelessChip none namelessChip := ⟨fun _ _ => rfl, rfl⟩
  have met : Json.Met (Index.rootObjects namedByNothing) (.obj namelessChip) none := .root (.head _)
  refine ⟨_, _, rfl, rfl, by decide, by decide, ?_, _, _, rfl, rfl, rfl, rfl⟩
  exact .cons (Json.respelled_refl _ rfl)
    (.cons (chipWith_respelled (Or.inl rfl) (Or.inl rfl) (.embedded rfl rfl met rfl rfl copies rfl rfl)) .nil)

end FormatRequest

end DesignProps
