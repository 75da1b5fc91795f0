import DesignProps.Proofs.Document.Links
import DesignProps.Proofs.Document.Reading
import DesignProps.Proofs.Document.Trees
import Mathlib.Logic.Relation

/-!
# What an index holds

A document is followed by its links, from a node to its children and to the main component that stands inside it.  A
survey follows other ones: an embedded main component is entered through the top of its tree, the group it came with,
and met there only if the group lists it.  A group without children of its own lists the component it came with; one
that has children lists just them.  So an index holds the id of every node that is followed to, but for the nodes below
a main component whose group has children and not this one among them.

Main statements: `Node.entered_or_omitted`, `Index.resolve_isSome_iff_entered` (the ids of an index are the ids of the
nodes that are entered), `Index.complete_but_omitted`.
-/

set_option autoImplicit false

namespace DesignProps

namespace Node

/-! ## Links and entries -/

/-- From a node to a child, or to the main component inside it. -/
inductive Link (n : Node) : Node → Prop
  | child {k : Node} (listed : k ∈ n.children) : Link n k
  | main {c : Node} (embedded : n.main.component? = some c) : Link n c

/-- From a node to a child, or to the top of the tree of the main component inside it. -/
inductive Entry (n : Node) : Node → Prop
  | child {k : Node} (listed : k ∈ n.children) : Entry n k
  | top {t : Node} (embedded : n.main.top? = some t) : Entry n t

/-- Any number of links lead from one node to the other. -/
def Reaches : Node → Node → Prop := Relation.ReflTransGen Link

def Enters : Node → Node → Prop := Relation.ReflTransGen Entry

/-- The main component inside a node came with a group that has children, and it is none of them. -/
def Omits (n c : Node) : Prop := ∃ g, n.main = .within c g ∧ g.children ≠ [] ∧ c ∉ g.children

variable {n x : Node}

/-- A survey meets exactly the nodes that are entered. -/
theorem enters_iff_surveyed (place : Place) (ancestors : List Node) :
    n.Enters x ↔ ∃ o ∈ survey place ancestors n, o.node = x := by
  constructor
  · intro entered
    -- from the first entry on: the rest of the way is surveyed at another place
    induction entered using Relation.ReflTransGen.head_induction_on generalizing place ancestors with
    | refl => exact ⟨_, mem_survey.2 (Or.inl rfl), rfl⟩
    | head first _ ih =>
        cases first with
        | child listed =>
            obtain ⟨i, at_⟩ := List.mem_iff_getElem?.1 listed
            obtain ⟨o, inside, same⟩ := ih (.child i :: place) (_ :: ancestors)
            exact ⟨o, mem_survey.2 (Or.inr (Or.inr ⟨i, _, at_, inside⟩)), same⟩
        | top embedded =>
            obtain ⟨o, inside, same⟩ := ih (.main :: place) []
            exact ⟨o, mem_survey.2 (Or.inr (Or.inl ⟨_, embedded, inside⟩)), same⟩
  · rintro ⟨o, inside, rfl⟩
    induction n using tree_induction generalizing place ancestors with
    | step n embedded children =>
        rcases mem_survey.1 inside with rfl | ⟨t, top, inside⟩ | ⟨i, k, at_, inside⟩
        · exact .refl
        · exact .head (.top top) (embedded t top _ _ inside)
        · have listed := List.mem_of_getElem? at_
          exact .head (.child listed) (children k listed _ _ inside)

/-! ## Nodes that were read -/

/-- A node as it is read from an object. -/
def IsRead (n : Node) : Prop := ∃ members, ofJson (.obj members) = .ok n

theorem isRead_of_ofJson {v : Json} (found : ofJson v = .ok n) : n.IsRead := by
  obtain ⟨members, rfl⟩ := members_of_ofJson found
  exact ⟨members, found⟩

/-- What the main component of an object is read as. -/
theorem mainOf_eq_ok {v : Json} {main : EmbeddedMain} (found : mainOf ofJson v = .ok main) :
    main = .none ∨ ∃ c, c.IsRead ∧ ∃ g, main = .ofParts c g := by
  unfold mainOf at found
  split at found
  · split at found
    · obtain ⟨g, -, found⟩ := bind_eq_ok_iff.1 found
      obtain ⟨c, own, found⟩ := bind_eq_ok_iff.1 found
      exact Or.inr ⟨c, isRead_of_ofJson own, some g, (Except.ok.inj found).symm⟩
    · obtain ⟨c, own, found⟩ := bind_eq_ok_iff.1 found
      exact Or.inr ⟨c, isRead_of_ofJson own, none, (Except.ok.inj found).symm⟩
  · exact Or.inl (Except.ok.inj found).symm

theorem component?_ofParts (c : Node) (g : Option Node) : (EmbeddedMain.ofParts c g).component? = some c := by
  cases g <;> rfl

/-- A group that was read is not without children: it got its component if it had none. -/
theorem children_ne_nil_of_ofParts {c d g : Node} {given : Option Node}
    (same : EmbeddedMain.ofParts c given = .within d g) : g.children ≠ [] := by
  cases given with
  | none => cases same
  | some group =>
      obtain ⟨-, rfl⟩ := EmbeddedMain.within.inj same
      split
      · exact List.cons_ne_nil _ _
      · next some_ => simpa using some_

theorem IsRead.link (read : n.IsRead) (linked : n.Link x) : x.IsRead := by
  obtain ⟨members, found⟩ := read
  obtain ⟨data, main, items, children, -, embedded, -, each, rfl⟩ := ofJson_eq_ok_iff.1 found
  cases linked with
  | child listed =>
      obtain ⟨v, -, own⟩ := exists_related_right each _ listed
      exact isRead_of_ofJson own
  | main given =>
      rcases mainOf_eq_ok embedded with rfl | ⟨c, own, g, rfl⟩
      · cases given
      · obtain rfl := Option.some.inj ((component?_ofParts c g).symm.trans given)
        exact own

theorem IsRead.reaches (read : n.IsRead) (reached : n.Reaches x) : x.IsRead := by
  induction reached with
  | refl => exact read
  | tail _ linked ih => exact ih.link linked

theorem IsRead.omits {c g : Node} (read : n.IsRead) (embedded : n.main = .within c g) (unlisted : c ∉ g.children) :
    n.Omits c := by
  obtain ⟨members, found⟩ := read
  rcases mainOf_eq_ok (data_of_ofJson found).2 with absent | ⟨d, -, given, parts⟩
  · cases absent.symm.trans embedded
  · exact ⟨g, embedded, children_ne_nil_of_ofParts (parts.symm.trans embedded), unlisted⟩

/-! ## What is entered -/

/-- A node that is followed to is entered, or it is below a main component that its group omits. -/
theorem entered_or_omitted (read : n.IsRead) (reached : n.Reaches x) :
    n.Enters x ∨ ∃ m c, n.Reaches m ∧ m.Omits c ∧ c.Reaches x := by
  induction reached with
  | refl => exact Or.inl .refl
  | @tail y z before linked ih =>
      rcases ih with entered | ⟨m, c, reached, omits, below⟩
      · cases linked with
        | child listed => exact Or.inl (entered.tail (.child listed))
        | main embedded =>
            cases own : y.main with
            | none => simp [own, EmbeddedMain.component?] at embedded
            | alone component =>
                rw [own] at embedded
                have top : y.main.top? = some z := by rw [own]; exact embedded
                exact Or.inl (entered.tail (.top top))
            | within component group =>
                rw [own] at embedded
                obtain rfl := Option.some.inj embedded
                by_cases listed : component ∈ group.children
                · have top : y.main.top? = some group := by rw [own]; rfl
                  exact Or.inl ((entered.tail (.top top)).tail (.child listed))
                · exact Or.inr ⟨y, component, before, (read.reaches before).omits own listed, .refl⟩
      · exact Or.inr ⟨m, c, reached, omits, below.tail linked⟩

end Node

namespace Index

/-- Links lead from a root to the node. -/
def Reaches (ix : Index) (x : Node) : Prop := ∃ r ∈ ix.roots, r.Reaches x

def Enters (ix : Index) (x : Node) : Prop := ∃ r ∈ ix.roots, r.Enters x

theorem resolve_isSome_iff_entered (roots : List Node) (id : String) :
    ((ofRoots roots).resolve id).isSome = true ↔ ∃ x, (ofRoots roots).Enters x ∧ x.id = id := by
  rw [resolve_isSome_iff]
  constructor
  · rintro ⟨o, inside, rfl⟩
    obtain ⟨i, r, at_, inside⟩ := Node.mem_forest.1 inside
    exact ⟨o.node, ⟨r, List.mem_of_getElem? at_, (Node.enters_iff_surveyed _ _).2 ⟨o, inside, rfl⟩⟩, rfl⟩
  · rintro ⟨x, ⟨r, listed, entered⟩, rfl⟩
    obtain ⟨i, at_⟩ := List.mem_iff_getElem?.1 listed
    obtain ⟨o, inside, rfl⟩ := (Node.enters_iff_surveyed [.root i] []).1 entered
    exact ⟨o, Node.mem_forest.2 ⟨i, r, at_, inside⟩, rfl⟩

theorem isRead_of_root {data : Json} {ix : Index} (accepted : ofData data = .ok ix) {r : Node} (listed : r ∈ ix.roots) :
    r.IsRead := by
  obtain ⟨roots, found, rfl, -⟩ := ofData_eq_ok_iff.1 accepted
  obtain ⟨v, -, own⟩ := exists_related_right (mapM_eq_ok_iff.1 found) _ listed
  exact Node.isRead_of_ofJson own

/-- In every document that is accepted, the index holds the id of every node that links lead to from a root, unless the
node is below a main component that its group omits.  So it holds all of them exactly if it holds those. -/
theorem complete_but_omitted {data : Json} {ix : Index} (accepted : ofData data = .ok ix) :
    (∀ x, ix.Reaches x →
      (ix.resolve x.id).isSome = true ∨ ∃ n c, ix.Reaches n ∧ n.Omits c ∧ c.Reaches x) ∧
    ((∀ x, ix.Reaches x → (ix.resolve x.id).isSome = true) ↔
      ∀ n c, ix.Reaches n → n.Omits c → ∀ x, c.Reaches x → (ix.resolve x.id).isSome = true) := by
  have held : ∀ x, ix.Reaches x →
      (ix.resolve x.id).isSome = true ∨ ∃ n c, ix.Reaches n ∧ n.Omits c ∧ c.Reaches x := by
    rintro x ⟨r, listed, reached⟩
    rcases Node.entered_or_omitted (isRead_of_root accepted listed) reached with entered | ⟨n, c, before, omits, below⟩
    · rw [eq_ofRoots accepted]
      exact Or.inl ((resolve_isSome_iff_entered ix.roots x.id).2 ⟨x, ⟨r, listed, entered⟩, rfl⟩)
    · exact Or.inr ⟨n, c, ⟨r, listed, before⟩, omits, below⟩
  refine ⟨held, ?complete, ?rest⟩
  case complete =>
    rintro all n c ⟨r, listed, reached⟩ ⟨g, within, -⟩ x below
    have linked : n.Link c := .main (by rw [within]; rfl)
    exact all x ⟨r, listed, (reached.tail linked).trans below⟩
  case rest =>
    intro omitted x reached
    rcases held x reached with inside | ⟨n, c, before, omits, below⟩
    · exact inside
    · exact omitted n c before omits x below

/-! An instance with a main component whose group lists some of its variants. -/

def variant (id name : String) : Json := .obj [("id", .str id), ("name", .str name), ("type", .str "COMPONENT")]

/-- The main component 1:2, in a group of the given children. -/
def chipWithin (children : List Json) : Json :=
  .obj [("id", .str "3:1"), ("name", .str "chip"), ("type", .str "INSTANCE"),
    ("mainComponent", .obj [("id", .str "1:2"), ("name", .str "Size=small"), ("type", .str "COMPONENT"),
      ("parent", .obj [("id", .str "1:1"), ("name", .str "chip"), ("type", .str "COMPONENT_SET"),
        ("children", .arr children)])])]

theorem complete_chip_listed : ∃ ix, ofData (chipWithin [variant "1:2" "Size=small"]) = .ok ix ∧
    ((∀ x, ix.Reaches x → (ix.resolve x.id).isSome = true) ↔
      ∀ n c, ix.Reaches n → n.Omits c → ∀ x, c.Reaches x → (ix.resolve x.id).isSome = true) := by
  have accepted : ofData (chipWithin [variant "1:2" "Size=small"]) = .ok _ := rfl
  exact ⟨_, accepted, (complete_but_omitted accepted).2⟩

/-- A group that lists another variant only leaves the main component of the instance out. -/
theorem main_chip_omitted : ∃ ix, ofData (chipWithin [variant "1:3" "Size=large"]) = .ok ix ∧
    ∃ x, ix.Reaches x ∧ x.id = "1:2" ∧ ix.resolve x.id = none := by
  exact ⟨_, rfl, _, ⟨_, .head _, .single (.main rfl)⟩, rfl, rfl⟩

end Index

end DesignProps
