import DesignProps.Document.Node
import DesignProps.Notice

/-!
# The index of a document

`Node.survey` lists every node of a tree with its place and the nodes above it, each embedded main component's tree
right after the node that holds it.  The index keeps the first node of every id.  A node in the index that names its
main component by id is linked to the node of that id; a node that is not, because its id was taken, stays unlinked.

Main statements: `resolve_ofRoots` (an id leads to its first occurrence), `resolve_isSome_iff` (the ids of the index are
the ids surveyed).
-/

set_option autoImplicit false

namespace DesignProps

/-- One step down a document: to a root, to a child, or into the tree of an embedded main component. -/
inductive Step
  | root (position : Nat)
  | child (position : Nat)
  | main
  deriving DecidableEq, Repr

/-- Where a node stands: the steps that lead to it, the last one first. -/
abbrev Place := List Step

/-- A node and the nodes above it, the nearest one first. -/
structure Located where
  node : Node
  ancestors : List Node

structure Occurrence extends Located where
  place : Place

namespace Located

def parent? (l : Located) : Option Node := l.ancestors.head?

/-- The topmost node above, or the node itself. -/
def top (l : Located) : Node := l.ancestors.getLast?.getD l.node

end Located

/-- The main component that stands inside a node, below the group it came with. -/
def EmbeddedMain.located? : EmbeddedMain → Option Located
  | .none => Option.none
  | .alone component => some ⟨component, []⟩
  | .within component group => some ⟨component, [group]⟩

namespace Node

/-! ## Lists of occurrences -/

mutual

def survey (place : Place) (ancestors : List Node) : Node → List Occurrence
  | .mk data main children =>
      ⟨⟨.mk data main children, ancestors⟩, place⟩ ::
        (surveyMain (.main :: place) main ++ surveyAll place 0 (.mk data main children :: ancestors) children)

def surveyMain (place : Place) : EmbeddedMain → List Occurrence
  | .none => []
  | .alone component => survey place [] component
  | .within _ group => survey place [] group

def surveyAll (place : Place) (position : Nat) (ancestors : List Node) : List Node → List Occurrence
  | [] => []
  | n :: rest => survey (.child position :: place) ancestors n ++ surveyAll place (position + 1) ancestors rest

end

mutual

/-- The relevant nodes that have no relevant node above them, in the order of a walk. -/
def outermost (place : Place) (ancestors : List Node) : Node → List Occurrence
  | .mk data main children =>
      if (Node.mk data main children).isRelevant then [⟨⟨.mk data main children, ancestors⟩, place⟩]
      else outermostAll place 0 (.mk data main children :: ancestors) children

def outermostAll (place : Place) (position : Nat) (ancestors : List Node) : List Node → List Occurrence
  | [] => []
  | n :: rest => outermost (.child position :: place) ancestors n ++ outermostAll place (position + 1) ancestors rest

end

/-- The occurrences of several trees, numbered from a position. -/
def forest (list : Place → Node → List Occurrence) (position : Nat) : List Node → List Occurrence
  | [] => []
  | n :: rest => list [.root position] n ++ forest list (position + 1) rest

end Node

/-! ## Index -/

structure Index where
  roots : List Node
  nodes : OrderedMap String Occurrence

namespace Index

def register (nodes : OrderedMap String Occurrence) (o : Occurrence) : OrderedMap String Occurrence :=
  nodes.insertNew o.node.id o

def surveyed (roots : List Node) : List Occurrence := Node.forest (fun place => Node.survey place []) 0 roots

def ofRoots (roots : List Node) : Index := ⟨roots, (surveyed roots).foldl register .empty⟩

def resolve (ix : Index) (id : String) : Option Occurrence := ix.nodes.get? id

def contains (ix : Index) (id : String) : Bool := ix.nodes.contains id

def size (ix : Index) : Nat := ix.nodes.size

/-- Whether an occurrence is the one that stands for its id. -/
def registers (ix : Index) (o : Occurrence) : Bool :=
  match ix.resolve o.node.id with
  | some first => first.place == o.place
  | none => false

/-- The node a main component's name leads to. -/
def named? (ix : Index) : Json → Option Located
  | .str id => if id = "" then none else (ix.resolve id).map Occurrence.toLocated
  | _ => none

/-- The main component of a node: the embedded one, else for a registered node the one it names. -/
def main? (ix : Index) (o : Occurrence) : Option Located :=
  match o.node.main.located? with
  | some l => some l
  | none => if ix.registers o then ix.named? o.node.data.mainId else none

/-! ### Links that lead nowhere -/

/-- Whether a node waits for a link by name. -/
def awaitsLink (o : Occurrence) : Bool :=
  o.node.main.located?.isNone && o.node.data.mainId.truthy

/-- A list or an object names nothing. -/
def linkFault (o : Occurrence) : Option Fault :=
  match o.node.data.mainId with
  | .arr items => if awaitsLink o then some (.notAName (.arr items)) else none
  | .obj members => if awaitsLink o then some (.notAName (.obj members)) else none
  | _ => none

/-- What is noted for a node whose link leads nowhere. -/
def linkNotice (ix : Index) (o : Occurrence) : Option Notice :=
  if awaitsLink o && (ix.named? o.node.data.mainId).isNone then
    some (.foreignMain o.node.data.mainId.asText o.node.id)
  else none

/-- What is noted while nodes are linked, up to the first fault. -/
def linkNotices (ix : Index) : List Occurrence → List Notice
  | [] => []
  | o :: rest =>
      match linkFault o with
      | some _ => []
      | none => (ix.linkNotice o).toList ++ ix.linkNotices rest

def notices (ix : Index) : List Notice := ix.linkNotices ix.nodes.values

/-! ### From data -/

/-- The documents of the entries of a `nodes` answer. -/
def entryDocuments : List (String × Json) → List Json
  | [] => []
  | (_, entry) :: rest =>
      match entry.member "document" with
      | .obj members => .obj members :: entryDocuments rest
      | _ => entryDocuments rest

/-- The root objects of a node, a list of nodes, a document answer or an answer for several nodes. -/
def rootObjects (data : Json) : List Json :=
  match data with
  | .arr items => items.filter Json.isObject
  | .obj members =>
      match (Json.obj members).member "document" with
      | .obj document => [.obj document]
      | _ =>
          match (Json.obj members).member "nodes" with
          | .obj entries => entryDocuments entries
          | _ => [.obj members]
  | _ => []

def ofData (data : Json) : Except Fault Index := do
  let roots ← (rootObjects data).mapM Node.ofJson
  let ix := ofRoots roots
  match ix.nodes.values.findSome? linkFault with
  | some e => .error e
  | none => .ok ix

/-- What is noted while data is indexed, up to the first fault. -/
def noticesOfData (data : Json) : List Notice :=
  match (rootObjects data).mapM Node.ofJson with
  | .ok roots => (ofRoots roots).notices
  | .error _ => []

/-! ### Selecting nodes -/

/-- The outermost relevant nodes of the document. -/
def outermost (ix : Index) : List Occurrence := Node.forest (fun place => Node.outermost place []) 0 ix.roots

/-- The nodes of the given ids, or the outermost relevant ones. -/
def relevant (ix : Index) : Option (List String) → List Occurrence
  | some ids => ids.filterMap ix.resolve
  | none => ix.outermost

def relevantNotices (ix : Index) : Option (List String) → List Notice
  | some ids => (ids.filter fun id => !ix.contains id).map .unknownNode
  | none => []

/-! ### What is registered -/

theorem get?_insertNew (m : OrderedMap String Occurrence) (o : Occurrence) (id : String) :
    (register m o).get? id = (m.get? id).or (if o.node.id = id then some o else none) := by
  unfold register OrderedMap.insertNew
  by_cases h : m.contains o.node.id = true
  · rw [if_pos h]
    by_cases e : o.node.id = id
    · rw [OrderedMap.contains, e] at h
      obtain ⟨first, found⟩ := Option.isSome_iff_exists.1 h
      simp [found]
    · simp [e]
  · rw [if_neg h, OrderedMap.get?_insert]
    by_cases e : o.node.id = id
    · simp only [OrderedMap.contains, e, Option.not_isSome_iff_eq_none] at h
      simp [e, h]
    · simp [e]

theorem get?_foldl_register (id : String) : ∀ (os : List Occurrence) (m : OrderedMap String Occurrence),
    (os.foldl register m).get? id = (m.get? id).or (os.find? fun o => o.node.id == id) := by
  intro os
  induction os with
  | nil => simp
  | cons o rest ih =>
      intro m
      rw [List.foldl_cons, ih, get?_insertNew, Option.or_assoc]
      by_cases e : o.node.id = id <;> simp [e]

theorem resolve_ofRoots (roots : List Node) (id : String) :
    (ofRoots roots).resolve id = (surveyed roots).find? fun o => o.node.id == id := by
  rw [resolve, ofRoots, get?_foldl_register]
  rfl

theorem resolve_isSome_iff (roots : List Node) (id : String) :
    ((ofRoots roots).resolve id).isSome = true ↔ ∃ o ∈ surveyed roots, o.node.id = id := by
  rw [resolve_ofRoots]
  simp

end Index

end DesignProps
