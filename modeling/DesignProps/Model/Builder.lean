import DesignProps.Model.Basic
import DesignProps.Property.Normalize
import DesignProps.Reference.Bindings

/-!
# Building a model

`Model.add` works one node into a model.  Its steps change the model one after the other, so a node that fails leaves
what was done before the fault: its references, then its definitions.  The first node of a definition fixes the
definitions, the last one its display name.

Main statement: `add_definitions_of_mem` (definitions that are filed are never changed).
-/

set_option autoImplicit false

namespace DesignProps

/-- A node to be added, with the main component its document gives it. -/
structure Subject where
  node : Node
  main : Option Located

namespace Subject

def ofOccurrence (ix : Index) (o : Occurrence) : Subject := ⟨o.node, ix.main? o⟩

/-- The node that holds the property definitions: an instance's main component, or the group this is a variant of. -/
def source (s : Subject) : Option Node :=
  if s.node.isInstance then
    s.main.map fun main =>
      match main.parent? with
      | some parent => if parent.isGroup then parent else main.node
      | none => main.node
  else some s.node

def definitionId (s : Subject) : String :=
  match s.source with
  | some source => source.id
  | none => ""

/-- The label of components whose definition has no name. -/
def unnamed : String := "UNNAMEDCOMPONENT"

def displayName (s : Subject) : String :=
  let label := match s.source with
    | some source => source.name
    | none => ""
  Naming.displayName (if label = "" then unnamed else label)

def rawDefinitions (s : Subject) : List (Key × Json) :=
  match s.source with
  | some source => source.data.definitions.entries
  | none => []

/-- An instance has values of its own; a definition stands at its defaults. -/
def rawValues (s : Subject) : Except Fault (OrderedMap Key Json) :=
  if s.node.isInstance then .ok s.node.data.properties
  else (valuesFromDefinitions s.node.data.definitions.entries).result

def references (s : Subject) : Except Fault ReferenceMap := s.node.references (s.main.map Located.node)

end Subject

namespace Model

/-- The definitions that count for a subject: those already filed under its definition, else its own. -/
def definitionsFor (m : Model) (s : Subject) : Except Fault PropertyDefinitions :=
  match m.definitions.get? s.definitionId with
  | some definitions => .ok definitions
  | none => (normalizeDefinitions s.rawDefinitions).result

def fileReferences (m : Model) (references : ReferenceMap) : Model :=
  { m with references := m.references.merge references }

def fileDefinitions (m : Model) (s : Subject) (definitions : PropertyDefinitions) : Model :=
  { m with
    definitions := m.definitions.insertNew s.definitionId definitions
    names := m.names.insert s.definitionId s.displayName }

def fileComponent (m : Model) (c : Component) : Model :=
  { m with components := m.components.insert c.id c }

def add (m : Model) (s : Subject) : Model × Except Fault Component :=
  match s.rawValues with
  | .error e => (m, .error e)
  | .ok raw =>
      match s.references with
      | .error e => (m, .error e)
      | .ok references =>
          let m := m.fileReferences references
          match m.definitionsFor s with
          | .error e => (m, .error e)
          | .ok definitions =>
              let m := m.fileDefinitions s definitions
              match (normalizeValues definitions raw.entries).result with
              | .error e => (m, .error e)
              | .ok properties =>
                  let c : Component := ⟨s.node.id, s.displayName, s.definitionId, properties⟩
                  (m.fileComponent c, .ok c)

/-- Adds nodes in order, up to the first one that fails. -/
def addAll (m : Model) : List Subject → Model × Option Fault
  | [] => (m, none)
  | s :: rest =>
      match m.add s with
      | (m, .ok _) => m.addAll rest
      | (m, .error e) => (m, some e)

def ofSubjects (subjects : List Subject) : Except Fault Model :=
  match empty.addAll subjects with
  | (m, none) => .ok m
  | (_, some e) => .error e

/-! ## Notices -/

def definitionNotices (m : Model) (s : Subject) : List Notice :=
  if m.definitions.contains s.definitionId then []
  else (normalizeDefinitions s.rawDefinitions).definitionNotices

/-- What is noted while a node is added, up to a fault. -/
def addNotices (m : Model) (s : Subject) : List Notice :=
  (if s.source.isNone then [.unresolvedInstance s.node.id] else []) ++
    match s.rawValues, s.references with
    | .ok raw, .ok _ =>
        m.definitionNotices s ++
          match m.definitionsFor s with
          | .ok definitions => (normalizeValues definitions raw.entries).valueNotices definitions
          | .error _ => []
    | _, _ => []

def addAllNotices (m : Model) : List Subject → List Notice
  | [] => []
  | s :: rest =>
      m.addNotices s ++
        match m.add s with
        | (m, .ok _) => m.addAllNotices rest
        | (_, .error _) => []

/-! ## What an addition keeps -/

theorem definitionsFor_fileReferences (m : Model) (r : ReferenceMap) (s : Subject) :
    (m.fileReferences r).definitionsFor s = m.definitionsFor s := rfl

/-- Definitions that are filed stay as they are. -/
theorem add_definitions_of_mem (m : Model) (s : Subject) (id : String) (definitions : PropertyDefinitions)
    (found : m.definitions.get? id = some definitions) : (m.add s).1.definitions.get? id = some definitions := by
  have kept : ∀ d, ((m.fileReferences d).definitions.get? id) = some definitions := fun _ => found
  have filed : ∀ r d, ((m.fileReferences r).fileDefinitions s d).definitions.get? id = some definitions := by
    intro r d
    simp only [fileDefinitions, OrderedMap.insertNew]
    split
    · exact kept r
    · next absent =>
        rw [OrderedMap.get?_insert]
        split
        · next same =>
            rw [OrderedMap.contains, eq_of_beq same, kept r] at absent
            exact absurd rfl absent
        · exact kept r
  unfold add
  split
  · exact found
  · split
    · exact found
    · dsimp only
      split
      · exact kept _
      · split
        · exact filed _ _
        · exact filed _ _

end Model

end DesignProps
