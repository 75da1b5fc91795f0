import DesignProps.Model.Builder
import DesignProps.Registry
import DesignProps.Target.Generation

/-!
# Formatting a document

The whole way from the data of a document to code: the data is indexed, nodes are selected, a model is built from
them, and a generator that looks names up in the index renders the model.

Main statement: `format_of_data` (formatting data is formatting its index).
-/

set_option autoImplicit false

namespace DesignProps

/-- What is asked for; without ids all relevant nodes are. -/
structure FormatRequest where
  language : String
  config : ConfigSource
  ids : Option (List String)
  instanceSettings : Json
  definitionSettings : Json

inductive FormatFailure
  /-- The data cannot be read as a document. -/
  | document (e : Fault)
  | registry (e : RegistryError)
  /-- The code cannot be rendered. -/
  | generation (e : Fault)
  deriving DecidableEq

namespace Index

/-- The name of the node that an id leads to. -/
def nameOf? (ix : Index) (id : String) : Option String := (ix.resolve id).map fun o => o.node.name

def subjects (ix : Index) (ids : Option (List String)) : List Subject :=
  (ix.relevant ids).map (Subject.ofOccurrence ix)

/-- The model of the selected nodes. -/
def model (ix : Index) (ids : Option (List String)) : Except Fault Model := Model.ofSubjects (ix.subjects ids)

end Index

namespace FormatRequest

def generate (q : FormatRequest) (g : Generator) (m : Model) : Except FormatFailure Generation :=
  match g.generate m q.instanceSettings q.definitionSettings with
  | .ok done => .ok done
  | .error e => .error (.generation e)

def format (q : FormatRequest) (fs : Files) (ix : Index) : Except FormatFailure Generation :=
  match ix.model q.ids with
  | .error e => .error (.document e)
  | .ok m =>
      match Registry.builtin.create fs q.language q.config ix.nameOf? with
      | .error e => .error (.registry e)
      | .ok g => q.generate g m

def formatData (q : FormatRequest) (fs : Files) (data : Json) : Except FormatFailure Generation :=
  match Index.ofData data with
  | .error e => .error (.document e)
  | .ok ix => q.format fs ix

end FormatRequest

/-! ## Quick formatting -/

inductive QuickFailure
  /-- The data is a text that is no JSON. -/
  | unreadable (e : Json.ReadError)
  | failed (e : FormatFailure)
  deriving DecidableEq

/-- Code that cannot be rendered is a failure of rendering and of the whole call, and the text says both. -/
def QuickFailure.message : QuickFailure → String
  | .unreadable e => e.message
  | .failed (.document e) => e.message
  | .failed (.registry e) => e.message
  | .failed (.generation e) => "Code generation failed: " ++ Generation.failureMessage e

/-- Data that may be given as JSON text. -/
def dataOf : Json → Except Json.ReadError Json
  | .str text => Json.parse text
  | data => .ok data

/-- Formats all relevant nodes with overrides and without settings. -/
def quickFormat (language : String) (overrides : List (String × Json)) (data : Json) :
    Except QuickFailure Output :=
  match dataOf data with
  | .error e => .error (.unreadable e)
  | .ok data =>
      match (FormatRequest.mk language (.overrides overrides) none .null .null).formatData .empty data with
      | .ok done => .ok done.output
      | .error e => .error (.failed e)

namespace FormatRequest

theorem format_of_data (q : FormatRequest) (fs : Files) (data : Json) (ix : Index) (h : Index.ofData data = .ok ix) :
    q.formatData fs data = q.format fs ix := by
  simp [formatData, h]

end FormatRequest

end DesignProps
