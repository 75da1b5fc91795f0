import DesignProps.Config.Basic
import DesignProps.Files
import DesignProps.Json.Reader
import DesignProps.Json.Writer

/-!
# Configuration files

A configuration file holds one JSON object.  `Config.load` lays a file and overrides over a target's defaults, and
`Config.save` writes a configuration so that it can be loaded again.

Main statement: `load_of_no_file` (an empty path names no file).
-/

set_option autoImplicit false

namespace DesignProps

/-- Why a configuration file cannot be used; `path` is shown as given. -/
inductive ConfigError
  | notFound (path : String)
  | notJson (path : String)
  | malformed (path : String) (cause : Json.Reader.Cause) (place : Json.Place)
  | unreadable (path : String) (e : FileRefusal)
  | notAnObject (path : String)
  | unwritable (path : String) (e : FileRefusal)
  deriving DecidableEq, Repr

def ConfigError.message : ConfigError → String
  | .notFound path => "Configuration file not found: " ++ Path.shown path
  | .notJson path => "Configuration file must be JSON: " ++ Path.shown path
  | .malformed path cause place =>
      "Invalid JSON in configuration file " ++ Path.shown path ++ ": "
        ++ (Json.ReadError.malformed cause place).message
  | .unreadable path e => "Failed to load configuration file " ++ Path.shown path ++ ": " ++ e.message path
  | .notAnObject path => "Configuration file must contain a JSON object: " ++ Path.shown path
  | .unwritable path e => "Failed to save configuration to " ++ Path.shown path ++ ": " ++ e.message path

/-- A configuration fails by its file or by the shape of a value. -/
inductive ConfigFailure
  | config (e : ConfigError)
  | fault (e : Fault)
  deriving DecidableEq, Repr

def ConfigFailure.message : ConfigFailure → String
  | .config e => e.message
  | .fault e => e.message

namespace Config

/-- The members that the text of a file gives. -/
def contentMembers (fs : Files) (path : String) : Except ConfigFailure (List (String × Json)) :=
  match fs.read path with
  | .error (.refused e) => .error (.config (.unreadable path e))
  | .error (.notText e) => .error (.fault (.notText e))
  | .ok text =>
      match Json.parseChars text with
      | .error (.malformed cause place) => .error (.config (.malformed path cause place))
      | .error (.tooManyDigits e) => .error (.fault (.tooManyDigits e))
      | .ok (.obj members) => .ok members
      | .ok _ => .error (.config (.notAnObject path))

/-- The members of a configuration file. -/
def fileMembers (fs : Files) (path : String) : Except ConfigFailure (List (String × Json)) :=
  match fs.exists? path with
  | .error e => .error (.fault e)
  | .ok false => .error (.config (.notFound path))
  | .ok true =>
      if Path.hasJsonExtension path then contentMembers fs path else .error (.config (.notJson path))

def fileLayer (fs : Files) (path : Option String) : Except ConfigFailure (List (String × Json)) :=
  match path with
  | none => .ok []
  | some path => if path = "" then .ok [] else fileMembers fs path

/-- A target's configuration with a file and overrides laid over its defaults. -/
def load (fs : Files) (target : String) (overrides : List (String × Json)) (path : Option String) :
    Except ConfigFailure Config :=
  match fileLayer fs path with
  | .error e => .error e
  | .ok file =>
      match layered target file overrides with
      | .ok c => .ok c
      | .error e => .error (.fault e)

/-- The text a configuration is saved as. -/
def fileText (c : Config) : Except Fault String := do
  let members ← c.toMembers
  .ok (Json.writeIndented (.obj members))

def save (fs : Files) (c : Config) (path : String) : Except ConfigFailure Files :=
  match c.fileText with
  | .error e => .error (.fault e)
  | .ok text =>
      if Path.holdsNul path then .error (.fault .nulInPath)
      else
        match fs.write path text with
        | .ok after => .ok after
        | .error e => .error (.config (.unwritable path e))

theorem load_of_no_file (fs : Files) (target : String) (overrides : List (String × Json)) :
    load fs target overrides (some "") = load fs target overrides none := rfl

end Config

end DesignProps
