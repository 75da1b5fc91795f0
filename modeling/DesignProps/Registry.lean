import DesignProps.Config.File
import DesignProps.Sorting
import DesignProps.Target.Basic

/-!
# Registry of targets

Targets are registered under primary names, and aliases point to primary names; names are compared in lower case.
Without `replace` a taken name is left alone and a taken alias is refused; the aliases before a refused one stay.

Main statements: `resolve_of_contains` (a primary name stands for itself), `register_taken` (a taken name is left
alone).
-/

set_option autoImplicit false

namespace DesignProps

inductive RegistryError
  | notATarget
  | aliasIsTarget (name : String)
  | aliasTaken (name primary : String)
  | unknown (name : String) (available : List String)
  /-- An alias points to a primary name that is not registered. -/
  | dangling (primary : String)
  | notAConfig (v : Json)
  | notCreated (name : String) (cause : ConfigFailure)
  deriving DecidableEq

def RegistryError.message : RegistryError → String
  | .notATarget => "Generator class must inherit from CodeGenerator"
  | .aliasIsTarget name => "Alias '" ++ name ++ "' conflicts with existing primary target"
  | .aliasTaken name primary => "Alias '" ++ name ++ "' already points to '" ++ primary ++ "'"
  | .unknown name available =>
      "No generator registered for target: " ++ name ++ ". Available: " ++ String.intercalate ", " available
  | .dangling primary => Text.quoted primary
  | .notAConfig v => "Invalid config type: <class '" ++ v.kindWord ++ "'>"
  | .notCreated name cause => "Failed to create " ++ name ++ " generator: " ++ cause.message

structure Registry where
  targets : OrderedMap String Target
  aliases : OrderedMap String String
  deriving DecidableEq

/-- `target` is none where something else than a target is to be registered. -/
structure Registration where
  name : String
  target : Option Target
  aliases : List String
  replace : Bool
  deriving DecidableEq, Repr

/-- Where the configuration of a new generator comes from. -/
inductive ConfigSource
  | defaults
  | overrides (members : List (String × Json))
  | file (path : String)
  | ready (c : Config)
  | unsupported (v : Json)

def ConfigSource.ofJson : Json → ConfigSource
  | .null => .defaults
  | .obj members => .overrides members
  | .str path => .file path
  | v => .unsupported v

namespace Registry

def empty : Registry := ⟨.empty, .empty⟩

/-! ## Registering -/

/-- Lets an alias point to a primary name; a name is no alias of itself. -/
def addAlias (r : Registry) (primary : String) (replace : Bool) (name : String) : Except RegistryError Registry :=
  let key := Text.lower name
  let pointed : Registry := { r with aliases := r.aliases.insert key primary }
  if key = primary then .ok r
  else if replace then .ok pointed
  else if r.targets.contains key then .error (.aliasIsTarget name)
  else
    match r.aliases.get? key with
    | some other => if other = primary then .ok pointed else .error (.aliasTaken name other)
    | none => .ok pointed

/-- Adds aliases in order, up to the first one that is refused. -/
def addAliases (r : Registry) (primary : String) (replace : Bool) : List String → Registry × Option RegistryError
  | [] => (r, none)
  | name :: rest =>
      match r.addAlias primary replace name with
      | .ok r => r.addAliases primary replace rest
      | .error e => (r, some e)

def register (r : Registry) (n : Registration) : Registry × Option RegistryError :=
  match n.target with
  | none => (r, some .notATarget)
  | some target =>
      let key := Text.lower n.name
      if r.targets.contains key && !n.replace then (r, none)
      else { r with targets := r.targets.insert key target }.addAliases key n.replace n.aliases

/-- Removes a primary name and the aliases that point to it. -/
def unregister (r : Registry) (name : String) : Registry :=
  let key := Text.lower name
  ⟨r.targets.erase key, r.aliases.filter fun _ primary => primary != key⟩

/-- The targets that come with the library. -/
def builtin : Registry :=
  (((empty.register ⟨"react", some .react, ["jsx", "tsx"], false⟩).1).register ⟨"vue", some .vue, [], false⟩).1

/-! ## Looking up -/

/-- The primary names in order. -/
def names (r : Registry) : List String := Sorting.sort (fun a b => decide (a ≤ b)) r.targets.keys

/-- The primary name that a name or an alias stands for. -/
def resolve (r : Registry) (name : String) : Except RegistryError String :=
  let key := Text.lower name
  if r.targets.contains key then .ok key
  else
    match r.aliases.get? key with
    | some primary => .ok primary
    | none => .error (.unknown name r.names)

/-- The target registered under a primary name. -/
def registered (r : Registry) (primary : String) : Except RegistryError Target :=
  match r.targets.get? primary with
  | some target => .ok target
  | none => .error (.dangling primary)

/-- The target that a name or an alias stands for. -/
def target (r : Registry) (name : String) : Except RegistryError Target := do
  let primary ← r.resolve name
  r.registered primary

def supports (r : Registry) (name : String) : Bool :=
  r.targets.contains (Text.lower name) || r.aliases.contains (Text.lower name)

/-- The aliases of a primary name in order; an alias has none. -/
def aliasesOf (r : Registry) (name : String) : List String :=
  Sorting.sort (fun a b => decide (a ≤ b))
    (r.aliases.filter fun _ primary => primary == Text.lower name).keys

/-- The target a name stands for, with the aliases of its primary name. -/
def info (r : Registry) (name : String) : Except RegistryError (Target × List String) := do
  let primary ← r.resolve name
  let target ← r.registered primary
  .ok (target, r.aliasesOf primary)

/-! ## Creating generators -/

/-- The configuration of a generator; a target's defaults are those of its primary name. -/
def configure (fs : Files) (name primary : String) (source : ConfigSource) : Except RegistryError Config :=
  let created (made : Except ConfigFailure Config) : Except RegistryError Config :=
    match made with
    | .ok c => .ok c
    | .error cause => .error (.notCreated name cause)
  match source with
  | .defaults => created (Config.load fs primary [] none)
  | .overrides members => created (Config.load fs primary members none)
  | .file path => created (Config.load fs primary [] (some path))
  | .ready c => .ok c
  | .unsupported v => .error (.notAConfig v)

def create (r : Registry) (fs : Files) (name : String) (source : ConfigSource) (lookup : String → Option String) :
    Except RegistryError Generator := do
  let primary ← r.resolve name
  let target ← r.registered primary
  let config ← configure fs name primary source
  .ok ⟨target, config, lookup⟩

/-! ## Small laws -/

theorem resolve_of_contains (r : Registry) (name : String) (h : r.targets.contains (Text.lower name) = true) :
    r.resolve name = .ok (Text.lower name) := by
  simp [resolve, h]

theorem register_taken (r : Registry) (n : Registration) (target : Target) (h : n.target = some target)
    (taken : r.targets.contains (Text.lower n.name) = true) (keep : n.replace = false) :
    r.register n = (r, none) := by
  simp [register, h, taken, keep]

end Registry

end DesignProps
