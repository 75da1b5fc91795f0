import DesignProps.CommandLine.Arguments
import DesignProps.Console.Printed
import DesignProps.Formatting
import DesignProps.Loading

/-!
# Running a command line

A run reads a document, renders it for one or all targets and prints or saves the output.  It is a function of the
files, the standard input and the network it is given, and says what it prints, how it ends and which files it leaves.
A document may spell surrogates that stand alone; what holds one cannot be printed or saved.

Main statements: `run_stop` (a command line that is refused does nothing), `say_verbatim`.
-/

set_option autoImplicit false

namespace DesignProps.CommandLine

open Console (Printed)

structure World where
  files : Files
  stdin : String
  fetch : FetchRequest → Fetched
  /-- The width of the console. -/
  columns : Nat
  /-- What is printed where help is asked for. -/
  help : String
  /-- Whether a text that was read spells a surrogate that stands alone, so that stand-ins are taken for surrogates. -/
  strays : Bool

/-- A text without surrogates is written as UTF-8. -/
def World.canEncode (w : World) (text : String) : Bool := !(w.strays && text.toList.any Json.Reader.isStandIn)

/-! ## Errors -/

/-- What a run reports before it ends with a failure. -/
inductive RunError
  | unsupportedTarget (name : String)
  | noSource
  | noNodes
  | load (e : LoadError)
  | config (e : ConfigError)
  | registry (e : RegistryError)
  deriving DecidableEq

/-- The names a target may be given by. -/
def targetNames : List String := Registry.builtin.names

def RunError.message : RunError → String
  | .unsupportedTarget name =>
      "Unsupported target '" ++ name ++ "'. Supported: " ++ String.intercalate ", " (targetNames ++ [allTargets])
  | .noSource => "Input source required (file, --url, or --stdin)"
  | .noNodes => "No component, component set or instance nodes to format"
  | .load e => e.message
  | .config e => e.message
  | .registry e => e.message

/-- What a run does not handle. -/
inductive Crash
  | fault (e : Fault)
  | print (e : Console.PrintError)
  | unencodable
  deriving DecidableEq

/-- Why there is no output: an error, a failed generation, or something that is not handled. -/
inductive RunFailure
  | error (e : RunError)
  | generation (e : Fault)
  | crash (e : Fault)
  deriving DecidableEq

/-! ## Outcomes -/

inductive Ending
  | exit (code : Nat)
  | crash (e : Crash)
  deriving DecidableEq

structure Outcome where
  ending : Ending
  stdout : String
  files : Files

/-- An ending without anything printed. -/
def ends (w : World) (code : Nat) : Outcome := ⟨.exit code, "", w.files⟩

/-- Prints something and goes on; what cannot be printed ends the run. -/
def say (w : World) (p : Printed) (next : Outcome) : Outcome :=
  match p.text w.columns with
  | .ok text =>
      if w.canEncode text then { next with stdout := text ++ next.stdout } else ⟨.crash .unencodable, "", w.files⟩
  | .error e => ⟨.crash (.print e), "", w.files⟩

def sayAll (w : World) (ps : List Printed) (next : Outcome) : Outcome := ps.foldr (say w) next

def fails (w : World) : RunFailure → Outcome
  | .error e => say w (.markup ("[red]✗ Error:[/red] " ++ e.message) true) (ends w 1)
  | .generation e =>
      say w (.markup ("[red]✗ Code generation failed:[/red] " ++ Generation.failureMessage e) true) (ends w 1)
  | .crash e => ⟨.crash (.fault e), "", w.files⟩

/-! ## Input -/

/-- What stands for an option's value where there is none. -/
def noValue : Json := .arr []

/-- The primary names of the targets that a name stands for. -/
def targetsOf : Option String → Except RunFailure (List String)
  | none => .error (.crash (.notAnObject noValue))
  | some name =>
      if Text.lower name = allTargets then .ok targetNames
      else
        match Registry.builtin.resolve name with
        | .ok primary => .ok [primary]
        | .error _ => .error (.error (.unsupportedTarget name))

/-- The document that the arguments name. -/
def loading (w : World) (a : Arguments) : Option Loading :=
  match LoadRequest.given a.file, LoadRequest.given a.url with
  | some path, _ => some (LoadRequest.load ⟨some path, none, LoadRequest.defaultTimeout, none⟩ w.files w.fetch)
  | none, some url => some (LoadRequest.load ⟨none, some url, LoadRequest.defaultTimeout, a.token⟩ w.files w.fetch)
  | none, none => if a.stdin then some (Loading.ofText "<stdin>" w.stdin) else none

def load (w : World) (a : Arguments) : Except RunFailure Loaded :=
  match loading w a with
  | none => .error (.error .noSource)
  | some l =>
      match l.result with
      | .ok loaded => .ok loaded
      | .error (.load e) => .error (.error (.load e))
      | .error (.fault e) => .error (.crash e)

/-- The text of the document that the arguments name, if there is one. -/
def documentText (w : World) (a : Arguments) : Option (List Char) :=
  match LoadRequest.given a.file, LoadRequest.given a.url with
  | some path, _ => (w.files.read path).toOption
  | none, some url => (w.fetch ⟨url, LoadRequest.defaultTimeout, a.token⟩).toOption.map fun reply => reply.body.toList
  | none, none => if a.stdin then some w.stdin.toList else none

def configText (w : World) (a : Arguments) : Option (List Char) :=
  (LoadRequest.given a.config).bind fun path => (w.files.read path).toOption

/-- The document or the configuration file spells a surrogate that stands alone. -/
def readsStray (w : World) (a : Arguments) : Bool :=
  ((documentText w a).toList ++ (configText w a).toList).any (Json.Reader.spellsLone false)

/-- What a run goes on with when it has read its document. -/
def World.read (w : World) (a : Arguments) : World := { w with strays := readsStray w a }

/-! ## Generation -/

/-- The overrides that the flags stand for; the options form is for Vue alone. -/
def overrides (a : Arguments) (target : String) : List (String × Json) :=
  (if a.showDefaults then [("show_defaults", .bool true)] else [])
    ++ (if a.explicitBoolean then [("explicit_boolean", .bool true)] else [])
    ++ (if a.optionsApi && target == "vue" then [("options_api", .bool true)] else [])
    ++ (if a.noComments then [("add_comments", .bool false)] else [])

/-- Settings as a value: a list of pairs. -/
def settingsJson (settings : List (String × Json)) : Json :=
  .arr (settings.map fun (name, v) => .arr [.str name, v])

def configFor (w : World) (a : Arguments) (target : String) : Except RunFailure Config :=
  match Config.load w.files target (overrides a target) a.config with
  | .ok c => .ok c
  | .error (.config e) => .error (.error (.config e))
  | .error (.fault e) => .error (.crash e)

/-- The code of one target, with the settings that its configuration gives. -/
def generateFor (w : World) (a : Arguments) (ix : Index) (m : Model) (target : String) :
    Except RunFailure Generation :=
  match configFor w a target with
  | .error e => .error e
  | .ok c =>
      match Registry.builtin.create w.files target (.ready c) ix.nameOf? with
      | .error e => .error (.error (.registry e))
      | .ok g =>
          match g.generate m (settingsJson c.instanceSettings) (settingsJson c.definitionSettings) with
          | .ok done => .ok done
          | .error e => .error (.generation e)

def generateAll (w : World) (a : Arguments) (ix : Index) (m : Model) : List String →
    Except RunFailure (List Generation)
  | [] => .ok []
  | target :: rest =>
      match generateFor w a ix m target with
      | .error e => .error e
      | .ok done => (generateAll w a ix m rest).map (done :: ·)

/-- The nodes that are asked for, if any are. -/
def nodesOf (a : Arguments) : Except Fault (Option (List String)) :=
  match a.nodes with
  | none => .ok none
  | some ids => if ids.all Option.isSome then .ok (some (ids.filterMap id)) else .error (.notAName noValue)

/-- The code of a loaded document for several targets. -/
def generations (w : World) (a : Arguments) (ix : Index) (targets : List String) :
    Except RunFailure (List Generation) :=
  match nodesOf a with
  | .error e => .error (.crash e)
  | .ok ids =>
      if (ix.relevant ids).isEmpty then .error (.error .noNodes)
      else
        match ix.model ids with
        | .error e => .error (.crash e)
        | .ok m => generateAll w a ix m targets

/-! ## Output -/

def jsonText (done : List Generation) : String := Json.writeIndented (.arr (done.map fun d => d.output.toJson))

/-- The code of every listing, with empty lines between the lines of a listing. -/
def listings (done : List Generation) : List (String × Listing) :=
  done.flatMap fun d =>
    d.output.passes.flatMap fun p => p.listings.map fun l => (d.output.label ++ " · " ++ p.label, l)

def codeOf (l : Listing) : String := String.intercalate "\n\n" l.lines

def plainText (done : List Generation) : String :=
  String.intercalate "\n\n" ((listings done).map fun e => codeOf e.2)

def panels (done : List Generation) : List Printed :=
  (listings done).map fun (title, l) => .panel ⟨title, Console.codeLines l.language (codeOf l)⟩

def yesNo (b : Bool) : String := if b then "True" else "False"

def metadataTable (d : Generation) : Printed :=
  .table {
    title := "📊 " ++ d.output.label ++ " Metadata"
    frame := .simple
    header := ["Property", "Value"]
    rows := [["Target", d.target.name], ["File Extension", d.target.fileExtension],
      ["Component Count", Nat.repr d.componentCount], ["Definition Count", Nat.repr d.definitionCount],
      ["Has Unknowns", yesNo d.hasUnknowns]] }

/-- Every text once, where it is first. -/
def distinct (texts : List String) : List String :=
  (OrderedMap.ofList (texts.map fun t => (t, ()))).keys

def warningLines (done : List Generation) : List Printed :=
  let texts := distinct (done.flatMap fun d => d.warnings.map Warning.message)
  if texts.isEmpty then []
  else
    [Printed.markup "\n[yellow]⚠️  Warnings:[/yellow]" true]
      ++ texts.map (fun t => .markup ("  [yellow]•[/yellow] " ++ t) false)
      ++ [.verbatim "\n"]

/-- What follows the output itself. -/
def remarks (a : Arguments) (done : List Generation) : List Printed :=
  if a.json then [] else (if a.verbose then done.map metadataTable else []) ++ warningLines done

def outputText (a : Arguments) (done : List Generation) : String :=
  if a.json then jsonText done else plainText done

/-- Saves the output and says so. -/
def save (w : World) (a : Arguments) (done : List Generation) (path : String) : Outcome :=
  let text := outputText a done ++ "\n"
  if Path.holdsNul path then ⟨.crash (.fault .nulInPath), "", w.files⟩
  else
    -- The file is made before its text is encoded, and stays empty if that fails.
    match w.files.write path (if w.canEncode text then text else "") with
    | .error e =>
        say w (.markup ("[red]✗ Failed to write to " ++ Path.shown path ++ ":[/red] " ++ e.message path) true) (ends w 1)
    | .ok after =>
        let w := { w with files := after }
        if !w.canEncode text then ⟨.crash .unencodable, "", after⟩
        else
          sayAll w (.markup ("[green]✓[/green] Saved to [cyan]" ++ Path.shown path ++ "[/cyan]") true :: remarks a done)
            (ends w 0)

def output (w : World) (a : Arguments) (done : List Generation) : Outcome :=
  match LoadRequest.given a.output with
  | some path => save w a done path
  | none =>
      let printed := if a.json then [Printed.verbatim (jsonText done ++ "\n")] else panels done
      sayAll w (printed ++ remarks a done) (ends w 0)

/-! ## Runs -/

/-- Renders a loaded document. -/
def render (w : World) (a : Arguments) (ix : Index) (targets : List String) : Outcome :=
  match generations w a ix targets with
  | .error e => fails w e
  | .ok done => output w a done

def format (w : World) (a : Arguments) : Outcome :=
  match targetsOf a.target with
  | .error e => fails w e
  | .ok targets =>
      match load w a with
      | .error e => fails w e
      | .ok loaded =>
          let w := w.read a
          let rendered := render w a loaded.index targets
          if a.json then rendered
          else say w (.markup ("[dim]Loaded " ++ loaded.source ++ "[/dim]") false) rendered

/-- A row of the list of targets. -/
def targetRow (name : String) : List String :=
  match Registry.builtin.info name with
  | .ok (t, aliases) =>
      [name, t.label, t.fileExtension, if t.namedSlots then "yes" else "no",
        if aliases.isEmpty then "none" else String.intercalate ", " aliases]
  | .error _ => [name]

def targetTable : Printed :=
  .table {
    title := "📋 Supported Targets"
    frame := .rounded
    header := ["Target", "Label", "Extension", "Named Slots", "Aliases"]
    rows := targetNames.map targetRow }

def listTargets (w : World) : Outcome := sayAll w [.verbatim "\n", targetTable, .verbatim "\n"] (ends w 0)

def execute (w : World) (a : Arguments) : Outcome := if a.listTargets then listTargets w else format w a

def versionText : String := "component-props 0.1.0\n"

def stops (w : World) : Stop → Outcome
  | .usage => ends w 2
  | .help => say w (.verbatim w.help) (ends w 0)
  | .version => say w (.verbatim versionText) (ends w 0)

def run (w : World) (argv : List String) : Outcome :=
  match parse argv with
  | .error e => stops w e
  | .ok a => execute w a

/-! ## Small laws -/

/-- A text is printed as it is, if it can be encoded. -/
theorem say_verbatim (w : World) (text : String) (next : Outcome) : say w (.verbatim text) next =
    if w.canEncode text then { next with stdout := text ++ next.stdout } else ⟨.crash .unencodable, "", w.files⟩ := rfl

theorem run_stop (w : World) (argv : List String) (h : parse argv = .error .usage) : run w argv = ends w 2 := by
  simp [run, h, stops]

end DesignProps.CommandLine
