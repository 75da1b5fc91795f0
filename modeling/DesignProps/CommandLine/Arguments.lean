import DesignProps.Text.Digit

/-!
# Command line arguments

A word of the command line is an option, a plain word or the mark after which all words are plain.  An option may be
shortened as long as it stays the only one that begins so; its value is the next plain word, or follows an equals
sign, or for an option of one letter the letter itself.  The mark is no value.  The file, an address and the standard
input exclude each other.

Main statements: `parse_nil`, `parse_two_files` (only one file is taken), `joinedToHelp_unknown` (the help letter
stands only before letters of other options).
-/

set_option autoImplicit false

namespace DesignProps.CommandLine

inductive Choice
  | help
  | url
  | stdin
  | token
  | target
  | node
  | showDefaults
  | explicitBoolean
  | optionsApi
  | config
  | noComments
  | json
  | output
  | verbose
  | listTargets
  | version
  deriving DecidableEq, Repr

def Choice.takesValue : Choice → Bool
  | .url => true
  | .token => true
  | .target => true
  | .node => true
  | .config => true
  | .output => true
  | _ => false

def spellings : List (String × Choice) :=
  [("-h", .help), ("--help", .help), ("--url", .url), ("--stdin", .stdin), ("--token", .token),
    ("--target", .target), ("-t", .target), ("--node", .node), ("--show-defaults", .showDefaults),
    ("--explicit-boolean", .explicitBoolean), ("--options-api", .optionsApi), ("--config", .config),
    ("--no-comments", .noComments), ("--json", .json), ("--output", .output), ("-o", .output),
    ("--verbose", .verbose), ("--list-targets", .listTargets), ("--version", .version)]

def choice? (spelling : List Char) : Option Choice :=
  (spellings.find? fun e => e.1.toList == spelling).map Prod.snd

/-- The word after which all words are plain. -/
def plainMark : String := "--"

/-! ## Words -/

/-- What stands in the same word after an option: nothing, something after an equals sign, or further letters. -/
inductive Joined
  | nothing
  | equals (value : List Char)
  | letters (value : List Char)
  deriving DecidableEq, Repr

inductive Word
  | plain (text : String)
  | plainMark
  | option (c : Choice) (joined : Joined)
  | unknown
  deriving DecidableEq, Repr

/-- What stands before the first equals sign, and what is joined by it. -/
def atEquals (cs : List Char) : List Char × Joined :=
  let before := cs.takeWhile (· ≠ '=')
  (before, if before.length < cs.length then .equals (cs.drop (before.length + 1)) else .nothing)

/-- The options that a word may be short for. -/
def candidates (cs : List Char) : List Word :=
  match cs with
  | '-' :: '-' :: _ =>
      let (name, joined) := atEquals cs
      (spellings.filter fun e => name.isPrefixOf e.1.toList).map fun e => .option e.2 joined
  | _ =>
      spellings.filterMap fun e =>
        if e.1.toList = cs.take 2 then some (.option e.2 (.letters (cs.drop 2)))
        else if cs.isPrefixOf e.1.toList then some (.option e.2 .nothing)
        else none

/-- A negative number: digits, or digits after a point. -/
def isNegativeNumber (cs : List Char) : Bool :=
  let cs := if cs.getLast? = some '\n' then cs.dropLast else cs
  match cs with
  | '-' :: rest =>
      let after := rest.dropWhile Text.isDigit
      (!rest.isEmpty && after.isEmpty)
        || match after with
          | '.' :: fraction => !fraction.isEmpty && fraction.all Text.isDigit
          | _ => false
  | _ => false

/-- What an equals sign joins to an option: behind a single letter it need not have stood there. -/
def joinedTo (name : List Char) : Joined → Joined
  | .equals value => if name.length = 2 then .letters value else .equals value
  | joined => joined

/-- A word that begins with a dash and has more to it; it is refused if it is short for several options. -/
def dashedWord? (text : String) (cs : List Char) : Option Word :=
  match choice? cs with
  | some c => some (.option c .nothing)
  | none =>
      match choice? (atEquals cs).1 with
      | some c => some (.option c (joinedTo (atEquals cs).1 (atEquals cs).2))
      | none =>
          match candidates cs with
          | [word] => some word
          | [] => some (if isNegativeNumber cs || cs.contains ' ' then .plain text else .unknown)
          | _ => none

def word? (text : String) : Option Word :=
  match text.toList with
  | '-' :: c :: rest => dashedWord? text ('-' :: c :: rest)
  | _ => some (.plain text)

/-- The words of a command line; after two dashes all of them are plain. -/
def words? : List String → Option (List Word)
  | [] => some []
  | text :: rest =>
      if text = plainMark then some (.plainMark :: rest.map .plain)
      else
        match word? text, words? rest with
        | some word, some later => some (word :: later)
        | _, _ => none

/-! ## Arguments -/

structure Arguments where
  file : Option String
  url : Option String
  stdin : Bool
  token : Option String
  /-- Nothing, if the mark of plain words stands in its place; so it is with the nodes. -/
  target : Option String
  nodes : Option (List (Option String))
  showDefaults : Bool
  explicitBoolean : Bool
  optionsApi : Bool
  config : Option String
  noComments : Bool
  json : Bool
  output : Option String
  verbose : Bool
  listTargets : Bool
  deriving DecidableEq, Repr

/-- The name that stands for every target. -/
def allTargets : String := "all"

def Arguments.none : Arguments where
  file := Option.none
  url := Option.none
  stdin := false
  token := Option.none
  target := some allTargets
  nodes := Option.none
  showDefaults := false
  explicitBoolean := false
  optionsApi := false
  config := Option.none
  noComments := false
  json := false
  output := Option.none
  verbose := false
  listTargets := false

/-- Why a command line is not carried out. -/
inductive Stop
  | usage
  | help
  | version
  deriving DecidableEq, Repr

/-- `takesFile` says whether a plain word still can be the file, `excess` whether a word had no place. -/
structure Reading where
  arguments : Arguments
  takesFile : Bool
  excess : Bool
  deriving DecidableEq, Repr

namespace Reading

def start : Reading := ⟨.none, true, false⟩

def withExcess (r : Reading) : Reading := { r with excess := true }

def setFile (r : Reading) (file : String) : Except Stop Reading :=
  if r.arguments.url.isSome || r.arguments.stdin then .error .usage
  else .ok ⟨{ r.arguments with file := some file }, false, r.excess⟩

/-- An option without a value. -/
def setFlag (r : Reading) (c : Choice) : Except Stop Reading :=
  let a := r.arguments
  match c with
  | .help => .error .help
  | .version => .error .version
  | .stdin =>
      if a.file.isSome || a.url.isSome then .error .usage
      else .ok { r with arguments := { a with stdin := true } }
  | .showDefaults => .ok { r with arguments := { a with showDefaults := true } }
  | .explicitBoolean => .ok { r with arguments := { a with explicitBoolean := true } }
  | .optionsApi => .ok { r with arguments := { a with optionsApi := true } }
  | .noComments => .ok { r with arguments := { a with noComments := true } }
  | .json => .ok { r with arguments := { a with json := true } }
  | .verbose => .ok { r with arguments := { a with verbose := true } }
  | .listTargets => .ok { r with arguments := { a with listTargets := true } }
  | _ => .error .usage

/-- Sets an option to a value, which for some options counts as empty where there is none. -/
def setValue (r : Reading) (c : Choice) (value : Option String) : Except Stop Reading :=
  let a := r.arguments
  let text := some (value.getD "")
  match c with
  | .url =>
      if a.file.isSome || a.stdin then .error .usage
      else .ok { r with arguments := { a with url := text } }
  | .token => .ok { r with arguments := { a with token := text } }
  | .target => .ok { r with arguments := { a with target := value } }
  | .node => .ok { r with arguments := { a with nodes := some (a.nodes.getD [] ++ [value]) } }
  | .config => .ok { r with arguments := { a with config := text } }
  | .output => .ok { r with arguments := { a with output := text } }
  | _ => .error .usage

/-- The value that is joined to an option. -/
def joinedValue (value : List Char) : Option String :=
  if String.ofList value = plainMark then none else some (String.ofList value)

/-- Letters joined to the help letter: options of one letter, the last of which may take a value. -/
def joinedToHelp : List Char → List Word → Stop
  | [], _ => .usage
  | c :: rest, later =>
      match choice? ['-', c] with
      | none => .usage
      | some c =>
          match c.takesValue, rest, later with
          | true, [], .plain _ :: _ => .help
          | true, [], _ => .usage
          | true, _ :: _, _ => .help
          | false, [], _ => .help
          | false, next :: rest, later => joinedToHelp (next :: rest) later

/-- What follows the file when no option does: at most the mark of plain words. -/
def afterFile (r : Reading) : List Word → Reading
  | [] => r
  | _ :: _ => r.withExcess

def read (r : Reading) : List Word → Except Stop Reading
  | [] => .ok r
  | .unknown :: rest => r.withExcess.read rest
  | .option c (.equals value) :: rest =>
      if c.takesValue then
        match r.setValue c (joinedValue value) with
        | .ok r => r.read rest
        | .error e => .error e
      else .error .usage
  | .option c (.letters value) :: rest =>
      if c.takesValue then
        match r.setValue c (joinedValue value) with
        | .ok r => r.read rest
        | .error e => .error e
      else .error (joinedToHelp value rest)
  | .option c .nothing :: rest =>
      if c.takesValue then
        match rest with
        | .plain value :: rest =>
            match r.setValue c (some value) with
            | .ok r => r.read rest
            | .error e => .error e
        | _ => .error .usage
      else
        match r.setFlag c with
        | .ok r => r.read rest
        | .error e => .error e
  | .plain text :: rest =>
      if r.takesFile then
        match r.setFile text with
        | .error e => .error e
        | .ok r =>
            match rest with
            | .plainMark :: rest => .ok (r.afterFile rest)
            | rest => r.read rest
      else r.withExcess.read rest
  | .plainMark :: rest =>
      if r.takesFile then
        match rest with
        | .plain text :: rest =>
            match r.setFile text with
            | .error e => .error e
            | .ok r => .ok (r.afterFile rest)
        | _ => .ok r
      else .ok r.withExcess

end Reading

/-- The arguments of a command line. -/
def parse (argv : List String) : Except Stop Arguments :=
  match words? argv with
  | none => .error .usage
  | some words =>
      match Reading.start.read words with
      | .error e => .error e
      | .ok r => if r.excess then .error .usage else .ok r.arguments

theorem joinedToHelp_unknown {c : Char} (h : choice? ['-', c] = none) (rest : List Char) (later : List Word) :
    Reading.joinedToHelp (c :: rest) later = .usage := by
  rw [Reading.joinedToHelp, h]

theorem parse_nil : parse [] = .ok Arguments.none := rfl

theorem parse_two_files : parse ["a", "b"] = .error .usage := rfl

end DesignProps.CommandLine
