import DesignProps.CommandLine.Run

/-!
# Command line program

Reads the files that a command line names, runs it, and carries out what the run leaves: the text on the standard
output, the saved file and the exit code.  There is no network here, so addresses cannot be reached, and no help text.
-/

set_option autoImplicit false

namespace DesignProps.CommandLine

/-- The content behind a path, if there is something. -/
def contentAt (path : String) : IO (Option FileContent) := do
  try
    if ← (← IO.FS.realPath path).isDir then return some .directory
    let bytes ← IO.FS.readBinFile path
    return some (.bytes bytes.toList)
  catch _ => return none

/-- The paths that a command line reads from or writes to, each with the directory it is in. -/
def pathsOf (a : Arguments) : List String :=
  (a.file.toList ++ a.config.toList ++ a.output.toList).flatMap fun path =>
    [path, String.intercalate "/" (path.splitOn "/").dropLast]

def filesAt : List String → IO (List (String × FileContent))
  | [] => return []
  | path :: rest => do
      let later ← filesAt rest
      match ← contentAt path with
      | some content => return (path, content) :: later
      | none => return later

/-- Writes the file that a run saved. -/
def writeSaved (files : Files) (path : String) : IO Unit :=
  match files.find? path with
  | .ok (.text text) => IO.FS.writeFile path text
  | _ => return

def carryOut (argv : List String) : IO UInt32 := do
  let a := (parse argv).toOption.getD .none
  let text ← if a.stdin then (← IO.getStdin).readToEnd else pure ""
  let files := Files.ofList (← filesAt (pathsOf a))
  let outcome := run ⟨files, text, fun _ => .error .connection, 80, "", false⟩ argv
  IO.print outcome.stdout
  a.output.toList.forM (writeSaved outcome.files)
  match outcome.ending with
  | .exit code => return UInt32.ofNat code
  | .crash _ => return 1

end DesignProps.CommandLine

def main (argv : List String) : IO UInt32 := DesignProps.CommandLine.carryOut argv
