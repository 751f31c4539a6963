import DocQuery.Cli.Run

/-!
# The command line

Reads the arguments, the environment, the files and the input, runs the command
they name, and prints what comes of it.  There is no client for a server here: a
command that needs one ends with the fault that there is none, so that composing
conditions and dry runs are what works.
-/

namespace DocQuery

namespace Main

/-- A server that is not reached. -/
def unreachable : Session.Responder Unit := fun _ _ => (.error ⟨.connection, "no transport"⟩, ())

/-- One printed thing as lines of text. -/
def lines : Cli.Printed → List String
  | .panel text title _ => [title, text]
  | .table title columns rows =>
      title :: "\t".intercalate (columns.map Prod.fst) :: rows.map "\t".intercalate
  | .markup text => [text]

/-- The environment variables that settings come from. -/
def environmentNames : List String :=
  ["ARANGO_HOST", "ARANGO_USER", "ARANGO_PASSWORD", "ARANGO_DB_NAME", "AQLKIT_PRINT_QUERIES",
    "AQLKIT_DEBUG_FILTERS", "AQLKIT_LOG_LEVEL"]

/-- The settings of the environment. -/
def readSettings : IO Settings := do
  let set ← environmentNames.mapM fun name => return (name, ← IO.getEnv name)
  return Settings.ofEnvironment fun name => (set.lookup name).join

/-- The fault that an error while a file is read amounts to. -/
def faultOf : IO.Error → FileFault
  | .inappropriateType _ 20 _ => .notDirectory
  | .inappropriateType .. => .isDirectory
  | .invalidArgument _ 36 _ => .nameTooLong
  | _ => .missing

/-- The text of a file. -/
def readFile (path : String) : IO (Except FileFault String) := do
  try return .ok (← IO.FS.readFile path)
  catch e => return .error (faultOf e)

/-- The file that a command reads. -/
def fileOf : Cli.Command → Option String
  | .validate path _ | .create path _ _ => some path
  | _ => none

/-- Whether a command asks a question. -/
def asks : Cli.Command → Bool
  | .clear _ agreed _ => !agreed
  | _ => false

/-- What the named command sees. -/
def readWorld (settings : Settings) (args : List String) : IO Cli.World := do
  match Cli.Invocation.read settings args with
  | .ok { command := .ok command, .. } =>
      let file ← match fileOf command with
        | some path => readFile path
        | none => pure (.error .missing)
      let input ← if asks command then (← IO.getStdin).lines else pure #[]
      return { settings, file := fun _ => file, input := input.toList }
  | _ => return { settings }

end Main

end DocQuery

open DocQuery in
/-- Runs the command that the arguments name. -/
def main (args : List String) : IO UInt32 := do
  let settings ← Main.readSettings
  let world ← Main.readWorld settings args
  let finish := (Cli.run world args).run Main.unreachable ()
  match finish.result with
  | .ok finish =>
      IO.print finish.output.text
      for p in finish.output.printed do
        for line in Main.lines p do
          IO.println line
      return UInt32.ofNat finish.code
  | .error e =>
      IO.eprintln e.message
      return 1
