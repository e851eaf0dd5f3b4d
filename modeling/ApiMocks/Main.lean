import ApiMocks.Cli.Plan

/-!
# The program

Carries out the plan of a command line on the files of the working directory.
-/

namespace ApiMocks.Cli

/-- Why a file cannot be used. -/
def systemFault (e : IO.Error) : FileFault :=
  match e with
  | .noFileOrDirectory .. => .missing
  | e => .system (toString e)

/-- The text of the file at a path. -/
def readFile (path : String) : IO (Except FileFault String) := do
  try return .ok (← IO.FS.readFile path)
  catch e => return .error (systemFault e)

/-- Whether a path leads to something. -/
def leadsSomewhere (path : String) : IO Bool := do
  try
    discard (IO.FS.realPath path)
    return true
  catch _ => return false

/-- The files that the system has. -/
def systemFiles : Files IO where
  has := leadsSomewhere
  read := readFile

/-- Makes a change. -/
def Change.make : Change → IO Unit
  | makeDirectory path => IO.FS.createDirAll path
  | write path content => IO.FS.writeFile path content
  | writeConfig content => IO.FS.writeFile Config.fileName content

/-- Takes steps up to the first that fails. -/
def takeSteps : List Step → IO (Option Failure)
  | [] => return none
  | .report line :: rest => do
    IO.eprintln line
    takeSteps rest
  | .change c :: rest => do
    try c.make
    catch e => return some (c.failure (systemFault e))
    takeSteps rest

end ApiMocks.Cli

open ApiMocks.Cli in
/-- Runs a command line; the result is the exit code. -/
def main (arguments : List String) : IO UInt32 := do
  match Command.ofArguments arguments with
  | .error e =>
    IO.eprintln ("error: " ++ e.message)
    return 2
  | .ok command =>
    let plan ← command.plan systemFiles
    IO.print plan.output
    match (← takeSteps plan.steps) <|> plan.failure with
    | some cause =>
      IO.eprintln ("Error: " ++ cause.message)
      return 1
    | none => return 0
