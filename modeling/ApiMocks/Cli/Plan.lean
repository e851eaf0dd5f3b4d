import ApiMocks.Cli.Command
import ApiMocks.Cli.FileTree
import ApiMocks.Cli.Inspection
import ApiMocks.Config
import ApiMocks.Emit.Bundle
import ApiMocks.Operation.Collect
import ApiMocks.Path.Pattern

/-!
# Plans

A command first reads what it needs and decides what to do; only then it does something.  What it
decides is a plan: the text it prints, and the steps it takes in order, up to the first that fails.
So a command that fails while it decides has changed nothing.

* `Change`, `Step`, `Plan` — what a command does;
* `Failure` — why it fails;
* `Files` — a way to look at files;
* `Command.plan` — the plan of a command, given such a way.
-/

namespace ApiMocks.Cli

/-- Why a command fails. -/
inductive Failure
  | cannotReadConfig (fault : FileFault)
  | cannotParseConfig (fault : Fault)
  | cannotRead (path : String) (fault : FileFault)
  | cannotParse (path : String) (error : ParseError)
  | invalidConfig (problems : List String)
  | cannotMakeDirectory (path : String) (fault : FileFault)
  | cannotWrite (path : String) (fault : FileFault)
  /-- there is a configuration file already -/
  | configExists
  | cannotWriteConfig (fault : FileFault)
  deriving DecidableEq, Repr

/-- The wording of a failure. -/
def Failure.message : Failure → String
  | cannotReadConfig _ => "failed to read config " ++ Config.fileName
  | cannotParseConfig _ => "failed to parse config " ++ Config.fileName
  | cannotRead path _ => "failed to read " ++ path
  | cannotParse path _ => "failed to parse " ++ path
  | invalidConfig problems => "invalid generator config: " ++ Config.problemText problems
  | cannotMakeDirectory path _ => "failed to create output directory " ++ path
  | cannotWrite path _ => "failed to write " ++ path
  | configExists => Config.fileName ++ " already exists. Use --force to overwrite."
  | cannotWriteConfig fault => fault.message

/-- A change of the file tree. -/
inductive Change
  /-- makes the directory of the generated files -/
  | makeDirectory (path : String)
  /-- writes a generated file -/
  | write (path content : String)
  /-- writes the configuration file -/
  | writeConfig (content : String)
  deriving DecidableEq, Repr

/-- The failure of a change. -/
def Change.failure (fault : FileFault) : Change → Failure
  | makeDirectory path => .cannotMakeDirectory path fault
  | write path _ => .cannotWrite path fault
  | writeConfig _ => .cannotWriteConfig fault

/-- A step of a plan. -/
inductive Step
  | report (line : String)
  | change (c : Change)
  deriving DecidableEq, Repr

/-- What a command does once it has decided. -/
structure Plan where
  /-- the text to print -/
  output : String := ""
  steps : List Step := []
  /-- why the command fails when all steps are done -/
  failure : Option Failure := none

/-- The path of a file in a directory. -/
def childPath (directory name : String) : String :=
  if directory.isEmpty || directory.toList.getLast? = some '/' then directory ++ name
  else directory ++ "/" ++ name

/-- The extension of a path: what follows the last point of its last name.  A point at the start of
the name is none. -/
def extension? (path : String) : Option String :=
  let name := (path.toList.reverse.takeWhile (· ≠ '/')).reverse
  match name.reverse.span (· ≠ '.') with
  | (after, _ :: _ :: _) => some (String.ofList after.reverse)
  | _ => none

/-- The text of the note beside the generated files. -/
def readmeText : String := String.intercalate "\n" [
  "# Generated Mocks - Do Not Edit",
  "",
  "This directory is **auto-generated** by pwmock.",
  "Any manual changes will be overwritten the next time `pwmock generate` is run.",
  "",
  "To regenerate, run:",
  "```",
  "pwmock generate",
  "```",
  "",
  "To customize the generated output, edit your `.pwmock.yaml` configuration file.",
  ""]

/-- Writes a file into a directory and reports it. -/
def writeSteps (directory : String) (file : Emit.GeneratedFile) : List Step :=
  let path := childPath directory file.path
  [.change (.write path file.content), .report ("  wrote " ++ path)]

/-- The plan for the modules of some operations. -/
def generatePlan (c : Config) (directory : String) (ops : List Operation) : Plan :=
  let announcement := Step.report <|
    "Generating mocks for " ++ toString ops.length ++ " operations → " ++ directory
  match Emit.generate c ops with
  | .error problems => { steps := [announcement], failure := some (.invalidConfig problems) }
  | .ok generated =>
    let files := generated.value ++ [⟨"README.md", readmeText⟩]
    { steps :=
        announcement :: .change (.makeDirectory directory) :: files.flatMap (writeSteps directory) ++
          [.report ("Generated " ++ toString files.length ++ " files in " ++ directory)] }

/-- The lines on the size of a document. -/
def documentLines : SourceDocument → List String
  | .openApi d => [
      "Valid OpenAPI " ++ d.openapi ++ " document: " ++ (d.info.map (·.title)).getD "untitled",
      "  Paths: " ++ toString d.paths.entries.length,
      "  Schemas: " ++ toString d.schemas.entries.length]
  | .operationList d => [
      "Valid operation list",
      "  Entries: " ++ toString d.operations.length,
      "  Schemas: " ++ toString d.schemas.entries.length]

/-- The plan for the size of a document. -/
def validatePlan (d : SourceDocument) : Plan :=
  let ops := d.collect.value
  let mocked := (ops.flatMap (·.responses)).filter (·.schemaName.isSome)
  let lines := documentLines d ++ [
    "  Operations: " ++ toString ops.length,
    "  Responses with a schema: " ++ toString mocked.length,
    "Validation successful."]
  { steps := lines.map .report }

/-- The lines on the match of a URL. -/
def matchLines (bindings : Option (List (String × String))) : List String :=
  match bindings with
  | none => ["match:  no"]
  | some bindings => "match:  yes" :: bindings.map fun b => "  " ++ b.1 ++ " = " ++ b.2

/-- The lines on a path template. -/
def patternLines (path base : String) (url : Option String) : List String :=
  let p := Path.Pattern.ofPath path base
  [ "glob:   " ++ p.glob,
    "regex:  " ++ Path.regexSource path,
    "params: " ++ String.intercalate ", " p.params ] ++
    match url with
    | some url => matchLines (p.bindings? url)
    | none => []

/-- Lines as text, each with a line end. -/
def linesText (lines : List String) : String := String.join (lines.map (· ++ "\n"))

/-- The name and version of the program. -/
def versionText : String := "pwmock 0.1.0"

/-- A way to look at files. -/
structure Files (m : Type → Type) where
  /-- whether a path leads to something -/
  has : String → m Bool
  /-- the text of the file at a path -/
  read : String → m (Except FileFault String)

section Reading

variable {m : Type → Type} [Monad m] (files : Files m)

/-- The configuration of the project: the defaults if there is no file. -/
def loadConfig : ExceptT Failure m Config := do
  if ← files.has Config.fileName then
    match ← files.read Config.fileName with
    | .error fault => throw (.cannotReadConfig fault)
    | .ok text =>
      match Config.ofText text with
      | .error fault => throw (.cannotParseConfig fault)
      | .ok c => return c
  else return {}

/-- The document at a path. -/
def loadDocument (dialect : Dialect) (path : String) : ExceptT Failure m SourceDocument := do
  match ← files.read path with
  | .error fault => throw (.cannotRead path fault)
  | .ok text =>
    match SourceDocument.parse dialect (.ofExtension (extension? path)) text with
    | .error error => throw (.cannotParse path error)
    | .ok d => return d

/-- The dialect that is asked for, or that of the configuration. -/
def loadDialect (dialect : Option Dialect) : ExceptT Failure m Dialect := do
  match dialect with
  | some dialect => return dialect
  | none => return (← loadConfig files).dialect

namespace Command

/-- The plan of a command that can be made. -/
def plan? : Command → ExceptT Failure m Plan
  | generate input output => do
    let c ← loadConfig files
    let d ← loadDocument files c.dialect (input.getD c.input)
    return generatePlan c (output.getD c.output) d.collect.value
  | validate input dialect => do
    return validatePlan (← loadDocument files (← loadDialect files dialect) input)
  | inspect input dialect encoding => do
    let d ← loadDocument files (← loadDialect files dialect) input
    return { output := inspectionText encoding d.collect.value }
  | pattern path base url => return { output := linesText (patternLines path base url) }
  | init isForced => do
    if (← files.has Config.fileName) && !isForced then throw .configExists
    else
      return {
        steps := [
          .change (.writeConfig Config.defaultText),
          .report ("Created " ++ Config.fileName)] }
  | version => return { output := linesText [versionText] }

/-- The plan of a command: to fail, if none can be made. -/
def plan (command : Command) : m Plan := do
  match ← (command.plan? files).run with
  | .ok p => return p
  | .error failure => return { failure := some failure }

end Command

end Reading

end ApiMocks.Cli
