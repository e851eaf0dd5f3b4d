import ApiMocks.Cli.Arguments
import ApiMocks.Document.Source

/-!
# Commands

What the program is asked to do with documents, patterns and configuration files.  Texts about
the command line itself, help and completions for a shell, are not among it.

Main definitions: `Command`, `Command.ofArguments`.
-/

namespace ApiMocks.Cli

/-- A command with its arguments. -/
inductive Command
  /-- writes the mock modules of a document -/
  | generate (input output : Option String)
  /-- reads a document and reports its size -/
  | validate (input : String) (dialect : Option Dialect)
  /-- prints the operations of a document -/
  | inspect (input : String) (dialect : Option Dialect) (encoding : Encoding)
  /-- prints what a path template matches -/
  | pattern (path base : String) (url : Option String)
  /-- writes a new configuration file -/
  | init (isForced : Bool)
  /-- prints the version of the program -/
  | version
  deriving DecidableEq, Repr

namespace Command

/-- The option for the source document. -/
def inputForm : OptionForm := { name := "input", letter := some 'i' }

/-- The option for the dialect of the source document. -/
def dialectForm : OptionForm := { name := "dialect" }

/-- The dialects as they are written on the command line. -/
def dialects : List (String × Dialect) :=
  [("openapi", .openApi), ("openapi-ts", .operationList)]

/-- The notations as they are written on the command line. -/
def encodings : List (String × Encoding) :=
  [(Encoding.name .yaml, .yaml), (Encoding.name .json, .json)]

/-- What stands in front of a glob that is shown. -/
def shownBase : String := "**/api/**"

/-- Reads the arguments of `generate`. -/
def readGenerate (arguments : List String) : Except UsageError Command := do
  let forms := [inputForm, { name := "output", letter := some 'o' }]
  let g ← Given.ofArguments forms arguments
  g.limitOperands 0
  return generate (← g.path? "input") (← g.path? "output")

/-- Reads the arguments of `validate`. -/
def readValidate (arguments : List String) : Except UsageError Command := do
  let g ← Given.ofArguments [inputForm, dialectForm] arguments
  g.limitOperands 0
  return validate (← g.requirePath "input") (← g.choice? "dialect" dialects)

/-- Reads the arguments of `inspect`. -/
def readInspect (arguments : List String) : Except UsageError Command := do
  let g ← Given.ofArguments [inputForm, dialectForm, { name := "format" }] arguments
  g.limitOperands 0
  let encoding ← g.choice? "format" encodings
  return inspect (← g.requirePath "input") (← g.choice? "dialect" dialects) (encoding.getD .yaml)

/-- Reads the arguments of `pattern`. -/
def readPattern (arguments : List String) : Except UsageError Command := do
  let g ← Given.ofArguments [{ name := "base" }, { name := "url" }] arguments
  g.limitOperands 1
  match g.operands with
  | path :: _ => return pattern path ((g.value? "base").getD shownBase) (g.value? "url")
  | [] => throw (.missingArgument "path")

/-- Reads the arguments of `init`. -/
def readInit (arguments : List String) : Except UsageError Command := do
  let g ← Given.ofArguments [{ name := "force", hasValue := false }] arguments
  g.limitOperands 0
  return init (g.hasFlag "force")

/-- Whether an argument asks for the version, whatever follows it. -/
def asksVersion (argument : String) : Bool :=
  match Argument.ofText argument with
  | .long "version" none => true
  | .short 'V' _ => true
  | _ => false

/-- Reads a command line. -/
def ofArguments : List String → Except UsageError Command
  | [] => .error .noCommand
  | name :: arguments =>
    match name with
    | "generate" => readGenerate arguments
    | "validate" => readValidate arguments
    | "inspect" => readInspect arguments
    | "pattern" => readPattern arguments
    | "init" => readInit arguments
    | _ => if asksVersion name then .ok version else .error (.unknownCommand name)

end Command

end ApiMocks.Cli
