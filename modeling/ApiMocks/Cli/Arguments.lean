/-!
# Arguments

A command is followed by options, each with or without a value, and by operands.  An option has a
long form, whose value stands behind `=` or in the next argument, and possibly a short form of one
letter, whose value can follow at once.  Behind `--` there are only operands.

Main definitions: `OptionForm`, `Given`, `Given.ofArguments`.
-/

namespace ApiMocks.Cli

/-- Why a command line is not understood. -/
inductive UsageError
  | noCommand
  | unknownCommand (name : String)
  | unknownOption (argument : String)
  | missingValue (option : String)
  | unexpectedValue (option value : String)
  | repeatedOption (option : String)
  | unknownValue (option value : String)
  | unexpectedOperand (argument : String)
  | missingArgument (name : String)
  deriving DecidableEq, Repr

/-- The wording of an error. -/
def UsageError.message : UsageError → String
  | noCommand => "a command is required"
  | unknownCommand name => "unknown command '" ++ name ++ "'"
  | unknownOption argument => "unknown option '" ++ argument ++ "'"
  | missingValue option => "a value is required for '--" ++ option ++ "'"
  | unexpectedValue option value => "unexpected value '" ++ value ++ "' for '--" ++ option ++ "'"
  | repeatedOption option => "'--" ++ option ++ "' is given more than once"
  | unknownValue option value => "invalid value '" ++ value ++ "' for '--" ++ option ++ "'"
  | unexpectedOperand argument => "unexpected argument '" ++ argument ++ "'"
  | missingArgument name => "'" ++ name ++ "' is required"

/-- An option that a command has. -/
structure OptionForm where
  name : String
  letter : Option Char := none
  hasValue : Bool := true

/-- An argument by its form. -/
inductive Argument
  /-- `--` -/
  | separator
  /-- `--name` or `--name=value` -/
  | long (name : String) (value : Option String)
  /-- `-x` or `-xvalue`; an equals sign before the value is left out -/
  | short (letter : Char) (value : Option String)
  /-- all the rest, also `-` alone -/
  | operand (text : String)

/-- The form of an argument. -/
def Argument.ofText (s : String) : Argument :=
  match s.toList with
  | ['-', '-'] => separator
  | '-' :: '-' :: rest =>
    match rest.span (· ≠ '=') with
    | (name, _ :: value) => long (String.ofList name) (some (String.ofList value))
    | (name, []) => long (String.ofList name) none
  | ['-', letter] => short letter none
  | '-' :: letter :: '=' :: value => short letter (some (String.ofList value))
  | '-' :: letter :: value => short letter (some (String.ofList value))
  | _ => operand s

/-- The options and operands of a command line, in order. -/
structure Given where
  options : List (String × Option String) := []
  operands : List String := []
  deriving Repr

namespace Given

/-- One more option in front. -/
def withOption (g : Given) (name : String) (value : Option String) : Given :=
  { g with options := (name, value) :: g.options }

/-- One more operand in front. -/
def withOperand (g : Given) (text : String) : Given :=
  { g with operands := text :: g.operands }

/-- The option that an argument names, with the value that is attached to it. -/
def find (forms : List OptionForm) (argument : String) :
    Except UsageError (Option (OptionForm × Option String)) :=
  let known (form : Option OptionForm) (value : Option String) :=
    match form with
    | some form => .ok (some (form, value))
    | none => .error (UsageError.unknownOption argument)
  match Argument.ofText argument with
  | .long name value => known (forms.find? (·.name = name)) value
  | .short letter value => known (forms.find? (·.letter = some letter)) value
  | .separator | .operand _ => .ok none

/-- Whether an argument can be the value of the option before it. -/
def isValue (argument : String) : Bool :=
  match Argument.ofText argument with
  | .operand _ => true
  | _ => false

/-- Reads the arguments behind a command. -/
def collect (forms : List OptionForm) : List String → Except UsageError Given
  | [] => .ok {}
  | argument :: rest => do
    if argument = "--" then return { operands := rest }
    match ← find forms argument with
    | none => return (← collect forms rest).withOperand argument
    | some (form, attached) =>
      match form.hasValue, attached with
      | false, none => return (← collect forms rest).withOption form.name none
      | false, some value => throw (.unexpectedValue form.name value)
      | true, some value => return (← collect forms rest).withOption form.name (some value)
      | true, none =>
        match rest with
        | value :: rest =>
          if isValue value then
            return (← collect forms rest).withOption form.name (some value)
          else throw (.missingValue form.name)
        | [] => throw (.missingValue form.name)

/-- An option that is given twice. -/
def repeated? : List (String × Option String) → Option String
  | [] => none
  | o :: rest => if rest.any (·.1 = o.1) then some o.1 else repeated? rest

/-- Reads the arguments behind a command; each option can be given once. -/
def ofArguments (forms : List OptionForm) (arguments : List String) : Except UsageError Given := do
  let g ← collect forms arguments
  match repeated? g.options with
  | some option => throw (.repeatedOption option)
  | none => return g

/-- Whether an option without value is given. -/
def hasFlag (g : Given) (name : String) : Bool := g.options.any (·.1 = name)

/-- The value of an option. -/
def value? (g : Given) (name : String) : Option String := (g.options.lookup name).join

/-- The value of an option that names a file or directory, which cannot be empty. -/
def path? (g : Given) (name : String) : Except UsageError (Option String) :=
  match g.value? name with
  | some "" => .error (.unknownValue name "")
  | value => .ok value

/-- The value of an option that must be given. -/
def requirePath (g : Given) (name : String) : Except UsageError String := do
  match ← g.path? name with
  | some path => return path
  | none => throw (.missingArgument name)

/-- The value of an option with a choice of values. -/
def choice? {α : Type} (g : Given) (name : String) (values : List (String × α)) :
    Except UsageError (Option α) :=
  match g.value? name with
  | none => .ok none
  | some value =>
    match values.lookup value with
    | some a => .ok (some a)
    | none => .error (.unknownValue name value)

/-- Refuses operands beyond the first `count`. -/
def limitOperands (g : Given) (count : Nat) : Except UsageError Unit :=
  match g.operands.drop count with
  | [] => .ok ()
  | argument :: _ => .error (.unexpectedOperand argument)

end Given

end ApiMocks.Cli
