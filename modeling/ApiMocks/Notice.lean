import ApiMocks.Http.Status

/-!
# Notices

What is reported while operations are collected and modules are generated, besides the result.  A
notice never changes the result.
-/

namespace ApiMocks

/-- The kinds of generated declarations. -/
inductive DeclarationKind
  | fixture | routeHandler | mockClass | workerHandler
  deriving DecidableEq, Repr

/-- The name of a kind in notices. -/
def DeclarationKind.name : DeclarationKind → String
  | fixture => "fixture"
  | routeHandler => "route handler"
  | mockClass => "builder class"
  | workerHandler => "msw handler"

/-- Something to report. -/
inductive Notice
  /-- a response entry without a body is left out -/
  | noBody (key : String)
  /-- a response entry whose key is no status is left out -/
  | noStatus (key : String)
  /-- a response entry for a status that has one is left out -/
  | alreadyDeclared (key : String) (status : Status)
  /-- a response entry takes the place of the default one -/
  | replacesDefault (key : String) (status : Status)
  /-- an operation with an unknown method is left out -/
  | unknownMethod (method path : String)
  /-- a declaration whose name is taken is left out -/
  | duplicate (kind : DeclarationKind) (name : String)
  /-- the modules are complete -/
  | generated (modules : List String) (operations : Nat)
  deriving DecidableEq, Repr

namespace Notice

/-- The level of a notice. -/
def level : Notice → String
  | duplicate _ _ => "WARN"
  | _ => "DEBUG"

/-- A list of plain words, in quotes. -/
def listed (words : List String) : String :=
  "[" ++ String.intercalate ", " (words.map fun w => "\"" ++ w ++ "\"") ++ "]"

/-- The wording of a notice. -/
def message : Notice → String
  | noBody key => "skipping response " ++ key ++ ": no response body"
  | noStatus key => "skipping response " ++ key ++ ": not a status code"
  | alreadyDeclared key status =>
    "skipping response " ++ key ++ ": status " ++ toString status ++ " is already declared"
  | replacesDefault key status =>
    "response " ++ key ++ " replaces the default entry for status " ++ toString status
  | unknownMethod method path =>
    "skipping " ++ method ++ " " ++ path ++ ": unknown HTTP method: " ++ method
  | duplicate kind name =>
    "duplicate " ++ kind.name ++ " " ++ name ++ ", keeping the first definition"
  | generated modules operations =>
    "generated modules " ++ listed modules ++ " for " ++ toString operations ++ " operations"

/-- A notice as a line of a log. -/
def line (n : Notice) : String := n.level ++ " " ++ n.message

end Notice

/-- A result with the notices that led to it. -/
structure Logged (α : Type) where
  value : α
  notices : List Notice := []

namespace Logged

variable {α : Type}

/-- Results one after the other. -/
def all (steps : List (Logged α)) : Logged (List α) where
  value := steps.map (·.value)
  notices := steps.flatMap (·.notices)

end Logged

end ApiMocks
