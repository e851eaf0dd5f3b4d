import ApiMocks.Config
import ApiMocks.Naming
import ApiMocks.Operation.Basic

/-!
# What a mock answers with

A mock answers either with a fixture, typed with its schema, or with an empty body.

Main definitions: `Answer`, `mockedResponses`, `fixtureAnswer?`.
-/

namespace ApiMocks.Emit

/-- The answer of a handler. -/
inductive Answer
  | empty (status : Status)
  | fixture (status : Status) (schema name : String)
  deriving DecidableEq, Repr

/-- The fixture that an answer reads. -/
def Answer.fixture? : Answer → Option String
  | empty _ => none
  | fixture _ _ name => some name

/-- The schema that types an answer. -/
def Answer.schema? : Answer → Option String
  | empty _ => none
  | fixture _ schema _ => some schema

/-- The status of an answer. -/
def Answer.status : Answer → Status
  | empty status | fixture status _ _ => status

/-- The answer with the fixture of a response; none without a schema name. -/
def fixtureAnswer? (op : Operation) (r : Response) : Option Answer :=
  r.schemaName.map fun schema => .fixture r.status schema (Naming.fixture op.id r.status)

/-- The responses that have a fixture, with their schema names: those with a schema name, without
the errors if error mocks are not wanted. -/
def mockedResponses (c : Config) (op : Operation) : List (Response × String) :=
  op.responses.filterMap fun r =>
    if r.status.isError && !c.generateErrorMocks then none else r.schemaName.map (r, ·)

end ApiMocks.Emit
