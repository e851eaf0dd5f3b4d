import ApiMocks.Http.Method
import ApiMocks.Http.Status
import ApiMocks.Text.Casing

/-!
# Names in the generated code

Every generated module takes its names from here, so the route handler, the mock class and the
fixture of one response always agree.
-/

namespace ApiMocks.Naming

open Text

/-- The inner text of a path segment that stands wholly in braces. -/
def bracedName? (segment : List Char) : Option (List Char) :=
  match segment with
  | '{' :: rest => if rest.getLast? = some '}' then some rest.dropLast else none
  | _ => none

/-- What a path segment adds to a made-up operation id. -/
def segmentName (segment : List Char) : String :=
  match bracedName? segment with
  | some name => "By" ++ capitalize (String.ofList name)
  | none => capitalize (String.ofList segment)

/-- The parts of a text between slashes that are not empty. -/
def segments (path : String) : List (List Char) :=
  (path.toList.splitOn '/').filter (!·.isEmpty)

/-- An operation id made up from method and path: `get` on `/users/{id}` gives `getUsersById`. -/
def operationId (method : Method) (path : String) : String :=
  (segments path).foldl (fun name segment => name ++ segmentName segment) method.name

/-- The route handler of an operation. -/
def handler (id : String) : String := "mock" ++ capitalize id

/-- The route handler of an operation's response with an error status. -/
def errorHandler (id : String) (status : Status) : String :=
  "mock" ++ capitalize id ++ "Error" ++ toString status

/-- The key in the fixture table: one for all successes of an operation, one for each other
status. -/
def fixture (id : String) (status : Status) : String :=
  if status.isSuccess then lowerFirst id ++ "Response"
  else lowerFirst id ++ "Error" ++ toString status

/-- The mock class of a response: one for all successes, one for each other status. -/
def mockClass (id : String) (status : Status) : String :=
  if status.isSuccess then capitalize id ++ "Mock"
  else capitalize id ++ "Error" ++ toString status ++ "Mock"

/-- The service-worker handler of an operation. -/
def workerHandler (id : String) : String := "mswMock" ++ capitalize id

/-- The class that builds the data of a schema. -/
def schemaBuilder (schema : String) : String := schema ++ "Builder"

/-- The exported zod schema. -/
def zodSchema (schema : String) : String := "z" ++ schema

end ApiMocks.Naming
