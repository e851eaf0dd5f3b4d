import ApiMocks.Http.Method
import ApiMocks.Http.Status
import ApiMocks.Json.Value

/-!
# Operations

An operation as mocks are made for it, whatever kind of document it comes from.

Main definitions: `Operation`, `Response`, `Operation.primarySuccess?`.
-/

namespace ApiMocks

/-- A declared response. -/
structure Response where
  status : Status
  description : Option String := none
  /-- the name of its schema -/
  schemaName : Option String := none
  schema : Option Json := none

/-- An operation: a method on a path. -/
structure Operation where
  id : String
  method : Method
  path : String
  summary : Option String := none
  description : Option String := none
  /-- no tags declared, or the list that is declared, possibly empty -/
  tags : Option (List String) := none
  responses : List Response

namespace Operation

/-- The responses with a success status. -/
def successes (op : Operation) : List Response := op.responses.filter (·.status.isSuccess)

/-- The responses with an error status. -/
def errors (op : Operation) : List Response := op.responses.filter (·.status.isError)

/-- The first success, which the operation answers with unless told otherwise. -/
def primarySuccess? (op : Operation) : Option Response :=
  op.responses.find? (·.status.isSuccess)

end Operation

end ApiMocks
