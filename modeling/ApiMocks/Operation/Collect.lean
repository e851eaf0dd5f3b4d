import ApiMocks.Document.Source
import ApiMocks.Naming
import ApiMocks.Operation.Responses

/-!
# Collecting operations

The operations of a source document.  Both kinds of documents are brought into one form, operations
with response bodies, before responses are chosen and ids are made up.

Main definitions: `Declared`, `Declared.operation`, `SourceDocument.collect`.
-/

namespace ApiMocks

/-- An operation as a document declares it. -/
structure Declared where
  method : Method
  path : String
  operationId : Option String
  summary : Option String
  description : Option String
  tags : Option (List String)
  responses : List (String × Option ResponseBody)

/-- The operation with its responses chosen, and with an id made up if none is given. -/
def Declared.operation (d : Declared) (schemas : Table Json) : Logged Operation :=
  let responses := normalizeResponses d.responses schemas
  { value := {
      id := d.operationId.getD (Naming.operationId d.method d.path)
      method := d.method
      path := d.path
      summary := d.summary
      description := d.description
      tags := d.tags
      responses := responses.value }
    notices := responses.notices }

namespace OpenApi

/-- The body of a response: the schema of its JSON content. -/
def ResponseObject.body (r : ResponseObject) : ResponseBody where
  description := r.description
  schema := (jsonContent? r.content).bind (·.schema)

/-- An operation of a path. -/
def OperationObject.declared (o : OperationObject) (method : Method) (path : String) :
    Declared where
  method
  path
  operationId := o.operationId
  summary := o.summary
  description := o.description
  tags := o.tags
  responses := o.responses.entries.map fun e => (e.1, e.2.map ResponseObject.body)

/-- The operations that a document declares: by path, and within a path by method. -/
def Document.declared (d : Document) : List Declared :=
  d.paths.entries.flatMap fun e =>
    e.2.operations.map fun o => o.2.declared o.1 e.1

/-- The operations of a document. -/
def Document.collect (d : Document) : Logged (List Operation) :=
  .all (d.declared.map (·.operation d.schemas))

end OpenApi

namespace OperationList

/-- The body of a response. -/
def ResponseEntry.body (r : ResponseEntry) : ResponseBody where
  description := r.description
  schema := r.schema

/-- An operation with its method read. -/
def Entry.declared (e : Entry) (method : Method) : Declared where
  method
  path := e.path
  operationId := e.operationId
  summary := e.summary
  description := e.description
  tags := e.tags
  responses := e.responses.entries.map fun r => (r.1, r.2.map ResponseEntry.body)

/-- The operation of an entry; none, but a notice, if its method is unknown. -/
def Entry.operation (e : Entry) (schemas : Table Json) : Logged (Option Operation) :=
  match Method.ofName? e.method with
  | some method =>
    let op := (e.declared method).operation schemas
    { value := some op.value, notices := op.notices }
  | none => { value := none, notices := [.unknownMethod e.method e.path] }

/-- The operations of a document. -/
def Document.collect (d : Document) : Logged (List Operation) :=
  let steps := Logged.all (d.operations.map (·.operation d.schemas))
  { value := steps.value.filterMap id, notices := steps.notices }

end OperationList

/-- The operations of a source document. -/
def SourceDocument.collect : SourceDocument → Logged (List Operation)
  | openApi d => d.collect
  | operationList d => d.collect

end ApiMocks
