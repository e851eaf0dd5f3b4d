import ApiMocks.Http.Method
import ApiMocks.Reading.Format

/-!
# OpenAPI documents

The part of an OpenAPI 3 document that decides about mocks: paths with their operations, the
responses of these, and the table of named schemas.  Schemas are kept as they are.  Fields that are
not listed here are passed over.

Main definitions: `OpenApi.Document`, `OpenApi.Document.read`.
-/

namespace ApiMocks.OpenApi

/-- A body in one media type. -/
structure MediaType where
  schema : Option Json := none

/-- A response, with its content by media type. -/
structure ResponseObject where
  description : Option String := none
  content : Table MediaType := {}

/-- An operation.  A response that is written as null is there without a body. -/
structure OperationObject where
  operationId : Option String := none
  summary : Option String := none
  description : Option String := none
  tags : Option (List String) := none
  responses : Table (Option ResponseObject) := {}

/-- The operations of a path. -/
structure PathItem where
  operation : Method → Option OperationObject := fun _ => none

/-- What a document says about itself. -/
structure Info where
  title : String := ""
  description : Option String := none
  version : String := ""

/-- The named parts of a document. -/
structure Components where
  schemas : Table Json := {}

/-- An OpenAPI document. -/
structure Document where
  openapi : String := ""
  info : Option Info := none
  paths : Table PathItem := {}
  components : Option Components := none

/-- The operations of a path, in the order of the methods. -/
def PathItem.operations (item : PathItem) : List (Method × OperationObject) :=
  Method.all.filterMap fun m => (item.operation m).map (m, ·)

/-- The path item with the operation of one method set. -/
def PathItem.set (item : PathItem) (method : Method) (op : Option OperationObject) : PathItem where
  operation m := if m = method then op else item.operation m

/-- The named schemas; none without components. -/
def Document.schemas (d : Document) : Table Json :=
  match d.components with
  | some c => c.schemas
  | none => {}

section Reading

open Reading

variable {m : Type → Type} [Monad m] [MonadExceptOf Fault m] {ν : Type} [Format ν m]

/-- The fields of a media type. -/
def MediaType.fields : List (Field m ν MediaType) := [
  ⟨"schema", .optional, fun n t => do pure { t with schema := ← optional Format.value n }⟩]

/-- Reads a media type. -/
def MediaType.read (n : ν) : m MediaType := record "MediaType" MediaType.fields {} n

/-- The fields of a response. -/
def ResponseObject.fields : List (Field m ν ResponseObject) := [
  ⟨"description", .optional, fun n r => do pure { r with description := ← optional text n }⟩,
  ⟨"content", .defaulted, fun n r => do pure { r with content := ← table MediaType.read n }⟩]

/-- Reads a response. -/
def ResponseObject.read (n : ν) : m ResponseObject :=
  record "Response" ResponseObject.fields {} n

/-- The fields of an operation. -/
def OperationObject.fields : List (Field m ν OperationObject) := [
  ⟨"operationId", .optional, fun n o => do pure { o with operationId := ← optional text n }⟩,
  ⟨"summary", .optional, fun n o => do pure { o with summary := ← optional text n }⟩,
  ⟨"description", .optional, fun n o => do pure { o with description := ← optional text n }⟩,
  ⟨"tags", .optional, fun n o => do pure { o with tags := ← optional (list text) n }⟩,
  ⟨"responses", .defaulted, fun n o => do
    pure { o with responses := ← table (optional ResponseObject.read) n }⟩]

/-- Reads an operation. -/
def OperationObject.read (n : ν) : m OperationObject :=
  record "Operation" OperationObject.fields {} n

/-- The fields of a path item: one for each method. -/
def PathItem.fields : List (Field m ν PathItem) :=
  Method.all.map fun method =>
    ⟨method.name, .optional, fun n item => do
      pure (item.set method (← optional OperationObject.read n))⟩

/-- Reads a path item. -/
def PathItem.read (n : ν) : m PathItem := record "PathItem" PathItem.fields {} n

/-- The fields of the info object. -/
def Info.fields : List (Field m ν Info) := [
  ⟨"title", .required, fun n i => do pure { i with title := ← text n }⟩,
  ⟨"description", .optional, fun n i => do pure { i with description := ← optional text n }⟩,
  ⟨"version", .required, fun n i => do pure { i with version := ← text n }⟩]

/-- Reads the info object. -/
def Info.read (n : ν) : m Info := record "Info" Info.fields {} n

/-- The fields of the components. -/
def Components.fields : List (Field m ν Components) := [
  ⟨"schemas", .defaulted, fun n c => do pure { c with schemas := ← table Format.value n }⟩]

/-- Reads the components. -/
def Components.read (n : ν) : m Components := record "Components" Components.fields {} n

/-- The fields of a document. -/
def Document.fields : List (Field m ν Document) := [
  ⟨"openapi", .required, fun n d => do pure { d with openapi := ← text n }⟩,
  ⟨"info", .optional, fun n d => do pure { d with info := ← optional Info.read n }⟩,
  ⟨"paths", .defaulted, fun n d => do pure { d with paths := ← table PathItem.read n }⟩,
  ⟨"components", .optional, fun n d => do
    pure { d with components := ← optional Components.read n }⟩]

/-- Reads a document. -/
def Document.read (n : ν) : m Document := record "OpenApiDocument" Document.fields {} n

end Reading

end ApiMocks.OpenApi
