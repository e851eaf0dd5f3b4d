import ApiMocks.Json.Printer
import ApiMocks.Operation.Basic
import ApiMocks.Document.Source
import ApiMocks.Yaml.Printer

/-!
# Inspection

The operations of a document as data.  Everything that is absent shows as null.

Main definitions: `inspection`, `inspectionText`.
-/

namespace ApiMocks.Cli

/-- A text, or null. -/
def textOrNull (s : Option String) : Json :=
  match s with
  | some s => .str s
  | none => .null

/-- A response as data. -/
def responseRecord (r : Response) : Json := .ofMembers [
  ("statusCode", .int (r.status : Nat)),
  ("description", textOrNull r.description),
  ("schemaName", textOrNull r.schemaName),
  ("schema", r.schema.getD .null),
  ("isSuccess", .bool r.status.isSuccess),
  ("isError", .bool r.status.isError)]

/-- An operation as data. -/
def operationRecord (op : Operation) : Json := .ofMembers [
  ("operationId", .str op.id),
  ("method", .str op.method.name),
  ("path", .str op.path),
  ("summary", textOrNull op.summary),
  ("description", textOrNull op.description),
  ("tags", match op.tags with
    | some tags => .arr (tags.map .str)
    | none => .null),
  ("responses", .arr (op.responses.map responseRecord))]

/-- Operations as data. -/
def inspection (ops : List Operation) : Json :=
  .ofMembers [("operations", .arr (ops.map operationRecord))]

/-- The text of the inspection of some operations, which ends with a line end. -/
def inspectionText (encoding : Encoding) (ops : List Operation) : String :=
  match encoding with
  | .yaml => Yaml.Block.text (inspection ops)
  | .json => (inspection ops).pretty ++ "\n"

end ApiMocks.Cli
