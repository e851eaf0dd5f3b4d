import ApiMocks.Reading.Format

/-!
# Operation lists

Documents that list their operations one after the other, each with its method and path, and with
one schema directly on each response.

Main definitions: `OperationList.Document`, `OperationList.Document.read`.
-/

namespace ApiMocks.OperationList

/-- A response with its schema. -/
structure ResponseEntry where
  mediaType : Option String := none
  schema : Option Json := none
  description : Option String := none

/-- An operation.  Its method can be any text. -/
structure Entry where
  method : String := ""
  path : String := ""
  operationId : Option String := none
  summary : Option String := none
  description : Option String := none
  tags : Option (List String) := none
  responses : Table (Option ResponseEntry) := {}

/-- An operation list. -/
structure Document where
  operations : List Entry := []
  schemas : Table Json := {}

section Reading

open Reading

variable {m : Type → Type} [Monad m] [MonadExceptOf Fault m] {ν : Type} [Format ν m]

/-- The fields of a response. -/
def ResponseEntry.fields : List (Field m ν ResponseEntry) := [
  ⟨"mediaType", .optional, fun n r => do pure { r with mediaType := ← optional text n }⟩,
  ⟨"schema", .optional, fun n r => do pure { r with schema := ← optional Format.value n }⟩,
  ⟨"description", .optional, fun n r => do pure { r with description := ← optional text n }⟩]

/-- Reads a response. -/
def ResponseEntry.read (n : ν) : m ResponseEntry :=
  record "DirectResponse" ResponseEntry.fields {} n

/-- The fields of an operation. -/
def Entry.fields : List (Field m ν Entry) := [
  ⟨"method", .required, fun n e => do pure { e with method := ← text n }⟩,
  ⟨"path", .required, fun n e => do pure { e with path := ← text n }⟩,
  ⟨"operationId", .optional, fun n e => do pure { e with operationId := ← optional text n }⟩,
  ⟨"summary", .optional, fun n e => do pure { e with summary := ← optional text n }⟩,
  ⟨"description", .optional, fun n e => do pure { e with description := ← optional text n }⟩,
  ⟨"tags", .optional, fun n e => do pure { e with tags := ← optional (list text) n }⟩,
  ⟨"responses", .defaulted, fun n e => do
    pure { e with responses := ← table (optional ResponseEntry.read) n }⟩]

/-- Reads an operation. -/
def Entry.read (n : ν) : m Entry := record "DirectOperation" Entry.fields {} n

/-- The fields of a document. -/
def Document.fields : List (Field m ν Document) := [
  ⟨"operations", .defaulted, fun n d => do pure { d with operations := ← list Entry.read n }⟩,
  ⟨"schemas", .defaulted, fun n d => do pure { d with schemas := ← table Format.value n }⟩]

/-- Reads a document. -/
def Document.read (n : ν) : m Document := record "DirectDocument" Document.fields {} n

end Reading

end ApiMocks.OperationList
