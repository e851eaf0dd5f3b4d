import ApiMocks.Proofs.RecordParts

/-!
# The records of documents have independent parts

Every record of a document is one list of fields, and every field reads one value
and puts it into one place of the record.  So the records are divided into
independent parts, in every notation.
-/

namespace ApiMocks

variable {m : Type → Type} [Monad m] [MonadExceptOf Fault m] {ν : Type} [Format ν m]

open Reading

namespace OpenApi

/-- The parts of a media type. -/
def MediaType.divided : Divided (MediaType.fields : List (Field m ν MediaType)) where
  parts := [
    ⟨"schema", .optional, _, optional Format.value, fun v t => { t with schema := v }⟩]
  fields_eq := rfl
  separate := ⟨by simp, by simp⟩

/-- The parts of a response. -/
def ResponseObject.divided :
    Divided (ResponseObject.fields : List (Field m ν ResponseObject)) where
  parts := [
    ⟨"description", .optional, _, optional text, fun v r => { r with description := v }⟩,
    ⟨"content", .defaulted, _, table MediaType.read, fun v r => { r with content := v }⟩]
  fields_eq := rfl
  separate := ⟨by simp, by simp [Part.Commutes]⟩

/-- The parts of an operation. -/
def OperationObject.divided :
    Divided (OperationObject.fields : List (Field m ν OperationObject)) where
  parts := [
    ⟨"operationId", .optional, _, optional text, fun v o => { o with operationId := v }⟩,
    ⟨"summary", .optional, _, optional text, fun v o => { o with summary := v }⟩,
    ⟨"description", .optional, _, optional text, fun v o => { o with description := v }⟩,
    ⟨"tags", .optional, _, optional (list text), fun v o => { o with tags := v }⟩,
    ⟨"responses", .defaulted, _, table (optional ResponseObject.read), fun v o =>
      { o with responses := v }⟩]
  fields_eq := rfl
  separate := ⟨by simp, by simp [Part.Commutes]⟩

/-- The operations of two methods can be set in any order. -/
theorem PathItem.set_comm {method method' : Method} (hne : method ≠ method')
    (op op' : Option OperationObject) (item : PathItem) :
    (item.set method' op').set method op = (item.set method op).set method' op' := by
  simp only [PathItem.set, PathItem.mk.injEq]
  funext other
  by_cases h : other = method
  · simp [h, hne]
  · simp [h]

/-- The parts of a path item: its operations. -/
def PathItem.divided : Divided (PathItem.fields : List (Field m ν PathItem)) where
  parts := Method.all.map fun method =>
    ⟨method.name, .optional, _, optional OperationObject.read, fun v item => item.set method v⟩
  fields_eq := rfl
  separate := by
    have hnames : (Method.all.map Method.name).Nodup := by decide
    have hmethods : Method.all.Pairwise (· ≠ ·) := by decide
    refine ⟨?_, List.pairwise_map.mpr (hmethods.imp ?_)⟩
    · rw [List.map_map]
      exact hnames
    · intro method method' hne op op' item
      exact PathItem.set_comm hne op op' item

/-- The parts of the info object. -/
def Info.divided : Divided (Info.fields : List (Field m ν Info)) where
  parts := [
    ⟨"title", .required, _, text, fun v i => { i with title := v }⟩,
    ⟨"description", .optional, _, optional text, fun v i => { i with description := v }⟩,
    ⟨"version", .required, _, text, fun v i => { i with version := v }⟩]
  fields_eq := rfl
  separate := ⟨by simp, by simp [Part.Commutes]⟩

/-- The parts of the components. -/
def Components.divided : Divided (Components.fields : List (Field m ν Components)) where
  parts := [
    ⟨"schemas", .defaulted, _, table Format.value, fun v c => { c with schemas := v }⟩]
  fields_eq := rfl
  separate := ⟨by simp, by simp⟩

/-- The parts of a document. -/
def Document.divided : Divided (Document.fields : List (Field m ν Document)) where
  parts := [
    ⟨"openapi", .required, _, text, fun v d => { d with openapi := v }⟩,
    ⟨"info", .optional, _, optional Info.read, fun v d => { d with info := v }⟩,
    ⟨"paths", .defaulted, _, table PathItem.read, fun v d => { d with paths := v }⟩,
    ⟨"components", .optional, _, optional Components.read, fun v d =>
      { d with components := v }⟩]
  fields_eq := rfl
  separate := ⟨by simp, by simp [Part.Commutes]⟩

end OpenApi

namespace OperationList

/-- The parts of a response. -/
def ResponseEntry.divided :
    Divided (ResponseEntry.fields : List (Field m ν ResponseEntry)) where
  parts := [
    ⟨"mediaType", .optional, _, optional text, fun v r => { r with mediaType := v }⟩,
    ⟨"schema", .optional, _, optional Format.value, fun v r => { r with schema := v }⟩,
    ⟨"description", .optional, _, optional text, fun v r => { r with description := v }⟩]
  fields_eq := rfl
  separate := ⟨by simp, by simp [Part.Commutes]⟩

/-- The parts of an operation. -/
def Entry.divided : Divided (Entry.fields : List (Field m ν Entry)) where
  parts := [
    ⟨"method", .required, _, text, fun v e => { e with method := v }⟩,
    ⟨"path", .required, _, text, fun v e => { e with path := v }⟩,
    ⟨"operationId", .optional, _, optional text, fun v e => { e with operationId := v }⟩,
    ⟨"summary", .optional, _, optional text, fun v e => { e with summary := v }⟩,
    ⟨"description", .optional, _, optional text, fun v e => { e with description := v }⟩,
    ⟨"tags", .optional, _, optional (list text), fun v e => { e with tags := v }⟩,
    ⟨"responses", .defaulted, _, table (optional ResponseEntry.read), fun v e =>
      { e with responses := v }⟩]
  fields_eq := rfl
  separate := ⟨by simp, by simp [Part.Commutes]⟩

/-- The parts of a document. -/
def Document.divided : Divided (Document.fields : List (Field m ν Document)) where
  parts := [
    ⟨"operations", .defaulted, _, list Entry.read, fun v d => { d with operations := v }⟩,
    ⟨"schemas", .defaulted, _, table Format.value, fun v d => { d with schemas := v }⟩]
  fields_eq := rfl
  separate := ⟨by simp, by simp [Part.Commutes]⟩

end OperationList

end ApiMocks
