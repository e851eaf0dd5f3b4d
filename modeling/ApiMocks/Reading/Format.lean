import ApiMocks.Json.Value
import ApiMocks.Reading.Fault
import ApiMocks.Table

/-!
# Reading typed values from a notation

What a notation for documents has to offer, so that the types of a document are described once and
read from every notation.  Reading goes through the text in order and stops at the first fault.

* `Format` — the operations of a notation;
* `Field`, `record` — records with named fields;
* `list`, `table`, `optional` — the other shapes.
-/

namespace ApiMocks

/-- What is written where a record is expected. -/
inductive RecordText (ν : Type)
  /-- keys with values, in order -/
  | keyed (entries : List (ν × ν))
  /-- the values alone, in the order of the fields -/
  | positional (values : List ν)

/-- A notation for documents.  `ν` is a place in a text, and reading happens in the monad `m`. -/
class Format (ν : Type) (m : outParam (Type → Type)) where
  /-- the text of a string; a value of another kind is refused with the given expectation -/
  text : (expected : String) → ν → m String
  /-- the value at this place, unless it is written as absent -/
  present? : ν → m (Option ν)
  /-- the items of a list -/
  items : ν → m (List ν)
  /-- the keys and values of a map -/
  entries : ν → m (List (ν × ν))
  /-- the parts of a record with this title -/
  recordText : (title : String) → ν → m (RecordText ν)
  /-- a value of any shape -/
  value : ν → m Json
  /-- passes over a value -/
  skip : ν → m Unit

/-- Whether a field can be left out. -/
inductive Presence
  /-- it must be there -/
  | required
  /-- it may be left out of a record with keys -/
  | optional
  /-- it may be left out of every record -/
  | defaulted
  deriving DecidableEq, Repr

/-- A field of a record of type `τ`: how its value is read and put into the record. -/
structure Field (m : Type → Type) (ν τ : Type) where
  name : String
  presence : Presence
  store : ν → τ → m τ

namespace Reading

variable {m : Type → Type} [Monad m] [MonadExceptOf Fault m] {ν : Type} [Format ν m] {τ α : Type}

/-- The text of a string. -/
def text (n : ν) : m String := Format.text "a string" n

/-- A value that may be written as absent. -/
def optional (read : ν → m α) (n : ν) : m (Option α) := do
  match ← Format.present? n with
  | none => pure none
  | some n => some <$> read n

/-- A list of values. -/
def list (read : ν → m α) (n : ν) : m (List α) := do
  (← Format.items n).mapM read

/-- Reads one entry of a map into a table. -/
def readRow (read : ν → m α) (t : Table α) (entry : ν × ν) : m (Table α) := do
  let key ← text entry.1
  let value ← read entry.2
  pure (t.set key value)

/-- A map: a repeated key keeps its first place and its last value. -/
def table (read : ν → m α) (n : ν) : m (Table α) := do
  List.foldlM (readRow read) Table.empty (← Format.entries n)

/-- The expectation for a record whose values are counted. -/
def countedTitle (title : String) (count : Nat) : String :=
  "struct " ++ title ++ " with " ++ toString count ++ if count = 1 then " element" else " elements"

/-- Reads one entry of a record with keys.  A key that names no field is passed over; a field that
was seen before is refused before its value is read. -/
def readEntry (fields : List (Field m ν τ)) (state : τ × List String) (entry : ν × ν) :
    m (τ × List String) := do
  let key ← Format.text "field identifier" entry.1
  match fields.find? (·.name = key) with
  | none =>
    Format.skip entry.2
    pure state
  | some field =>
    if key ∈ state.2 then throw (Fault.duplicateField key)
    let record ← field.store entry.2 state.1
    pure (record, key :: state.2)

/-- Reads the values of a record without keys. -/
def readValues (expected : String) : Nat → List (Field m ν τ) → List ν → τ → m τ
  | _, [], [], record => pure record
  | _, [], _ :: _, _ => throw Fault.malformed
  | index, field :: fields, n :: rest, record => do
    let record ← field.store n record
    readValues expected (index + 1) fields rest record
  | index, field :: fields, [], record =>
    if field.presence = .defaulted then readValues expected (index + 1) fields [] record
    else throw (Fault.wrongLength index expected)

/-- Reads a record into `blank`.  The first required field that is missing is reported at the end
of the record. -/
def record (title : String) (fields : List (Field m ν τ)) (blank : τ) (n : ν) : m τ := do
  match ← Format.recordText title n with
  | .positional values => readValues (countedTitle title fields.length) 0 fields values blank
  | .keyed entries =>
    let (record, seen) ← entries.foldlM (readEntry fields) (blank, [])
    match fields.find? fun f => f.presence = .required && f.name ∉ seen with
    | some field => throw (Fault.missingField field.name)
    | none => pure record

end Reading

end ApiMocks
