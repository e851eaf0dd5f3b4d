import ApiMocks.Notice
import ApiMocks.Operation.Basic
import ApiMocks.Schema

/-!
# The responses of an operation

Response entries come with a key and possibly a body.  Of the entries for one status, the first
counts whose key is a number; the entry `default` counts for status 200 only if no number does.
Every entry that is left out is reported.

Main definitions: `ResponseBody`, `Slot`, `addEntry`, `normalizeResponses`.
-/

namespace ApiMocks

/-- The body of a response entry: its description and the schema that it offers. -/
structure ResponseBody where
  description : Option String := none
  schema : Option Json := none

/-- A response that is chosen for its status so far. -/
structure Slot where
  response : Response
  /-- whether it comes from the entry `default` -/
  isDefault : Bool

namespace Slot

/-- The status of a slot. -/
def status (s : Slot) : Status := s.response.status

/-- Adds a slot to others in ascending order of status; a slot of the same status gives way. -/
def insert (s : Slot) : List Slot → List Slot
  | [] => [s]
  | t :: rest =>
    if s.status < t.status then s :: t :: rest
    else if s.status = t.status then s :: rest
    else t :: insert s rest

end Slot

/-- The response of an entry. -/
def ResponseBody.response (body : ResponseBody) (status : Status) (schemas : Table Json) :
    Response :=
  let name := body.schema.bind schemaName?
  { status
    description := body.description
    schemaName := name
    schema := resolveSchema? name body.schema schemas }

/-- Takes one entry into account: the slots after it, and what there is to report. -/
def addEntry (schemas : Table Json) (slots : List Slot) (key : String)
    (body : Option ResponseBody) : List Slot × List Notice :=
  match body, Status.ofKey? key with
  | none, _ => (slots, [.noBody key])
  | some _, none => (slots, [.noStatus key])
  | some body, some status =>
    let isDefault := key = Status.defaultKey
    let slot : Slot := ⟨body.response status schemas, isDefault⟩
    match slots.find? (·.status = status) with
    | none => (slot.insert slots, [])
    | some old =>
      if isDefault || !old.isDefault then (slots, [.alreadyDeclared key status])
      else (slot.insert slots, [.replacesDefault key status])

/-- Takes entries into account one after the other. -/
def addEntries (schemas : Table Json) (slots : List Slot) :
    List (String × Option ResponseBody) → List Slot × List Notice
  | [] => (slots, [])
  | (key, body) :: rest =>
    let (slots, here) := addEntry schemas slots key body
    let (slots, later) := addEntries schemas slots rest
    (slots, here ++ later)

/-- The responses of an operation, in ascending order of status. -/
def normalizeResponses (entries : List (String × Option ResponseBody)) (schemas : Table Json) :
    Logged (List Response) :=
  let (slots, notices) := addEntries schemas [] entries
  { value := slots.map (·.response), notices }

end ApiMocks
