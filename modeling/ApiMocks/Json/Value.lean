import ApiMocks.Decimal.Double

/-!
# JSON values

Values as they are kept after reading: an object is a list of members in ascending order of their
keys, each key once.  Main definitions: `Json`, `Json.insertMember`, `Json.ofMembers`, `Json.get?`.
-/

namespace ApiMocks

/-- A JSON value. -/
inductive Json
  | null
  | bool (b : Bool)
  | int (i : Int)
  | float (d : Double)
  | str (s : String)
  | arr (items : List Json)
  | obj (members : List (String × Json))
  deriving Inhabited, BEq, Repr

namespace Json

/-- Adds a member to a list in ascending order of keys; a value under the same key gives way. -/
def insertMember (key : String) (value : Json) : List (String × Json) → List (String × Json)
  | [] => [(key, value)]
  | m :: rest =>
    if key < m.1 then (key, value) :: m :: rest
    else if key = m.1 then (key, value) :: rest
    else m :: insertMember key value rest

/-- The object with these members; of several under one key, the last. -/
def ofMembers (members : List (String × Json)) : Json :=
  obj (members.foldl (fun acc m => insertMember m.1 m.2 acc) [])

/-- The value of a member of an object. -/
def get? (key : String) : Json → Option Json
  | obj members => members.lookup key
  | _ => none

/-- The text of a string value. -/
def str? : Json → Option String
  | str s => some s
  | _ => none

end Json

end ApiMocks
