import ApiMocks.Decimal.Layout
import ApiMocks.Json.Number
import ApiMocks.Json.Tree
import ApiMocks.Reading.Format

/-!
# Documents in JSON

JSON text as a notation for documents.  A record is an object, or an array of its values in the
order of the fields.  Arrays and objects that are read (not passed over) nest at most 127 deep.

Main definitions: `Site`, the instance `Format Site`, `readDocument`, `Json.ofText`.
-/

namespace ApiMocks.JsonText

/-- A place in a text: a tree, and how many levels of arrays and objects may still be opened. -/
structure Site where
  room : Nat
  tree : Tree

/-- The levels of arrays and objects that can be read. -/
def mostLevels : Nat := 127

/-- What a tree is when it is not what was expected. -/
def Tree.found : Tree → Except Fault Found
  | .null => .ok (.nothing "null")
  | .bool b => .ok (.boolean b)
  | .number n =>
    match n.value? with
    | some (.int i) => .ok (.integer i)
    | some (.float d) => .ok (.decimal (Layout.data.text d))
    | _ => .error .malformed
  | .string (some s) => .ok (.text s)
  | .string none => .error .malformed
  | .array _ => .ok .sequence
  | .object _ => .ok .map
  | .fault => .error .malformed

/-- Refuses a tree. -/
def Tree.refuse {α : Type} (t : Tree) (expected : String) : Except Fault α :=
  t.found.bind fun found => .error (.wrongType found expected)

namespace Site

/-- Goes down into an array or object, if there is room. -/
def enter {α : Type} (room : Nat) (inside : Nat → α) : Except Fault α :=
  match room with
  | 0 => .error .malformed
  | room + 1 => .ok (inside room)

/-- The items at a level. -/
def placeItems (items : List Tree) (room : Nat) : List Site := items.map (⟨room, ·⟩)

/-- The members at a level; a key is a place with its string. -/
def placeMembers (members : List (Option String × Tree)) (room : Nat) : List (Site × Site) :=
  members.map fun m => (⟨room, .string m.1⟩, ⟨room, m.2⟩)

end Site

mutual

/-- The value of a tree with `room` levels left. -/
def Tree.value (room : Nat) : Tree → Except Fault Json
  | .null => .ok .null
  | .bool b => .ok (.bool b)
  | .number n =>
    match n.value? with
    | some v => .ok v
    | none => .error .malformed
  | .string (some s) => .ok (.str s)
  | .string none => .error .malformed
  | .array items =>
    match room with
    | 0 => .error .malformed
    | room + 1 => (Tree.itemValues room items).map .arr
  | .object members =>
    match room with
    | 0 => .error .malformed
    | room + 1 => (Tree.memberValues room members).map Json.ofMembers
  | .fault => .error .malformed

/-- The values of the items. -/
def Tree.itemValues (room : Nat) : List Tree → Except Fault (List Json)
  | [] => .ok []
  | t :: rest => do
    let v ← t.value room
    let vs ← Tree.itemValues room rest
    pure (v :: vs)

/-- The keys and values of the members. -/
def Tree.memberValues (room : Nat) :
    List (Option String × Tree) → Except Fault (List (String × Json))
  | [] => .ok []
  | (none, _) :: _ => .error .malformed
  | (some key, t) :: rest => do
    let v ← t.value room
    let vs ← Tree.memberValues room rest
    pure ((key, v) :: vs)

end

instance : Format Site (Except Fault) where
  text expected n :=
    match n.tree with
    | .string (some s) => .ok s
    | t => t.refuse expected
  present? n :=
    match n.tree with
    | .null => .ok none
    | _ => .ok (some n)
  items n :=
    match n.tree with
    | .array items => Site.enter n.room (Site.placeItems items)
    | t => t.refuse "a sequence"
  entries n :=
    match n.tree with
    | .object members => Site.enter n.room (Site.placeMembers members)
    | t => t.refuse "a map"
  recordText title n :=
    match n.tree with
    | .object members => Site.enter n.room fun room => .keyed (Site.placeMembers members room)
    | .array items => Site.enter n.room fun room => .positional (Site.placeItems items room)
    | t => t.refuse ("struct " ++ title)
  value n := n.tree.value n.room
  skip n := if n.tree.isIntact then .ok () else .error .malformed

/-- Reads a whole text: the value, then nothing more. -/
def readDocument {α : Type} (read : Site → Except Fault α) (text : String) : Except Fault α := do
  let parsed := parse text
  let result ← read ⟨mostLevels, parsed.root⟩
  if parsed.trailing then .error .malformed else pure result

end ApiMocks.JsonText

namespace ApiMocks

/-- The value of a JSON text. -/
def Json.ofText (text : String) : Except Fault Json :=
  JsonText.readDocument Format.value text

end ApiMocks
