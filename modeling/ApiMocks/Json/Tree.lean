import ApiMocks.Json.Token

/-!
# JSON text as a tree

The tree of a JSON text keeps what the text says: numbers as written, members in order and with
repeated keys.  Text that breaks off gives a tree that ends in `Tree.fault`, with everything before
the mistake in place.

Main definitions: `Tree`, `Tree.isIntact`, `build`, `parse`.
-/

namespace ApiMocks.JsonText

/-- A JSON text. -/
inductive Tree
  | null
  | bool (b : Bool)
  | number (n : NumberText)
  | string (text : Option String)
  | array (items : List Tree)
  | object (members : List (Option String × Tree))
  /-- the text is no JSON from here on -/
  | fault
  deriving Inhabited, Repr

namespace Tree

mutual

/-- Whether no mistake lies within the tree. -/
def isIntact : Tree → Bool
  | fault => false
  | array items => allIntact items
  | object members => membersIntact members
  | _ => true

/-- Whether no mistake lies within the items. -/
def allIntact : List Tree → Bool
  | [] => true
  | t :: rest => t.isIntact && allIntact rest

/-- Whether no mistake lies within the members. -/
def membersIntact : List (Option String × Tree) → Bool
  | [] => true
  | (_, t) :: rest => t.isIntact && membersIntact rest

end

end Tree

/-- An array or object that is still open; what it holds so far is kept in reverse. -/
inductive Frame
  | array (items : List Tree)
  /-- an object between two members -/
  | object (members : List (Option String × Tree))
  /-- an object with a key that waits for its value -/
  | member (members : List (Option String × Tree)) (key : Option String)

namespace Frame

/-- The frame with one more value in it. -/
def push (f : Frame) (t : Tree) : Frame :=
  match f with
  | array items => array (t :: items)
  | object members => object ((none, t) :: members)
  | member members key => object ((key, t) :: members)

/-- The finished array or object. -/
def close : Frame → Tree
  | array items => .array items.reverse
  | object members | member members _ => .object members.reverse

end Frame

/-- What may come next. -/
inductive Expect
  | value
  /-- a value or the end of an empty array -/
  | item
  /-- a key or the end of an empty object -/
  | firstKey
  | key
  | colon
  /-- a comma or the end of the innermost array or object -/
  | separator
  deriving DecidableEq, Repr

/-- What a token does to the open frames, innermost first. -/
inductive Step
  | proceed (frames : List Frame) (expect : Expect)
  | finished (root : Tree)
  | mistake

/-- A value is complete: it goes into the innermost frame, or is the whole text. -/
def settle (t : Tree) : List Frame → Step
  | [] => .finished t
  | f :: below => .proceed (f.push t :: below) .separator

/-- Takes one token. -/
def take (frames : List Frame) (expect : Expect) (token : Token) : Step :=
  let isValue := expect = .value || expect = .item
  match token with
  | .null => if isValue then settle .null frames else .mistake
  | .bool b => if isValue then settle (.bool b) frames else .mistake
  | .number n => if isValue then settle (.number n) frames else .mistake
  | .string s =>
    if isValue then settle (.string s) frames
    else match frames with
      | .object members :: below =>
        if expect = .key || expect = .firstKey then .proceed (.member members s :: below) .colon
        else .mistake
      | _ => .mistake
  | .openArray => if isValue then .proceed (.array [] :: frames) .item else .mistake
  | .openObject => if isValue then .proceed (.object [] :: frames) .firstKey else .mistake
  | .closeArray =>
    match frames with
    | .array items :: below =>
      if expect = .item || expect = .separator then settle (.array items.reverse) below
      else .mistake
    | _ => .mistake
  | .closeObject =>
    match frames with
    | .object members :: below =>
      if expect = .firstKey || expect = .separator then settle (.object members.reverse) below
      else .mistake
    | _ => .mistake
  | .comma =>
    if expect ≠ .separator then .mistake
    else match frames with
      | .array _ :: _ => .proceed frames .value
      | _ => .proceed frames .key
  | .colon => if expect = .colon then .proceed frames .value else .mistake
  | .fault => .mistake

/-- Ends every open array and object with a mistake. -/
def breakOff (frames : List Frame) : Tree := frames.foldl (fun t f => (f.push t).close) .fault

/-- A text as a tree, and whether something follows the value. -/
structure Parsed where
  root : Tree
  trailing : Bool

/-- Reads the tokens with these frames open. -/
def build (frames : List Frame) (expect : Expect) : List Token → Parsed
  | [] => ⟨breakOff frames, false⟩
  | token :: rest =>
    match take frames expect token with
    | .proceed frames expect => build frames expect rest
    | .finished root => ⟨root, !rest.isEmpty⟩
    | .mistake => ⟨breakOff frames, false⟩

/-- The tree of a text. -/
def parse (text : String) : Parsed := build [] .value (tokens text)

end ApiMocks.JsonText
