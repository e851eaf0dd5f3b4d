import ApiMocks.Decimal.Layout
import ApiMocks.Reading.Format
import ApiMocks.Yaml.Node
import ApiMocks.Yaml.Scalar

/-!
# Documents in YAML

YAML text as a notation for documents.  A text where a string is expected is taken as it is
written; elsewhere plain scalars and tags decide what a scalar stands for.  Collections nest at most
128 deep, and aliases are followed at most a hundred times as often as the document is large.

Main definitions: `Site`, the instance `Format Site`, `flag`, `choice`, `readDocument`.
-/

namespace ApiMocks.Yaml

/-- A place in a document: a node, the nodes that aliases stand for, and how many levels of
collections may still be opened. -/
structure Site where
  anchors : List (Nat × Node)
  room : Nat
  node : Node

/-- Reading a document; the state is how often an alias may still be followed. -/
abbrev Read := StateT Nat (Except Fault)

/-- The levels of collections that can be read. -/
def mostLevels : Nat := 128

/-- The tag of the standard types. -/
def standardTag (name : String) : String := "tag:yaml.org,2002:" ++ name

/-- The name of a tag that belongs to the document: what stands behind its exclamation mark. -/
def customTag? (tag : Option String) : Option String :=
  match tag.map String.toList with
  | some ('!' :: rest) => some (if rest.isEmpty then "!" else String.ofList rest)
  | _ => none

/-- What a scalar stands for.  A tag of a standard type demands that type; with a tag of the
document's own, a plain scalar is read as without one. -/
def scalarValue (tag : Option String) (style : Style) (text : String) : Except Fault Plain :=
  let untagged : Plain := if style = .plain then .ofText text else .text text
  let demand (value : Option Plain) (expected : String) : Except Fault Plain :=
    match value with
    | some v => .ok v
    | none => .error (.wrongValue (.text text) expected)
  match tag with
  | none => .ok untagged
  | some t =>
    if t = standardTag "bool" then demand ((bool? text).map .bool) "a boolean"
    else if t = standardTag "int" then demand ((int? text.toList).map .int) "an integer"
    else if t = standardTag "float" then demand ((float? text).map .float) "a float"
    else if t = standardTag "null" then
      demand (if isNull text then some .null else none) "null"
    else if t.startsWith "!" then .ok untagged
    else .ok (.text text)

/-- The integers that a value can hold. -/
def isSmallInt (i : Int) : Bool := -(Nat.pow 2 63 : Int) ≤ i && i < (Nat.pow 2 64 : Int)

/-- How a scalar is named in a message. -/
def Plain.found : Plain → Found
  | .null => .nothing "unit value"
  | .bool b => .boolean b
  | .int i => if isSmallInt i then .integer i else .wideInteger i
  | .float (.finite d) => .decimal (Layout.positional.text d)
  | .float (.infinite isNegative) => .decimal (if isNegative then "-inf" else "inf")
  | .float .undefined => .decimal "NaN"
  | .text s => .text s

/-- The value of a scalar.  Floats without a number become nothing; wide integers are refused. -/
def Plain.value : Plain → Except Fault Json
  | .null => .ok .null
  | .bool b => .ok (.bool b)
  | .int i => if isSmallInt i then .ok (.int i) else .error .malformed
  | .float (.finite d) => .ok (.float d)
  | .float _ => .ok .null
  | .text s => .ok (.str s)

/-- Refuses a node. -/
def Node.refuse {α : Type} (n : Node) (expected : String) : Except Fault α :=
  match n with
  | .scalar _ tag style text =>
    (scalarValue tag style text).bind fun v => .error (.wrongType v.found expected)
  | .sequence _ _ _ => .error (.wrongType .sequence expected)
  | .mapping _ _ _ => .error (.wrongType .map expected)
  | .reference _ | .fault => .error .malformed

/-- Whether a node is left out: it is a plain scalar without text. -/
def Node.isLeftOut : Node → Bool
  | .scalar _ _ .plain "" => true
  | _ => false

namespace Site

/-- Goes from an alias to what it stands for. -/
def follow (n : Site) : Read Site :=
  match n.node with
  | .reference number => do
    match ← get with
    | 0 => throw .malformed
    | budget + 1 =>
      set budget
      match n.anchors.lookup number with
      | some node => pure { n with node }
      | none => throw .malformed
  | _ => pure n

/-- The same level with another node. -/
def move (n : Site) (node : Node) : Site := { n with node }

/-- The level below, if there is room. -/
def enter (n : Site) : Read Site :=
  match n.room with
  | 0 => throw .malformed
  | room + 1 => pure { n with room }

/-- The text of a scalar. -/
def text (expected : String) (n : Site) : Read String := do
  let n ← n.follow
  match n.node with
  | .scalar _ _ _ text => pure text
  | node => node.refuse expected

/-- The value at this place, unless it is an empty or null plain scalar.  A tag on the scalar other
than that of null makes it a value. -/
def present? (n : Site) : Read (Option Site) := do
  let n ← n.follow
  match n.node with
  | .scalar _ tag .plain text =>
    match tag with
    | none => pure (if text.isEmpty || isNull text then none else some n)
    | some t =>
      if t ≠ standardTag "null" then pure (some n)
      else if isNull text then pure none
      else throw (.wrongValue (.text text) "null")
  | .fault => throw .malformed
  | _ => pure (some n)

/-- The items of a sequence; a node that is left out is an empty one. -/
def items (n : Site) : Read (List Site) := do
  let n ← n.follow
  match n.node with
  | .sequence _ _ items =>
    let inside ← n.enter
    pure (items.map inside.move)
  | node => if node.isLeftOut then pure [] else node.refuse "a sequence"

/-- The entries of a mapping; a node that is left out is an empty one. -/
def entries (expected : String) (n : Site) : Read (List (Site × Site)) := do
  let n ← n.follow
  match n.node with
  | .mapping _ _ entries =>
    let inside ← n.enter
    pure (entries.map fun e => (inside.move e.1, inside.move e.2))
  | node => if node.isLeftOut then pure [] else node.refuse expected

/-- The value of a scalar, unless its tag is one of the document's own. -/
def scalar (tag : Option String) (style : Style) (text : String) : Read Json :=
  match customTag? tag with
  | some _ => throw (.wrongType .tagged "any valid JSON value")
  | none => do
    let v ← scalarValue tag style text
    v.value

/-- Reads the entries of a mapping as members.  Only the first key is named as one if it is no
scalar. -/
def members (read : Site → Read Json) : (isFirst : Bool) → List (Site × Site) →
    Read (List (String × Json))
  | _, [] => pure []
  | isFirst, (k, v) :: rest => do
    let key ← text (if isFirst then "a string key" else "a string") k
    let value ← read v
    let more ← members read false rest
    pure ((key, value) :: more)

/-- The value of a node, with so many levels left. -/
def valueWithin : (room : Nat) → Site → Read Json
  | room, n => do
    let n ← n.follow
    match n.node with
    | .scalar _ tag style text => scalar tag style text
    | .sequence _ tag items =>
      if (customTag? tag).isSome then throw (.wrongType .tagged "any valid JSON value")
      else
        match room with
        | 0 => throw .malformed
        | room + 1 => Json.arr <$> items.mapM fun item => valueWithin room (n.move item)
    | .mapping _ tag entries =>
      if (customTag? tag).isSome then throw (.wrongType .tagged "any valid JSON value")
      else
        match room with
        | 0 => throw .malformed
        | room + 1 =>
          Json.ofMembers <$>
            members (valueWithin room) true (entries.map fun e => (n.move e.1, n.move e.2))
    | .reference _ | .fault => throw .malformed

end Site

instance : Format Site Read where
  text := Site.text
  present? := Site.present?
  items := Site.items
  entries := Site.entries "a map"
  recordText title n := .keyed <$> n.entries ("struct " ++ title)
  value n := n.valueWithin n.room
  skip n := if n.node.isIntact then pure () else throw .malformed

/-- Reads a truth value: a plain scalar with one of the words, or a literal block with the tag of
truth values. -/
def flag (n : Site) : Read Bool := do
  let n ← n.follow
  match n.node with
  | .scalar _ tag style text =>
    let isWord := style = .plain || (style = .literal && tag = some (standardTag "bool"))
    match if isWord then bool? text else none with
    | some b => pure b
    | none => n.node.refuse "a boolean"
  | node => node.refuse "a boolean"

/-- The value of a name among several. -/
def choose {α : Type} (variants : List (String × α)) (given : String) : Except Fault α :=
  match variants.lookup given with
  | some v => .ok v
  | none => .error (.unknownVariant given (variants.map (·.1)))

/-- Refuses a node that should be empty, as it is where a tag makes the choice. -/
def requireNothing (n : Node) : Except Fault Unit :=
  match n with
  | .scalar _ _ style text =>
    if style = .plain && (text.isEmpty || isNull text) then .ok ()
    else .error (.wrongValue (.text text) "null")
  | node => node.refuse "unit"

/-- Reads a choice: the text of a scalar, or a tag of the document's own on an empty scalar. -/
def choice {α : Type} (variants : List (String × α)) (n : Site) : Read α := do
  let n ← n.follow
  match n.node with
  | .scalar _ tag _ text =>
    match customTag? tag with
    | some name =>
      let v ← choose variants name
      requireNothing n.node
      pure v
    | none => choose variants text
  | .sequence _ tag _ | .mapping _ tag _ =>
    match customTag? tag with
    | some name =>
      let _ ← choose variants name
      n.node.refuse "unit"
    | none => n.node.refuse "a YAML tag starting with '!'"
  | .reference _ | .fault => throw .malformed

/-- Reads a whole text: one document, then nothing more. -/
def readDocument {α : Type} (read : Site → Read α) (text : String) : Except Fault α := do
  let document := Document.ofText text
  let site : Site := ⟨document.root.anchored [], mostLevels, document.root⟩
  let (result, _) ← (read site).run (100 * document.root.size)
  if document.isWhole then pure result else .error .malformed

end ApiMocks.Yaml
