import ApiMocks.Yaml.TokenStream

/-!
# YAML text as a tree

The tree of the first document of a YAML text.  Mappings keep their entries in order and with
repeated keys, and an alias stays an alias, named by a number.  Text that breaks off gives a tree
that ends in `Node.fault`, with everything before the mistake in place.

* `Node` — a tree;
* `Anchors` — what the aliases of a document stand for;
* `Document`, `Document.ofTokens` — the first document of a text.
-/

namespace ApiMocks.Yaml

/-- A node of a document.  `anchor` is the number under which aliases refer to the node. -/
inductive Node
  | scalar (anchor : Option Nat) (tag : Option String) (style : Style) (text : String)
  | sequence (anchor : Option Nat) (tag : Option String) (items : List Node)
  | mapping (anchor : Option Nat) (tag : Option String) (entries : List (Node × Node))
  | reference (number : Nat)
  /-- the text breaks the rules from here on -/
  | fault
  deriving Inhabited, Repr

namespace Node

/-- A plain scalar without text, as it stands where a node is left out. -/
def empty : Node := scalar none none .plain ""

/-- The number under which aliases refer to a node. -/
def anchor? : Node → Option Nat
  | scalar a _ _ _ | sequence a _ _ | mapping a _ _ => a
  | reference _ | fault => none

mutual

/-- Whether no mistake lies within the tree. -/
def isIntact : Node → Bool
  | fault => false
  | sequence _ _ items => allIntact items
  | mapping _ _ entries => entriesIntact entries
  | scalar _ _ _ _ | reference _ => true

/-- Whether no mistake lies within the items. -/
def allIntact : List Node → Bool
  | [] => true
  | n :: rest => n.isIntact && allIntact rest

/-- Whether no mistake lies within the entries. -/
def entriesIntact : List (Node × Node) → Bool
  | [] => true
  | (k, v) :: rest => k.isIntact && v.isIntact && entriesIntact rest

end

mutual

/-- The size of a tree: scalars and aliases count once, collections twice. -/
def size : Node → Nat
  | fault => 0
  | sequence _ _ items => 2 + itemsSize items
  | mapping _ _ entries => 2 + entriesSize entries
  | scalar _ _ _ _ | reference _ => 1

/-- The size of the items. -/
def itemsSize : List Node → Nat
  | [] => 0
  | n :: rest => n.size + itemsSize rest

/-- The size of the entries. -/
def entriesSize : List (Node × Node) → Nat
  | [] => 0
  | (k, v) :: rest => k.size + v.size + entriesSize rest

end

mutual

/-- The nodes that carry a number, the last in the text first. -/
def anchored (found : List (Nat × Node)) : Node → List (Nat × Node)
  | n@(scalar a _ _ _) => (a.map (·, n)).toList ++ found
  | n@(sequence a _ items) => itemsAnchored ((a.map (·, n)).toList ++ found) items
  | n@(mapping a _ entries) => entriesAnchored ((a.map (·, n)).toList ++ found) entries
  | reference _ | fault => found

/-- The numbered nodes of the items. -/
def itemsAnchored (found : List (Nat × Node)) : List Node → List (Nat × Node)
  | [] => found
  | n :: rest => itemsAnchored (n.anchored found) rest

/-- The numbered nodes of the entries. -/
def entriesAnchored (found : List (Nat × Node)) : List (Node × Node) → List (Nat × Node)
  | [] => found
  | (k, v) :: rest => entriesAnchored (v.anchored (k.anchored found)) rest

end

end Node

/-- The state of reading nodes. -/
structure NodeReader where
  tokens : List Token
  /-- the tag handles of the document and what they stand for -/
  handles : List (String × String) := []
  /-- the anchors so far.  A name is listed once, with the number it had last. -/
  names : List (String × Nat) := []

namespace NodeReader

/-- Anchor and tag of a node. -/
structure Properties where
  anchor : Option String := none
  tag : Option String := none

/-- The reader behind the next token. -/
def drop (s : NodeReader) : NodeReader := { s with tokens := s.tokens.drop 1 }

/-- The tag that a handle and a suffix stand for. -/
def resolveTag? (s : NodeReader) (handle suffix : String) : Option String :=
  if handle.isEmpty then some suffix
  else (s.handles.lookup handle).map (· ++ suffix)

/-- Reads an anchor and a tag, in either order; each may be left out. -/
def properties? (s : NodeReader) : Option (Properties × NodeReader) :=
  match s.tokens with
  | .anchor name :: .tag handle suffix :: _ =>
    (s.resolveTag? handle suffix).map fun tag =>
      ({ anchor := some name, tag := some tag }, s.drop.drop)
  | .tag handle suffix :: .anchor name :: _ =>
    (s.resolveTag? handle suffix).map fun tag =>
      ({ anchor := some name, tag := some tag }, s.drop.drop)
  | .anchor name :: _ => some ({ anchor := some name }, s.drop)
  | .tag handle suffix :: _ =>
    (s.resolveTag? handle suffix).map fun tag => ({ tag := some tag }, s.drop)
  | _ => some ({}, s)

/-- Gives an anchor its number: the count of the names so far.  A name that is used again gets a
new number, and is still counted once. -/
def register (s : NodeReader) (anchor : Option String) : Option Nat × NodeReader :=
  match anchor with
  | none => (none, s)
  | some name =>
    let number := s.names.length
    (some number, { s with names := (name, number) :: s.names.filter (·.1 ≠ name) })

/-- What was read, and the reader behind it unless the text broke off. -/
abbrev Result (α : Type) := α × Option NodeReader

/-- The result where the text breaks off. -/
def broken : Result Node := (.fault, none)

/-- An entry whose key is not there. -/
def brokenEntry : Node × Node := (.fault, .fault)

mutual

/-- Reads a node.  Block collections are only looked for if `isBlock` is set, and a sequence
without indentation of its own if `mayHang` is.  `limit` bounds the number of steps. -/
def node : (limit : Nat) → (isBlock mayHang : Bool) → NodeReader → Result Node
  | 0, _, _, _ => broken
  | limit + 1, isBlock, mayHang, s =>
    match s.tokens with
    | .reference name :: _ =>
      match s.names.lookup name with
      | some number => (.reference number, some s.drop)
      | none => broken
    | _ =>
      match s.properties? with
      | none => broken
      | some (p, s) =>
        match s.tokens with
        | [] => broken
        | .scalar text style :: _ =>
          let (anchor, s) := s.register p.anchor
          (.scalar anchor (p.tag.filter (· ≠ "!")) style text, some s.drop)
        | .flowSequenceStart :: _ =>
          let (anchor, s) := s.register p.anchor
          let (items, after) := flowItems limit true s.drop
          (.sequence anchor p.tag items, after)
        | .flowMappingStart :: _ =>
          let (anchor, s) := s.register p.anchor
          let (entries, after) := flowEntries limit true s.drop
          (.mapping anchor p.tag entries, after)
        | t :: _ =>
          if t = .blockEntry && mayHang then
            let (anchor, s) := s.register p.anchor
            let (items, after) := hangingItems limit s
            (.sequence anchor p.tag items, after)
          else if t = .blockSequenceStart && isBlock then
            let (anchor, s) := s.register p.anchor
            let (items, after) := blockItems limit s.drop
            (.sequence anchor p.tag items, after)
          else if t = .blockMappingStart && isBlock then
            let (anchor, s) := s.register p.anchor
            let (entries, after) := blockEntries limit s.drop
            (.mapping anchor p.tag entries, after)
          else if p.anchor.isSome || p.tag.isSome then
            let (anchor, s) := s.register p.anchor
            (.scalar anchor p.tag .plain "", some s)
          else broken

/-- Reads a node, or an empty one before one of the tokens in `ends`. -/
def nodeUnless : (limit : Nat) → (ends : List Token) → (isBlock mayHang : Bool) → NodeReader →
    Result Node
  | 0, _, _, _, _ => broken
  | limit + 1, ends, isBlock, mayHang, s =>
    match s.tokens with
    | [] => broken
    | t :: _ => if t ∈ ends then (.empty, some s) else node limit isBlock mayHang s

/-- Reads the items of an indented sequence. -/
def blockItems : (limit : Nat) → NodeReader → Result (List Node)
  | 0, _ => ([.fault], none)
  | limit + 1, s =>
    match s.tokens with
    | .blockEntry :: _ =>
      match nodeUnless limit [.blockEntry, .blockEnd] true false s.drop with
      | (item, none) => ([item], none)
      | (item, some s) =>
        let (items, after) := blockItems limit s
        (item :: items, after)
    | .blockEnd :: _ => ([], some s.drop)
    | _ => ([.fault], none)

/-- Reads the items of a sequence without indentation of its own. -/
def hangingItems : (limit : Nat) → NodeReader → Result (List Node)
  | 0, _ => ([.fault], none)
  | limit + 1, s =>
    match s.tokens with
    | .blockEntry :: _ =>
      match nodeUnless limit [.blockEntry, .key, .value, .blockEnd] true false s.drop with
      | (item, none) => ([item], none)
      | (item, some s) =>
        let (items, after) := hangingItems limit s
        (item :: items, after)
    | [] => ([.fault], none)
    | _ => ([], some s)

/-- Reads the entries of an indented mapping. -/
def blockEntries : (limit : Nat) → NodeReader → Result (List (Node × Node))
  | 0, _ => ([brokenEntry], none)
  | limit + 1, s =>
    match s.tokens with
    | .key :: _ =>
      match nodeUnless limit [.key, .value, .blockEnd] true true s.drop with
      | (k, none) => ([(k, .fault)], none)
      | (k, some s) =>
        match blockValue limit s with
        | (v, none) => ([(k, v)], none)
        | (v, some s) =>
          let (entries, after) := blockEntries limit s
          ((k, v) :: entries, after)
    | .blockEnd :: _ => ([], some s.drop)
    | _ => ([brokenEntry], none)

/-- Reads the value of an entry of an indented mapping. -/
def blockValue : (limit : Nat) → NodeReader → Result Node
  | 0, _ => broken
  | limit + 1, s =>
    match s.tokens with
    | .value :: _ => nodeUnless limit [.key, .value, .blockEnd] true true s.drop
    | [] => broken
    | _ => (.empty, some s)

/-- Reads the items of a sequence in brackets. -/
def flowItems : (limit : Nat) → (isFirst : Bool) → NodeReader → Result (List Node)
  | 0, _, _ => ([.fault], none)
  | limit + 1, isFirst, s =>
    match s.tokens with
    | .flowSequenceEnd :: _ => ([], some s.drop)
    | t :: _ =>
      if !isFirst && t ≠ .flowEntry then ([.fault], none)
      else
        let s := if isFirst then s else s.drop
        let (item, after) := match s.tokens with
          | .key :: _ =>
            let (entry, after) := flowPair limit s.drop
            (some (.mapping none none [entry]), after)
          | .flowSequenceEnd :: _ => (none, some s)
          | _ =>
            let (item, after) := node limit false false s
            (some item, after)
        match item, after with
        | some item, none => ([item], none)
        | some item, some s =>
          let (items, after) := flowItems limit false s
          (item :: items, after)
        | none, _ => ([], some s.drop)
    | [] => ([.fault], none)

/-- Reads the key and the value of a single pair that stands among the items of a sequence. -/
def flowPair : (limit : Nat) → NodeReader → Result (Node × Node)
  | 0, _ => (brokenEntry, none)
  | limit + 1, s =>
    match s.tokens with
    | [] => (brokenEntry, none)
    | t :: _ =>
      -- A missing key takes the token behind it along.
      let (k, after) := if t ∈ [.value, .flowEntry, .flowSequenceEnd] then (.empty, some s.drop)
        else node limit false false s
      match after with
      | none => ((k, .fault), none)
      | some s =>
        let (v, after) := flowValue limit .flowSequenceEnd s
        ((k, v), after)

/-- Reads the value of an entry in brackets that `last` closes. -/
def flowValue : (limit : Nat) → (last : Token) → NodeReader → Result Node
  | 0, _, _ => broken
  | limit + 1, last, s =>
    match s.tokens with
    | .value :: _ => nodeUnless limit [.flowEntry, last] false false s.drop
    | [] => broken
    | _ => (.empty, some s)

/-- Reads the entries of a mapping in brackets. -/
def flowEntries : (limit : Nat) → (isFirst : Bool) → NodeReader → Result (List (Node × Node))
  | 0, _, _ => ([brokenEntry], none)
  | limit + 1, isFirst, s =>
    match s.tokens with
    | .flowMappingEnd :: _ => ([], some s.drop)
    | t :: _ =>
      if !isFirst && t ≠ .flowEntry then ([brokenEntry], none)
      else
        let s := if isFirst then s else s.drop
        match s.tokens with
        | .flowMappingEnd :: _ => ([], some s.drop)
        | .key :: _ =>
          match nodeUnless limit [.value, .flowEntry, .flowMappingEnd] false false s.drop with
          | (k, none) => ([(k, .fault)], none)
          | (k, some s) =>
            match flowValue limit .flowMappingEnd s with
            | (v, none) => ([(k, v)], none)
            | (v, some s) =>
              let (entries, after) := flowEntries limit false s
              ((k, v) :: entries, after)
        | _ =>
          -- A key without an indicator and without a colon has no value.
          match node limit false false s with
          | (k, none) => ([(k, .fault)], none)
          | (k, some s) =>
            if s.tokens.isEmpty then ([(k, .fault)], none)
            else
              let (entries, after) := flowEntries limit false s
              ((k, .empty) :: entries, after)
    | [] => ([brokenEntry], none)

end

/-- The tag handles that every document knows. -/
def commonHandles : List (String × String) := [("!", "!"), ("!!", "tag:yaml.org,2002:")]

/-- Reads the directives of a document: each kind of directive once for what it is about, and a
version 1.1 or 1.2. -/
def directives? (hasVersion : Bool) (handles : List (String × String)) :
    List Token → Option (List (String × String) × List Token)
  | .versionDirective major minor :: rest =>
    if hasVersion || major ≠ 1 || (minor ≠ 1 && minor ≠ 2) then none
    else directives? true handles rest
  | .tagDirective handle expansion :: rest =>
    if (handles.lookup handle).isSome then none
    else directives? hasVersion ((handle, expansion) :: handles) rest
  | rest => some (handles ++ commonHandles, rest)

/-- Reads the root of the first document. -/
def root (tokens : List Token) : Result Node :=
  let limit := 4 * tokens.length + 8
  match tokens with
  | .streamStart :: .streamEnd :: _ => (.empty, some ⟨[.streamEnd], [], []⟩)
  | .streamStart :: rest =>
    match directives? false [] rest with
    | none => broken
    | some (handles, rest') =>
      match rest' with
      | .documentStart :: content =>
        let s : NodeReader := { tokens := content, handles }
        match content with
        | .versionDirective _ _ :: _ | .tagDirective _ _ :: _ => (.empty, some s)
        | .documentStart :: _ | .documentEnd :: _ | .streamEnd :: _ => (.empty, some s)
        | _ => node limit true false s
      | _ =>
        match rest with
        | .versionDirective _ _ :: _ | .tagDirective _ _ :: _ => broken
        | _ => node limit true false { tokens := rest, handles }
  | _ => broken

end NodeReader

/-- The first document of a text. -/
structure Document where
  root : Node
  /-- whether the text goes on to its end without a mistake and without a second document -/
  isWhole : Bool

/-- Whether only document ends stand before the end of the stream. -/
def endsStream (tokens : List Token) : Bool :=
  match tokens.dropWhile (· = .documentEnd) with
  | .streamEnd :: _ => true
  | _ => false

/-- The first document of a token list. -/
def Document.ofTokens (tokens : List Token) : Document :=
  let (root, after) := NodeReader.root tokens
  { root, isWhole := after.any fun s => endsStream s.tokens }

/-- The first document of a text. -/
def Document.ofText (text : String) : Document := .ofTokens (tokens text)

end ApiMocks.Yaml
