import ApiMocks.Yaml.Block
import ApiMocks.Yaml.Plain
import ApiMocks.Yaml.Quoted
import ApiMocks.Yaml.Tag

/-!
# From text to tokens

Indentation opens and closes block collections, and a mapping key without an indicator is only
known by the colon behind it.  So tokens wait in a queue while the first of them may still turn out
to be a key: it is one if a colon follows in the same line, within 1024 characters.

Where the text breaks the rules the token list ends early, without `Token.streamEnd`; the tokens
that still wait then are lost.

Main definitions: `Scan`, `Scan.fetch?`, `tokens`.
-/

namespace ApiMocks.Yaml

/-- A place where a mapping key may have started. -/
structure PossibleKey where
  /-- the number of the key's first token -/
  number : Nat
  /-- whether nothing but a key can stand there -/
  isRequired : Bool
  index : Nat
  line : Nat
  column : Nat

/-- The state of reading tokens. -/
structure Scan where
  cursor : Cursor
  /-- the number of brackets that are open -/
  flowLevel : Nat := 0
  /-- the column of the innermost block collection, -1 outside all of them -/
  indent : Int := -1
  /-- the columns of the block collections around it -/
  outer : List Int := []
  /-- whether a key may start here -/
  allowsKey : Bool := true
  /-- the possible keys, innermost bracket first -/
  keys : List (Option PossibleKey) := [none]
  /-- the tokens that wait -/
  queue : List Token := []
  /-- the number of tokens handed out -/
  handedOut : Nat := 0

namespace Scan

/-- Whether brackets are open. -/
def inFlow (s : Scan) : Bool := s.flowLevel ≠ 0

/-- Adds a token at the end of the queue. -/
def enqueue (s : Scan) (t : Token) : Scan := { s with queue := s.queue ++ [t] }

/-- Adds a token before the one with this number. -/
def insertAt (s : Scan) (number : Nat) (t : Token) : Scan :=
  { s with queue := s.queue.insertIdx (number - s.handedOut) t }

/-- Gives up the keys that a colon can no longer follow; fails if one of them is required. -/
def dropStaleKeys? (s : Scan) : Option Scan :=
  let isStale (k : PossibleKey) : Bool :=
    k.line < s.cursor.line || k.index + 1024 < s.cursor.index
  if s.keys.any fun k => k.any fun k => isStale k && k.isRequired then none
  else some { s with keys := s.keys.map (·.filter (!isStale ·)) }

/-- Gives up the innermost key; fails if it is required. -/
def dropKey? (s : Scan) : Option Scan :=
  match s.keys with
  | some k :: outer => if k.isRequired then none else some { s with keys := none :: outer }
  | _ => some s

/-- Notes that a key may start here. -/
def noteKey? (s : Scan) : Option Scan :=
  if !s.allowsKey then some s
  else s.dropKey?.map fun s =>
    let key : PossibleKey := {
      number := s.handedOut + s.queue.length
      isRequired := !s.inFlow && s.indent = s.cursor.column
      index := s.cursor.index
      line := s.cursor.line
      column := s.cursor.column }
    { s with keys := some key :: s.keys.drop 1 }

/-- Opens a block collection at a column, if it lies further right than the innermost one. -/
def openBlock (s : Scan) (column : Nat) (number : Option Nat) (t : Token) : Scan :=
  if s.inFlow || (column : Int) ≤ s.indent then s
  else
    let s := { s with outer := s.indent :: s.outer, indent := column }
    match number with
    | some number => s.insertAt number t
    | none => s.enqueue t

/-- Closes the block collections right of a column. -/
def closeBlocks (s : Scan) (column : Int) : Scan :=
  if s.inFlow then s else go s.outer s
where
  /-- Closes one block collection after the other. -/
  go : List Int → Scan → Scan
    | outer, s =>
      if s.indent ≤ column then s
      else
        match outer with
        | [] => { s.enqueue .blockEnd with indent := -1, outer := [] }
        | indent :: outer => go outer { s.enqueue .blockEnd with indent, outer }

/-- Passes over blanks, comments and line ends.  Outside brackets a key may start in every new
line.  A tabulator counts as a blank only where no key may start. -/
def skipGaps : (limit : Nat) → Scan → Scan
  | 0, s => s
  | limit + 1, s =>
    let c := s.cursor
    let c := if c.index = 0 && c.peek? = some '\ufeff' then c.skip 1 else c
    let isSkipped (d : Char) : Bool := d = ' ' || ((s.inFlow || !s.allowsKey) && d = '\t')
    let c := (c.span isSkipped).2
    let c := if c.peek? = some '#' then (c.span (!isLineEnd ·)).2 else c
    match c.lineEnd? with
    | some (_, next) =>
      skipGaps limit { s with cursor := next, allowsKey := s.allowsKey || !s.inFlow }
    | none => { s with cursor := c }

/-- Adds the token of an indicator of `n` characters and goes on behind it. -/
def indicator (s : Scan) (n : Nat) (t : Token) : Scan :=
  { s.enqueue t with cursor := s.cursor.skip n }

/-- The end of the text, which also ends its last line. -/
def endStream? (s : Scan) : Option Scan :=
  let cursor := if s.cursor.column = 0 then s.cursor else s.cursor.nextLine 0
  (s.closeBlocks (-1)).dropKey?.map fun s =>
    { s.enqueue .streamEnd with cursor, allowsKey := false }

/-- A directive line. -/
def directive? (limit : Nat) (s : Scan) : Option Scan := do
  let s ← (s.closeBlocks (-1)).dropKey?
  let (t, cursor) ← s.cursor.directive? limit
  pure { s.enqueue t with cursor, allowsKey := false }

/-- A document marker. -/
def documentMarker? (t : Token) (s : Scan) : Option Scan := do
  let s ← (s.closeBlocks (-1)).dropKey?
  pure { s.indicator 3 t with allowsKey := false }

/-- An opening bracket. -/
def openFlow? (t : Token) (s : Scan) : Option Scan := do
  let s ← s.noteKey?
  let s := { s with keys := none :: s.keys, flowLevel := s.flowLevel + 1, allowsKey := true }
  pure (s.indicator 1 t)

/-- A closing bracket. -/
def closeFlow? (t : Token) (s : Scan) : Option Scan := do
  let s ← s.dropKey?
  let s := if s.inFlow then { s with keys := s.keys.drop 1, flowLevel := s.flowLevel - 1 } else s
  pure { s.indicator 1 t with allowsKey := false }

/-- A comma between brackets. -/
def flowEntry? (s : Scan) : Option Scan := do
  let s ← s.dropKey?
  pure { s.indicator 1 .flowEntry with allowsKey := true }

/-- The dash of a sequence item. -/
def blockEntry? (s : Scan) : Option Scan := do
  if !s.inFlow && !s.allowsKey then none
  let s ← (s.openBlock s.cursor.column none .blockSequenceStart).dropKey?
  pure { s.indicator 1 .blockEntry with allowsKey := true }

/-- The question mark of a key. -/
def key? (s : Scan) : Option Scan := do
  if !s.inFlow && !s.allowsKey then none
  let s ← (s.openBlock s.cursor.column none .blockMappingStart).dropKey?
  pure { s.indicator 1 .key with allowsKey := !s.inFlow }

/-- The colon of a value.  If a key may have started in this line, it did. -/
def value? (s : Scan) : Option Scan :=
  match s.keys with
  | some k :: outer =>
    let s := { s with keys := none :: outer }.insertAt k.number .key
    let s := s.openBlock k.column (some k.number) .blockMappingStart
    some { s.indicator 1 .value with allowsKey := false }
  | _ =>
    if !s.inFlow && !s.allowsKey then none
    else
      let s := s.openBlock s.cursor.column none .blockMappingStart
      some { s.indicator 1 .value with allowsKey := !s.inFlow }

/-- An anchor or an alias. -/
def reference? (make : String → Token) (s : Scan) : Option Scan := do
  let s ← s.noteKey?
  let (name, cursor) ← s.cursor.reference?
  pure { s.enqueue (make name) with cursor, allowsKey := false }

/-- A tag. -/
def tag? (limit : Nat) (s : Scan) : Option Scan := do
  let s ← s.noteKey?
  let (t, cursor) ← s.cursor.tag? s.inFlow limit
  pure { s.enqueue t with cursor, allowsKey := false }

/-- A block scalar. -/
def block? (isLiteral : Bool) (limit : Nat) (s : Scan) : Option Scan := do
  let s ← s.dropKey?
  let (text, cursor) ← s.cursor.block? isLiteral s.indent limit
  let style := if isLiteral then Style.literal else .folded
  pure { s.enqueue (.scalar text style) with cursor, allowsKey := true }

/-- A quoted scalar. -/
def quoted? (q : Quote) (limit : Nat) (s : Scan) : Option Scan := do
  let s ← s.noteKey?
  let (text, cursor) ← s.cursor.quoted? q limit
  pure { s.enqueue (.scalar text .quoted) with cursor, allowsKey := false }

/-- A plain scalar. -/
def plain? (limit : Nat) (s : Scan) : Option Scan := do
  let s ← s.noteKey?
  let (text, cursor, isAtLineStart) ← s.cursor.plain? s.inFlow (s.indent + 1).toNat limit
  pure { s.enqueue (.scalar text .plain) with cursor, allowsKey := isAtLineStart }

/-- The characters that cannot start a plain scalar. -/
def isIndicator (c : Char) : Bool :=
  c ∈ ['-', '?', ':', ',', '[', ']', '{', '}', '#', '&', '*', '!', '|', '>', '\'', '"', '%', '@',
    '\u0060']

/-- Whether a plain scalar starts here. -/
def startsPlain (s : Scan) : Bool :=
  match s.cursor.rest with
  | [] => false
  | d :: rest =>
    !(isBlank d || isLineEnd d || isIndicator d) ||
      (d = '-' && !rest.head?.any isBlank) ||
      (!s.inFlow && (d = '?' || d = ':') && !s.cursor.isGap 1)

/-- Reads the next token, and the block starts and ends that come with it. -/
def fetch? (limit : Nat) (s : Scan) : Option Scan := do
  let s ← (s.skipGaps limit).dropStaleKeys?
  let s := s.closeBlocks s.cursor.column
  let c := s.cursor
  match c.peek? with
  | none => s.endStream?
  | some d =>
    if c.column = 0 && d = '%' then s.directive? limit
    else if c.startsLine ['-', '-', '-'] then s.documentMarker? .documentStart
    else if c.startsLine ['.', '.', '.'] then s.documentMarker? .documentEnd
    else if d = '[' then s.openFlow? .flowSequenceStart
    else if d = '{' then s.openFlow? .flowMappingStart
    else if d = ']' then s.closeFlow? .flowSequenceEnd
    else if d = '}' then s.closeFlow? .flowMappingEnd
    else if d = ',' then s.flowEntry?
    else if d = '-' && c.isGap 1 then s.blockEntry?
    else if d = '?' && (s.inFlow || c.isGap 1) then s.key?
    else if d = ':' && (s.inFlow || c.isGap 1) then s.value?
    else if d = '*' then s.reference? .reference
    else if d = '&' then s.reference? .anchor
    else if d = '!' then s.tag? limit
    else if d = '|' && !s.inFlow then s.block? true limit
    else if d = '>' && !s.inFlow then s.block? false limit
    else if d = '\'' then s.quoted? .single limit
    else if d = '"' then s.quoted? .double limit
    else if s.startsPlain then s.plain? limit
    else none

/-- Whether the first token that waits may still turn out to be a key. -/
def isWaiting (s : Scan) : Bool := s.keys.any fun k => k.any (·.number = s.handedOut)

/-- Hands out tokens up to the end of the stream or the first mistake.  `steps` bounds the number
of tokens read and handed out, `limit` the number of characters. -/
def handOut (limit : Nat) : (steps : Nat) → Scan → List Token
  | 0, _ => []
  | steps + 1, s =>
    match s.queue with
    | [] =>
      match s.fetch? limit with
      | some s => handOut limit steps s
      | none => []
    | t :: queue =>
      match s.dropStaleKeys? with
      | none => []
      | some s =>
        if s.isWaiting then
          match s.fetch? limit with
          | some s => handOut limit steps s
          | none => []
        else if t = .streamEnd then [t]
        else t :: handOut limit steps { s with queue, handedOut := s.handedOut + 1 }

end Scan

/-- The tokens of a text, up to the first mistake.  A byte order mark at its start is no part of
it. -/
def tokens (text : String) : List Token :=
  let chars := match text.toList with
    | '\ufeff' :: rest => rest
    | chars => chars
  if !chars.all isAllowed then []
  else
    -- A character gives at most a handful of tokens.
    let limit := chars.length + 2
    Scan.handOut limit (8 * limit) { cursor := .atStart chars, queue := [.streamStart] }

end ApiMocks.Yaml
