import ApiMocks.Yaml.Quoted
import ApiMocks.Yaml.Token

/-!
# Names, tags and directives

The tokens that describe a node or a document: `&anchor`, `*alias`, `!tag`, and the lines `%YAML`
and `%TAG`.

Main definitions: `Cursor.reference?`, `Cursor.tag?`, `Cursor.directive?`.
-/

namespace ApiMocks.Yaml.Cursor

/-- Reads the name of an anchor or alias behind its indicator. -/
def reference? (c : Cursor) : Option (String × Cursor) :=
  let (name, c) := (c.skip 1).span isWordChar
  let mayEnd := c.isGap 0 || c.peek?.any (· ∈ ['?', ':', ',', ']', '}', '%', '@', '\u0060'])
  if name.isEmpty || !mayEnd then none else some (String.ofList name, c)

/-- The characters of a tag that are neither word characters nor percent escapes. -/
def isTagPunctuation (isVerbatim : Bool) (c : Char) : Bool :=
  c ∈ [';', '/', '?', ':', '@', '&', '=', '+', '$', '.', '!', '~', '*', '\'', '(', ')'] ||
    (isVerbatim && c ∈ [',', '[', ']'])

/-- The number of bytes of a character whose UTF-8 form starts with this byte. -/
def utf8Width? (byte : Nat) : Option Nat :=
  if byte < 0x80 then some 1
  else if 0xC0 ≤ byte && byte < 0xE0 then some 2
  else if 0xE0 ≤ byte && byte < 0xF0 then some 3
  else if 0xF0 ≤ byte && byte < 0xF8 then some 4
  else none

/-- The byte of a percent escape. -/
def escapedByte? : List Char → Option Nat
  | '%' :: digits => hexNumber? 2 0 digits
  | _ => none

/-- The value of `n` further escaped bytes of a character. -/
def escapedTail? : (n value : Nat) → List Char → Option Nat
  | 0, value, _ => some value
  | n + 1, value, text =>
    match escapedByte? text with
    | some byte =>
      if 0x80 ≤ byte && byte < 0xC0 then escapedTail? n (64 * value + (byte - 0x80)) (text.drop 3)
      else none
    | none => none

/-- The character that percent escapes at the start of a text spell in UTF-8, and the number of
escapes. -/
def escapedChar? (text : List Char) : Option (Char × Nat) := do
  let byte ← escapedByte? text
  let width ← utf8Width? byte
  let lead := if width = 1 then byte else byte % Nat.pow 2 (7 - width)
  let value ← escapedTail? (width - 1) lead (text.drop 3)
  let d ← charOfNat? value
  pure (d, width)

/-- Reads the characters of a tag; text is kept in reverse. -/
def tagText (isVerbatim : Bool) : (limit : Nat) → Cursor → List Char → Option (List Char × Cursor)
  | 0, _, _ => none
  | limit + 1, c, text =>
    match c.peek? with
    | none => some (text, c)
    | some d =>
      if d = '%' then
        match escapedChar? c.rest with
        | some (e, width) => tagText isVerbatim limit (c.skip (3 * width)) (e :: text)
        | none => none
      else if isWordChar d || isTagPunctuation isVerbatim d then
        tagText isVerbatim limit (c.skip 1) (d :: text)
      else some (text, c)

/-- Reads a tag handle: an exclamation mark, word characters and possibly another mark. -/
def tagHandle? (c : Cursor) : Option (List Char × Cursor) :=
  if c.peek? = some '!' then
    let (name, c) := (c.skip 1).span isWordChar
    if c.peek? = some '!' then some ('!' :: name ++ ['!'], c.skip 1) else some ('!' :: name, c)
  else none

/-- Whether a handle ends in a mark of its own. -/
def isFullHandle (handle : List Char) : Bool := 1 < handle.length && handle.getLast? = some '!'

/-- Reads a tag without checking what follows: its handle, empty for a verbatim tag and for the
lone mark, and its suffix. -/
def tagParts? (limit : Nat) (c : Cursor) : Option (String × String × Cursor) :=
  match c.rest with
  | '!' :: '<' :: _ =>
    match tagText true limit (c.skip 2) [] with
    | some (text, c) =>
      if text.isEmpty || c.peek? ≠ some '>' then none
      else some ("", String.ofList text.reverse, c.skip 1)
    | none => none
  | _ =>
    match c.tagHandle? with
    | none => none
    | some (handle, c) =>
      if isFullHandle handle then
        match tagText false limit c [] with
        | some (text, c) =>
          if text.isEmpty then none
          else some (String.ofList handle, String.ofList text.reverse, c)
        | none => none
      else
        match tagText false limit c (handle.drop 1).reverse with
        | some (text, c) =>
          if text.isEmpty then some ("", "!", c)
          else some ("!", String.ofList text.reverse, c)
        | none => none

/-- Reads a tag.  A gap must follow or, between brackets, a comma. -/
def tag? (inFlow : Bool) (limit : Nat) (c : Cursor) : Option (Token × Cursor) :=
  match c.tagParts? limit with
  | some (handle, suffix, c) =>
    if c.isGap 0 || (inFlow && c.peek? = some ',') then some (.tag handle suffix, c) else none
  | none => none

/-- Reads a number of at most nine digits. -/
def versionNumber? (c : Cursor) : Option (Nat × Cursor) :=
  let (digits, c) := c.span Char.isDigit
  if digits.isEmpty || 9 < digits.length then none
  else some (digits.foldl (fun n d => 10 * n + (d.toNat - '0'.toNat)) 0, c)

/-- Reads the version of a `%YAML` line. -/
def version? (c : Cursor) : Option (Token × Cursor) := do
  let (major, c) ← (c.span isBlank).2.versionNumber?
  if c.peek? ≠ some '.' then none
  let (minor, c) ← (c.skip 1).versionNumber?
  pure (.versionDirective major minor, c)

/-- Reads the handle of a `%TAG` line and what it stands for. -/
def tagDefinition? (limit : Nat) (c : Cursor) : Option (Token × Cursor) := do
  let (handle, c) ← (c.span isBlank).2.tagHandle?
  if !(handle = ['!'] || isFullHandle handle) then none
  let (blanks, c) := c.span isBlank
  if blanks.isEmpty then none
  let (text, c) ← tagText true limit c []
  if text.isEmpty || !c.isGap 0 then none
  pure (.tagDirective (String.ofList handle) (String.ofList text.reverse), c)

/-- Reads a directive line; only the two known directives are accepted. -/
def directive? (limit : Nat) (c : Cursor) : Option (Token × Cursor) := do
  let (name, c) := (c.skip 1).span isWordChar
  if !c.isGap 0 then none
  let (token, c) ←
    if name = "YAML".toList then c.version?
    else if name = "TAG".toList then c.tagDefinition? limit
    else none
  let c := (c.span isBlank).2
  let c := if c.peek? = some '#' then (c.span (!isLineEnd ·)).2 else c
  match c.lineEnd? with
  | some (_, next) => pure (token, next)
  | none => if c.rest.isEmpty then pure (token, c) else none

end ApiMocks.Yaml.Cursor
