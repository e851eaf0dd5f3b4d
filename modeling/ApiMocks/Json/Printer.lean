import ApiMocks.Json.Value
import ApiMocks.Decimal.Layout

/-!
# Writing JSON

Values as text, on one line or with one item a line.  Main definitions: `Json.quote`,
`Json.compact`, `Json.pretty`.
-/

namespace ApiMocks.Json

/-- A digit of a lower-case hexadecimal number. -/
def hexDigit (n : Nat) : Char :=
  if n < 10 then Char.ofNat ('0'.toNat + n) else Char.ofNat ('a'.toNat + (n - 10))

/-- A character as it stands in a string: only quotes, backslashes and control characters are
escaped. -/
def quoteChar (c : Char) : List Char :=
  match c with
  | '"' => ['\\', '"']
  | '\\' => ['\\', '\\']
  | '\x08' => ['\\', 'b']
  | '\x0c' => ['\\', 'f']
  | '\n' => ['\\', 'n']
  | '\r' => ['\\', 'r']
  | '\t' => ['\\', 't']
  | _ =>
    if c.toNat < 0x20 then
      ['\\', 'u', '0', '0', hexDigit (c.toNat / 16), hexDigit (c.toNat % 16)]
    else [c]

/-- A string in quotes. -/
def quote (s : String) : String := String.ofList ('"' :: s.toList.flatMap quoteChar ++ ['"'])

/-- The text of a value that is no array and no object. -/
def scalarText : Json → String
  | null => "null"
  | bool b => if b then "true" else "false"
  | int i => toString i
  | float d => Layout.data.text d
  | str s => quote s
  | arr _ => "[]"
  | obj _ => "\x7b\x7d"

mutual

/-- The value on one line, without blanks. -/
def compact : Json → String
  | arr items => "[" ++ String.intercalate "," (compactItems items) ++ "]"
  | obj members => "\x7b" ++ String.intercalate "," (compactMembers members) ++ "\x7d"
  | v => v.scalarText

/-- The items, each on one line. -/
def compactItems : List Json → List String
  | [] => []
  | v :: rest => v.compact :: compactItems rest

/-- The members, each on one line. -/
def compactMembers : List (String × Json) → List String
  | [] => []
  | (k, v) :: rest => (quote k ++ ":" ++ v.compact) :: compactMembers rest

end

/-- The start of a line at some depth. -/
def newLine (depth : Nat) : String := String.ofList ('\n' :: List.replicate (2 * depth) ' ')

mutual

/-- The value with one item or member a line, two blanks deeper than what it belongs to. -/
def prettyAt (depth : Nat) : Json → String
  | arr [] => "[]"
  | obj [] => "\x7b\x7d"
  | arr items =>
    "[" ++ String.intercalate "," (prettyItems (depth + 1) items) ++ newLine depth ++ "]"
  | obj members =>
    "\x7b" ++ String.intercalate "," (prettyMembers (depth + 1) members) ++ newLine depth ++
      "\x7d"
  | v => v.scalarText

/-- The items, each on its line. -/
def prettyItems (depth : Nat) : List Json → List String
  | [] => []
  | v :: rest => (newLine depth ++ v.prettyAt depth) :: prettyItems depth rest

/-- The members, each on its line. -/
def prettyMembers (depth : Nat) : List (String × Json) → List String
  | [] => []
  | (k, v) :: rest =>
    (newLine depth ++ quote k ++ ": " ++ v.prettyAt depth) :: prettyMembers depth rest

end

/-- The value with one item or member a line. -/
def pretty (v : Json) : String := v.prettyAt 0

end ApiMocks.Json
