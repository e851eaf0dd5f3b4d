import ApiMocks.Yaml.Folding

/-!
# Quoted scalars

Text in single quotes, where a quote is written twice, or in double quotes, where a backslash
starts an escape.  Both may span lines.

Main definition: `Cursor.quoted?`.
-/

namespace ApiMocks.Yaml

/-- The character of a one-letter escape. -/
def escaped? (c : Char) : Option Char :=
  match c with
  | '0' => some '\x00'
  | 'a' => some '\x07'
  | 'b' => some '\x08'
  | 't' | '\t' => some '\t'
  | 'n' => some '\n'
  | 'v' => some '\x0b'
  | 'f' => some '\x0c'
  | 'r' => some '\r'
  | 'e' => some '\x1b'
  | ' ' => some ' '
  | '"' => some '"'
  | '/' => some '/'
  | '\\' => some '\\'
  | 'N' => some '\u0085'
  | '_' => some '\u00a0'
  | 'L' => some '\u2028'
  | 'P' => some '\u2029'
  | _ => none

/-- The number of digits behind the letter of a numeric escape. -/
def escapeWidth? (c : Char) : Option Nat :=
  match c with
  | 'x' => some 2
  | 'u' => some 4
  | 'U' => some 8
  | _ => none

/-- The value of a hexadecimal digit. -/
def hexValue? (c : Char) : Option Nat :=
  if c.isDigit then some (c.toNat - '0'.toNat)
  else if 'a' ≤ c && c ≤ 'f' then some (c.toNat - 'a'.toNat + 10)
  else if 'A' ≤ c && c ≤ 'F' then some (c.toNat - 'A'.toNat + 10)
  else none

/-- The value of `n` hexadecimal digits. -/
def hexNumber? : (n value : Nat) → List Char → Option Nat
  | 0, value, _ => some value
  | _ + 1, _, [] => none
  | n + 1, value, c :: rest =>
    match hexValue? c with
    | some v => hexNumber? n (16 * value + v) rest
    | none => none

/-- The character with this number, if there is one. -/
def charOfNat? (n : Nat) : Option Char := if n.isValidChar then some (Char.ofNat n) else none

/-- Reads the escape behind a backslash: the character, and the number of characters of the
escape. -/
def escape? (rest : List Char) : Option (Char × Nat) :=
  match rest with
  | [] => none
  | c :: digits =>
    match escaped? c, escapeWidth? c with
    | some d, _ => some (d, 1)
    | none, some width =>
      ((hexNumber? width 0 digits).bind charOfNat?).map fun d => (d, 1 + width)
    | none, none => none

/-- The two kinds of quotes. -/
inductive Quote
  | single | double
  deriving DecidableEq, Repr

/-- The quote character. -/
def Quote.char : Quote → Char
  | single => '\''
  | double => '"'

namespace Cursor

/-- Reads on up to a blank, a line end or the closing quote.  Says also whether an escaped line end
was the last thing read.  Text is kept in reverse. -/
def quotedWord (q : Quote) : (limit : Nat) → Cursor → List Char → Option (List Char × Cursor × Bool)
  | 0, _, _ => none
  | limit + 1, c, text =>
    match c.rest with
    | [] => some (text, c, false)
    | d :: rest =>
      if isBlank d || isLineEnd d then some (text, c, false)
      else if d = q.char then
        match q, rest with
        | .single, '\'' :: _ => quotedWord q limit (c.skip 2) ('\'' :: text)
        | _, _ => some (text, c, false)
      else if q = .double && d = '\\' then
        match (c.skip 1).lineEnd? with
        | some (_, next) => some (text, next, true)
        | none =>
          match escape? rest with
          | some (e, width) => quotedWord q limit (c.skip (1 + width)) (e :: text)
          | none => none
      else quotedWord q limit (c.skip 1) (d :: text)

/-- Reads words and gaps up to the closing quote. -/
def quotedText (q : Quote) : (limit : Nat) → Cursor → List Char → Option (List Char × Cursor)
  | 0, _, _ => none
  | limit + 1, c, text =>
    if c.isDocumentMarker || c.rest.isEmpty then none
    else
      match quotedWord q limit c text with
      | none => none
      | some (text, c, isBroken) =>
        if c.peek? = some q.char then some (text, c.skip 1)
        else
          match c.gap none limit { isBroken } with
          | none => none
          | some (g, c) => quotedText q limit c (g.text ++ text)

/-- Reads a quoted scalar that starts here. -/
def quoted? (q : Quote) (limit : Nat) (c : Cursor) : Option (String × Cursor) :=
  (quotedText q limit (c.skip 1) []).map fun r => (String.ofList r.1.reverse, r.2)

end Cursor

end ApiMocks.Yaml
