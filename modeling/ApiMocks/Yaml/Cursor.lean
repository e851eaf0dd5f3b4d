/-!
# Places in a YAML text

A cursor is the text that is left, with the place reached so far: the number of characters before
it, the line and the column.  Line ends are `\n`, `\r`, `\r\n` and the three Unicode line ends.

Main definitions: `Cursor`, `Cursor.skip`, `Cursor.span`, `Cursor.lineEnd?`,
`Cursor.isDocumentMarker`.
-/

namespace ApiMocks.Yaml

/-- A blank: space or tabulator. -/
def isBlank (c : Char) : Bool := c = ' ' || c = '\t'

/-- A character that ends a line. -/
def isLineEnd (c : Char) : Bool :=
  c = '\n' || c = '\r' || c = '\u0085' || c = '\u2028' || c = '\u2029'

/-- A character of names: ASCII letters, digits, `_` and `-`. -/
def isWordChar (c : Char) : Bool :=
  c.isAlphanum || c = '_' || c = '-'

/-- The characters that a text may hold at all. -/
def isAllowed (c : Char) : Bool :=
  let n := c.toNat
  n = 0x9 || n = 0xA || n = 0xD || (0x20 ≤ n && n ≤ 0x7E) || n = 0x85 ||
    (0xA0 ≤ n && n ≤ 0xD7FF) || (0xE000 ≤ n && n ≤ 0xFFFD) || 0x10000 ≤ n

/-- A place in a text. -/
structure Cursor where
  rest : List Char
  index : Nat
  line : Nat
  column : Nat

namespace Cursor

/-- The start of a text. -/
def atStart (text : List Char) : Cursor := ⟨text, 0, 0, 0⟩

/-- The next character. -/
def peek? (c : Cursor) : Option Char := c.rest.head?

/-- The place `n` characters further in the same line. -/
def skip (c : Cursor) (n : Nat) : Cursor :=
  { c with rest := c.rest.drop n, index := c.index + n, column := c.column + n }

/-- The place at the start of the next line, behind a line end of `n` characters. -/
def nextLine (c : Cursor) (n : Nat) : Cursor :=
  { rest := c.rest.drop n, index := c.index + n, line := c.line + 1, column := 0 }

/-- The characters up to the first one that fails the test, and the place behind them.  The test
fails for line ends. -/
def span (c : Cursor) (p : Char → Bool) : List Char × Cursor :=
  let (run, rest) := c.rest.span p
  (run, { c with rest, index := c.index + run.length, column := c.column + run.length })

/-- The line end at this place, in the form in which it becomes part of a text, and the place
behind it.  All line ends but the line and paragraph separators become a line feed. -/
def lineEnd? (c : Cursor) : Option (Char × Cursor) :=
  match c.rest with
  | '\r' :: '\n' :: _ => some ('\n', c.nextLine 2)
  | '\u2028' :: _ => some ('\u2028', c.nextLine 1)
  | '\u2029' :: _ => some ('\u2029', c.nextLine 1)
  | d :: _ => if isLineEnd d then some ('\n', c.nextLine 1) else none
  | [] => none

/-- Whether the `n`-th next character is a blank or a line end, or the text ends before it. -/
def isGap (c : Cursor) (n : Nat) : Bool :=
  match c.rest.drop n with
  | [] => true
  | d :: _ => isBlank d || isLineEnd d

/-- Whether the line starts with this marker, three characters with a gap behind them. -/
def startsLine (c : Cursor) (marker : List Char) : Bool :=
  c.column = 0 && c.rest.take 3 = marker && c.isGap 3

/-- Whether a document starts or ends here. -/
def isDocumentMarker (c : Cursor) : Bool :=
  c.startsLine ['-', '-', '-'] || c.startsLine ['.', '.', '.']

end Cursor

end ApiMocks.Yaml
