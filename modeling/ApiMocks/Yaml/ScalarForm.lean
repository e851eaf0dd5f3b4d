import ApiMocks.Yaml.Cursor
import ApiMocks.Yaml.Scalar

/-!
# How a text is written as a scalar

A text stands plain where that reads back as the same text, in single quotes where only its
characters are in the way, as a literal block if it has several lines, and in double quotes if
nothing else will do.  Lines are never folded.

Main definitions: `ScalarForm.ofText`, `scalarOfText`.
-/

namespace ApiMocks.Yaml

/-- The forms of written scalars. -/
inductive ScalarForm
  | plain | singleQuoted | doubleQuoted | literal
  deriving DecidableEq, Repr

/-- Whether a character can stand in a text as it is.  Tabulators and carriage returns cannot, and
neither can byte order marks. -/
def isPrintable (c : Char) : Bool :=
  let n := c.toNat
  n = 0xA || (0x20 ≤ n && n ≤ 0x7E) || (0xA0 ≤ n && n ≤ 0xD7FF) ||
    (0xE000 ≤ n && n ≤ 0xFFFD && n ≠ 0xFEFF) || 0x10000 ≤ n

/-- Whether a character that passes `p` stands directly before one that passes `q`. -/
def hasPair (p q : Char → Bool) : List Char → Bool
  | c :: d :: rest => (p c && q d) || hasPair p q (d :: rest)
  | _ => false

/-- The characters with a meaning of their own at the start of a scalar. -/
def isIndicator (c : Char) : Bool :=
  c ∈ ['#', ',', '[', ']', '{', '}', '&', '*', '!', '|', '>', '\'', '"', '%', '@', '\x60']

/-- Whether a text starts like something else than a plain scalar: with an indicator, with a
document marker, or with a mark that stands alone. -/
def startsLikeMarkup : List Char → Bool
  | '-' :: '-' :: '-' :: _ | '.' :: '.' :: '.' :: _ => true
  | [c] => isIndicator c || c = '-' || c = '?'
  | c :: ' ' :: _ => isIndicator c || c = '-' || c = '?'
  | c :: _ => isIndicator c
  | [] => true

/-- Whether a text holds something that ends a plain scalar: a colon before a space or at the end,
or a comment. -/
def holdsMarkup (s : List Char) : Bool :=
  hasPair (· = ':') (· = ' ') s || s.getLast? = some ':' || hasPair (· = ' ') (· = '#') s

/-- Whether a text can stand without quotes, whatever it would be read as. -/
def canBePlain (s : List Char) : Bool :=
  s.all (fun c => isPrintable c && !isLineEnd c) && s.head? ≠ some ' ' && s.getLast? ≠ some ' ' &&
    !startsLikeMarkup s && !holdsMarkup s

/-- Whether a text can stand in single quotes: no space next to a line end would get lost. -/
def canBeSingleQuoted (s : List Char) : Bool :=
  s.all isPrintable && !hasPair isLineEnd (· = ' ') s && !hasPair (· = ' ') isLineEnd s

/-- Whether a text can stand as a literal block: no line ends in a space. -/
def canBeLiteral (s : List Char) : Bool :=
  s.all isPrintable && s.getLast? ≠ some ' ' && !hasPair (· = ' ') isLineEnd s

/-- Whether a plain scalar with this text is read as this text.  Digits with a leading zero count
as a number here. -/
def isPlainText (s : String) : Bool :=
  match Plain.ofText s with
  | .text _ => !isZeroPadded s.toList
  | _ => false

/-- The form of a text. -/
def ScalarForm.ofText (s : String) : ScalarForm :=
  let chars := s.toList
  if '\n' ∈ chars then if canBeLiteral chars then literal else doubleQuoted
  else if isPlainText s && canBePlain chars then plain
  else if canBeSingleQuoted chars then singleQuoted
  else doubleQuoted

/-- A digit of an upper-case hexadecimal number. -/
def upperHexDigit (n : Nat) : Char :=
  if n < 10 then Char.ofNat ('0'.toNat + n) else Char.ofNat ('A'.toNat + (n - 10))

/-- The last `width` hexadecimal digits of a number. -/
def fixedHex (width n : Nat) : List Char :=
  match width with
  | 0 => []
  | width + 1 => fixedHex width (n / 16) ++ [upperHexDigit (n % 16)]

/-- A character of the basic plane as its number, in two digits if they are enough and in four
otherwise. -/
def escapeNumber (c : Char) : List Char :=
  let n := c.toNat
  if n ≤ 0xFF then '\\' :: 'x' :: fixedHex 2 n else '\\' :: 'u' :: fixedHex 4 n

/-- A character within double quotes. -/
def escapeChar (c : Char) : List Char :=
  match c with
  | '"' => ['\\', '"']
  | '\\' => ['\\', '\\']
  | '\x00' => ['\\', '0']
  | '\x07' => ['\\', 'a']
  | '\x08' => ['\\', 'b']
  | '\t' => ['\\', 't']
  | '\n' => ['\\', 'n']
  | '\x0b' => ['\\', 'v']
  | '\x0c' => ['\\', 'f']
  | '\r' => ['\\', 'r']
  | '\x1b' => ['\\', 'e']
  | '\u0085' => ['\\', 'N']
  | '\u2028' => ['\\', 'L']
  | '\u2029' => ['\\', 'P']
  | _ => if isPrintable c then [c] else escapeNumber c

/-- A text in double quotes, on one line. -/
def doubleQuotedText (s : List Char) : List Char := '"' :: s.flatMap escapeChar ++ ['"']

/-- Text with every line but the first moved to the right; empty lines stay empty.  `isAtStart` says
that the text starts on a new line. -/
def indentLines (indent : Nat) : (isAtStart : Bool) → List Char → List Char
  | _, [] => []
  | isAtStart, c :: rest =>
    if isLineEnd c then c :: indentLines indent true rest
    else (if isAtStart then List.replicate indent ' ' else []) ++ c :: indentLines indent false rest

/-- A text in single quotes, with each quote in it written twice.  The closing quote counts as part
of the last line. -/
def singleQuotedText (indent : Nat) (s : List Char) : List Char :=
  '\'' :: indentLines indent false (s.flatMap (fun c => if c = '\'' then ['\'', '\''] else [c]) ++
    ['\''])

/-- What stands behind the bar of a literal block: the indentation if the first line does not show
it, and what becomes of the line ends at the end of the text. -/
def literalHeader (s : List Char) : List Char :=
  let startsBlank := s.head?.any fun c => c = ' ' || isLineEnd c
  let ending := match s.reverse with
    | [] => ['-']
    | [c] => if isLineEnd c then ['+'] else ['-']
    | c :: d :: _ => if isLineEnd c then if isLineEnd d then ['+'] else [] else ['-']
  (if startsBlank then ['2'] else []) ++ ending

/-- A text as a literal block. -/
def literalText (indent : Nat) (s : List Char) : List Char :=
  '|' :: literalHeader s ++ '\n' :: indentLines indent true s

/-- A text as a scalar; its further lines start at column `indent`. -/
def scalarOfText (indent : Nat) (s : String) : String :=
  let chars := s.toList
  match ScalarForm.ofText s with
  | .plain => s
  | .singleQuoted => String.ofList (singleQuotedText indent chars)
  | .doubleQuoted => String.ofList (doubleQuotedText chars)
  | .literal => String.ofList (literalText indent chars)

end ApiMocks.Yaml
