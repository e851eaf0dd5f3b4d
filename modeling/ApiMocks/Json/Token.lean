/-!
# Tokens of JSON text

Text is cut into tokens one character at a time.  Where it stops being JSON the token list ends
with `Token.fault`, so all that comes before a mistake can still be used.

Main definitions: `Token`, `NumberText`, `StringUnit.decode?`, `tokens`.
-/

namespace ApiMocks.JsonText

/-- A number as written. -/
structure NumberText where
  negative : Bool
  /-- the digits before the point -/
  whole : List Char
  /-- the digits behind the point, none without a point -/
  fraction : List Char
  /-- the exponent: whether it is negative, and its digits -/
  power : Option (Bool × List Char)
  deriving DecidableEq, Repr

/-- What a string is made of: characters, and 16-bit units given by an escape. -/
inductive StringUnit
  | char (c : Char)
  | unit (n : Nat)
  deriving DecidableEq, Repr

/-- The first half of a surrogate pair. -/
def isHighSurrogate (n : Nat) : Bool := 0xD800 ≤ n && n < 0xDC00

/-- The second half of a surrogate pair. -/
def isLowSurrogate (n : Nat) : Bool := 0xDC00 ≤ n && n < 0xE000

/-- The character of a surrogate pair. -/
def ofSurrogates (high low : Nat) : Char :=
  Char.ofNat (0x10000 + (high - 0xD800) * 0x400 + (low - 0xDC00))

/-- The characters of a string; `none` if half a surrogate pair stands alone. -/
def StringUnit.decode? : List StringUnit → Option (List Char)
  | [] => some []
  | .char c :: rest => (decode? rest).map (c :: ·)
  | .unit n :: rest =>
    if isLowSurrogate n then none
    else if isHighSurrogate n then
      match rest with
      | .unit m :: rest =>
        if isLowSurrogate m then (decode? rest).map (ofSurrogates n m :: ·) else none
      | _ => none
    else (decode? rest).map (Char.ofNat n :: ·)

/-- A token.  A string that holds half a surrogate pair has no text. -/
inductive Token
  | openArray | closeArray | openObject | closeObject | comma | colon
  | null
  | bool (b : Bool)
  | number (n : NumberText)
  | string (text : Option String)
  | fault
  deriving DecidableEq, Repr

/-- The characters that may stand between tokens. -/
def isSpace (c : Char) : Bool := c = ' ' || c = '\n' || c = '\t' || c = '\r'

/-- How far a number has been read. -/
inductive Phase
  | sign | zero | whole | point | fraction | mark | markSign | power
  deriving DecidableEq, Repr

/-- What the next character belongs to; collected characters are kept in reverse. -/
inductive Mode
  | between
  | word (rest : List Char) (token : Token)
  | number (phase : Phase) (n : NumberText)
  | string (units : List StringUnit)
  | escape (units : List StringUnit)
  | hex (units : List StringUnit) (digits value : Nat)
  | broken
  deriving DecidableEq, Repr

/-- The value of a hexadecimal digit. -/
def hexValue? (c : Char) : Option Nat :=
  if c.isDigit then some (c.toNat - '0'.toNat)
  else if 'a' ≤ c && c ≤ 'f' then some (c.toNat - 'a'.toNat + 10)
  else if 'A' ≤ c && c ≤ 'F' then some (c.toNat - 'A'.toNat + 10)
  else none

/-- The finished number token. -/
def NumberText.token (n : NumberText) : Token :=
  .number { n with
    whole := n.whole.reverse
    fraction := n.fraction.reverse
    power := n.power.map fun p => (p.1, p.2.reverse) }

/-- The finished string token. -/
def stringToken (units : List StringUnit) : Token :=
  .string ((StringUnit.decode? units.reverse).map String.ofList)

/-- Starts a token, or is one. -/
def start (c : Char) : List Token × Mode :=
  if isSpace c then ([], .between)
  else match c with
    | '[' => ([.openArray], .between)
    | ']' => ([.closeArray], .between)
    | '{' => ([.openObject], .between)
    | '}' => ([.closeObject], .between)
    | ',' => ([.comma], .between)
    | ':' => ([.colon], .between)
    | '"' => ([], .string [])
    | 'n' => ([], .word ['u', 'l', 'l'] .null)
    | 't' => ([], .word ['r', 'u', 'e'] (.bool true))
    | 'f' => ([], .word ['a', 'l', 's', 'e'] (.bool false))
    | '-' => ([], .number .sign ⟨true, [], [], none⟩)
    | '0' => ([], .number .zero ⟨false, ['0'], [], none⟩)
    | _ => if c.isDigit then ([], .number .whole ⟨false, [c], [], none⟩) else ([.fault], .broken)

/-- The mode after one more character of a number, if it belongs to the number. -/
def extendNumber (phase : Phase) (n : NumberText) (c : Char) : Option Mode :=
  let isMark := c = 'e' || c = 'E'
  match phase with
  | .sign =>
    if c = '0' then some (.number .zero { n with whole := ['0'] })
    else if c.isDigit then some (.number .whole { n with whole := [c] })
    else none
  | .zero =>
    if c = '.' then some (.number .point n)
    else if isMark then some (.number .mark n)
    else none
  | .whole =>
    if c.isDigit then some (.number .whole { n with whole := c :: n.whole })
    else if c = '.' then some (.number .point n)
    else if isMark then some (.number .mark n)
    else none
  | .point =>
    if c.isDigit then some (.number .fraction { n with fraction := [c] }) else none
  | .fraction =>
    if c.isDigit then some (.number .fraction { n with fraction := c :: n.fraction })
    else if isMark then some (.number .mark n)
    else none
  | .mark =>
    if c = '+' then some (.number .markSign { n with power := some (false, []) })
    else if c = '-' then some (.number .markSign { n with power := some (true, []) })
    else if c.isDigit then some (.number .power { n with power := some (false, [c]) })
    else none
  | .markSign | .power =>
    if c.isDigit then
      some (.number .power { n with power := n.power.map fun p => (p.1, c :: p.2) })
    else none

/-- Whether a number may end in this phase. -/
def Phase.isComplete : Phase → Bool
  | .zero | .whole | .fraction | .power => true
  | .sign | .point | .mark | .markSign => false

/-- The character of a one-letter escape. -/
def escaped? (c : Char) : Option Char :=
  match c with
  | '"' => some '"'
  | '\\' => some '\\'
  | '/' => some '/'
  | 'b' => some '\x08'
  | 'f' => some '\x0c'
  | 'n' => some '\n'
  | 'r' => some '\r'
  | 't' => some '\t'
  | _ => none

/-- Takes one character: the tokens that are complete now, and the mode for the next one. -/
def advance (mode : Mode) (c : Char) : List Token × Mode :=
  match mode with
  | .between => start c
  | .word [] token => ([token, .fault], .broken)
  | .word (d :: rest) token =>
    if c ≠ d then ([.fault], .broken)
    else if rest.isEmpty then ([token], .between)
    else ([], .word rest token)
  | .number phase n =>
    match extendNumber phase n c with
    | some mode => ([], mode)
    | none =>
      if phase.isComplete && !(phase = .zero && c.isDigit) then
        let (tokens, mode) := start c
        (n.token :: tokens, mode)
      else ([.fault], .broken)
  | .string units =>
    if c = '"' then ([stringToken units], .between)
    else if c = '\\' then ([], .escape units)
    else if c.toNat < 0x20 then ([.fault], .broken)
    else ([], .string (.char c :: units))
  | .escape units =>
    if c = 'u' then ([], .hex units 0 0)
    else match escaped? c with
      | some d => ([], .string (.char d :: units))
      | none => ([.fault], .broken)
  | .hex units digits value =>
    match hexValue? c with
    | none => ([.fault], .broken)
    | some v =>
      let value := 16 * value + v
      if digits = 3 then ([], .string (.unit value :: units))
      else ([], .hex units (digits + 1) value)
  | .broken => ([], .broken)

/-- The tokens that the end of the text completes. -/
def finish : Mode → List Token
  | .between | .broken => []
  | .number phase n => if phase.isComplete then [n.token] else [.fault]
  | .word _ _ | .string _ | .escape _ | .hex _ _ _ => [.fault]

/-- The tokens of the text that follows in this mode. -/
def tokensFrom (mode : Mode) : List Char → List Token
  | [] => finish mode
  | c :: rest =>
    let (tokens, mode) := advance mode c
    tokens ++ tokensFrom mode rest

/-- The tokens of a text, up to the first mistake. -/
def tokens (text : String) : List Token := tokensFrom .between text.toList

end ApiMocks.JsonText
