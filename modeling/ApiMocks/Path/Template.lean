/-!
# Path templates

A path template is text with placeholders.  A placeholder is an opening brace, one or more
characters that are no braces, and a closing brace; every other brace is plain text.

* `Token` — a run of literal text or a placeholder;
* `tokens` — the reading of a template;
* `Token.source`, `unread` — what a token was read from;
* `fill` — the text of a template with values for its placeholders.
-/

namespace ApiMocks.Path

/-- A piece of a path template. -/
inductive Token
  | literal (text : List Char)
  | param (name : List Char)
  deriving DecidableEq, Repr

namespace Token

/-- The text from which the token was read. -/
def source : Token → List Char
  | literal text => text
  | param name => '{' :: name ++ ['}']

/-- The name of a placeholder. -/
def name? : Token → Option (List Char)
  | literal _ => none
  | param name => some name

end Token

/-- The literal token of a text kept in reverse, and none for the empty text. -/
def literalOf (rev : List Char) : List Token :=
  if rev.isEmpty then [] else [.literal rev.reverse]

/-- Reads on with the literal text `lit` so far, in reverse.  `held` is the text since an opening
brace that may still turn out to start a placeholder, also in reverse. -/
def scan (lit : List Char) (held : Option (List Char)) : List Char → List Token
  | [] =>
    match held with
    | none => literalOf lit
    | some name => literalOf (name ++ '{' :: lit)
  | c :: rest =>
    match held with
    | none => if c = '{' then scan lit (some []) rest else scan (c :: lit) none rest
    | some name =>
      if c = '{' then scan (name ++ '{' :: lit) (some []) rest
      else if c = '}' then
        if name.isEmpty then scan ('}' :: '{' :: lit) none rest
        else literalOf lit ++ .param name.reverse :: scan [] none rest
      else scan lit (some (c :: name)) rest

/-- The tokens of a template. -/
def tokens (path : List Char) : List Token := scan [] none path

/-- The text that a token list was read from. -/
def unread (ts : List Token) : List Char := ts.flatMap Token.source

/-- The names of the placeholders, in order and with repetitions. -/
def params (path : String) : List String :=
  (tokens path.toList).filterMap fun t => t.name?.map String.ofList

/-- Literal text as it stands, with one value after the other in place of the placeholders. -/
def fill : List Token → List (List Char) → List Char
  | [], _ => []
  | .literal text :: ts, vs => text ++ fill ts vs
  | .param _ :: ts, v :: vs => v ++ fill ts vs
  | .param _ :: ts, [] => fill ts []

end ApiMocks.Path
