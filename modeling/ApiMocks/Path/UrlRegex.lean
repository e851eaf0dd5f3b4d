/-!
# Regular expressions for the end of a URL

The regular expressions derived from path templates are lists of three kinds of pieces, anchored at
the end of the URL only.

* `Piece`, `UrlRegex` — the expressions;
* `UrlRegex.source`, `UrlRegex.read?` — their text in regular-expression notation, and its reading;
* `Piece.Accepts`, `UrlRegex.Accepts` — the texts that they describe;
* `UrlRegex.find?` — the leftmost match, every group as long as possible, earlier groups first.
-/

namespace ApiMocks.Path

/-- A piece of a URL expression. -/
inductive Piece
  /-- one given character -/
  | char (c : Char)
  /-- a captured run of one or more characters other than the slash -/
  | segment
  /-- nothing, or a question mark and any characters of the same line -/
  | query
  deriving DecidableEq, Repr

/-- A URL expression: its pieces one after the other, then the end of the URL. -/
abbrev UrlRegex := List Piece

/-- The characters that stand for themselves only behind a backslash. -/
def metacharacters : List Char :=
  ['\\', '.', '+', '*', '?', '(', ')', '|', '[', ']', '{', '}', '^', '$', '#', '&', '-', '~']

namespace Piece

/-- The text of a piece. -/
def source : Piece → List Char
  | char c => if c ∈ metacharacters then ['\\', c] else [c]
  | segment => "([^/]+)".toList
  | query => "(\\?.*)?".toList

/-- Whether a piece is a capturing group. -/
def isGroup : Piece → Bool
  | char _ => false
  | segment | query => true

/-- The texts that a piece describes. -/
def Accepts : Piece → List Char → Prop
  | char c, text => text = [c]
  | segment, text => text ≠ [] ∧ '/' ∉ text
  | query, text => text = [] ∨ ∃ rest, text = '?' :: rest ∧ '\n' ∉ rest

end Piece

/-- A match table: for each tail of a text, from the whole text to the empty tail, what a match of
that tail yields, if it matches. -/
abbrev Row (α : Type) := List (Option α)

namespace Row

/-- Of tails that start with a character: what `f` makes of it and of the match behind it. -/
def behind {α β : Type} (f : Char → α → Option β) : List Char → Row α → Row β
  | c :: cs, _ :: next => ((next.headD none).bind (f c)) :: behind f cs next
  | [], _ => [none]
  | _, [] => []

/-- Of each tail: the match behind the longest run of `ok` characters, with that run. -/
def longest {α : Type} (ok : Char → Bool) : List Char → Row α → Row (List Char × α)
  | c :: cs, here :: next =>
    let later := longest ok cs next
    let stay := here.map ([], ·)
    (if ok c then ((later.headD none).map fun m => (c :: m.1, m.2)) <|> stay else stay) :: later
  | [], here :: _ => [here.map ([], ·)]
  | _, [] => []

/-- Only the empty tail matches, and there is nothing to yield. -/
def atEnd {α : Type} : List Char → Row (List α)
  | [] => [some []]
  | _ :: cs => none :: atEnd cs

end Row

namespace UrlRegex

/-- The expression in regular-expression notation; the dollar sign is the end of the URL. -/
def source (r : UrlRegex) : List Char := r.flatMap Piece.source ++ ['$']

/-- The number of capturing groups. -/
def groups (r : UrlRegex) : Nat := r.countP Piece.isGroup

/-- The texts that an expression describes: an accepted text for each piece, one after the
other. -/
def Accepts : UrlRegex → List Char → Prop
  | [], text => text = []
  | p :: ps, text => ∃ u v, text = u ++ v ∧ p.Accepts u ∧ Accepts ps v

/-- The match table of an expression with `p` in front of one whose table is `next`.  A match
yields the texts of its segments. -/
def extend (p : Piece) (text : List Char) (next : Row (List (List Char))) :
    Row (List (List Char)) :=
  match p with
  | .char c => next |> Row.behind (fun d vs => if d = c then some vs else none) text
  | .segment =>
    Row.longest (· != '/') text next |>
      Row.behind (fun d m => if d = '/' then none else some ((d :: m.1) :: m.2)) text
  | .query =>
    let asked := Row.longest (· != '\n') text next |>
      Row.behind (fun d m => if d = '?' then some m.2 else none) text
    asked.zipWith (· <|> ·) next

/-- The match table of an expression on a text. -/
def table : UrlRegex → List Char → Row (List (List Char))
  | [], text => Row.atEnd text
  | p :: ps, text => extend p text (table ps text)

/-- Searches the text for the expression: the texts of the segments in the leftmost match. -/
def find? (r : UrlRegex) (text : List Char) : Option (List (List Char)) :=
  (table r text).findSome? id

/-- Reads an expression from its notation; `none` for any other text. -/
def read? : List Char → Option UrlRegex
  | ['$'] => some []
  | '(' :: '[' :: '^' :: '/' :: ']' :: '+' :: ')' :: rest => (read? rest).map (.segment :: ·)
  | '(' :: '\\' :: '?' :: '.' :: '*' :: ')' :: '?' :: rest => (read? rest).map (.query :: ·)
  | '\\' :: c :: rest => if c ∈ metacharacters then (read? rest).map (.char c :: ·) else none
  | c :: rest => if c ∈ metacharacters then none else (read? rest).map (.char c :: ·)
  | [] => none

end UrlRegex

end ApiMocks.Path
