import ApiMocks.Path.Template
import ApiMocks.Path.UrlRegex

/-!
# What a path template matches

A template gives a glob, a URL expression and a list of parameter names, all from the same tokens,
so that placeholders, wildcards and groups always correspond.

Main definitions: `glob`, `regexSource`, `queryTolerant`, `Pattern`, `Pattern.bindings?`.
-/

namespace ApiMocks.Path

/-- The base that stands in front of a glob unless another one is given. -/
def defaultBase : String := "**"

/-- The glob text of a token: a placeholder is one wildcard. -/
def Token.glob : Token → List Char
  | .literal text => text
  | .param _ => ['*']

/-- The pieces of a token: its characters, or one segment. -/
def Token.pieces : Token → List Piece
  | .literal text => text.map .char
  | .param _ => [.segment]

/-- The base, then the template with a wildcard for each placeholder. -/
def glob (path base : String) : String :=
  base ++ String.ofList ((tokens path.toList).flatMap Token.glob)

/-- The expression for the URLs that end in the template. -/
def regex (path : String) : UrlRegex := (tokens path.toList).flatMap Token.pieces

/-- The notation of that expression. -/
def regexSource (path : String) : String := String.ofList (regex path).source

/-- Lets an expression, given by its notation, also match in front of a query: an end anchor at its
end gives way to the optional query group and a new end anchor.  Text without it is kept. -/
def queryTolerant (source : String) : String :=
  match source.toList.getLast? with
  | some '$' => String.ofList (source.toList.dropLast ++ Piece.query.source ++ ['$'])
  | _ => source

/-- Whether an expression, given by its notation, matches somewhere in a URL. -/
def matchesUrl (source url : String) : Bool :=
  ((UrlRegex.read? source.toList).bind (·.find? url.toList)).isSome

/-- The three forms of a template. -/
structure Pattern where
  glob : String
  regex : UrlRegex
  params : List String

/-- The pattern of a template under a base. -/
def Pattern.ofPath (path base : String) : Pattern where
  glob := Path.glob path base
  regex := Path.regex path
  params := Path.params path

/-- The values of the placeholders in the leftmost match of a URL, by name. -/
def Pattern.bindings? (p : Pattern) (url : String) : Option (List (String × String)) :=
  (p.regex.find? url.toList).map fun values => p.params.zip (values.map String.ofList)

end ApiMocks.Path
