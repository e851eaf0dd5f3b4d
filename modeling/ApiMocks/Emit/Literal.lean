import ApiMocks.Path.Pattern

/-!
# Text within literals of the generated code

A single-quoted string literal escapes backslashes and single quotes; a regular-expression literal
escapes slashes.

Main definitions: `escapeQuoted`, `escapeSlashes`, `regexBody`, `lines`.
-/

namespace ApiMocks.Emit

/-- A character within a single-quoted literal. -/
def quotedChar (c : Char) : List Char :=
  if c = '\\' || c = '\'' then ['\\', c] else [c]

/-- A text within a single-quoted literal. -/
def escapeQuoted (s : String) : String := String.ofList (s.toList.flatMap quotedChar)

/-- A character within a regular-expression literal. -/
def slashedChar (c : Char) : List Char := if c = '/' then ['\\', '/'] else [c]

/-- The notation of an expression within a regular-expression literal. -/
def escapeSlashes (s : String) : String := String.ofList (s.toList.flatMap slashedChar)

/-- What stands between the slashes of the literal for a path: an expression that also matches in
front of a query. -/
def regexBody (path : String) : String :=
  escapeSlashes (Path.queryTolerant (Path.regexSource path))

/-- A single-quoted literal. -/
def quote (s : String) : String := "'" ++ escapeQuoted s ++ "'"

/-- The lines of a text, each with its end. -/
def lines (ls : List String) : String := String.join (ls.map (· ++ "\n"))

end ApiMocks.Emit
