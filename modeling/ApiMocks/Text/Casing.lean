import ApiMocks.Text.CaseTable

/-!
# Capital and small first letters

Full Unicode case mapping of single characters (a mapping may give several characters, as `ß` gives
`SS`; a title-case letter is never chosen), and its use on the first character of a text.

Main definitions: `upperChars`, `lowerChars`, `capitalize`, `lowerFirst`.
-/

namespace ApiMocks.Text

/-- The mapping of one character: an expansion if one is listed, else the shift of its run, else
the character itself. -/
def mapCase (runs : List CaseRun) (expansions : List (Nat × List Nat)) (c : Char) : List Char :=
  match expansions.lookup c.toNat with
  | some codes => codes.map Char.ofNat
  | none =>
    match runs.find? (·.contains c.toNat) with
    | some run => [Char.ofNat (c.toNat + run.shift).toNat]
    | none => [c]

/-- The capital form of a character.  ASCII is answered directly, all else from the tables. -/
def upperChars (c : Char) : List Char :=
  if c.toNat < 128 then [c.toUpper] else mapCase upperRuns upperExpansions c

/-- The small form of a character. -/
def lowerChars (c : Char) : List Char :=
  if c.toNat < 128 then [c.toLower] else mapCase lowerRuns lowerExpansions c

/-- Maps the first character and keeps the rest. -/
def mapFirst (f : Char → List Char) (s : String) : String :=
  match s.toList with
  | [] => ""
  | c :: rest => String.ofList (f c ++ rest)

/-- The text with its first character in capital form. -/
def capitalize (s : String) : String := mapFirst upperChars s

/-- The text with its first character in small form. -/
def lowerFirst (s : String) : String := mapFirst lowerChars s

end ApiMocks.Text
