import ApiMocks.Yaml.Folding

/-!
# Plain scalars

Text without quotes.  It ends before a colon with a gap behind it, before a comment, before a line
that is indented too little and, between brackets, before the characters that structure them.

Main definition: `Cursor.plain?`.
-/

namespace ApiMocks.Yaml

/-- The characters that structure text between brackets. -/
def isFlowIndicator (c : Char) : Bool :=
  c = ',' || c = '[' || c = ']' || c = '{' || c = '}'

namespace Cursor

/-- Whether a plain scalar ends before this place within a line. -/
def endsPlain (inFlow : Bool) (c : Cursor) : Bool :=
  match c.peek? with
  | none => true
  | some d => isBlank d || isLineEnd d || (d = ':' && c.isGap 1) || (inFlow && isFlowIndicator d)

/-- Whether, between brackets, a colon stands directly before a character that structures them. -/
def isCrampedColon (inFlow : Bool) (c : Cursor) : Bool :=
  match c.rest with
  | ':' :: d :: _ => inFlow && (isFlowIndicator d || d = '?')
  | _ => false

/-- Reads the characters of one word; text is kept in reverse. -/
def plainWord (inFlow : Bool) : (limit : Nat) → Cursor → List Char → Option (List Char × Cursor)
  | 0, _, _ => none
  | limit + 1, c, text =>
    if c.isCrampedColon inFlow then none
    else if c.endsPlain inFlow then some (text, c)
    else
      match c.peek? with
      | some d => plainWord inFlow limit (c.skip 1) (d :: text)
      | none => some (text, c)

/-- Reads words and gaps, starting with a gap that was read before.  The last gap is not part of
the text; it says whether the scalar ends at the start of a line. -/
def plainText (inFlow : Bool) (indent : Nat) :
    (limit : Nat) → Cursor → Gap → List Char → Option (List Char × Cursor × Bool)
  | 0, _, _, _ => none
  | limit + 1, c, g, text =>
    if c.isDocumentMarker || c.peek? = some '#' then some (text, c, g.isBroken)
    else
      match plainWord inFlow limit c [] with
      | none => none
      | some (word, next) =>
        let (text, g) := if word.isEmpty then (text, g) else (word ++ g.text ++ text, {})
        match next.peek? with
        | none => some (text, next, g.isBroken)
        | some d =>
          if !(isBlank d || isLineEnd d) then some (text, next, g.isBroken)
          else
            match next.gap (some indent) limit g with
            | none => none
            | some (g, next) =>
              if !inFlow && next.column < indent then some (text, next, g.isBroken)
              else plainText inFlow indent limit next g text

/-- Reads a plain scalar that starts here, within a collection whose content starts at column
`indent` or further right.  Says also whether it ends at the start of a line. -/
def plain? (inFlow : Bool) (indent limit : Nat) (c : Cursor) : Option (String × Cursor × Bool) :=
  (plainText inFlow indent limit c {} []).map fun r => (String.ofList r.1.reverse, r.2)

end Cursor

end ApiMocks.Yaml
