import ApiMocks.Yaml.Cursor

/-!
# Line folding

Between two words of a scalar that spans lines stand blanks and line ends.  One line end becomes a
space, and every further one stays; blanks at the ends and starts of lines are dropped, blanks
within a line are kept.

Main definitions: `Gap`, `Gap.text`, `Cursor.gap`.
-/

namespace ApiMocks.Yaml

/-- What stands between two words of a scalar; texts are kept in reverse. -/
structure Gap where
  /-- the blanks, as long as the line has not ended -/
  blanks : List Char := []
  /-- whether the line has ended -/
  isBroken : Bool := false
  /-- the line end, unless it was escaped -/
  first : Option Char := none
  /-- the further line ends -/
  more : List Char := []

namespace Gap

/-- The text that the gap contributes, in reverse. -/
def text (g : Gap) : List Char :=
  if !g.isBroken then g.blanks
  else match g.first with
    | some '\n' => if g.more.isEmpty then [' '] else g.more
    | some c => g.more ++ [c]
    | none => g.more

/-- The gap with one more blank; behind a line end it does not count. -/
def addBlank (g : Gap) (c : Char) : Gap :=
  if g.isBroken then g else { g with blanks := c :: g.blanks }

/-- The gap with one more line end. -/
def addLineEnd (g : Gap) (c : Char) : Gap :=
  if g.isBroken then { g with more := c :: g.more } else { isBroken := true, first := some c }

end Gap

/-- Reads blanks and line ends.  Where `indent` is given, a tabulator left of that column at the
start of a line is refused.  `limit` is at least the number of characters left. -/
def Cursor.gap (indent : Option Nat) : (limit : Nat) → Cursor → Gap → Option (Gap × Cursor)
  | 0, _, _ => none
  | limit + 1, c, g =>
    match c.lineEnd? with
    | some (d, next) => gap indent limit next (g.addLineEnd d)
    | none =>
      match c.peek? with
      | some d =>
        if !isBlank d then some (g, c)
        else if d = '\t' && g.isBroken && indent.any (c.column < ·) then none
        else gap indent limit (c.skip 1) (g.addBlank d)
      | none => some (g, c)

end ApiMocks.Yaml
