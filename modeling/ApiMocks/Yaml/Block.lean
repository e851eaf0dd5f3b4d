import ApiMocks.Yaml.Folding

/-!
# Block scalars

Text in indented lines behind `|` (lines are kept) or `>` (lines are joined).  The header may give
the indentation and what to do with the line ends at the end of the text.

Main definition: `Cursor.block?`.
-/

namespace ApiMocks.Yaml

/-- What becomes of the line ends at the end of a block. -/
inductive Chomp
  /-- none is kept -/
  | strip
  /-- the first is kept -/
  | clip
  /-- all are kept -/
  | keep
  deriving DecidableEq, Repr

/-- What stands behind the indicator of a block scalar. -/
structure BlockHeader where
  chomp : Chomp := .clip
  indent : Option Nat := none

namespace Cursor

/-- The chomping indicator at this place. -/
def chomp? (c : Cursor) : Option (Chomp × Cursor) :=
  match c.peek? with
  | some '+' => some (.keep, c.skip 1)
  | some '-' => some (.strip, c.skip 1)
  | _ => none

/-- The indentation indicator at this place; zero is refused. -/
def indentation? (c : Cursor) : Option (Option Nat × Cursor) :=
  match c.peek? with
  | some d =>
    if d = '0' then none
    else if d.isDigit then some (some (d.toNat - '0'.toNat), c.skip 1)
    else some (none, c)
  | none => some (none, c)

/-- Reads the indicators, in either order. -/
def blockHeader? (c : Cursor) : Option (BlockHeader × Cursor) :=
  match c.chomp? with
  | some (chomp, c) => c.indentation?.map fun r => ({ chomp, indent := r.1 }, r.2)
  | none =>
    match c.indentation? with
    | none => none
    | some (none, c) => some ({}, c)
    | some (indent, c) =>
      match c.chomp? with
      | some (chomp, c) => some ({ chomp, indent }, c)
      | none => some ({ indent }, c)

/-- Goes on to the next line if only blanks and a comment are left in this one. -/
def endOfLine? (c : Cursor) : Option Cursor :=
  let c := (c.span isBlank).2
  let c := if c.peek? = some '#' then (c.span (!isLineEnd ·)).2 else c
  match c.lineEnd? with
  | some (_, next) => some next
  | none => if c.rest.isEmpty then some c else none

/-- Reads indentation and empty lines: the line ends in reverse, the widest indentation and the
place behind them.  Indentation is at most `indent` columns, if that is known.  A tabulator within
the indentation is refused. -/
def emptyLines (indent : Option Nat) :
    (limit : Nat) → Cursor → (ends : List Char) → (widest : Nat) → Option (List Char × Nat × Cursor)
  | 0, _, _, _ => none
  | limit + 1, c, ends, widest =>
    let isOutside (c : Cursor) : Bool := indent.all (c.column < ·)
    let blanks := match indent with
      | some n => (c.rest.take (n - c.column)).takeWhile (· = ' ')
      | none => c.rest.takeWhile (· = ' ')
    let c := c.skip blanks.length
    let widest := max widest c.column
    if isOutside c && c.peek? = some '\t' then none
    else
      match c.lineEnd? with
      | some (d, next) => emptyLines indent limit next (d :: ends) widest
      | none => some (ends, widest, c)

/-- The state between two lines of a block: the text so far and the line ends behind it, the first
and the others, all in reverse. -/
structure BlockText where
  text : List Char := []
  first : Option Char := none
  more : List Char := []
  /-- whether the last line started with a blank -/
  afterBlank : Bool := false

/-- The text with the line ends before the next line, which starts with a blank or not.  Where
lines are joined, a line feed between two lines without leading blanks becomes a space, or is
dropped before empty lines. -/
def BlockText.join (isLiteral : Bool) (b : BlockText) (beforeBlank : Bool) : List Char :=
  if !isLiteral && b.first = some '\n' && !b.afterBlank && !beforeBlank then
    b.more ++ (if b.more.isEmpty then ' ' :: b.text else b.text)
  else b.more ++ b.first.toList ++ b.text

/-- Reads lines at column `indent`. -/
def blockLines (isLiteral : Bool) (indent : Nat) :
    (limit : Nat) → Cursor → BlockText → Option (BlockText × Cursor)
  | 0, _, _ => none
  | limit + 1, c, b =>
    if c.column ≠ indent || c.rest.isEmpty then some (b, c)
    else
      let isBlankLine := c.peek?.any isBlank
      let (line, c) := c.span (!isLineEnd ·)
      let text := line.reverse ++ b.join isLiteral isBlankLine
      let (first, c) := match c.lineEnd? with
        | some (d, next) => (some d, next)
        | none => (none, c)
      match emptyLines (some indent) limit c [] 0 with
      | none => none
      | some (more, _, c) =>
        blockLines isLiteral indent limit c { text, first, more, afterBlank := isBlankLine }

/-- The finished text of a block, in reverse. -/
def BlockText.finish (chomp : Chomp) (b : BlockText) : List Char :=
  match chomp with
  | .strip => b.text
  | .clip => b.first.toList ++ b.text
  | .keep => b.more ++ b.first.toList ++ b.text

/-- Reads a block scalar that starts here, within a collection at column `parent` (-1 outside every
collection).  Without an indicator, the first line that is not empty sets the indentation. -/
def block? (isLiteral : Bool) (parent : Int) (limit : Nat) (c : Cursor) :
    Option (String × Cursor) := do
  let (header, c) ← (c.skip 1).blockHeader?
  let c ← c.endOfLine?
  let known := header.indent.map fun n => if 0 ≤ parent then parent.toNat + n else n
  let (more, widest, c) ← emptyLines known limit c [] 0
  let indent := known.getD (max widest (max (parent + 1).toNat 1))
  let (b, c) ← blockLines isLiteral indent limit c { more }
  pure (String.ofList (b.finish header.chomp).reverse, c)

end Cursor

end ApiMocks.Yaml
