import ApiMocks.Decimal.Layout
import ApiMocks.Json.Value
import ApiMocks.Yaml.ScalarForm

/-!
# Writing YAML

Values in block notation.  A map stands two columns to the right of the key it belongs to, a
sequence under its key; what follows a dash, or the colon of a key on a line of its own, starts on
the same line.

Main definition: `Block.text`.
-/

namespace ApiMocks.Yaml.Block

/-- The start of a line that is indented. -/
def margin (indent : Nat) : String := String.ofList (List.replicate indent ' ')

/-- The start of the next line behind a text, which may have a line end of its own. -/
def nextLine (indent : Nat) (before : String) : String :=
  (if before.toList.getLast?.any isLineEnd then "" else "\n") ++ margin indent

/-- Texts one below the other. -/
def stack (indent : Nat) : List String → String
  | [] => ""
  | [s] => s
  | s :: rest => s ++ nextLine indent s ++ stack indent rest

/-- The text of a value that is no collection, or an empty one. -/
def scalarText (indent : Nat) : Json → String
  | .null => "null"
  | .bool b => if b then "true" else "false"
  | .int i => toString i
  | .float d => Layout.data.text d
  | .str s => scalarOfText indent s
  | .arr _ => "[]"
  | .obj _ => "\x7b\x7d"

/-- Whether a key can stand before its colon on one line. -/
def isSimpleKey (key : String) : Bool := !key.toList.any isLineEnd && key.utf8ByteSize ≤ 128

mutual

/-- A value that starts at column `indent`. -/
def valueText (indent : Nat) : Json → String
  | .arr (v :: items) => stack indent (itemTexts indent (v :: items))
  | .obj (m :: members) => stack indent (memberTexts indent (m :: members))
  | v => scalarText indent v

/-- The items of a sequence, each behind a dash. -/
def itemTexts (indent : Nat) : List Json → List String
  | [] => []
  | v :: rest => ("- " ++ valueText (indent + 2) v) :: itemTexts indent rest

/-- The members of a map, each behind its key. -/
def memberTexts (indent : Nat) : List (String × Json) → List String
  | [] => []
  | (k, v) :: rest =>
    let key := scalarOfText (indent + 2) k
    let member :=
      if isSimpleKey k then
        key ++ ":" ++ match v with
          | .arr (_ :: _) => "\n" ++ margin indent ++ valueText indent v
          | .obj (_ :: _) => "\n" ++ margin (indent + 2) ++ valueText (indent + 2) v
          | _ => " " ++ valueText (indent + 2) v
      else "? " ++ key ++ nextLine indent key ++ ": " ++ valueText (indent + 2) v
    member :: memberTexts indent rest

end

/-- A value as a document. -/
def text (v : Json) : String :=
  let s := match v with
    | .arr _ | .obj _ => valueText 0 v
    | _ => scalarText 2 v
  s ++ nextLine 0 s

end ApiMocks.Yaml.Block
