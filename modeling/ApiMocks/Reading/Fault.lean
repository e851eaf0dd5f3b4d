import ApiMocks.Text.Quoted

/-!
# Why a document cannot be read

A document text can fail to be well formed, or it can be well formed and have the wrong shape.  Only
the second kind is described; `Fault.message` has the wording.
-/

namespace ApiMocks

/-- What stands where something else was expected. -/
inductive Found
  | text (s : String)
  | integer (i : Int)
  /-- an integer beyond 64 bits, signed or not -/
  | wideInteger (i : Int)
  /-- a number with a point, as it is shown -/
  | decimal (shown : String)
  | boolean (b : Bool)
  /-- nothing, in the word that the notation has for it -/
  | nothing (word : String)
  | sequence
  | map
  /-- a value under a tag of its own -/
  | tagged
  deriving DecidableEq, Repr

/-- The wording for what was found. -/
def Found.describe : Found → String
  | text s => "string " ++ Text.quoted s
  | integer i => "integer `" ++ toString i ++ "`"
  | wideInteger i => "integer `" ++ toString i ++ "` as " ++ if i < 0 then "i128" else "u128"
  | decimal shown => "floating point `" ++ shown ++ "`"
  | boolean b => "boolean `" ++ (if b then "true" else "false") ++ "`"
  | nothing word => word
  | sequence => "sequence"
  | map => "map"
  | tagged => "enum"

/-- Why a document cannot be read. -/
inductive Fault
  /-- the text breaks the rules of its notation, or goes beyond a limit -/
  | malformed
  | missingField (name : String)
  | duplicateField (name : String)
  | unknownVariant (given : String) (known : List String)
  | wrongType (found : Found) (expected : String)
  | wrongValue (found : Found) (expected : String)
  | wrongLength (length : Nat) (expected : String)
  deriving DecidableEq, Repr

/-- A name in back quotes. -/
def ticked (name : String) : String := "`" ++ name ++ "`"

/-- The names to choose from: two with "or" between them, more as a list. -/
def oneOf : List String → String
  | [] => "no variants"
  | [a] => ticked a
  | [a, b] => ticked a ++ " or " ++ ticked b
  | names => "one of " ++ String.intercalate ", " (names.map ticked)

/-- The wording of a fault; a malformed text has none. -/
def Fault.message : Fault → Option String
  | malformed => none
  | missingField name => some ("missing field " ++ ticked name)
  | duplicateField name => some ("duplicate field " ++ ticked name)
  | unknownVariant given known =>
    some ("unknown variant " ++ ticked given ++ ", expected " ++ oneOf known)
  | wrongType found expected =>
    some ("invalid type: " ++ found.describe ++ ", expected " ++ expected)
  | wrongValue found expected =>
    some ("invalid value: " ++ found.describe ++ ", expected " ++ expected)
  | wrongLength length expected =>
    some ("invalid length " ++ toString length ++ ", expected " ++ expected)

end ApiMocks
