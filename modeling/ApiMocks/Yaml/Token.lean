/-!
# Tokens of YAML text

What a YAML text consists of before it is given structure.  The starts and ends of block
collections, which the text only shows by indentation, are tokens of their own.
-/

namespace ApiMocks.Yaml

/-- How a scalar is written. -/
inductive Style
  | plain
  /-- in single or double quotes -/
  | quoted
  /-- an indented block whose lines are kept -/
  | literal
  /-- an indented block whose lines are joined -/
  | folded
  deriving DecidableEq, Repr

/-- A token. -/
inductive Token
  | streamStart | streamEnd
  | versionDirective (major minor : Nat)
  | tagDirective (handle expansion : String)
  | documentStart | documentEnd
  | blockSequenceStart | blockMappingStart | blockEnd
  | flowSequenceStart | flowSequenceEnd
  | flowMappingStart | flowMappingEnd
  | blockEntry | flowEntry | key | value
  | reference (name : String)
  | anchor (name : String)
  | tag (handle suffix : String)
  | scalar (text : String) (style : Style)
  deriving DecidableEq, Repr

end ApiMocks.Yaml
