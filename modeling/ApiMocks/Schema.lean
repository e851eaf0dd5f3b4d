import ApiMocks.Json.Value
import ApiMocks.Table

/-!
# Schemas of responses

Which media type of a response carries its schema, how a schema is named, and where it is looked up.

Main definitions: `jsonContent?`, `schemaName?`, `resolveSchema?`.
-/

namespace ApiMocks

/-- Where the named schemas of a document are referred to. -/
def schemaReference : String := "#/components/schemas/"

/-- The text behind its last slash. -/
def afterLastSlash (s : List Char) : List Char := (s.reverse.takeWhile (· ≠ '/')).reverse

/-- The name that a reference gives: what stands behind the place of named schemas, or else behind
the last slash.  Nothing there is no name. -/
def nameOfReference (reference : String) : Option String :=
  let place := schemaReference.toList
  let text := reference.toList
  let name := if place.isPrefixOf text then text.drop place.length else afterLastSlash text
  if name.isEmpty then none else some (String.ofList name)

/-- A text member of a schema, unless it is empty. -/
def textMember? (key : String) (schema : Json) : Option String :=
  ((schema.get? key).bind Json.str?).filter (!·.isEmpty)

/-- The name of a schema: from its reference if it has one, else its title. -/
def schemaName? (schema : Json) : Option String :=
  match textMember? "$ref" schema with
  | some reference => nameOfReference reference
  | none => textMember? "title" schema

/-- Whether `part` occurs in a text. -/
def occursIn (part : List Char) : List Char → Bool
  | [] => part.isEmpty
  | c :: rest => part.isPrefixOf (c :: rest) || occursIn part rest

/-- Whether a media type is one of JSON, whatever its vendor and its ASCII casing. -/
def isJsonType (key : String) : Bool :=
  let folded := key.toList.map Char.toLower
  occursIn "application/".toList folded && occursIn "json".toList folded

/-- The content whose schema counts: under `application/json`, or else the first of a JSON type. -/
def jsonContent? {α : Type} (content : Table α) : Option α :=
  match content.get? "application/json" with
  | some c => some c
  | none => (content.entries.find? (isJsonType ·.1)).map (·.2)

/-- The schema under a name in the table, or else the one given. -/
def resolveSchema? (name : Option String) (given : Option Json) (schemas : Table Json) :
    Option Json :=
  match name.bind schemas.get? with
  | some schema => some schema
  | none => given

end ApiMocks
