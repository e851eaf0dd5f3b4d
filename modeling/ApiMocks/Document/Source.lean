import ApiMocks.Document.OpenApi
import ApiMocks.Document.OperationList
import ApiMocks.Json.Reading
import ApiMocks.Yaml.Reading

/-!
# Source documents

A source document is an OpenAPI document or an operation list, in YAML or in JSON.  Which of them it
is comes from outside the text.

Main definitions: `Dialect`, `Encoding`, `SourceDocument`, `SourceDocument.parse`.
-/

namespace ApiMocks

/-- The kinds of source documents. -/
inductive Dialect
  | openApi | operationList
  deriving DecidableEq, Repr

/-- The name of a dialect in a configuration. -/
def Dialect.name : Dialect → String
  | openApi => "openapi"
  | operationList => "openapi_ts"

/-- The notations of source documents. -/
inductive Encoding
  | yaml | json
  deriving DecidableEq, Repr

/-- The name of a notation, which is also its file name extension. -/
def Encoding.name : Encoding → String
  | yaml => "yaml"
  | json => "json"

/-- The notation that a file name extension stands for: JSON for `json` in any ASCII casing, YAML
for everything else. -/
def Encoding.ofExtension (extension : Option String) : Encoding :=
  match extension with
  | some e => if Method.foldCase e = "json".toList then json else yaml
  | none => yaml

/-- A source document. -/
inductive SourceDocument
  | openApi (d : OpenApi.Document)
  | operationList (d : OperationList.Document)

/-- Why a text is no source document. -/
inductive ParseError
  | yaml (fault : Fault)
  | json (fault : Fault)
  | unsupportedVersion (version : String)
  deriving DecidableEq, Repr

/-- The wording of an error, where it has one. -/
def ParseError.message : ParseError → Option String
  | yaml fault | json fault => fault.message
  | unsupportedVersion version => some ("unsupported OpenAPI version: " ++ version)

namespace SourceDocument

/-- Reads a text in some notation with the readers of a document type. -/
def readWith {α : Type} (encoding : Encoding) (fromYaml : Yaml.Site → Yaml.Read α)
    (fromJson : JsonText.Site → Except Fault α) (text : String) : Except ParseError α :=
  match encoding with
  | .yaml => (Yaml.readDocument fromYaml text).mapError .yaml
  | .json => (JsonText.readDocument fromJson text).mapError .json

/-- An OpenAPI document must be of version 3. -/
def checkVersion (d : OpenApi.Document) : Except ParseError OpenApi.Document :=
  if "3.".toList.isPrefixOf d.openapi.toList then .ok d
  else .error (.unsupportedVersion d.openapi)

/-- Reads a source document. -/
def parse (dialect : Dialect) (encoding : Encoding) (text : String) :
    Except ParseError SourceDocument :=
  match dialect with
  | .openApi => do
    let d ← readWith encoding OpenApi.Document.read OpenApi.Document.read text
    let d ← checkVersion d
    pure (.openApi d)
  | .operationList => do
    let d ← readWith encoding OperationList.Document.read OperationList.Document.read text
    pure (.operationList d)

/-- The kind of a document. -/
def dialect : SourceDocument → Dialect
  | openApi _ => .openApi
  | operationList _ => .operationList

end SourceDocument

end ApiMocks
