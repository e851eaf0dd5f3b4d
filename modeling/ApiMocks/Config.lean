import ApiMocks.Document.Source
import ApiMocks.Text.Blank

/-!
# Configuration

What a project decides about its mocks, as the configuration file says it.  A file need not set
every field.

Main definitions: `Config`, `Config.ofText`, `Config.problems`, `Config.defaultText`.
-/

namespace ApiMocks

/-- Where fixture data comes from. -/
inductive Strategy
  /-- from builder classes of the schemas -/
  | static
  /-- from zod schemas -/
  | zod
  deriving DecidableEq, Repr

/-- The name of a strategy. -/
def Strategy.name : Strategy → String
  | static => "static"
  | zod => "zod"

/-- A configuration. -/
structure Config where
  /-- the source document -/
  input : String := "openapi.yaml"
  dialect : Dialect := .openApi
  /-- the directory of the generated modules -/
  output : String := "playwright-mocks"
  generateBuilders : Bool := true
  generateErrorMocks : Bool := true
  /-- what stands in front of every route -/
  baseUrlPattern : String := "**/api/**"
  strategy : Strategy := .static
  generateMsw : Bool := false
  /-- the module of the data types -/
  typesImport : String := "../types.gen"
  /-- the module of the builder classes -/
  buildersImport : String := "../builders.gen"
  /-- the module of the zod schemas -/
  zodImport : String := "../zod.gen"
  deriving DecidableEq, Repr

namespace Config

/-- The name of the configuration file. -/
def fileName : String := ".pwmock.yaml"

section Reading

open Reading Yaml

/-- Reads a dialect. -/
def readDialect : Site → Read Dialect :=
  choice [(Dialect.name .openApi, .openApi), (Dialect.name .operationList, .operationList)]

/-- Reads a strategy. -/
def readStrategy : Site → Read Strategy :=
  choice [(Strategy.name .static, .static), (Strategy.name .zod, .zod)]

/-- The fields of a configuration. -/
def fields : List (Field Read Site Config) := [
  ⟨"input", .defaulted, fun n c => do pure { c with input := ← text n }⟩,
  ⟨"dialect", .defaulted, fun n c => do pure { c with dialect := ← readDialect n }⟩,
  ⟨"output", .defaulted, fun n c => do pure { c with output := ← text n }⟩,
  ⟨"generate_builders", .defaulted, fun n c => do pure { c with generateBuilders := ← flag n }⟩,
  ⟨"generate_error_mocks", .defaulted, fun n c => do
    pure { c with generateErrorMocks := ← flag n }⟩,
  ⟨"base_url_pattern", .defaulted, fun n c => do pure { c with baseUrlPattern := ← text n }⟩,
  ⟨"mock_strategy", .defaulted, fun n c => do pure { c with strategy := ← readStrategy n }⟩,
  ⟨"generate_msw", .defaulted, fun n c => do pure { c with generateMsw := ← flag n }⟩,
  ⟨"types_import", .defaulted, fun n c => do pure { c with typesImport := ← text n }⟩,
  ⟨"builders_import", .defaulted, fun n c => do pure { c with buildersImport := ← text n }⟩,
  ⟨"zod_import", .defaulted, fun n c => do pure { c with zodImport := ← text n }⟩]

/-- Reads the text of a configuration file. -/
def ofText (content : String) : Except Fault Config :=
  readDocument (record "MockConfig" fields {}) content

end Reading

/-- A complaint about a field that is blank. -/
def blankProblem (field value : String) : List String :=
  if Text.isBlank value then [field ++ " must not be empty"] else []

/-- All that is wrong with a configuration: fields that must not be blank.  The module that the
fixture data comes from matters only for its strategy. -/
def problems (c : Config) : List String :=
  let source := match c.strategy with
    | .static => ("builders_import", c.buildersImport)
    | .zod => ("zod_import", c.zodImport)
  blankProblem "output" c.output ++
    blankProblem "base_url_pattern" c.baseUrlPattern ++
    blankProblem "types_import" c.typesImport ++
    (blankProblem source.1 source.2).map (· ++ " for mock_strategy " ++ c.strategy.name)

/-- Whether nothing is wrong with a configuration. -/
def isValid (c : Config) : Bool := c.problems.isEmpty

/-- The wording for a configuration with problems. -/
def problemText (problems : List String) : String :=
  "invalid config: " ++ String.intercalate ", " problems

/-- The text of a new configuration file. -/
def defaultText : String := String.intercalate "\n" [
  "# pwmock configuration",
  "input: openapi.yaml",
  "dialect: openapi            # openapi | openapi_ts",
  "output: playwright-mocks",
  "",
  "base_url_pattern: \"**/api/**\"",
  "generate_builders: true",
  "generate_error_mocks: true",
  "generate_msw: false",
  "",
  "mock_strategy: static       # static | zod",
  "types_import: ../types.gen",
  "builders_import: ../builders.gen",
  "# zod_import: ../zod.gen",
  ""]

end Config

end ApiMocks
