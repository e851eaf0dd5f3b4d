import ApiMocks.Emit.Answer
import ApiMocks.Emit.Distinct
import ApiMocks.Emit.Literal

/-!
# The fixtures module

A table with the data of every mocked response, and an interface with its types.

Main definitions: `Fixture`, `FixturesModule`, `fixturesModule`, `FixturesModule.text`.
-/

namespace ApiMocks.Emit

/-- An entry of the fixture table. -/
structure Fixture where
  name : String
  schema : String
  deriving DecidableEq, Repr

/-- Where the data of a fixture comes from. -/
def Fixture.value (strategy : Strategy) (f : Fixture) : String :=
  match strategy with
  | .static => "new " ++ Naming.schemaBuilder f.schema ++ "().build()"
  | .zod => "generateMock(schemas." ++ Naming.zodSchema f.schema ++ ")"

/-- The fixtures module. -/
structure FixturesModule where
  fixtures : List Fixture
  strategy : Strategy
  typesImport : String
  buildersImport : String
  zodImport : String

/-- The fixtures that the operations ask for, in order. -/
def fixtureCandidates (c : Config) (ops : List Operation) : List Fixture :=
  ops.flatMap fun op =>
    (mockedResponses c op).map fun r => ⟨Naming.fixture op.id r.1.status, r.2⟩

/-- The fixtures module of the operations. -/
def fixturesModule (c : Config) (ops : List Operation) : Logged FixturesModule :=
  let fixtures := keepFirst .fixture Fixture.name (fixtureCandidates c ops)
  { value := {
      fixtures := fixtures.value
      strategy := c.strategy
      typesImport := c.typesImport
      buildersImport := c.buildersImport
      zodImport := c.zodImport }
    notices := fixtures.notices }

/-- Adds a text to others in ascending order, unless it is there. -/
def insertText (s : String) : List String → List String
  | [] => [s]
  | t :: rest => if s < t then s :: t :: rest else if s = t then t :: rest else t :: insertText s rest

namespace FixturesModule

/-- The builder classes that the fixtures use, each once and in ascending order; none if the data
comes from elsewhere. -/
def builderImports (m : FixturesModule) : List String :=
  match m.strategy with
  | .static => m.fixtures.foldl (fun acc f => insertText (Naming.schemaBuilder f.schema) acc) []
  | .zod => []

/-- The lines that import what the data comes from. -/
def imports (m : FixturesModule) : List String :=
  match m.strategy with
  | .zod => [
      "import \x7b generateMock \x7d from '@anatine/zod-mock';",
      "import * as schemas from " ++ quote m.zodImport ++ ";"]
  | .static => [
      "import \x7b " ++ String.intercalate ", " m.builderImports ++ " \x7d from " ++
        quote m.buildersImport ++ ";"]

/-- The entries of the table, with commas between them. -/
def tableLines (strategy : Strategy) : List Fixture → List String
  | [] => []
  | [f] => ["  " ++ f.name ++ ": " ++ f.value strategy]
  | f :: rest => ("  " ++ f.name ++ ": " ++ f.value strategy ++ ",") :: tableLines strategy rest

/-- The text of the module. -/
def text (m : FixturesModule) : String :=
  if m.fixtures.isEmpty then lines [
    "// No fixtures generated - no response schemas found",
    "export const fixtures = \x7b\x7d as const;"]
  else lines <| [
      "/**",
      " * Generated fixtures for API responses",
      " */",
      "",
      "import type * as types from " ++ quote m.typesImport ++ ";"] ++
    m.imports ++ [
      "",
      "export const fixtures = \x7b"] ++
    tableLines m.strategy m.fixtures ++ [
      "\x7d as const;",
      "",
      "export interface Fixtures \x7b"] ++
    m.fixtures.map (fun f => "  " ++ f.name ++ ": types." ++ f.schema ++ ";") ++
    ["\x7d"]

end FixturesModule

end ApiMocks.Emit
