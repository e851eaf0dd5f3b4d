import ApiMocks.Emit.Answer
import ApiMocks.Emit.Distinct
import ApiMocks.Emit.Literal

/-!
# Mock classes

A class for each mocked response, whose data can be changed before it is applied to a page.

Main definitions: `MockClass`, `MockClassesModule`, `mockClassesModule`, `MockClassesModule.text`.
-/

namespace ApiMocks.Emit

/-- A mock class. -/
structure MockClass where
  name : String
  method : Method
  glob : String
  /-- what stands between the slashes of its regular expression -/
  pattern : String
  status : Status
  schema : String
  /-- the name of its fixture -/
  fixture : String
  deriving DecidableEq, Repr

/-- A module with mock classes. -/
structure MockClassesModule where
  classes : List MockClass
  typesImport : String

/-- The mock classes that an operation asks for. -/
def classCandidates (c : Config) (op : Operation) : List MockClass :=
  (mockedResponses c op).map fun r => {
    name := Naming.mockClass op.id r.1.status
    method := op.method
    glob := Path.glob op.path c.baseUrlPattern
    pattern := regexBody op.path
    status := r.1.status
    schema := r.2
    fixture := Naming.fixture op.id r.1.status }

/-- The mock classes of the operations. -/
def mockClassesModule (c : Config) (ops : List Operation) : Logged MockClassesModule :=
  let classes := keepFirst .mockClass MockClass.name (ops.flatMap (classCandidates c))
  { value := { classes := classes.value, typesImport := c.typesImport }
    notices := classes.notices }

/-- A mock class as code. -/
def MockClass.lines (m : MockClass) : List String :=
  let type := "types." ++ m.schema
  [ "",
    "export class " ++ m.name ++ " \x7b",
    "  private data: " ++ type ++ ";",
    "",
    "  /** Glob pattern for this endpoint (may match too broadly) */",
    "  static readonly globPattern = " ++ quote m.glob ++ ";",
    "",
    "  /** Precise regex pattern for this endpoint (handles query params) */",
    "  static readonly pattern = /" ++ m.pattern ++ "/;",
    "",
    "  constructor() \x7b",
    "    this.data = structuredClone(fixtures." ++ m.fixture ++ ");",
    "  \x7d",
    "",
    "  /**",
    "   * Override specific fields in the mock data",
    "   */",
    "  with(overrides: Partial<" ++ type ++ ">): this \x7b",
    "    this.data = \x7b ...this.data, ...overrides \x7d;",
    "    return this;",
    "  \x7d",
    "",
    "  /**",
    "   * Get the current mock data",
    "   */",
    "  build(): " ++ type ++ " \x7b",
    "    return structuredClone(this.data);",
    "  \x7d",
    "",
    "  /**",
    "   * Apply this mock to a Playwright page",
    "   * @param page - The Playwright page",
    "   * @param pattern - Route pattern (uses static pattern by default)",
    "   */",
    "  async apply(page: Page, pattern: string | RegExp = " ++ m.name ++
      ".pattern): Promise<void> \x7b",
    "    const data = this.data;",
    "    await page.route(pattern, async (route) => \x7b",
    "      if (route.request().method().toLowerCase() !== '" ++ m.method.name ++ "') \x7b",
    "        await route.fallback();",
    "        return;",
    "      \x7d",
    "      await route.fulfill(\x7b",
    "        status: " ++ toString m.status ++ ",",
    "        json: data,",
    "      \x7d);",
    "    \x7d);",
    "  \x7d",
    "\x7d"]

namespace MockClassesModule

/-- The lines that import types and fixtures, where there are classes. -/
def imports (m : MockClassesModule) : List String :=
  if m.classes.isEmpty then []
  else [
    "import type * as types from " ++ quote m.typesImport ++ ";",
    "import \x7b fixtures \x7d from './fixtures';"]

/-- The text of the module. -/
def text (m : MockClassesModule) : String :=
  Emit.lines <| [
      "/**",
      " * Fluent mock builders for complex test scenarios",
      " */",
      "",
      "import type \x7b Page \x7d from '@playwright/test';"] ++
    m.imports ++ m.classes.flatMap MockClass.lines

end MockClassesModule

end ApiMocks.Emit
