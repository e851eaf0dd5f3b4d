import ApiMocks.Emit.Answer
import ApiMocks.Emit.Distinct
import ApiMocks.Emit.Literal

/-!
# Handlers

Functions that answer the requests to an operation.  Route handlers come for every operation, and
for its errors beside a success that has a fixture; service-worker handlers come for operations with
a success.

Main definitions: `Handler`, `HandlersModule`, `routesModule`, `workerModule`,
`HandlersModule.routesText`, `HandlersModule.workerText`.
-/

namespace ApiMocks.Emit

/-- A handler. -/
structure Handler where
  name : String
  method : Method
  glob : String
  answer : Answer
  deriving DecidableEq, Repr

/-- A module with handlers. -/
structure HandlersModule where
  handlers : List Handler
  typesImport : String

/-- The handler of an operation under some name. -/
def handlerOf (c : Config) (op : Operation) (name : String) (answer : Answer) : Handler where
  name
  method := op.method
  glob := Path.glob op.path c.baseUrlPattern
  answer

/-- The answer of the first success; without one, an empty body with status 200. -/
def routeAnswer (op : Operation) : Answer :=
  match op.primarySuccess? with
  | none => .empty 200
  | some r => (fixtureAnswer? op r).getD (.empty r.status)

/-- The route handlers that an operation asks for. -/
def routeCandidates (c : Config) (op : Operation) : List Handler :=
  let main := handlerOf c op (Naming.handler op.id) (routeAnswer op)
  let errors := op.errors.filterMap fun r =>
    (fixtureAnswer? op r).map (handlerOf c op (Naming.errorHandler op.id r.status))
  if main.answer.fixture?.isSome && c.generateErrorMocks then main :: errors else [main]

/-- The route handlers of the operations. -/
def routesModule (c : Config) (ops : List Operation) : Logged HandlersModule :=
  let handlers := keepFirst .routeHandler Handler.name (ops.flatMap (routeCandidates c))
  { value := { handlers := handlers.value, typesImport := c.typesImport }
    notices := handlers.notices }

/-- The status of answers that never have a body. -/
def noContent : Status := 204

/-- The answer of a success to a service worker. -/
def workerAnswer (op : Operation) (r : Response) : Answer :=
  if r.status = noContent then .empty r.status
  else (fixtureAnswer? op r).getD (.empty r.status)

/-- The service-worker handler that an operation asks for. -/
def workerCandidate? (c : Config) (op : Operation) : Option Handler :=
  op.primarySuccess?.map fun r =>
    handlerOf c op (Naming.workerHandler op.id) (workerAnswer op r)

/-- The service-worker handlers of the operations. -/
def workerModule (c : Config) (ops : List Operation) : Logged HandlersModule :=
  let handlers := keepFirst .workerHandler Handler.name (ops.filterMap (workerCandidate? c))
  { value := { handlers := handlers.value, typesImport := c.typesImport }
    notices := handlers.notices }

namespace HandlersModule

/-- Whether a handler reads a fixture. -/
def usesFixtures (m : HandlersModule) : Bool := m.handlers.any (·.answer.fixture?.isSome)

/-- The lines that import types and fixtures, where they are used. -/
def imports (m : HandlersModule) : List String :=
  if m.usesFixtures then [
    "import type * as types from " ++ quote m.typesImport ++ ";",
    "import \x7b fixtures \x7d from './fixtures';"]
  else []

end HandlersModule

/-- A route handler. -/
def Handler.routeLines (h : Handler) : List String := [
    "",
    "export async function " ++ h.name ++ "(",
    "  page: Page,",
    match h.answer with
    | .empty status => "  status = " ++ toString status
    | .fixture _ schema _ => "  data?: Partial<types." ++ schema ++ ">",
    "): Promise<void> \x7b",
    "  await page.route(" ++ quote h.glob ++ ", async (route) => \x7b",
    "    if (route.request().method().toLowerCase() !== '" ++ h.method.name ++ "') \x7b",
    "      await route.fallback();",
    "      return;",
    "    \x7d"] ++
  (match h.answer with
    | .empty _ => ["    await route.fulfill(\x7b status \x7d);"]
    | .fixture status _ name => [
        "    await route.fulfill(\x7b",
        "      status: " ++ toString status ++ ",",
        "      json: data ? \x7b ...fixtures." ++ name ++ ", ...data \x7d : fixtures." ++ name ++
          ",",
        "    \x7d);"]) ++ [
    "  \x7d);",
    "\x7d"]

/-- The text of the routes module. -/
def HandlersModule.routesText (m : HandlersModule) : String :=
  lines <| [
      "/**",
      " * Route handler functions for mocking API responses",
      " */",
      "",
      "import type \x7b Page \x7d from '@playwright/test';"] ++
    m.imports ++ m.handlers.flatMap Handler.routeLines

/-- The parameter and the body of a service-worker handler. -/
def Handler.workerLines (h : Handler) : List String :=
  let opening := "  return http." ++ h.method.name ++ "(" ++ quote h.glob ++ ", () => \x7b"
  match h.answer with
  | .empty status => [
      "",
      "export const " ++ h.name ++ " = () => \x7b",
      opening,
      "    return new HttpResponse(null, \x7b status: " ++ toString status ++ " \x7d);",
      "  \x7d);",
      "\x7d;"]
  | .fixture status schema name =>
    let type := "types." ++ schema
    [ "",
      "export const " ++ h.name ++ " = (data?: " ++ type ++ " | ((defaultData: " ++ type ++
        ") => " ++ type ++ ")) => \x7b",
      opening,
      "    const defaultData = fixtures." ++ name ++ ";",
      "    const responseData = typeof data === 'function'",
      "      ? (data as any)(defaultData)",
      "      : (data ?? defaultData);",
      "",
      "    return HttpResponse.json(responseData, \x7b status: " ++ toString status ++ " \x7d);",
      "  \x7d);",
      "\x7d;"]

/-- The text of the service-worker module. -/
def HandlersModule.workerText (m : HandlersModule) : String :=
  lines <| [
      "/**",
      " * MSW Handler functions for mocking API responses",
      " */",
      "",
      "import \x7b http, HttpResponse \x7d from 'msw';"] ++
    m.imports ++ m.handlers.flatMap Handler.workerLines

end ApiMocks.Emit
