import ApiMocks.Emit.Fixtures
import ApiMocks.Emit.Handlers
import ApiMocks.Emit.MockClasses

/-!
# All generated modules

The modules of a list of operations under a configuration: fixtures and routes always, mock classes
and service-worker handlers if they are wanted, and an index that exports all of them.

Main definitions: `Bundle`, `bundle`, `generate`.
-/

namespace ApiMocks.Emit

/-- The modules that are generated together. -/
structure Bundle where
  fixtures : FixturesModule
  routes : HandlersModule
  builders : Option MockClassesModule
  worker : Option HandlersModule

/-- A file with its content; the path is relative to the output directory. -/
structure GeneratedFile where
  path : String
  content : String
  deriving DecidableEq, Repr

/-- Runs a step only if it is wanted. -/
def Logged.when {α : Type} (isWanted : Bool) (step : Logged α) : Logged (Option α) :=
  if isWanted then { value := some step.value, notices := step.notices } else { value := none }

/-- The modules of the operations. -/
def bundle (c : Config) (ops : List Operation) : Logged Bundle :=
  let fixtures := fixturesModule c ops
  let routes := routesModule c ops
  let builders := Logged.when c.generateBuilders (mockClassesModule c ops)
  let worker := Logged.when c.generateMsw (workerModule c ops)
  { value := {
      fixtures := fixtures.value
      routes := routes.value
      builders := builders.value
      worker := worker.value }
    notices := fixtures.notices ++ routes.notices ++ builders.notices ++ worker.notices }

/-- The names and texts of the modules, in order. -/
def Bundle.modules (b : Bundle) : List (String × String) :=
  [("fixtures", b.fixtures.text), ("routes", b.routes.routesText)] ++
    (b.builders.map fun m => ("builders", m.text)).toList ++
    (b.worker.map fun m => ("msw", m.workerText)).toList

/-- The text of the index of some modules. -/
def indexText (modules : List String) : String :=
  lines <| [
      "/**",
      " * Generated test mocks. Do not edit; regenerate with `pwmock generate`.",
      " */",
      ""] ++
    modules.map fun name => "export * from './" ++ name ++ "';"

/-- The files of the modules, the index last. -/
def Bundle.files (b : Bundle) : List GeneratedFile :=
  b.modules.map (fun m => ⟨m.1 ++ ".ts", m.2⟩) ++
    [⟨"index.ts", indexText (b.modules.map (·.1))⟩]

/-- Generates the files of the operations, or gives the problems of the configuration. -/
def generate (c : Config) (ops : List Operation) :
    Except (List String) (Logged (List GeneratedFile)) :=
  if c.isValid then
    let b := bundle c ops
    .ok {
      value := b.value.files
      notices := b.notices ++ [.generated (b.value.modules.map (·.1)) ops.length] }
  else .error c.problems

end ApiMocks.Emit
