import ApiMocks.Cli.Plan

/-!
# Runs

A command line run on a file tree: the result is a tree again, with the texts that were printed.

Main definitions: `Files.ofTree`, `Plan.perform`, `Command.run`, `run`.
-/

namespace ApiMocks.Cli

/-- A way to look at the files of a tree. -/
def Files.ofTree (t : FileTree) : Files Id where
  has path := pure (t.has path)
  read path := pure (t.read path)

/-- The tree after a change.  A file that cannot be written leaves the tree as it is. -/
def Change.apply (t : FileTree) : Change → Except FileTree.Interruption FileTree
  | makeDirectory path => t.makeDirectory path
  | write path content => (t.write path content).mapError (⟨·, t⟩)
  | writeConfig content => (t.write Config.fileName content).mapError (⟨·, t⟩)

/-- What a run leaves behind. -/
structure Outcome where
  tree : FileTree
  /-- the text that was printed -/
  output : String := ""
  /-- the lines that were reported -/
  reports : List String := []
  failure : Option Failure := none

/-- Takes steps up to the first that fails. -/
def performSteps (t : FileTree) : List Step → Outcome
  | [] => { tree := t }
  | .report line :: rest =>
    let outcome := performSteps t rest
    { outcome with reports := line :: outcome.reports }
  | .change c :: rest =>
    match c.apply t with
    | .error stop => { tree := stop.tree, failure := some (c.failure stop.fault) }
    | .ok next => performSteps next rest

/-- Carries out a plan. -/
def Plan.perform (p : Plan) (t : FileTree) : Outcome :=
  let outcome := performSteps t p.steps
  { outcome with output := p.output, failure := outcome.failure <|> p.failure }

/-- Runs a command. -/
def Command.run (command : Command) (t : FileTree) : Outcome :=
  (Id.run (command.plan (.ofTree t))).perform t

/-- Runs a command line. -/
def run (arguments : List String) (t : FileTree) : Except UsageError Outcome := do
  return (← Command.ofArguments arguments).run t

end ApiMocks.Cli
