import ApiMocks.Proofs.FixtureUses

/-!
# Appending operations

The candidates of more operations are the candidates of the first ones with
others behind them, and of these only what has a new name is kept.  So whatever
is appended, the declarations of the first operations stay as they are, in front
of all others.  And operations that are there already ask for nothing under a
new name, so with these nothing is appended to any module.

* `HandlersModule.declarations` and its siblings: the declarations of a module,
  each name with its code;
* `Extends`: modules that begin with the declarations of others;
* `bundle_append_of_subset`: operations that are there already change no module;
* `extends_append`: appending only extends the modules, if it changes them.
-/

namespace ApiMocks.Emit

/-! ## Declarations -/

/-- The handlers of a module, each name with its code. -/
def HandlersModule.declarations (code : Handler → List String) (m : HandlersModule) :
    List (String × List String) :=
  m.handlers.map fun h => (h.name, code h)

/-- The classes of a module, each name with its code. -/
def MockClassesModule.declarations (m : MockClassesModule) : List (String × List String) :=
  m.classes.map fun k => (k.name, k.lines)

/-- An entry of the fixture table: its key, and what is written for value and type. -/
structure TableEntry where
  key : String
  value : String
  type : String
  deriving DecidableEq, Repr

/-- The entries of the fixture table. -/
def FixturesModule.entries (m : FixturesModule) : List TableEntry :=
  m.fixtures.map fun f => ⟨f.name, f.value m.strategy, "types." ++ f.schema⟩

/-- All that the modules of `ops` declare stands, in the same order, in front of
all else that the modules of `more` declare. -/
structure Extends (c : Config) (ops more : List Operation) : Prop where
  entries : (fixturesModule c ops).value.entries <+: (fixturesModule c more).value.entries
  routes : (routesModule c ops).value.declarations Handler.routeLines <+:
    (routesModule c more).value.declarations Handler.routeLines
  classes : (mockClassesModule c ops).value.declarations <+:
    (mockClassesModule c more).value.declarations
  worker : (workerModule c ops).value.declarations Handler.workerLines <+:
    (workerModule c more).value.declarations Handler.workerLines

variable {c : Config} {ops more : List Operation}

/-! ## Operations that are there already -/

/-- What a step that may be left out gives depends on what the step gives. -/
theorem when_value {α : Type} {isWanted : Bool} {step step' : Logged α}
    (h : step.value = step'.value) :
    (Logged.when isWanted step).value = (Logged.when isWanted step').value := by
  cases isWanted with
  | false => rfl
  | true => exact congrArg some h

/-- Operations that are there already change no module. -/
theorem bundle_append_of_subset (h : ∀ op ∈ more, op ∈ ops) :
    (bundle c (ops ++ more)).value = (bundle c ops).value := by
  have hfixtures : (fixturesModule c (ops ++ more)).value = (fixturesModule c ops).value :=
    congrArg (FixturesModule.mk · c.strategy c.typesImport c.buildersImport c.zodImport)
      (firsts_flatMap_append_of_subset h)
  have hroutes : (routesModule c (ops ++ more)).value = (routesModule c ops).value :=
    congrArg (HandlersModule.mk · c.typesImport) (firsts_flatMap_append_of_subset h)
  have hclasses : (mockClassesModule c (ops ++ more)).value = (mockClassesModule c ops).value :=
    congrArg (MockClassesModule.mk · c.typesImport) (firsts_flatMap_append_of_subset h)
  have hhandlers : (workerModule c (ops ++ more)).value.handlers =
      (workerModule c ops).value.handlers := by
    rw [workerModule_handlers, workerModule_handlers]
    exact firsts_flatMap_append_of_subset h
  have hworker : (workerModule c (ops ++ more)).value = (workerModule c ops).value :=
    congrArg (HandlersModule.mk · c.typesImport) hhandlers
  simp only [bundle, hfixtures, hroutes, when_value hclasses, when_value hworker]

/-- The files depend on the modules only. -/
theorem generate_append_of_subset (h : ∀ op ∈ more, op ∈ ops) :
    (generate c (ops ++ more)).map Logged.value = (generate c ops).map Logged.value := by
  rw [generate, generate]
  split
  · simp only [Except.map, bundle_append_of_subset h]
  · rfl

/-- **Appending operations only extends the modules**, and it changes nothing at
all if the operations are there already. -/
theorem extends_append (c : Config) (ops more : List Operation) :
    Extends c ops (ops ++ more) ∧
    ((∀ op ∈ more, op ∈ ops) →
      (generate c (ops ++ more)).map Logged.value = (generate c ops).map Logged.value) := by
  refine ⟨⟨?_, ?_, ?_, ?_⟩, generate_append_of_subset⟩
  · exact firsts_flatMap_append.map _
  · exact firsts_flatMap_append.map _
  · exact firsts_flatMap_append.map _
  · rw [HandlersModule.declarations, HandlersModule.declarations, workerModule_handlers,
      workerModule_handlers]
    exact firsts_flatMap_append.map _

/-- An operation behind another one, and twice more. -/
theorem generate_pets_repeated :
    let ops : List Operation := [
      { id := "listPets", method := .get, path := "/pets"
        responses := [{ status := 200, schemaName := "Pets" }] },
      { id := "addPet", method := .post, path := "/pets"
        responses := [
          { status := 201, schemaName := "Pet" },
          { status := 409, schemaName := "Twin" }] }]
    let more := ops.drop 1 ++ ops.drop 1
    (∀ op ∈ more, op ∈ ops) ∧
    Extends { generateMsw := true } ops (ops ++ more) ∧
    (generate { generateMsw := true } (ops ++ more)).map Logged.value =
      (generate { generateMsw := true } ops).map Logged.value := by
  intro ops more
  have hmore : ∀ op ∈ more, op ∈ ops := by simp [more, ops]
  have happend := extends_append { generateMsw := true } ops more
  exact ⟨hmore, happend.1, happend.2 hmore⟩

end ApiMocks.Emit
