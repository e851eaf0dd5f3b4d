import ApiMocks.Emit.Bundle
import ApiMocks.Proofs.FixtureUses

/-!
# Modules are made from what operations ask for

Every module is made from the candidates that the operations ask for, and from
settings that have nothing to do with operations.  So operations can change in
any way that keeps their candidates, and together with them the one setting that
only the candidates depend on, whether error mocks are wanted.

* `AsksAlike`: two operations ask for the same candidates;
* `bundle_map`, `generate_map`: the modules and the files then stay.
-/

namespace ApiMocks.Emit

/-- Two operations, each under a configuration, ask for the same. -/
structure AsksAlike (c c' : Config) (op op' : Operation) : Prop where
  fixtures : askedFixtures c' op' = askedFixtures c op
  routes : routeCandidates c' op' = routeCandidates c op
  classes : classCandidates c' op' = classCandidates c op
  worker : workerCandidate? c' op' = workerCandidate? c op

variable {c : Config} {wanted : Bool} {ops : List Operation} {change : Operation → Operation}

theorem fixturesModule_map
    (h : ∀ op, AsksAlike c { c with generateErrorMocks := wanted } op (change op)) :
    fixturesModule { c with generateErrorMocks := wanted } (ops.map change) =
      fixturesModule c ops := by
  have hcandidates : fixtureCandidates { c with generateErrorMocks := wanted } (ops.map change) =
      fixtureCandidates c ops := by
    rw [fixtureCandidates, List.flatMap_map]
    exact List.flatMap_congr fun op _ => (h op).fixtures
  rw [fixturesModule, hcandidates]
  rfl

theorem routesModule_map
    (h : ∀ op, AsksAlike c { c with generateErrorMocks := wanted } op (change op)) :
    routesModule { c with generateErrorMocks := wanted } (ops.map change) =
      routesModule c ops := by
  rw [routesModule, List.flatMap_map, List.flatMap_congr fun op _ => (h op).routes]
  rfl

theorem mockClassesModule_map
    (h : ∀ op, AsksAlike c { c with generateErrorMocks := wanted } op (change op)) :
    mockClassesModule { c with generateErrorMocks := wanted } (ops.map change) =
      mockClassesModule c ops := by
  rw [mockClassesModule, List.flatMap_map, List.flatMap_congr fun op _ => (h op).classes]
  rfl

theorem workerModule_map
    (h : ∀ op, AsksAlike c { c with generateErrorMocks := wanted } op (change op)) :
    workerModule { c with generateErrorMocks := wanted } (ops.map change) =
      workerModule c ops := by
  have hcandidates : (ops.map change).filterMap
      (workerCandidate? { c with generateErrorMocks := wanted }) =
        ops.filterMap (workerCandidate? c) := by
    rw [List.filterMap_map]
    exact List.filterMap_congr fun op _ => (h op).worker
  rw [workerModule, hcandidates]
  rfl

/-- **The modules are the same**, with what is reported while they are made. -/
theorem bundle_map
    (h : ∀ op, AsksAlike c { c with generateErrorMocks := wanted } op (change op)) :
    bundle { c with generateErrorMocks := wanted } (ops.map change) = bundle c ops := by
  rw [bundle, fixturesModule_map h, routesModule_map h, mockClassesModule_map h,
    workerModule_map h]
  rfl

theorem problems_generateErrorMocks :
    ({ c with generateErrorMocks := wanted } : Config).problems = c.problems := rfl

/-- A run over the changed operations is one over the operations themselves. -/
theorem generate_map
    (h : ∀ op, AsksAlike c { c with generateErrorMocks := wanted } op (change op)) :
    generate { c with generateErrorMocks := wanted } (ops.map change) = generate c ops := by
  rw [generate, generate, Config.isValid, problems_generateErrorMocks, ← Config.isValid,
    bundle_map h, List.length_map]

end ApiMocks.Emit
