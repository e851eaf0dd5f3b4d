import ApiMocks.Emit.Bundle
import ApiMocks.Proofs.AskedModules
import ApiMocks.Proofs.FixtureUses

/-!
# Without error mocks

A configuration can turn error mocks off.  Three steps look at this setting or at
errors: the choice of the mocked responses, the handlers of errors, and the
choice of the first success.  Turned off, the first two pass over exactly the
responses with an error status, and the third never looks at them.  So every
candidate for a declaration is the one that operations without these responses
ask for, under either setting; and the modules are made from the candidates.

* `Operation.withoutErrors`: an operation with its error responses left out;
* `mockedResponses_withoutErrors`, `routeCandidates_withoutErrors`,
  `workerCandidate?_withoutErrors`: what such an operation asks for;
* `asksAlike_withoutErrors`: together, all that it asks for;
* `generate_withoutErrors`: three runs with the same files.
-/

namespace ApiMocks

/-- The operation without the responses of status 400 or above. -/
def Operation.withoutErrors (op : Operation) : Operation :=
  { op with responses := op.responses.filter (·.status < 400) }

/-- The configuration with error mocks turned on or off. -/
def Config.withErrorMocks (c : Config) (wanted : Bool) : Config :=
  { c with generateErrorMocks := wanted }

namespace Emit

variable {c : Config} {op : Operation} {ops : List Operation} {wanted : Bool}

/-! ## What is left of an operation -/

theorem lt_iff_isError_eq_false {s : Status} : s < 400 ↔ s.isError = false := by
  rw [Status.isError, decide_eq_false_iff_not, Nat.not_le]

theorem errors_withoutErrors : op.withoutErrors.errors = [] := by
  apply List.filter_eq_nil_iff.mpr
  intro r hr
  have hsmall : r.status < 400 := of_decide_eq_true (List.mem_filter.mp hr).2
  simp [lt_iff_isError_eq_false.mp hsmall]

/-- The first success stays, for no success is an error. -/
theorem primarySuccess?_withoutErrors : op.withoutErrors.primarySuccess? = op.primarySuccess? := by
  change (op.responses.filter (·.status < 400)).find? (·.status.isSuccess) = _
  rw [List.find?_filter, Operation.primarySuccess?]
  congr 1
  funext r
  cases hsuccess : r.status.isSuccess with
  | false => simp
  | true =>
      have hsmall := lt_iff_isError_eq_false.mpr (isError_eq_false_of_isSuccess hsuccess)
      simp [hsmall]

/-- The mocked responses are those of the whole operation without error mocks. -/
theorem mockedResponses_withoutErrors (hoff : c.generateErrorMocks = false) :
    mockedResponses (c.withErrorMocks wanted) op.withoutErrors = mockedResponses c op := by
  change (op.responses.filter (·.status < 400)).filterMap (mocked? (c.withErrorMocks wanted)) =
    op.responses.filterMap (mocked? c)
  rw [List.filterMap_filter]
  congr 1
  funext r
  cases herror : r.status.isError with
  | false => simp [mocked?, herror, lt_iff_isError_eq_false]
  | true => simp [mocked?, herror, hoff, lt_iff_isError_eq_false]

/-! ## What it asks for -/

theorem routeAnswer_withoutErrors : routeAnswer op.withoutErrors = routeAnswer op := by
  rw [routeAnswer, routeAnswer, primarySuccess?_withoutErrors]
  rfl

/-- It asks for its own route handler only, as the whole operation does without
error mocks. -/
theorem routeCandidates_withoutErrors (hoff : c.generateErrorMocks = false) :
    routeCandidates (c.withErrorMocks wanted) op.withoutErrors = routeCandidates c op := by
  have hmain : mainHandler (c.withErrorMocks wanted) op.withoutErrors = mainHandler c op := by
    rw [mainHandler, mainHandler, routeAnswer_withoutErrors]
    rfl
  have hnone : handlesErrors c op = false := by rw [handlesErrors, hoff, Bool.and_false]
  rw [routeCandidates_eq, routeCandidates_eq, hmain, hnone, errors_withoutErrors]
  simp

theorem askedFixtures_withoutErrors (hoff : c.generateErrorMocks = false) :
    askedFixtures (c.withErrorMocks wanted) op.withoutErrors = askedFixtures c op := by
  rw [askedFixtures, mockedResponses_withoutErrors hoff]
  rfl

theorem classCandidates_withoutErrors (hoff : c.generateErrorMocks = false) :
    classCandidates (c.withErrorMocks wanted) op.withoutErrors = classCandidates c op := by
  rw [classCandidates, mockedResponses_withoutErrors hoff]
  rfl

theorem workerCandidate?_withoutErrors :
    workerCandidate? (c.withErrorMocks wanted) op.withoutErrors = workerCandidate? c op := by
  rw [workerCandidate?, workerCandidate?, primarySuccess?_withoutErrors]
  rfl

/-! ## The files -/

/-- An operation without its errors asks for what it asks for without error mocks. -/
theorem asksAlike_withoutErrors (hoff : c.generateErrorMocks = false) (op : Operation) :
    AsksAlike c (c.withErrorMocks wanted) op op.withoutErrors where
  fixtures := askedFixtures_withoutErrors hoff
  routes := routeCandidates_withoutErrors hoff
  classes := classCandidates_withoutErrors hoff
  worker := workerCandidate?_withoutErrors

/-- A run over operations without errors is one without error mocks. -/
theorem generate_map_withoutErrors (hoff : c.generateErrorMocks = false) :
    generate (c.withErrorMocks wanted) (ops.map Operation.withoutErrors) = generate c ops :=
  generate_map (asksAlike_withoutErrors hoff)

theorem withErrorMocks_self (hoff : c.generateErrorMocks = false) :
    c.withErrorMocks false = c := by
  rw [Config.withErrorMocks, ← hoff]

/-- **Turning error mocks off hides error responses and nothing else.**  For a
configuration without problems and without error mocks, the same files come from
the operations, from the operations without their error responses, and from
these with error mocks turned on. -/
theorem generate_withoutErrors (c : Config) (ops : List Operation) (hvalid : c.isValid = true)
    (hoff : c.generateErrorMocks = false) :
    ∃ result, generate c ops = .ok result ∧
      generate c (ops.map Operation.withoutErrors) = .ok result ∧
      generate (c.withErrorMocks true) (ops.map Operation.withoutErrors) = .ok result := by
  have hresult : ∃ result, generate c ops = .ok result := by
    rw [generate, if_pos hvalid]
    exact ⟨_, rfl⟩
  obtain ⟨result, hresult⟩ := hresult
  have hwithout : generate (c.withErrorMocks false) (ops.map Operation.withoutErrors) =
      generate c ops := generate_map_withoutErrors hoff
  rw [withErrorMocks_self hoff] at hwithout
  have hwith : generate (c.withErrorMocks true) (ops.map Operation.withoutErrors) =
      generate c ops := generate_map_withoutErrors hoff
  exact ⟨result, hresult, hwithout.trans hresult, hwith.trans hresult⟩

/-- Two operations with one id, and with responses of every kind. -/
def petsWithErrors : List Operation := [
  { id := "getPet", method := .get, path := "/pets/{id}"
    responses := [
      { status := 200, schemaName := "Pet" },
      { status := 304, schemaName := "Unchanged" },
      { status := 404, schemaName := "Missing" },
      { status := 500 }] },
  { id := "getPet", method := .get, path := "/animals/{id}"
    responses := [{ status := 204 }, { status := 404, schemaName := "Gone" }] }]

/-- Three runs over these operations. -/
theorem generate_pets_without_errors :
    let c : Config := { generateErrorMocks := false, generateMsw := true }
    c.isValid = true ∧ c.generateErrorMocks = false ∧
    ∃ result, generate c petsWithErrors = .ok result ∧
      generate c (petsWithErrors.map Operation.withoutErrors) = .ok result ∧
      generate (c.withErrorMocks true) (petsWithErrors.map Operation.withoutErrors) =
        .ok result := by
  intro c
  have hvalid : c.isValid = true := by decide
  have hoff : c.generateErrorMocks = false := rfl
  exact ⟨hvalid, hoff, generate_withoutErrors c petsWithErrors hvalid hoff⟩

end Emit

end ApiMocks
