import ApiMocks.Cli.Plan
import ApiMocks.Proofs.FixtureUses
import Mathlib.Data.List.FinRange

/-!
# Every candidate is declared or reported

Each kind of module has a sequence of candidates, in the order of operations and
responses.  A candidate is declared if no earlier one has its name, and reported
otherwise.  What filters a sequence looks at one operation at a time, and names are
claimed behind all filters.  So the sequences can be written down without the
names, and the names without the filters.

* `atPlaces`, `IsFirst`: the elements at some places, and the first places of names;
* `firsts_eq_atPlaces`, `repeats_eq_atPlaces`, `map_name_firsts`: what is kept, what
  is reported, and the names that are kept;
* `DeclaresFirsts`: a module that keeps the first candidates and reports the others;
* `fixtureCandidates_eq` and its siblings: the candidates of the four modules;
* `length_fixtureCandidates`: without a filter, those for fixtures are as many as
  the responses with a schema;
* `generate_eq`: the texts and notices of the modules are those of the files;
* `modules_declare_firsts`: all modules, their texts and files, and the number that
  validation shows.
-/

namespace ApiMocks.Emit

section Places

variable {α : Type}

/-! ## Places -/

/-- The elements of a list at the places with some property. -/
def atPlaces (xs : List α) (p : Fin xs.length → Prop) [DecidablePred p] : List α :=
  ((List.finRange xs.length).filter fun i => p i).map fun i => xs[i]

/-- The candidate at a place has a name that no candidate in front of it has. -/
def IsFirst (name : α → String) (candidates : List α) (i : Fin candidates.length) : Prop :=
  ∀ j < i, name candidates[j] ≠ name candidates[i]

instance (name : α → String) (candidates : List α) : DecidablePred (IsFirst name candidates) :=
  fun i => inferInstanceAs (Decidable (∀ j < i, name candidates[j] ≠ name candidates[i]))

/-- And its name is not taken. -/
def IsFresh (name : α → String) (taken : List String) (candidates : List α)
    (i : Fin candidates.length) : Prop :=
  name candidates[i] ∉ taken ∧ IsFirst name candidates i

instance (name : α → String) (taken : List String) (candidates : List α) :
    DecidablePred (IsFresh name taken candidates) :=
  fun i => inferInstanceAs
    (Decidable (name candidates[i] ∉ taken ∧ IsFirst name candidates i))

variable {name : α → String} {taken : List String} {x : α} {xs : List α}

theorem atPlaces_cons (p : Fin (x :: xs).length → Prop) [DecidablePred p] :
    atPlaces (x :: xs) p = (if p 0 then [x] else []) ++ atPlaces xs fun i => p i.succ := by
  have hplaces : List.finRange (x :: xs).length =
      0 :: (List.finRange xs.length).map Fin.succ := List.finRange_succ
  rw [atPlaces, hplaces, List.filter_cons, List.filter_map]
  split
  · rename_i h
    rw [if_pos (of_decide_eq_true h), List.map_cons, List.map_map]
    rfl
  · rename_i h
    rw [if_neg fun hp => h (decide_eq_true hp), List.map_map]
    rfl

theorem atPlaces_congr {p q : Fin xs.length → Prop} [DecidablePred p] [DecidablePred q]
    (h : ∀ i, p i ↔ q i) : atPlaces xs p = atPlaces xs q := by
  simp only [atPlaces, h]

/-- The first place is fresh if its name is not taken. -/
theorem isFresh_zero : IsFresh name taken (x :: xs) 0 ↔ name x ∉ taken :=
  and_iff_left fun j hj => absurd hj (Fin.not_lt_zero j)

/-- A later place is the first of its name if it is so among the later ones, and the
first name is another one. -/
theorem isFirst_succ (i : Fin xs.length) :
    IsFirst name (x :: xs) i.succ ↔ name x ≠ name xs[i] ∧ IsFirst name xs i := by
  constructor
  · intro h
    exact ⟨h 0 i.succ_pos, fun j hj => h j.succ (Fin.succ_lt_succ_iff.mpr hj)⟩
  · intro h j hj
    cases j using Fin.cases with
    | zero => exact h.1
    | succ j => exact h.2 j (Fin.succ_lt_succ_iff.mp hj)

/-- So it is fresh exactly if it is fresh among the later ones with the first name
taken. -/
theorem isFresh_succ (i : Fin xs.length) :
    IsFresh name taken (x :: xs) i.succ ↔ IsFresh name (name x :: taken) xs i := by
  have hname : name (x :: xs)[i.succ] = name xs[i] := rfl
  rw [IsFresh, IsFresh, isFirst_succ, hname, List.mem_cons, not_or, ne_comm, ← and_assoc,
    and_comm (a := name xs[i] ∉ taken)]

/-- A name that is taken already can be taken once more. -/
theorem isFresh_cons (hx : name x ∈ taken) (i : Fin xs.length) :
    IsFresh name (name x :: taken) xs i ↔ IsFresh name taken xs i := by
  have hmem : name xs[i] ∈ name x :: taken ↔ name xs[i] ∈ taken := by
    rw [List.mem_cons]
    exact or_iff_right_of_imp fun heq => heq ▸ hx
  rw [IsFresh, IsFresh, hmem]

theorem firsts_eq_fresh : firsts name taken xs = atPlaces xs (IsFresh name taken xs) := by
  -- for the candidates behind it, the name of a candidate is one more taken name
  induction xs generalizing taken with
  | nil => rfl
  | cons x rest ih =>
      rw [firsts, atPlaces_cons, atPlaces_congr isFresh_succ]
      simp only [isFresh_zero]
      by_cases hx : name x ∈ taken
      · rw [if_pos hx, if_neg fun h => h hx, atPlaces_congr (isFresh_cons hx), ih]
        rfl
      · rw [if_neg hx, if_pos hx, ih]
        rfl

theorem repeats_eq_not_fresh :
    repeats name taken xs = atPlaces xs fun i => ¬ IsFresh name taken xs i := by
  induction xs generalizing taken with
  | nil => rfl
  | cons x rest ih =>
      rw [repeats, atPlaces_cons, atPlaces_congr fun i => not_congr (isFresh_succ i)]
      simp only [isFresh_zero, not_not]
      by_cases hx : name x ∈ taken
      · rw [if_pos hx, if_pos hx, atPlaces_congr fun i => not_congr (isFresh_cons hx i), ih]
        rfl
      · rw [if_neg hx, if_neg hx, ih]
        rfl

/-- If no name is taken, fresh places are first places. -/
theorem isFresh_nil (i : Fin xs.length) : IsFresh name [] xs i ↔ IsFirst name xs i :=
  and_iff_right List.not_mem_nil

/-- **What is kept** stands at the first places of the names. -/
theorem firsts_eq_atPlaces : firsts name [] xs = atPlaces xs (IsFirst name xs) := by
  rw [firsts_eq_fresh, atPlaces_congr isFresh_nil]

/-- **What is left out** stands at the other places. -/
theorem repeats_eq_atPlaces :
    repeats name [] xs = atPlaces xs fun i => ¬ IsFirst name xs i := by
  rw [repeats_eq_not_fresh, atPlaces_congr fun i => not_congr (isFresh_nil i)]

/-- The names that are kept are those that are not taken, without repetitions. -/
theorem map_name_firsts_of_taken :
    (firsts name taken xs).map name = ((xs.map name).filter (· ∉ taken)).eraseDups := by
  induction xs generalizing taken with
  | nil => rfl
  | cons x rest ih =>
      rw [firsts, List.map_cons]
      by_cases hx : name x ∈ taken
      · rw [if_pos hx, ih, List.filter_cons_of_neg (by simpa using hx)]
      · have hlater : (rest.map name).filter (· ∉ name x :: taken) =
            ((rest.map name).filter (· ∉ taken)).filter fun n => !n == name x := by
          rw [List.filter_filter]
          apply List.filter_congr
          intro n _
          simp [not_or, Bool.beq_eq_decide_eq]
        rw [if_neg hx, List.filter_cons_of_pos (by simpa using hx), List.eraseDups_cons,
          List.map_cons, ih, hlater]

/-- **The names that are kept** are all names, without repetitions. -/
theorem map_name_firsts : (firsts name [] xs).map name = (xs.map name).eraseDups := by
  have hall : (xs.map name).filter (· ∉ ([] : List String)) = xs.map name :=
    List.filter_eq_self.mpr fun n _ => decide_eq_true List.not_mem_nil
  rw [map_name_firsts_of_taken, hall]

/-- Every candidate is kept or left out. -/
theorem length_firsts_add_length_repeats :
    (firsts name taken xs).length + (repeats name taken xs).length = xs.length := by
  induction xs generalizing taken with
  | nil => rfl
  | cons x rest ih =>
      rw [firsts, repeats, List.length_cons]
      split
      · rw [List.length_cons, ← Nat.add_assoc, ih]
      · rw [List.length_cons, Nat.add_right_comm, ih]

/-- A module declares the first candidate of each name, in the order of the
candidates, and reports every other candidate once. -/
structure DeclaresFirsts (kind : DeclarationKind) (name : α → String)
    (candidates declared : List α) (notices : List Notice) : Prop where
  declared_eq : declared = atPlaces candidates (IsFirst name candidates)
  names_eq : declared.map name = (candidates.map name).eraseDups
  notices_eq : notices =
    (atPlaces candidates fun i => ¬ IsFirst name candidates i).map fun x =>
      .duplicate kind (name x)
  length_eq : declared.length + notices.length = candidates.length

theorem declaresFirsts_keepFirst (kind : DeclarationKind) (name : α → String)
    (candidates : List α) :
    DeclaresFirsts kind name candidates (keepFirst kind name candidates).value
      (keepFirst kind name candidates).notices where
  declared_eq := firsts_eq_atPlaces
  names_eq := map_name_firsts
  notices_eq := congrArg _ repeats_eq_atPlaces
  length_eq := by
    rw [keepFirst, List.length_map]
    exact length_firsts_add_length_repeats

end Places

/-! ## The candidates -/

/-- The responses of an operation that have a schema name, with it. -/
def schemaBearing (op : Operation) : List (Response × String) :=
  op.responses.filterMap fun r => r.schemaName.map (r, ·)

/-- Errors pass only if error mocks are wanted, all other responses always. -/
def passes (c : Config) (m : Response × String) : Bool :=
  c.generateErrorMocks || !m.1.status.isError

/-- The fixture of a response. -/
def fixtureOf (op : Operation) (m : Response × String) : Fixture where
  name := Naming.fixture op.id m.1.status
  schema := m.2

/-- The mock class of a response. -/
def classOf (c : Config) (op : Operation) (m : Response × String) : MockClass where
  name := Naming.mockClass op.id m.1.status
  method := op.method
  glob := Path.glob op.path c.baseUrlPattern
  pattern := regexBody op.path
  status := m.1.status
  schema := m.2
  fixture := Naming.fixture op.id m.1.status

/-- The route handler of an error. -/
def errorHandlerOf (c : Config) (op : Operation) (m : Response × String) : Handler :=
  handlerOf c op (Naming.errorHandler op.id m.1.status)
    (.fixture m.1.status m.2 (Naming.fixture op.id m.1.status))

/-- The errors that have route handlers: those with a schema name, if error mocks are
wanted and the first success has a schema name. -/
def handledErrors (c : Config) (op : Operation) : List (Response × String) :=
  if c.generateErrorMocks = true ∧ ((op.primarySuccess?.bind (·.schemaName)).isSome) then
    (schemaBearing op).filter (·.1.status.isError)
  else []

/-- The service-worker handler of an operation, for its first success. -/
def workerHandlerOf (c : Config) (op : Operation) (r : Response) : Handler :=
  handlerOf c op (Naming.workerHandler op.id) (workerAnswer op r)

variable {c : Config} {op : Operation} {ops : List Operation}

/-- A response is mocked if it has a schema name and passes. -/
theorem mockedResponses_eq_filter :
    mockedResponses c op = (schemaBearing op).filter (passes c) := by
  rw [mockedResponses_eq, schemaBearing, List.filter_filterMap]
  congr 1
  funext r
  cases herror : r.status.isError <;> cases hwanted : c.generateErrorMocks <;>
    cases hname : r.schemaName <;>
    simp [mocked?, passes, Option.filter_some, herror, hwanted, hname]

theorem fixtureCandidates_eq :
    fixtureCandidates c ops =
      ops.flatMap fun op => ((schemaBearing op).filter (passes c)).map (fixtureOf op) := by
  simp only [fixtureCandidates, mockedResponses_eq_filter]
  rfl

theorem classCandidates_eq :
    classCandidates c op = ((schemaBearing op).filter (passes c)).map (classOf c op) := by
  rw [classCandidates, mockedResponses_eq_filter]
  rfl

/-- The first success has a fixture if it has a schema name. -/
theorem isSome_fixture?_routeAnswer :
    (routeAnswer op).fixture?.isSome = (op.primarySuccess?.bind (·.schemaName)).isSome := by
  unfold routeAnswer
  cases op.primarySuccess? with
  | none => rfl
  | some r => cases hname : r.schemaName <;> simp [fixtureAnswer?, Answer.fixture?, hname]

theorem errorCandidates_eq :
    op.errors.filterMap (errorCandidate? c op) =
      ((schemaBearing op).filter (·.1.status.isError)).map (errorHandlerOf c op) := by
  rw [Operation.errors, schemaBearing, List.filterMap_filter, List.filter_filterMap,
    List.map_filterMap]
  congr 1
  funext r
  cases herror : r.status.isError <;> cases hname : r.schemaName <;>
    simp [errorCandidate?, fixtureAnswer?, errorHandlerOf, herror, hname]

/-- An operation asks for its own route handler, and then for those of its errors. -/
theorem routeCandidates_eq_handledErrors :
    routeCandidates c op = mainHandler c op :: (handledErrors c op).map (errorHandlerOf c op) := by
  have hcondition : handlesErrors c op = true ↔
      c.generateErrorMocks = true ∧ (op.primarySuccess?.bind (·.schemaName)).isSome := by
    rw [handlesErrors, isSome_fixture?_routeAnswer, Bool.and_eq_true, and_comm]
  rw [routeCandidates_eq, handledErrors]
  by_cases h : handlesErrors c op = true
  · rw [if_pos h, if_pos (hcondition.mp h), errorCandidates_eq]
  · rw [if_neg h, if_neg fun h' => h (hcondition.mpr h'), List.map_nil]

/-- An operation with a success asks for one service-worker handler, any other for
none. -/
theorem workerCandidates_eq :
    ops.filterMap (workerCandidate? c) =
      ops.flatMap fun op => op.successes.head?.toList.map (workerHandlerOf c op) := by
  rw [List.filterMap_eq_flatMap_toList]
  congr 1
  funext op
  rw [Operation.successes, List.head?_filter, workerCandidate?, Operation.primarySuccess?]
  cases op.responses.find? (·.status.isSuccess) <;> rfl

/-- If error mocks are wanted, there are as many candidates for fixtures as
responses with a schema name. -/
theorem length_fixtureCandidates (hwanted : c.generateErrorMocks = true) :
    (fixtureCandidates c ops).length =
      ((ops.flatMap (·.responses)).filter (·.schemaName.isSome)).length := by
  have hpasses : ∀ op : Operation, (schemaBearing op).filter (passes c) = schemaBearing op :=
    fun op => List.filter_eq_self.mpr fun m _ => by simp [passes, hwanted]
  have hlength : ∀ op : Operation, ((schemaBearing op).map (fixtureOf op)).length =
      (op.responses.filter (·.schemaName.isSome)).length := by
    intro op
    rw [List.length_map, schemaBearing, List.length_filterMap_eq_countP,
      ← List.countP_eq_length_filter]
    simp only [Option.isSome_map]
  simp only [fixtureCandidates_eq, hpasses, List.filter_flatMap, List.length_flatMap, hlength]

/-! ## All modules -/

/-- The texts of the modules, those that are not always made if they are wanted. -/
def moduleTexts (c : Config) (ops : List Operation) : List (String × String) :=
  [("fixtures", (fixturesModule c ops).value.text),
    ("routes", (routesModule c ops).value.routesText)] ++
    (if c.generateBuilders then [("builders", (mockClassesModule c ops).value.text)] else []) ++
    (if c.generateMsw then [("msw", (workerModule c ops).value.workerText)] else [])

/-- What is reported while the modules are made. -/
def moduleNotices (c : Config) (ops : List Operation) : List Notice :=
  (fixturesModule c ops).notices ++ (routesModule c ops).notices ++
    (if c.generateBuilders then (mockClassesModule c ops).notices else []) ++
    (if c.generateMsw then (workerModule c ops).notices else [])

/-- A run writes these texts, each to a file of its own, and an index of them. -/
theorem generate_eq (c : Config) (ops : List Operation) :
    generate c ops =
      if c.isValid then .ok {
        value := (moduleTexts c ops).map (fun m => ⟨m.1 ++ ".ts", m.2⟩) ++
          [⟨"index.ts", indexText ((moduleTexts c ops).map (·.1))⟩]
        notices := moduleNotices c ops ++
          [.generated ((moduleTexts c ops).map (·.1)) ops.length] }
      else .error c.problems := by
  have hmodules : (bundle c ops).value.modules = moduleTexts c ops := by
    unfold bundle moduleTexts Bundle.modules Logged.when
    cases c.generateBuilders <;> cases c.generateMsw <;> rfl
  have hnotices : (bundle c ops).notices = moduleNotices c ops := by
    unfold bundle moduleNotices Logged.when
    cases c.generateBuilders <;> cases c.generateMsw <;> rfl
  unfold generate Bundle.files
  simp only [hmodules, hnotices]

/-- **Every candidate is declared or reported.**  The fixtures and mock classes are
for the responses with a schema name that pass, the route handlers for each
operation and then for its errors, and the service-worker handlers for the
operations with a success.  Each module declares the first candidate of each name,
in order, and reports each other candidate once.  A reader finds just these
declarations in the text of the module, and the texts are the files of a run, which
reports all of this.  So, if error mocks are wanted, the fixtures and the notices
about them are together as many as validation says that there are responses with a
schema. -/
theorem modules_declare_firsts (c : Config) (ops : List Operation) :
    let table := fixturesModule c ops
    let classes := mockClassesModule c ops
    let routes := routesModule c ops
    let worker := workerModule c ops
    DeclaresFirsts .fixture Fixture.name
      (ops.flatMap fun op => ((schemaBearing op).filter (passes c)).map (fixtureOf op))
      table.value.fixtures table.notices ∧
    DeclaresFirsts .mockClass MockClass.name
      (ops.flatMap fun op => ((schemaBearing op).filter (passes c)).map (classOf c op))
      classes.value.classes classes.notices ∧
    DeclaresFirsts .routeHandler Handler.name
      (ops.flatMap fun op =>
        mainHandler c op :: (handledErrors c op).map (errorHandlerOf c op))
      routes.value.handlers routes.notices ∧
    DeclaresFirsts .workerHandler Handler.name
      (ops.flatMap fun op => op.successes.head?.toList.map (workerHandlerOf c op))
      worker.value.handlers worker.notices ∧
    (table.value.TextRead ∧ classes.value.TextRead ∧ routes.value.RoutesRead ∧
      worker.value.WorkerRead) ∧
    (generate c ops =
      if c.isValid then .ok {
        value := (moduleTexts c ops).map (fun m => ⟨m.1 ++ ".ts", m.2⟩) ++
          [⟨"index.ts", indexText ((moduleTexts c ops).map (·.1))⟩]
        notices := moduleNotices c ops ++
          [.generated ((moduleTexts c ops).map (·.1)) ops.length] }
      else .error c.problems) ∧
    (c.generateErrorMocks = true →
      let accounted := table.value.fixtures.length + table.notices.length
      accounted = ((ops.flatMap (·.responses)).filter (·.schemaName.isSome)).length ∧
      ∀ d : SourceDocument, d.collect.value = ops →
        (Cli.validatePlan d).steps = (Cli.documentLines d ++ [
          "  Operations: " ++ toString ops.length,
          "  Responses with a schema: " ++ toString accounted,
          "Validation successful."]).map .report) := by
  intro table classes routes worker
  refine ⟨?_, ?_, ?_, ?_, ⟨table.value.textRead, classes.value.textRead,
    routes.value.routesRead, worker.value.workerRead⟩, generate_eq c ops, ?_⟩
  · rw [← fixtureCandidates_eq]
    exact declaresFirsts_keepFirst .fixture Fixture.name _
  · simp only [← classCandidates_eq]
    exact declaresFirsts_keepFirst .mockClass MockClass.name _
  · simp only [← routeCandidates_eq_handledErrors]
    exact declaresFirsts_keepFirst .routeHandler Handler.name _
  · rw [← workerCandidates_eq]
    exact declaresFirsts_keepFirst .workerHandler Handler.name _
  · intro hwanted accounted
    have hcount : accounted =
        ((ops.flatMap (·.responses)).filter (·.schemaName.isSome)).length :=
      calc accounted = (fixtureCandidates c ops).length :=
            (declaresFirsts_keepFirst .fixture Fixture.name _).length_eq
        _ = _ := length_fixtureCandidates hwanted
    refine ⟨hcount, ?_⟩
    intro d hops
    rw [hcount, Cli.validatePlan, hops]

/-- Two operations with one id, one of them with two successes. -/
def repeatedPets : SourceDocument :=
  let named (title : String) : Option OperationList.ResponseEntry :=
    some { schema := some (.obj [("title", .str title)]) }
  .operationList { operations := [
    { method := "GET", path := "/pets/{id}", operationId := "getPet"
      responses := ⟨[("200", named "Pet"), ("404", named "Missing"), ("206", named "Part")]⟩ },
    { method := "get", path := "/animals/{id}", operationId := "getPet"
      responses := ⟨[("500", none), ("404", named "Gone"), ("200", some {})]⟩ }] }

/-- Of its four responses with a schema two have fixtures, and two are reported. -/
theorem declared_repeatedPets :
    let c : Config := {}
    let ops := repeatedPets.collect.value
    c.generateErrorMocks = true ∧
    (fixturesModule c ops).value.fixtures =
      [⟨"getPetResponse", "Pet"⟩, ⟨"getPetError404", "Missing"⟩] ∧
    (fixturesModule c ops).notices =
      [.duplicate .fixture "getPetResponse", .duplicate .fixture "getPetError404"] ∧
    (Cli.validatePlan repeatedPets).steps = (Cli.documentLines repeatedPets ++ [
      "  Operations: 2",
      "  Responses with a schema: 4",
      "Validation successful."]).map .report := by
  intro c ops
  have hwanted : c.generateErrorMocks = true := rfl
  have hfixtures : (fixturesModule c ops).value.fixtures =
      [⟨"getPetResponse", "Pet"⟩, ⟨"getPetError404", "Missing"⟩] := by decide +kernel
  have hnotices : (fixturesModule c ops).notices =
      [.duplicate .fixture "getPetResponse", .duplicate .fixture "getPetError404"] := by
    decide +kernel
  have hoperations : ops.length = 2 := by decide +kernel
  have hshown := ((modules_declare_firsts c ops).2.2.2.2.2.2 hwanted).2 repeatedPets rfl
  rw [hoperations, hfixtures, hnotices] at hshown
  exact ⟨hwanted, hfixtures, hnotices, hshown⟩

end ApiMocks.Emit
