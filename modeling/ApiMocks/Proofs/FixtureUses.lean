import ApiMocks.Emit.Bundle
import ApiMocks.Proofs.FirstDeclarations
import ApiMocks.Proofs.ModuleReadings
import Mathlib.Data.String.Basic

/-!
# Fixtures and the modules that use them

Handlers and mock classes read fixtures by name, and import the table only if
they do.  The modules are made independently of each other: each has its own
candidates and drops repeated names on its own.  They fit together because each
candidate that reads a fixture comes from a response for which the table is
asked for that very fixture, and dropping repetitions never takes a key away.

* `uses`: the fixtures that a module reads, with the schemas that type them;
* `askedFixtures`: the fixtures that an operation asks the table for;
* `use_mem_askedFixtures_of_route` and its siblings: every use is asked for;
* `references_resolve`: every fixture that is read is in the table, every module
  imports just what it uses, and the texts of the modules have just these keys,
  uses and imports.
-/

namespace ApiMocks.Emit

/-! ## Uses and keys -/

/-- The fixture that an answer reads, with the schema that types it. -/
def Answer.use? : Answer → Option Fixture
  | empty _ => none
  | fixture _ schema name => some ⟨name, schema⟩

/-- The fixtures that the handlers of a module read. -/
def HandlersModule.uses (m : HandlersModule) : List Fixture :=
  m.handlers.filterMap (·.answer.use?)

/-- The fixture that a mock class reads. -/
def MockClass.use (k : MockClass) : Fixture := ⟨k.fixture, k.schema⟩

/-- The fixtures that the classes of a module read. -/
def MockClassesModule.uses (m : MockClassesModule) : List Fixture := m.classes.map MockClass.use

/-- The keys of the fixture table. -/
def FixturesModule.keys (m : FixturesModule) : List String := m.fixtures.map Fixture.name

/-- The entry of a fixture is made by a builder class. -/
def Fixture.Instantiates (strategy : Strategy) (f : Fixture) (builder : String) : Prop :=
  f.value strategy = "new " ++ builder ++ "().build()"

/-- The lines that import the data types and the fixture table. -/
def tableImports (c : Config) : List String := [
  "import type * as types from " ++ quote c.typesImport ++ ";",
  "import \x7b fixtures \x7d from './fixtures';"]

variable {c : Config} {op : Operation} {ops : List Operation} {u : Fixture}

/-! ## What an operation asks the table for -/

/-- The fixtures that an operation asks for, one for each mocked response. -/
def askedFixtures (c : Config) (op : Operation) : List Fixture :=
  (mockedResponses c op).map fun r => ⟨Naming.fixture op.id r.1.status, r.2⟩

theorem isError_eq_false_of_isSuccess {s : Status} (h : s.isSuccess = true) :
    s.isError = false := by
  have hbounds : 200 ≤ s ∧ s < 300 := by simpa [Status.isSuccess] using h
  have hsmall : s < 400 := Nat.lt_trans hbounds.2 (by decide)
  exact decide_eq_false (Nat.not_le.mpr hsmall)

/-- Mocks of a success never depend on whether error mocks are wanted. -/
theorem wanted_of_isSuccess {s : Status} (h : s.isSuccess = true) (herror : s.isError = true) :
    c.generateErrorMocks = true := by
  rw [isError_eq_false_of_isSuccess h] at herror
  cases herror

/-- A response with its schema name, if it is mocked. -/
def mocked? (c : Config) (r : Response) : Option (Response × String) :=
  if r.status.isError && !c.generateErrorMocks then none else r.schemaName.map (r, ·)

theorem mockedResponses_eq : mockedResponses c op = op.responses.filterMap (mocked? c) := rfl

/-- Responses with a schema name are mocked, errors only if they are wanted. -/
theorem mocked?_eq_some_iff {r : Response} {p : Response × String} :
    mocked? c r = some p ↔
      p.1 = r ∧ r.schemaName = some p.2 ∧
        (r.status.isError = true → c.generateErrorMocks = true) := by
  obtain ⟨r', schema⟩ := p
  cases herror : r.status.isError <;> cases hwanted : c.generateErrorMocks <;>
    simp [mocked?, herror, hwanted, and_comm, eq_comm]

theorem mem_mockedResponses {r : Response} {schema : String} :
    (r, schema) ∈ mockedResponses c op ↔
      r ∈ op.responses ∧ r.schemaName = some schema ∧
        (r.status.isError = true → c.generateErrorMocks = true) := by
  rw [mockedResponses_eq, List.mem_filterMap]
  simp only [mocked?_eq_some_iff]
  constructor
  · intro h
    obtain ⟨_, hr, rfl, hname, hwanted⟩ := h
    exact ⟨hr, hname, hwanted⟩
  · intro h
    exact ⟨r, h.1, rfl, h.2.1, h.2.2⟩

/-- What an operation asks for comes from one of its responses. -/
theorem mem_askedFixtures :
    u ∈ askedFixtures c op ↔
      ∃ r ∈ op.responses, r.schemaName = some u.schema ∧
        (r.status.isError = true → c.generateErrorMocks = true) ∧
        Naming.fixture op.id r.status = u.name := by
  rw [askedFixtures, List.mem_map]
  constructor
  · intro h
    obtain ⟨⟨r, schema⟩, hr, rfl⟩ := h
    obtain ⟨hmem, hname, hwanted⟩ := mem_mockedResponses.mp hr
    exact ⟨r, hmem, hname, hwanted, rfl⟩
  · intro h
    obtain ⟨r, hmem, hname, hwanted, hfixture⟩ := h
    exact ⟨(r, u.schema), mem_mockedResponses.mpr ⟨hmem, hname, hwanted⟩, by rw [hfixture]⟩

/-- A success with a schema name always asks for its fixture. -/
theorem mem_askedFixtures_of_success {r : Response} {schema : String} (hr : r ∈ op.responses)
    (hsuccess : r.status.isSuccess = true) (hname : r.schemaName = some schema) :
    ⟨Naming.fixture op.id r.status, schema⟩ ∈ askedFixtures c op :=
  mem_askedFixtures.mpr ⟨r, hr, hname, wanted_of_isSuccess hsuccess, rfl⟩

/-- A fixture that some operation asks for has a key in the table. -/
theorem mem_keys_of_mem_askedFixtures (hop : op ∈ ops) (hu : u ∈ askedFixtures c op) :
    u.name ∈ (fixturesModule c ops).value.keys := by
  have hcandidate : u ∈ fixtureCandidates c ops := List.mem_flatMap.mpr ⟨op, hop, hu⟩
  have hkept : ∃ f ∈ firsts Fixture.name [] (fixtureCandidates c ops), f.name = u.name :=
    exists_mem_firsts hcandidate
  obtain ⟨f, hf, hname⟩ := hkept
  exact List.mem_map.mpr ⟨f, hf, hname⟩

/-! ## What the modules keep -/

theorem routesModule_handlers :
    (routesModule c ops).value.handlers =
      firsts Handler.name [] (ops.flatMap (routeCandidates c)) := rfl

theorem mockClassesModule_classes :
    (mockClassesModule c ops).value.classes =
      firsts MockClass.name [] (ops.flatMap (classCandidates c)) := rfl

theorem workerModule_handlers :
    (workerModule c ops).value.handlers =
      firsts Handler.name [] (ops.flatMap fun op => (workerCandidate? c op).toList) := by
  rw [← List.filterMap_eq_flatMap_toList]
  rfl

/-- A module that is generated if it is wanted. -/
theorem mem_when {α : Type} {isWanted : Bool} {step : Logged α} {m : α} :
    m ∈ (Logged.when isWanted step).value ↔ isWanted = true ∧ step.value = m := by
  cases isWanted <;> simp [Logged.when]

/-! ## What declarations read -/

theorem use?_fixtureAnswer? {r : Response} {answer : Answer}
    (h : fixtureAnswer? op r = some answer) :
    ∃ schema, r.schemaName = some schema ∧
      answer = .fixture r.status schema (Naming.fixture op.id r.status) := by
  obtain ⟨schema, hname, rfl⟩ := Option.map_eq_some_iff.mp h
  exact ⟨schema, hname, rfl⟩

/-- An answer that is empty without a fixture reads one only for a schema name. -/
theorem use?_getD_empty {r : Response} {s : Status}
    (h : ((fixtureAnswer? op r).getD (.empty s)).use? = some u) :
    r.schemaName = some u.schema ∧ u.name = Naming.fixture op.id r.status := by
  cases hanswer : fixtureAnswer? op r with
  | none =>
      rw [hanswer] at h
      cases h
  | some answer =>
      obtain ⟨schema, hname, rfl⟩ := use?_fixtureAnswer? hanswer
      rw [hanswer] at h
      cases h
      exact ⟨hname, rfl⟩

/-- The handler of an operation reads the fixture of its first success. -/
theorem use?_routeAnswer (h : (routeAnswer op).use? = some u) :
    ∃ r, op.primarySuccess? = some r ∧ r.schemaName = some u.schema ∧
      u.name = Naming.fixture op.id r.status := by
  unfold routeAnswer at h
  cases hfirst : op.primarySuccess? with
  | none =>
      rw [hfirst] at h
      cases h
  | some r =>
      rw [hfirst] at h
      exact ⟨r, rfl, use?_getD_empty h⟩

/-- The service-worker handler of an operation reads it too, unless the success
never has a body. -/
theorem use?_workerAnswer {r : Response} (h : (workerAnswer op r).use? = some u) :
    r.status ≠ noContent ∧ r.schemaName = some u.schema ∧
      u.name = Naming.fixture op.id r.status := by
  unfold workerAnswer at h
  split at h
  · cases h
  · rename_i hbody
    exact ⟨hbody, use?_getD_empty h⟩

theorem mem_of_primarySuccess? {r : Response} (h : op.primarySuccess? = some r) :
    r ∈ op.responses ∧ r.status.isSuccess = true :=
  ⟨List.mem_of_find?_eq_some h, List.find?_some (p := fun r : Response => r.status.isSuccess) h⟩

/-- The route handler of an operation itself. -/
def mainHandler (c : Config) (op : Operation) : Handler :=
  handlerOf c op (Naming.handler op.id) (routeAnswer op)

/-- The route handler of an error, if it has a fixture. -/
def errorCandidate? (c : Config) (op : Operation) (r : Response) : Option Handler :=
  (fixtureAnswer? op r).map (handlerOf c op (Naming.errorHandler op.id r.status))

/-- Whether an operation asks for route handlers of its errors: beside a first
success with a fixture, and if error mocks are wanted. -/
def handlesErrors (c : Config) (op : Operation) : Bool :=
  (routeAnswer op).fixture?.isSome && c.generateErrorMocks

theorem routeCandidates_eq :
    routeCandidates c op = mainHandler c op ::
      if handlesErrors c op = true then op.errors.filterMap (errorCandidate? c op) else [] := by
  have hmain : (mainHandler c op).answer = routeAnswer op := rfl
  change (if (mainHandler c op).answer.fixture?.isSome && c.generateErrorMocks then
    mainHandler c op :: op.errors.filterMap (errorCandidate? c op) else [mainHandler c op]) = _
  rw [hmain, ← handlesErrors]
  split <;> rfl

theorem mem_routeCandidates {h : Handler} :
    h ∈ routeCandidates c op ↔
      h = mainHandler c op ∨
        handlesErrors c op = true ∧ ∃ r ∈ op.errors, errorCandidate? c op r = some h := by
  rw [routeCandidates_eq, List.mem_cons]
  split
  · rename_i herrors
    rw [List.mem_filterMap, and_iff_right herrors]
  · rename_i hnone
    simp [hnone]

theorem errorCandidate?_eq_some {r : Response} {h : Handler}
    (hh : errorCandidate? c op r = some h) :
    ∃ schema, r.schemaName = some schema ∧
      h = handlerOf c op (Naming.errorHandler op.id r.status)
        (.fixture r.status schema (Naming.fixture op.id r.status)) := by
  obtain ⟨answer, hanswer, rfl⟩ := Option.map_eq_some_iff.mp hh
  obtain ⟨schema, hname, rfl⟩ := use?_fixtureAnswer? hanswer
  exact ⟨schema, hname, rfl⟩

/-- A response with a schema name has a candidate. -/
theorem exists_errorCandidate? (c : Config) (op : Operation) {r : Response} {schema : String}
    (hname : r.schemaName = some schema) :
    ∃ h, errorCandidate? c op r = some h ∧ h.name = Naming.errorHandler op.id r.status := by
  unfold errorCandidate? fixtureAnswer?
  rw [hname]
  exact ⟨_, rfl, rfl⟩

/-- A route handler reads a fixture that its operation asks for. -/
theorem use_mem_askedFixtures_of_route {h : Handler} (hh : h ∈ routeCandidates c op)
    (hu : h.answer.use? = some u) : u ∈ askedFixtures c op := by
  rcases mem_routeCandidates.mp hh with rfl | ⟨herrors, r, hr, hcandidate⟩
  · obtain ⟨r, hfirst, hname, hfixture⟩ := use?_routeAnswer hu
    obtain ⟨hr, hsuccess⟩ := mem_of_primarySuccess? hfirst
    have hasked := mem_askedFixtures_of_success (c := c) hr hsuccess hname
    rwa [← hfixture] at hasked
  · obtain ⟨schema, hname, rfl⟩ := errorCandidate?_eq_some hcandidate
    cases hu
    have hmem : r ∈ op.responses := List.mem_of_mem_filter hr
    have hwanted := (Bool.and_eq_true_iff.mp herrors).2
    exact mem_askedFixtures.mpr ⟨r, hmem, hname, fun _ => hwanted, rfl⟩

/-- A service-worker handler reads a fixture that its operation asks for. -/
theorem use_mem_askedFixtures_of_worker {h : Handler} (hh : workerCandidate? c op = some h)
    (hu : h.answer.use? = some u) : u ∈ askedFixtures c op := by
  obtain ⟨r, hfirst, rfl⟩ := Option.map_eq_some_iff.mp hh
  obtain ⟨_, hname, hfixture⟩ := use?_workerAnswer hu
  obtain ⟨hr, hsuccess⟩ := mem_of_primarySuccess? hfirst
  have hasked := mem_askedFixtures_of_success (c := c) hr hsuccess hname
  rwa [← hfixture] at hasked

/-- A mock class reads a fixture that its operation asks for. -/
theorem use_mem_askedFixtures_of_class {k : MockClass} (hk : k ∈ classCandidates c op) :
    k.use ∈ askedFixtures c op := by
  obtain ⟨r, hr, rfl⟩ := List.mem_map.mp hk
  exact List.mem_map.mpr ⟨r, hr, rfl⟩

/-- Every use in a module with handlers is asked for by some operation, if every
use of a candidate is. -/
theorem exists_asked_of_mem_uses {candidates : List Handler} {typesImport : String}
    (hasked : ∀ h ∈ candidates, ∀ u, h.answer.use? = some u →
      ∃ op ∈ ops, u ∈ askedFixtures c op)
    (hu : u ∈ HandlersModule.uses
      { handlers := firsts Handler.name [] candidates, typesImport }) :
    ∃ op ∈ ops, u ∈ askedFixtures c op := by
  obtain ⟨h, hh, huse⟩ := List.mem_filterMap.mp hu
  exact hasked h (mem_of_mem_firsts hh) u huse

/-! ## Imports -/

/-- A handler that reads a fixture uses it with a schema. -/
theorem isSome_use? (answer : Answer) : answer.use?.isSome = answer.fixture?.isSome := by
  cases answer <;> rfl

theorem HandlersModule.usesFixtures_iff (m : HandlersModule) :
    m.usesFixtures = true ↔ m.uses ≠ [] := by
  rw [usesFixtures, List.any_eq_true, ne_eq, uses, List.filterMap_eq_nil_iff]
  simp only [not_forall, ← isSome_use?, ← Option.isSome_iff_ne_none, exists_prop]

/-- A module with handlers imports the table exactly if a handler reads it. -/
theorem HandlersModule.imports_eq (m : HandlersModule) (hc : m.typesImport = c.typesImport) :
    m.imports = if m.uses = [] then [] else tableImports c := by
  rw [imports, tableImports, hc]
  by_cases hempty : m.uses = []
  · have hnone : ¬ m.usesFixtures = true := fun h => m.usesFixtures_iff.mp h hempty
    rw [if_pos hempty, if_neg hnone]
  · rw [if_neg hempty, if_pos (m.usesFixtures_iff.mpr hempty)]

/-- A module with mock classes imports the table exactly if it has a class. -/
theorem MockClassesModule.imports_eq (m : MockClassesModule)
    (hc : m.typesImport = c.typesImport) :
    m.imports = if m.uses = [] then [] else tableImports c := by
  rw [imports, tableImports, hc, uses]
  cases m.classes <;> rfl

section Builders

variable {s t : String} {l : List String} {fixtures : List Fixture}

theorem mem_insertText : t ∈ insertText s l ↔ t = s ∨ t ∈ l := by
  induction l with
  | nil => simp [insertText]
  | cons a rest ih =>
      rw [insertText]
      split
      · simp
      · split
        · rename_i heq
          simp [heq]
        · rw [List.mem_cons, List.mem_cons, ih]
          exact or_left_comm

/-- Inserting a text keeps the texts in ascending order, each once. -/
theorem ascending_insertText (h : l.Pairwise (· < ·)) : (insertText s l).Pairwise (· < ·) := by
  induction l with
  | nil => exact List.pairwise_singleton _ _
  | cons a rest ih =>
      obtain ⟨ha, hrest⟩ := List.pairwise_cons.mp h
      rw [insertText]
      split
      · rename_i hlt
        apply List.pairwise_cons.mpr
        refine ⟨?_, h⟩
        intro b hb
        rcases List.mem_cons.mp hb with rfl | hb
        · exact hlt
        · exact String.lt_trans hlt (ha b hb)
      · split
        · exact h
        · rename_i hnlt hne
          apply List.pairwise_cons.mpr
          refine ⟨?_, ih hrest⟩
          intro b hb
          rcases mem_insertText.mp hb with rfl | hb
          · exact lt_of_le_of_ne (not_lt.mp hnlt) (Ne.symm hne)
          · exact ha b hb

/-- A run of insertions keeps the order, and has what was inserted. -/
theorem foldl_insertText (hl : l.Pairwise (· < ·)) :
    (fixtures.foldl (fun acc f => insertText (Naming.schemaBuilder f.schema) acc) l).Pairwise
        (· < ·) ∧
      ∀ b, b ∈ fixtures.foldl (fun acc f => insertText (Naming.schemaBuilder f.schema) acc) l ↔
        b ∈ l ∨ ∃ f ∈ fixtures, Naming.schemaBuilder f.schema = b := by
  induction fixtures generalizing l with
  | nil => exact ⟨hl, by simp⟩
  | cons f rest ih =>
      obtain ⟨hascending, hmem⟩ := ih (ascending_insertText (s := Naming.schemaBuilder f.schema) hl)
      refine ⟨hascending, ?_⟩
      intro b
      rw [List.foldl_cons, hmem, mem_insertText]
      simp only [List.exists_mem_cons_iff]
      constructor
      · intro h
        rcases h with (h | h) | h
        · exact .inr (.inl h.symm)
        · exact .inl h
        · exact .inr (.inr h)
      · intro h
        rcases h with h | h | h
        · exact .inl (.inr h)
        · exact .inl (.inl h.symm)
        · exact .inr h

theorem instantiates_static {f : Fixture} {b : String} :
    f.Instantiates .static b ↔ Naming.schemaBuilder f.schema = b := by
  unfold Fixture.Instantiates Fixture.value
  rw [String.append_left_inj, String.append_right_inj]

theorem not_instantiates_zod {f : Fixture} {b : String} : ¬ f.Instantiates .zod b := by
  unfold Fixture.Instantiates Fixture.value
  intro h
  have hchars := congrArg String.toList h
  simp [String.toList_append] at hchars

/-- The builder classes that are imported are those that make an entry. -/
theorem FixturesModule.mem_builderImports (m : FixturesModule) (b : String) :
    b ∈ m.builderImports ↔ ∃ f ∈ m.fixtures, f.Instantiates m.strategy b := by
  unfold builderImports
  cases m.strategy with
  | static => simp [(foldl_insertText List.Pairwise.nil).2, instantiates_static]
  | zod => simp [not_instantiates_zod]

/-- They are in ascending order, each once. -/
theorem FixturesModule.ascending_builderImports (m : FixturesModule) :
    m.builderImports.Pairwise (· < ·) := by
  unfold builderImports
  cases m.strategy with
  | static => exact (foldl_insertText List.Pairwise.nil).1
  | zod => exact List.Pairwise.nil

end Builders

/-! ## No name dangles -/

/-- **Every reference resolves.**  Whatever operations there are, every fixture
that a route handler, a mock class or a service-worker handler reads is a key of
the table.  Each module imports types and table exactly if it reads a fixture,
and the fixtures module imports exactly the builder classes that make its
entries, each once and in ascending order.  What a reader finds in the texts of the
modules is just these entries, these uses and these imports. -/
theorem references_resolve (c : Config) (ops : List Operation) :
    let table := (fixturesModule c ops).value
    let routes := (routesModule c ops).value
    let classes := (mockClassesModule c ops).value
    let worker := (workerModule c ops).value
    (∀ u ∈ routes.uses ++ classes.uses ++ worker.uses, u.name ∈ table.keys) ∧
    (routes.imports = if routes.uses = [] then [] else tableImports c) ∧
    (classes.imports = if classes.uses = [] then [] else tableImports c) ∧
    (worker.imports = if worker.uses = [] then [] else tableImports c) ∧
    (∀ b, b ∈ table.builderImports ↔ ∃ f ∈ table.fixtures, f.Instantiates c.strategy b) ∧
    table.builderImports.Pairwise (· < ·) ∧
    table.TextRead ∧ routes.RoutesRead ∧ classes.TextRead ∧ worker.WorkerRead := by
  intro table routes classes worker
  refine ⟨?_, routes.imports_eq rfl, classes.imports_eq rfl, worker.imports_eq rfl,
    table.mem_builderImports, table.ascending_builderImports,
    table.textRead, routes.routesRead, classes.textRead, worker.workerRead⟩
  intro u hu
  have hasked : ∃ op ∈ ops, u ∈ askedFixtures c op := by
    rcases List.mem_append.mp hu with hu | hworker
    · rcases List.mem_append.mp hu with hroute | hclass
      · apply exists_asked_of_mem_uses ?_ hroute
        intro h hh v hv
        obtain ⟨op, hop, hh⟩ := List.mem_flatMap.mp hh
        exact ⟨op, hop, use_mem_askedFixtures_of_route hh hv⟩
      · obtain ⟨k, hk, rfl⟩ := List.mem_map.mp hclass
        obtain ⟨op, hop, hk⟩ := List.mem_flatMap.mp (mem_of_mem_firsts hk)
        exact ⟨op, hop, use_mem_askedFixtures_of_class hk⟩
    · apply exists_asked_of_mem_uses ?_ hworker
      intro h hh v hv
      obtain ⟨op, hop, hh⟩ := List.mem_filterMap.mp hh
      exact ⟨op, hop, use_mem_askedFixtures_of_worker hh hv⟩
  obtain ⟨op, hop, hu⟩ := hasked
  exact mem_keys_of_mem_askedFixtures hop hu

end ApiMocks.Emit
