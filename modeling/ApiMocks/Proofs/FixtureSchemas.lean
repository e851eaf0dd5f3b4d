import ApiMocks.Proofs.FixtureUses
import ApiMocks.Proofs.ResponseNames

/-!
# The schema under which a fixture is used

The table gives a fixture the schema of the operation that asks for it first.
A declaration that reads it is typed with a schema of its own operation, and it
is kept because this operation is the first to ask for the declaration.  The two
schemas agree if being first to ask for the declaration means being first to
ask for the fixture: who asks for the fixture then also asks for the declaration.

That is so for mock classes, for service-worker handlers and for the route
handlers of operations.  It is not so for the route handlers of errors: these
come only beside a first success with a fixture, while the table has the errors
of all operations.

* `find?_askedFixtures`: the fixture that an operation asks for first;
* `schema?_eq_of_earlier`: what the table has if no earlier operation objects;
* `Overtaken`: an error whose fixture was taken by an operation without a
  handler for it;
* `uses_typed_as_table`: every use agrees with the table, but for these.
-/

namespace ApiMocks.Emit

open Text

/-- The schema that the table has for a name. -/
def FixturesModule.schema? (m : FixturesModule) (name : String) : Option String :=
  (m.fixtures.find? (·.name = name)).map (·.schema)

/-- Ids that agree with a small first letter agree with a capital one. -/
def CasingAgrees (ops : List Operation) : Prop :=
  ∀ a ∈ ops, ∀ b ∈ ops, lowerFirst a.id = lowerFirst b.id → capitalize a.id = capitalize b.id

instance (ops : List Operation) : Decidable (CasingAgrees ops) :=
  inferInstanceAs (Decidable (∀ a ∈ ops, ∀ b ∈ ops, _ → _))

variable {c : Config} {op : Operation} {ops earlier later : List Operation} {u : Fixture}

/-! ## The table -/

/-- **What the table has.**  If an operation asks for a fixture first among its
own, and no earlier operation asks for one of that name with another schema,
then the table has its schema. -/
theorem schema?_eq_of_earlier (hops : ops = earlier ++ op :: later)
    (hown : (askedFixtures c op).find? (·.name = u.name) = some u)
    (hearlier : ∀ op' ∈ earlier, ∀ f ∈ askedFixtures c op', f.name = u.name →
      f.schema = u.schema) :
    (fixturesModule c ops).value.schema? u.name = some u.schema := by
  have htable : (fixturesModule c ops).value.fixtures.find? (·.name = u.name) =
      (ops.flatMap (askedFixtures c)).find? (·.name = u.name) :=
    find?_firsts List.not_mem_nil
  rw [FixturesModule.schema?, htable, hops, List.flatMap_append, List.find?_append]
  cases hfirst : (earlier.flatMap (askedFixtures c)).find? (·.name = u.name) with
  | none =>
      rw [List.flatMap_cons, List.find?_append, hown]
      rfl
  | some f =>
      have hname : f.name = u.name := by simpa using List.find?_some hfirst
      obtain ⟨op', hop', hf⟩ := List.mem_flatMap.mp (List.mem_of_find?_eq_some hfirst)
      rw [Option.some_or, Option.map_some, hearlier op' hop' f hf hname]

/-- The first response with some property is the first mocked one with another
property, if it is mocked and has it, and if no mocked response has the other
property alone. -/
theorem find?_mockedResponses {r : Response} {schema : String} {q : Response → Bool}
    {p : Response × String → Bool} (hfirst : op.responses.find? q = some r)
    (hmocked : mocked? c r = some (r, schema)) (hp : p (r, schema) = true)
    (himp : ∀ m ∈ mockedResponses c op, p m = true → q m.1 = true) :
    (mockedResponses c op).find? p = some (r, schema) := by
  have hfound : op.responses.find? (fun r' => (mocked? c r').any p) = some r := by
    apply find?_eq_some_of_imp hfirst
    · rw [hmocked]
      exact hp
    · intro r' hr' hany
      obtain ⟨m, hm, hpm⟩ := (Option.any_eq_true p (mocked? c r')).mp hany
      obtain ⟨rfl, _⟩ := mocked?_eq_some_iff.mp hm
      exact himp m (List.mem_filterMap.mpr ⟨m.1, hr', hm⟩) hpm
  rw [mockedResponses_eq, List.find?_filterMap, hfound, Option.bind_some, hmocked]

/-- **What an operation asks for first.**  If a response is the first with some
property that all responses of its slot with a schema have, then its fixture is
the first of its name that the operation asks for. -/
theorem find?_askedFixtures {r : Response} {schema : String} {q : Response → Bool}
    (hfirst : op.responses.find? q = some r) (hname : r.schemaName = some schema)
    (hwanted : r.status.isError = true → c.generateErrorMocks = true)
    (hslot : ∀ r' ∈ op.responses, r'.schemaName.isSome →
      Naming.slot r'.status = Naming.slot r.status → q r' = true) :
    (askedFixtures c op).find? (·.name = Naming.fixture op.id r.status) =
      some ⟨Naming.fixture op.id r.status, schema⟩ := by
  rw [askedFixtures, List.find?_map]
  refine Option.map_eq_some_iff.mpr ⟨(r, schema), ?_, rfl⟩
  apply find?_mockedResponses hfirst (mocked?_eq_some_iff.mpr ⟨rfl, hname, hwanted⟩)
  · simp
  · intro m hm hfixture
    obtain ⟨hmem, hschema, _⟩ := mem_mockedResponses.mp hm
    have hsame := (Naming.fixture_eq_fixture (of_decide_eq_true hfixture)).2
    exact hslot m.1 hmem (by rw [hschema]; rfl) hsame

/-- The fixture of a success is the first of its name, if the success is the first
with some property that all successes with a schema have. -/
theorem find?_askedFixtures_of_success {r : Response} {schema : String} {q : Response → Bool}
    (hfirst : op.responses.find? q = some r) (hname : r.schemaName = some schema)
    (hsuccess : r.status.isSuccess = true)
    (hall : ∀ r' ∈ op.responses, r'.schemaName.isSome → r'.status.isSuccess = true →
      q r' = true) :
    (askedFixtures c op).find? (·.name = Naming.fixture op.id r.status) =
      some ⟨Naming.fixture op.id r.status, schema⟩ := by
  apply find?_askedFixtures hfirst hname (wanted_of_isSuccess hsuccess)
  intro r' hr' hnamed hslot
  rw [Naming.slot_of_success hsuccess] at hslot
  exact hall r' hr' hnamed (Naming.slot_eq_none_iff.mp hslot)

/-- So it is if the success is the first of all. -/
theorem find?_askedFixtures_of_primarySuccess? {r : Response}
    (hfirst : op.primarySuccess? = some r) (hname : r.schemaName = some u.schema)
    (hfixture : u.name = Naming.fixture op.id r.status) :
    (askedFixtures c op).find? (·.name = u.name) = some u := by
  have hasked := find?_askedFixtures_of_success (c := c) hfirst hname
    (mem_of_primarySuccess? hfirst).2 fun _ _ _ hsuccess => hsuccess
  rw [← hfixture] at hasked
  exact hasked

/-- Who asks for the fixture of a success has a success. -/
theorem exists_primarySuccess?_of_asked {id : String} {s : Status} (hs : s.isSuccess = true)
    (hu : u ∈ askedFixtures c op) (hname : u.name = Naming.fixture id s) :
    lowerFirst op.id = lowerFirst id ∧ ∃ r, op.primarySuccess? = some r := by
  obtain ⟨r, hr, _, _, hfixture⟩ := mem_askedFixtures.mp hu
  obtain ⟨hlower, hslot⟩ := Naming.fixture_eq_fixture (hfixture.trans hname)
  rw [Naming.slot_of_success hs] at hslot
  have hsome : op.primarySuccess?.isSome :=
    List.find?_isSome.mpr ⟨r, hr, Naming.slot_eq_none_iff.mp hslot⟩
  exact ⟨hlower, Option.isSome_iff_exists.mp hsome⟩

/-! ## Mock classes -/

/-- A mock class that is asked for first reads the fixture that is asked for
first. -/
theorem class_find?_askedFixtures {k : MockClass}
    (h : AsksFirst (classCandidates c) MockClass.name earlier op k) :
    (askedFixtures c op).find? (·.name = k.use.name) = some k.use := by
  have hasked := h.asked
  rw [classCandidates, List.find?_map] at hasked
  obtain ⟨p, hp, rfl⟩ := Option.map_eq_some_iff.mp hasked
  rw [askedFixtures, List.find?_map]
  refine Option.map_eq_some_iff.mpr ⟨p, ?_, rfl⟩
  apply find?_eq_some_of_imp hp
  · simp [MockClass.use]
  · intro p' _ hfixture
    have hslot := (Naming.fixture_eq_fixture (of_decide_eq_true hfixture)).2
    exact decide_eq_true (Naming.mockClass_congr rfl hslot)

theorem exists_mem_classCandidates {m : Response × String} (hm : m ∈ mockedResponses c op) :
    ∃ k ∈ classCandidates c op, k.name = Naming.mockClass op.id m.1.status :=
  ⟨_, List.mem_map_of_mem hm, rfl⟩

/-- Who asks for the fixture of a mock class asks for a class of this name. -/
theorem class_unasked {k : MockClass}
    (hcasing : ∀ op' ∈ earlier, lowerFirst op'.id = lowerFirst op.id →
      capitalize op'.id = capitalize op.id)
    (h : AsksFirst (classCandidates c) MockClass.name earlier op k) :
    ∀ op' ∈ earlier, ∀ f ∈ askedFixtures c op', f.name ≠ k.use.name := by
  intro op' hop' f hf hname
  obtain ⟨m, _, rfl⟩ := List.mem_map.mp h.mem
  obtain ⟨m', hm', rfl⟩ := List.mem_map.mp hf
  obtain ⟨hlower, hslot⟩ := Naming.fixture_eq_fixture hname
  obtain ⟨k', hk', hclass⟩ := exists_mem_classCandidates hm'
  apply h.unasked op' hop' k' hk'
  rw [hclass]
  exact Naming.mockClass_congr (hcasing op' hop' hlower) hslot

/-! ## Service-worker handlers -/

/-- A service-worker handler reads the fixture that is asked for first. -/
theorem worker_find?_askedFixtures {h : Handler} (hh : workerCandidate? c op = some h)
    (hu : h.answer.use? = some u) :
    (askedFixtures c op).find? (·.name = u.name) = some u := by
  obtain ⟨r, hfirst, rfl⟩ := Option.map_eq_some_iff.mp hh
  obtain ⟨_, hname, hfixture⟩ := use?_workerAnswer hu
  exact find?_askedFixtures_of_primarySuccess? hfirst hname hfixture

/-- Who asks for the fixture of a service-worker handler asks for such a handler. -/
theorem worker_unasked {h : Handler}
    (hcasing : ∀ op' ∈ earlier, lowerFirst op'.id = lowerFirst op.id →
      capitalize op'.id = capitalize op.id)
    (hfirst : AsksFirst (fun o => (workerCandidate? c o).toList) Handler.name earlier op h)
    (hu : h.answer.use? = some u) :
    ∀ op' ∈ earlier, ∀ f ∈ askedFixtures c op', f.name ≠ u.name := by
  intro op' hop' f hf hname
  obtain ⟨r, hr, rfl⟩ := Option.map_eq_some_iff.mp (Option.mem_toList.mp hfirst.mem)
  obtain ⟨_, _, hfixture⟩ := use?_workerAnswer hu
  obtain ⟨hlower, r', hr'⟩ := exists_primarySuccess?_of_asked (mem_of_primarySuccess? hr).2 hf
    (hname.trans hfixture)
  have hasks : workerCandidate? c op' =
      some (handlerOf c op' (Naming.workerHandler op'.id) (workerAnswer op' r')) := by
    rw [workerCandidate?, hr', Option.map_some]
  apply hfirst.unasked op' hop' _ (Option.mem_toList.mpr hasks)
  exact congrArg ("mswMock" ++ ·) (hcasing op' hop' hlower)

/-! ## Route handlers -/

theorem isSuccess_eq_false_of_isError {s : Status} (h : s.isError = true) :
    s.isSuccess = false := by
  cases hs : s.isSuccess with
  | false => rfl
  | true => rw [isError_eq_false_of_isSuccess hs] at h; cases h

/-- The first error with a handler of some name has the first fixture of its
name, for a response of the same slot has the same status. -/
theorem error_find?_askedFixtures {h : Handler} {r : Response}
    (hfirst : op.errors.find? (fun e => (errorCandidate? c op e).any (·.name = h.name)) = some r)
    (hh : errorCandidate? c op r = some h) (hwanted : c.generateErrorMocks = true)
    (hu : h.answer.use? = some u) :
    (askedFixtures c op).find? (·.name = u.name) = some u := by
  have herror : r.status.isError = true :=
    (List.mem_filter.mp (List.mem_of_find?_eq_some hfirst)).2
  obtain ⟨schema, hname, rfl⟩ := errorCandidate?_eq_some hh
  cases hu
  rw [Operation.errors, List.find?_filter] at hfirst
  apply find?_askedFixtures hfirst hname fun _ => hwanted
  intro e _ hschema hslot
  have hstatus := Naming.eq_of_slot_eq hslot.symm (isSuccess_eq_false_of_isError herror)
  obtain ⟨other, hother⟩ := Option.isSome_iff_exists.mp hschema
  obtain ⟨g, hg, hgname⟩ := exists_errorCandidate? c op hother
  apply decide_eq_true
  refine ⟨hstatus ▸ herror, ?_⟩
  rw [hg]
  apply decide_eq_true
  rw [hgname, ← hstatus]
  rfl

/-- A route handler that is asked for first reads the fixture that is asked for
first. -/
theorem route_find?_askedFixtures {h : Handler}
    (hasked : (routeCandidates c op).find? (·.name = h.name) = some h)
    (hu : h.answer.use? = some u) :
    (askedFixtures c op).find? (·.name = u.name) = some u := by
  rw [routeCandidates_eq, List.find?_cons] at hasked
  split at hasked
  · obtain rfl := Option.some.inj hasked
    obtain ⟨r, hfirst, hname, hfixture⟩ := use?_routeAnswer hu
    exact find?_askedFixtures_of_primarySuccess? hfirst hname hfixture
  · split at hasked
    · rename_i herrors
      rw [List.find?_filterMap] at hasked
      obtain ⟨r, hfirst, hh⟩ := Option.bind_eq_some_iff.mp hasked
      exact error_find?_askedFixtures hfirst hh (Bool.and_eq_true_iff.mp herrors).2 hu
    · cases hasked

/-- An error of `op` whose fixture an earlier operation with the same id asks for
under another schema.  The earlier one has no handler for it, since its first
success has no fixture, so the handler of `op` is kept. -/
structure OvertakenBy (c : Config) (op' op : Operation) (u : Fixture) : Prop where
  wanted : c.generateErrorMocks = true
  id : lowerFirst op'.id = lowerFirst op.id
  error : ∃ r ∈ op.errors, r.schemaName = some u.schema ∧
    Naming.fixture op.id r.status = u.name
  earlierError : ∃ r ∈ op'.errors, ∃ other, other ≠ u.schema ∧ r.schemaName = some other ∧
    Naming.fixture op'.id r.status = u.name
  answered : (routeAnswer op).fixture?.isSome
  unanswered : (routeAnswer op').fixture? = none

/-- The use of a fixture that an operation in front has taken. -/
def Overtaken (c : Config) (ops : List Operation) (u : Fixture) : Prop :=
  ∃ earlier op later, ops = earlier ++ op :: later ∧ ∃ op' ∈ earlier, OvertakenBy c op' op u

/-- Every operation asks for a handler of its own, so the one that asks first has
no earlier operation with its id. -/
theorem main_unasked (hcasing : ∀ op' ∈ earlier, lowerFirst op'.id = lowerFirst op.id →
      capitalize op'.id = capitalize op.id)
    (hfirst : AsksFirst (routeCandidates c) Handler.name earlier op (mainHandler c op)) :
    ∀ op' ∈ earlier, lowerFirst op'.id ≠ lowerFirst op.id := by
  intro op' hop' hlower
  have hasks : mainHandler c op' ∈ routeCandidates c op' := mem_routeCandidates.mpr (.inl rfl)
  apply hfirst.unasked op' hop' _ hasks
  exact congrArg ("mock" ++ ·) (hcasing op' hop' hlower)

/-- With an answer of its own, an operation would ask for a handler of its error. -/
theorem unanswered_of_unasked {r : Response} {schema : String}
    (hwanted : c.generateErrorMocks = true) (hr : r ∈ op.errors)
    (hname : r.schemaName = some schema)
    (hunasked : ∀ h ∈ routeCandidates c op, h.name ≠ Naming.errorHandler op.id r.status) :
    (routeAnswer op).fixture? = none := by
  cases hanswer : (routeAnswer op).fixture? with
  | none => rfl
  | some fixture =>
      have herrors : handlesErrors c op = true :=
        Bool.and_eq_true_iff.mpr ⟨by rw [hanswer]; rfl, hwanted⟩
      obtain ⟨h, hh, hhandler⟩ := exists_errorCandidate? c op hname
      have hasks : h ∈ routeCandidates c op :=
        mem_routeCandidates.mpr (.inr ⟨herrors, r, hr, hh⟩)
      exact absurd hhandler (hunasked h hasks)

/-- Who asks for the fixture of a route handler under another schema either
asks for such a handler or overtakes it. -/
theorem route_overtakenBy {h : Handler}
    (hcasing : ∀ op' ∈ earlier, lowerFirst op'.id = lowerFirst op.id →
      capitalize op'.id = capitalize op.id)
    (hfirst : AsksFirst (routeCandidates c) Handler.name earlier op h)
    (hu : h.answer.use? = some u) :
    ∀ op' ∈ earlier, ∀ f ∈ askedFixtures c op', f.name = u.name → f.schema ≠ u.schema →
      OvertakenBy c op' op u := by
  intro op' hop' f hf hname hschema
  obtain ⟨r', hr', hname', _, hfixture'⟩ := mem_askedFixtures.mp hf
  rcases mem_routeCandidates.mp hfirst.mem with rfl | ⟨herrors, r, hr, hh⟩
  · obtain ⟨r, _, _, hfixture⟩ := use?_routeAnswer hu
    have hsame := Naming.fixture_eq_fixture (hfixture'.trans (hname.trans hfixture))
    exact absurd hsame.1 (main_unasked hcasing hfirst op' hop')
  · obtain ⟨schema, hrname, rfl⟩ := errorCandidate?_eq_some hh
    cases hu
    obtain ⟨hanswered, hwanted⟩ := Bool.and_eq_true_iff.mp herrors
    have herror : r.status.isError = true := (List.mem_filter.mp hr).2
    -- the other fixture comes from the same error of an operation with the same id
    obtain ⟨hlower, hslot⟩ := Naming.fixture_eq_fixture (hfixture'.trans hname)
    have hstatus := Naming.eq_of_slot_eq hslot.symm (isSuccess_eq_false_of_isError herror)
    have hr'error : r' ∈ op'.errors := List.mem_filter.mpr ⟨hr', hstatus ▸ herror⟩
    have hhandler : Naming.errorHandler op'.id r'.status = Naming.errorHandler op.id r.status := by
      rw [Naming.errorHandler, Naming.errorHandler, hcasing op' hop' hlower, hstatus]
    have hunanswered : (routeAnswer op').fixture? = none := by
      apply unanswered_of_unasked hwanted hr'error hname'
      intro g hg hgname
      exact hfirst.unasked op' hop' g hg (hgname.trans hhandler)
    exact ⟨hwanted, hlower, ⟨r, hr, hrname, rfl⟩,
      ⟨r', hr'error, f.schema, hschema, hname', hfixture'.trans hname⟩, hanswered, hunanswered⟩

/-! ## The table and the uses -/

/-- Every fixture that is used has the schema of its use in the table. -/
def UsesAgree (c : Config) (ops : List Operation) : Prop :=
  ∀ u ∈ (routesModule c ops).value.uses ++ (mockClassesModule c ops).value.uses ++
      (workerModule c ops).value.uses,
    (fixturesModule c ops).value.schema? u.name = some u.schema

instance (c : Config) (ops : List Operation) : Decidable (UsesAgree c ops) :=
  inferInstanceAs (Decidable (∀ u ∈ _, _))

/-- The casing of an operation and those in front of it. -/
theorem CasingAgrees.inFront (hcasing : CasingAgrees ops) (hops : ops = earlier ++ op :: later) :
    ∀ op' ∈ earlier, lowerFirst op'.id = lowerFirst op.id →
      capitalize op'.id = capitalize op.id := by
  intro op' hop'
  subst hops
  exact hcasing op' (List.mem_append_left _ hop') op (by simp)

/-- Mock classes read fixtures under the schemas of the table. -/
theorem classes_typed (hcasing : CasingAgrees ops) :
    ∀ u ∈ (mockClassesModule c ops).value.uses,
      (fixturesModule c ops).value.schema? u.name = some u.schema := by
  intro u hu
  obtain ⟨k, hk, rfl⟩ := List.mem_map.mp hu
  obtain ⟨earlier, op, later, hops, hfirst⟩ := mem_firsts_flatMap_iff.mp hk
  have hfree := class_unasked (hcasing.inFront hops) hfirst
  apply schema?_eq_of_earlier hops (class_find?_askedFixtures hfirst)
  intro op' hop' f hf hname
  exact absurd hname (hfree op' hop' f hf)

/-- So do service-worker handlers. -/
theorem worker_typed (hcasing : CasingAgrees ops) :
    ∀ u ∈ (workerModule c ops).value.uses,
      (fixturesModule c ops).value.schema? u.name = some u.schema := by
  intro u hu
  obtain ⟨h, hh, huse⟩ := List.mem_filterMap.mp hu
  have hkept : h ∈ firsts Handler.name [] (ops.filterMap (workerCandidate? c)) := hh
  rw [List.filterMap_eq_flatMap_toList] at hkept
  obtain ⟨earlier, op, later, hops, hfirst⟩ := mem_firsts_flatMap_iff.mp hkept
  have hfree := worker_unasked (hcasing.inFront hops) hfirst huse
  apply schema?_eq_of_earlier hops
    (worker_find?_askedFixtures (Option.mem_toList.mp hfirst.mem) huse)
  intro op' hop' f hf hname
  exact absurd hname (hfree op' hop' f hf)

/-- So do route handlers, but for errors whose fixture was overtaken. -/
theorem routes_typed (hcasing : CasingAgrees ops) :
    ∀ u ∈ (routesModule c ops).value.uses,
      (fixturesModule c ops).value.schema? u.name = some u.schema ∨ Overtaken c ops u := by
  intro u hu
  obtain ⟨h, hh, huse⟩ := List.mem_filterMap.mp hu
  obtain ⟨earlier, op, later, hops, hfirst⟩ := mem_firsts_flatMap_iff.mp hh
  have hovertaken := route_overtakenBy (hcasing.inFront hops) hfirst huse
  by_cases hsame : ∀ op' ∈ earlier, ∀ f ∈ askedFixtures c op', f.name = u.name →
      f.schema = u.schema
  · exact .inl (schema?_eq_of_earlier hops (route_find?_askedFixtures hfirst.asked huse) hsame)
  · simp only [not_forall] at hsame
    obtain ⟨op', hop', f, hf, hname, hschema⟩ := hsame
    exact .inr ⟨earlier, op, later, hops, op', hop', hovertaken op' hop' f hf hname hschema⟩

/-- **Uses are typed as the table is.**  Let the ids that agree with a small first
letter agree with a capital one.  Then every fixture that a mock class or a
service-worker handler reads has the schema of that use in the table.  So has
every fixture that a route handler reads, unless it belongs to an error whose
fixture was overtaken; without overtaken errors all uses agree with the table. -/
theorem uses_typed_as_table (c : Config) (ops : List Operation) (hcasing : CasingAgrees ops) :
    (∀ u ∈ (mockClassesModule c ops).value.uses ++ (workerModule c ops).value.uses,
      (fixturesModule c ops).value.schema? u.name = some u.schema) ∧
    (∀ u ∈ (routesModule c ops).value.uses,
      (fixturesModule c ops).value.schema? u.name = some u.schema ∨ Overtaken c ops u) ∧
    ((∀ u, ¬ Overtaken c ops u) → UsesAgree c ops) := by
  refine ⟨?_, routes_typed hcasing, ?_⟩
  · intro u hu
    rcases List.mem_append.mp hu with hu | hu
    · exact classes_typed hcasing u hu
    · exact worker_typed hcasing u hu
  · intro hnone u hu
    rcases List.mem_append.mp hu with hu | hu
    · rcases List.mem_append.mp hu with hu | hu
      · exact (routes_typed hcasing u hu).resolve_right (hnone u)
      · exact classes_typed hcasing u hu
    · exact worker_typed hcasing u hu

/-- Two operations with one id.  The first has no success, so it has no handler
for its error. -/
def sharedId : List Operation := [
  { id := "getUser", method := .get, path := "/users/{id}"
    responses := [{ status := 404, schemaName := "Gone" }] },
  { id := "getUser", method := .get, path := "/people/{id}"
    responses := [
      { status := 200, schemaName := "Person" },
      { status := 404, schemaName := "Missing" }] }]

/-- Two ids that differ in their first letter, the Kelvin sign and a small `k`,
and are the same with a small one: it is the small form of both letters. -/
def sharedSmallForm : List Operation := [
  { id := "\u212Aey", method := .get, path := "/a"
    responses := [{ status := 200, schemaName := "A" }] },
  { id := "key", method := .get, path := "/b"
    responses := [{ status := 200, schemaName := "B" }] }]

/-- Of operations with one id, mock class and table have the same error. -/
theorem schema?_shared_id :
    CasingAgrees sharedId ∧
    ⟨"getUserError404", "Gone"⟩ ∈ (mockClassesModule {} sharedId).value.uses ∧
    (fixturesModule {} sharedId).value.schema? "getUserError404" = some "Gone" := by
  have hcasing : CasingAgrees sharedId := by decide
  have huse : ⟨"getUserError404", "Gone"⟩ ∈ (mockClassesModule {} sharedId).value.uses := by decide
  have hagrees := (uses_typed_as_table {} sharedId hcasing).1
  exact ⟨hcasing, huse, hagrees _ (List.mem_append_left _ huse)⟩

/-- Uses and table can disagree: the handler of the second operation's error
reads the error of the first one, and where ids share a small form the second
mock class reads the data of the first one. -/
theorem not_usesAgree_shared : ¬ UsesAgree {} sharedId ∧ ¬ UsesAgree {} sharedSmallForm := by
  constructor
  · decide
  · decide

end ApiMocks.Emit
