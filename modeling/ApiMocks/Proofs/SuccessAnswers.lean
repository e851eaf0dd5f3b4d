import ApiMocks.Proofs.FixtureSchemas
import ApiMocks.Proofs.ResponseChoice
import Mathlib.Data.List.Nodup

/-!
# Which success is served

The table and every module with mocks have one name for all successes of an
operation, and each picks one of them on its own.  Table and mock classes pick
the smallest success with a schema name, since nothing else is mocked.  Handlers
pick the smallest success of all: without a schema name they answer with an empty
body, and a service worker does so too where the status never has a body.

So all of them serve one response exactly if the smallest success has a schema
name, and a body for the service worker.  This needs names that belong to one
operation; but ids can be made so that an error has the name of a success.

* `namedSuccess?`: the choice of table and mock classes;
* `HandlerTaken`, `ClassTaken`: an error in front has the name of a success;
* `routes_handler`, `classes_class`, `worker_handler`: what the modules have
  under the names of an operation;
* `successes_served`: what is served, and when it is the response of the table.
-/

namespace ApiMocks.Emit

open Text

/-! ## What is served under a name -/

/-- What the handler of some name answers with. -/
def HandlersModule.answer? (m : HandlersModule) (name : String) : Option Answer :=
  (m.handlers.find? (·.name = name)).map (·.answer)

/-- What a mock class answers with, if its data is not changed. -/
def MockClass.answer (k : MockClass) : Answer := .fixture k.status k.schema k.fixture

/-- What the mock class of some name answers with. -/
def MockClassesModule.answer? (m : MockClassesModule) (name : String) : Option Answer :=
  (m.classes.find? (·.name = name)).map MockClass.answer

/-- All modules that are generated give one answer for the success of an operation. -/
structure Bundle.Serves (b : Bundle) (id : String) (answer : Answer) : Prop where
  route : b.routes.answer? (Naming.handler id) = some answer
  mockClass : ∀ m ∈ b.builders, m.answer? (Naming.mockClass id 200) = some answer
  worker : ∀ m ∈ b.worker, m.answer? (Naming.workerHandler id) = some answer

/-- The response that the success entry of an operation is built from: the
smallest success with a schema name. -/
structure IsFixtureSource (op : Operation) (r : Response) : Prop where
  mem : r ∈ op.responses
  success : r.status.isSuccess = true
  named : r.schemaName.isSome
  smallest : ∀ r' ∈ op.responses, r'.status.isSuccess = true → r'.schemaName.isSome →
    r.status ≤ r'.status

/-- The ids are distinct, also where only their first letters differ in case, and
the responses are in ascending order. -/
structure Separate (ops : List Operation) : Prop where
  lower : (ops.map fun op => lowerFirst op.id).Nodup
  upper : (ops.map fun op => capitalize op.id).Nodup
  ascending : ∀ op ∈ ops, op.responses.Pairwise fun a b => a.status < b.status

/-- Every operation with a success entry is served the response of this entry. -/
def SuccessesAgree (c : Config) (ops : List Operation) : Prop :=
  ∀ op ∈ ops, ∀ schema,
    (bundle c ops).value.fixtures.schema? (Naming.fixture op.id 200) = some schema →
    ∃ source, IsFixtureSource op source ∧ source.schemaName = some schema ∧
      (bundle c ops).value.Serves op.id
        (.fixture source.status schema (Naming.fixture op.id source.status))

/-- An id is another one with an error behind it. -/
def IsErrorId (id other : String) (s : Status) : Prop :=
  capitalize id = capitalize other ++ "Error" ++ toString s

/-- The name of the route handler of `op` stands for an error in front of it. -/
def HandlerTaken (c : Config) (earlier : List Operation) (op : Operation) : Prop :=
  ∃ o ∈ earlier, handlesErrors c o = true ∧
    ∃ r ∈ o.errors, r.schemaName.isSome ∧ IsErrorId op.id o.id r.status

/-- The name of the mock class of the successes of `op` stands for another
response in front of it. -/
def ClassTaken (c : Config) (earlier : List Operation) (op : Operation) : Prop :=
  ∃ o ∈ earlier, ∃ m ∈ mockedResponses c o,
    m.1.status.isSuccess = false ∧ IsErrorId op.id o.id m.1.status

variable {c : Config} {op : Operation} {ops earlier later : List Operation}
  {source first : Response} {schema : String}

/-! ## Two choices -/

/-- The first success with a schema name. -/
def namedSuccess? (op : Operation) : Option Response :=
  op.responses.find? fun r => r.status.isSuccess && r.schemaName.isSome

theorem mem_of_namedSuccess? (h : namedSuccess? op = some source) :
    source ∈ op.responses ∧ source.status.isSuccess = true ∧ source.schemaName.isSome := by
  have hfound := List.find?_some (p := fun r : Response =>
    r.status.isSuccess && r.schemaName.isSome) h
  exact ⟨List.mem_of_find?_eq_some h, Bool.and_eq_true_iff.mp hfound⟩

/-- In ascending order the first success with a schema name is the smallest one. -/
theorem isFixtureSource_of_namedSuccess?
    (hascending : op.responses.Pairwise fun a b => a.status < b.status)
    (h : namedSuccess? op = some source) : IsFixtureSource op source := by
  obtain ⟨hmem, hfound, hsmallest⟩ := (find?_eq_some_iff_smallest hascending).mp h
  obtain ⟨hsuccess, hnamed⟩ := Bool.and_eq_true_iff.mp hfound
  refine ⟨hmem, hsuccess, hnamed, ?_⟩
  intro r' hr' hr'success hr'named
  exact hsmallest r' hr' (Bool.and_eq_true_iff.mpr ⟨hr'success, hr'named⟩)

/-- Who has a success with a schema name has a success. -/
theorem exists_primarySuccess?_of_namedSuccess? (h : namedSuccess? op = some source) :
    ∃ first, op.primarySuccess? = some first := by
  obtain ⟨hmem, hsuccess, _⟩ := mem_of_namedSuccess? h
  apply Option.isSome_iff_exists.mp
  exact List.find?_isSome.mpr ⟨source, hmem, hsuccess⟩

/-- The two choices are the same if the first success has a schema name. -/
theorem namedSuccess?_eq_primarySuccess? (hfirst : op.primarySuccess? = some first)
    (hnamed : first.schemaName.isSome) : namedSuccess? op = some first := by
  obtain ⟨_, hsuccess⟩ := mem_of_primarySuccess? hfirst
  apply find?_eq_some_of_imp hfirst
  · exact Bool.and_eq_true_iff.mpr ⟨hsuccess, hnamed⟩
  · intro r _ hr
    exact (Bool.and_eq_true_iff.mp hr).1

/-- The answer of the first success, by means of the choice of the table. -/
theorem answer_first (hfirst : op.primarySuccess? = some first)
    (hsource : namedSuccess? op = some source) (hschema : source.schemaName = some schema) :
    (fixtureAnswer? op first).getD (.empty first.status) =
      if first.schemaName.isSome then
        .fixture source.status schema (Naming.fixture op.id source.status)
      else .empty first.status := by
  split
  · rename_i hnamed
    have hsame := namedSuccess?_eq_primarySuccess? hfirst hnamed
    obtain rfl : source = first := Option.some.inj (hsource.symm.trans hsame)
    rw [fixtureAnswer?, hschema]
    rfl
  · rename_i hnone
    rw [fixtureAnswer?, Option.not_isSome_iff_eq_none.mp hnone]
    rfl

/-! ## What the modules have -/

/-- The operations in front have other values than `op`, if no value comes twice. -/
theorem ne_of_nodup_map {f : Operation → String} (h : (ops.map f).Nodup)
    (hops : ops = earlier ++ op :: later) : ∀ o ∈ earlier, f o ≠ f op := by
  intro o ho
  rw [hops, List.map_append, List.map_cons] at h
  exact (List.nodup_append.mp h).2.2 (f o) (List.mem_map_of_mem ho) (f op) List.mem_cons_self

/-- Who asks for a route handler of the name of `op` has its id, or takes the name
for an error. -/
theorem id_eq_or_handlerTaken {o : Operation} {h : Handler} (ho : o ∈ earlier)
    (hh : h ∈ routeCandidates c o) (hname : h.name = Naming.handler op.id) :
    capitalize o.id = capitalize op.id ∨ HandlerTaken c earlier op := by
  rcases mem_routeCandidates.mp hh with rfl | ⟨herrors, r, hr, hcandidate⟩
  · exact .inl (Naming.handler_inj hname)
  · obtain ⟨schema, hschema, rfl⟩ := errorCandidate?_eq_some hcandidate
    have hid : IsErrorId op.id o.id r.status := Naming.handler_eq_errorHandler.mp hname.symm
    exact .inr ⟨o, ho, herrors, r, hr, by rw [hschema]; rfl, hid⟩

/-- So it is with the mock class of a success. -/
theorem id_eq_or_classTaken {o : Operation} {k : MockClass} {s : Status} (ho : o ∈ earlier)
    (hk : k ∈ classCandidates c o) (hs : s.isSuccess = true)
    (hname : k.name = Naming.mockClass op.id s) :
    capitalize o.id = capitalize op.id ∨ ClassTaken c earlier op := by
  obtain ⟨m, hm, rfl⟩ := List.mem_map.mp hk
  rcases Naming.mockClass_eq_success hs hname with ⟨_, hid⟩ | ⟨hstatus, hid⟩
  · exact .inl hid
  · exact .inr ⟨o, ho, m, hm, hstatus, hid⟩

/-- The route handler of an operation is kept, if its name is not taken. -/
theorem find?_mainHandler (hops : ops = earlier ++ op :: later)
    (hother : ∀ o ∈ earlier, capitalize o.id ≠ capitalize op.id)
    (hfree : ¬ HandlerTaken c earlier op) :
    (routesModule c ops).value.handlers.find? (·.name = Naming.handler op.id) =
      some (mainHandler c op) := by
  have hasks : AsksFirst (routeCandidates c) Handler.name earlier op (mainHandler c op) := by
    constructor
    · rw [routeCandidates_eq]
      exact List.find?_cons_of_pos (decide_eq_true rfl)
    · intro o ho h hh hname
      rcases id_eq_or_handlerTaken ho hh hname with hid | htaken
      · exact hother o ho hid
      · exact hfree htaken
  exact find?_firsts_eq_some_iff.mpr ⟨earlier, op, later, hops, hasks⟩

/-- Then it answers under the name of the operation. -/
theorem routes_handler (hops : ops = earlier ++ op :: later)
    (hother : ∀ o ∈ earlier, capitalize o.id ≠ capitalize op.id)
    (hfree : ¬ HandlerTaken c earlier op) :
    (routesModule c ops).value.answer? (Naming.handler op.id) = some (routeAnswer op) := by
  rw [HandlersModule.answer?, find?_mainHandler hops hother hfree]
  rfl

/-- Of its own mock classes, an operation asks first for that of the first success
with a schema name. -/
theorem find?_classCandidates (hsource : namedSuccess? op = some source)
    (hschema : source.schemaName = some schema) :
    ∃ k, (classCandidates c op).find? (·.name = Naming.mockClass op.id 200) = some k ∧
      k.answer = .fixture source.status schema (Naming.fixture op.id source.status) := by
  obtain ⟨_, hsuccess, _⟩ := mem_of_namedSuccess? hsource
  have hname : Naming.mockClass op.id source.status = Naming.mockClass op.id 200 :=
    Naming.mockClass_congr rfl (Naming.slot_eq_of_success hsuccess rfl)
  have hmocked : mocked? c source = some (source, schema) :=
    mocked?_eq_some_iff.mpr ⟨rfl, hschema, wanted_of_isSuccess hsuccess⟩
  have hfound : (mockedResponses c op).find?
      (fun m => Naming.mockClass op.id m.1.status = Naming.mockClass op.id 200) =
        some (source, schema) := by
    apply find?_mockedResponses hsource hmocked (decide_eq_true hname)
    intro m hm hclass
    obtain ⟨_, hmschema, _⟩ := mem_mockedResponses.mp hm
    rcases Naming.mockClass_eq_success rfl (of_decide_eq_true hclass) with
      ⟨hmsuccess, _⟩ | ⟨_, hid⟩
    · exact Bool.and_eq_true_iff.mpr ⟨hmsuccess, by rw [hmschema]; rfl⟩
    · exact absurd hid (Naming.ne_append_error _ _)
  rw [classCandidates, List.find?_map]
  exact ⟨_, Option.map_eq_some_iff.mpr ⟨_, hfound, rfl⟩, rfl⟩

/-- That mock class is kept, if its name is not taken. -/
theorem classes_class (hops : ops = earlier ++ op :: later)
    (hother : ∀ o ∈ earlier, capitalize o.id ≠ capitalize op.id)
    (hfree : ¬ ClassTaken c earlier op) (hsource : namedSuccess? op = some source)
    (hschema : source.schemaName = some schema) :
    (mockClassesModule c ops).value.answer? (Naming.mockClass op.id 200) =
      some (.fixture source.status schema (Naming.fixture op.id source.status)) := by
  obtain ⟨k, hk, hanswer⟩ := find?_classCandidates (c := c) hsource hschema
  have hname : k.name = Naming.mockClass op.id 200 := by simpa using List.find?_some hk
  rw [← hname] at hk ⊢
  have hasks : AsksFirst (classCandidates c) MockClass.name earlier op k := by
    refine ⟨hk, ?_⟩
    intro o ho k' hk' hsame
    rcases id_eq_or_classTaken ho hk' rfl (hsame.trans hname) with hid | htaken
    · exact hother o ho hid
    · exact hfree htaken
  have hkept : (mockClassesModule c ops).value.classes.find? (·.name = k.name) = some k :=
    find?_firsts_eq_some_iff.mpr ⟨earlier, op, later, hops, hasks⟩
  rw [MockClassesModule.answer?, hkept, Option.map_some, hanswer]

/-- The service-worker handler of an operation with a success is kept. -/
theorem worker_handler (hops : ops = earlier ++ op :: later)
    (hother : ∀ o ∈ earlier, capitalize o.id ≠ capitalize op.id)
    (hfirst : op.primarySuccess? = some first) :
    (workerModule c ops).value.answer? (Naming.workerHandler op.id) =
      some (workerAnswer op first) := by
  have hcandidate : workerCandidate? c op =
      some (handlerOf c op (Naming.workerHandler op.id) (workerAnswer op first)) := by
    rw [workerCandidate?, hfirst, Option.map_some]
  have hasks : AsksFirst (fun o => (workerCandidate? c o).toList) Handler.name earlier op
      (handlerOf c op (Naming.workerHandler op.id) (workerAnswer op first)) := by
    constructor
    · rw [hcandidate]
      exact List.find?_cons_of_pos (decide_eq_true rfl)
    · intro o ho h hh hname
      obtain ⟨r, _, rfl⟩ := Option.map_eq_some_iff.mp (Option.mem_toList.mp hh)
      exact hother o ho ((String.append_right_inj "mswMock").mp hname)
  have hkept : (firsts Handler.name [] (ops.filterMap (workerCandidate? c))).find?
      (·.name = Naming.workerHandler op.id) =
        some (handlerOf c op (Naming.workerHandler op.id) (workerAnswer op first)) := by
    rw [List.filterMap_eq_flatMap_toList]
    exact find?_firsts_eq_some_iff.mpr ⟨earlier, op, later, hops, hasks⟩
  have hmodule : (workerModule c ops).value.handlers =
      firsts Handler.name [] (ops.filterMap (workerCandidate? c)) := rfl
  rw [HandlersModule.answer?, hmodule, hkept]
  rfl

/-- **The success entry of an operation** comes from its own first success with a
schema name, if no other operation has its id with a small first letter. -/
theorem namedSuccess?_of_entry (hlower : (ops.map fun o => lowerFirst o.id).Nodup)
    (hops : ops = earlier ++ op :: later)
    (hentry : (fixturesModule c ops).value.schema? (Naming.fixture op.id 200) = some schema) :
    ∃ source, namedSuccess? op = some source ∧ source.schemaName = some schema := by
  obtain ⟨f, hf, rfl⟩ := Option.map_eq_some_iff.mp hentry
  have hname : f.name = Naming.fixture op.id 200 := by simpa using List.find?_some hf
  have hkept : f ∈ firsts Fixture.name [] (ops.flatMap (askedFixtures c)) :=
    List.mem_of_find?_eq_some hf
  -- the operation that asks for the entry has the same small id
  obtain ⟨before, o, behind, hsplit, hasks⟩ := mem_firsts_flatMap_iff.mp hkept
  obtain ⟨r, hr, hschema, _, hfixture⟩ := mem_askedFixtures.mp hasks.mem
  obtain ⟨hid, hslot⟩ := Naming.fixture_eq_fixture (hfixture.trans hname)
  have ho : o ∈ ops := by rw [hsplit]; simp
  have hop : op ∈ ops := by rw [hops]; simp
  obtain rfl : o = op := List.inj_on_of_nodup_map hlower ho hop hid
  have hsome : (namedSuccess? o).isSome := by
    apply List.find?_isSome.mpr
    refine ⟨r, hr, Bool.and_eq_true_iff.mpr ⟨Naming.slot_eq_none_iff.mp hslot, ?_⟩⟩
    rw [hschema]
    rfl
  obtain ⟨source, hsource⟩ := Option.isSome_iff_exists.mp hsome
  obtain ⟨_, hsuccess, hnamed⟩ := mem_of_namedSuccess? hsource
  obtain ⟨own, hown⟩ := Option.isSome_iff_exists.mp hnamed
  refine ⟨source, hsource, ?_⟩
  -- it asks for its first success with a schema name first
  have hfirst := find?_askedFixtures_of_success (c := c) hsource hown hsuccess
    fun _ _ hnamed' hsuccess' => Bool.and_eq_true_iff.mpr ⟨hsuccess', hnamed'⟩
  have hsame : Naming.fixture o.id source.status = f.name := by
    rw [hname]
    exact Naming.fixture_congr (Naming.slot_eq_of_success hsuccess rfl)
  rw [hsame, hasks.asked] at hfirst
  rw [hown, Option.some.inj hfirst]

/-! ## What is served -/

/-- An answer that may be empty is the one with the fixture only in one case. -/
theorem ite_empty_eq_fixture {p : Prop} [Decidable p] {s t : Status} {name : String} :
    (if p then Answer.fixture s schema name else .empty t) = .fixture s schema name ↔ p := by
  split <;> simp_all

/-- When all modules give the answer with the fixture, if handlers may be empty. -/
theorem Bundle.serves_iff {b : Bundle} {id name : String} {s t : Status} {p q : Prop}
    [Decidable p] [Decidable q]
    (hroute : b.routes.answer? (Naming.handler id) =
      some (if p then .fixture s schema name else .empty t))
    (hclass : ∀ m ∈ b.builders, m.answer? (Naming.mockClass id 200) =
      some (.fixture s schema name))
    (hworker : ∀ m ∈ b.worker, m.answer? (Naming.workerHandler id) =
      some (if q then .fixture s schema name else .empty t)) :
    b.Serves id (.fixture s schema name) ↔ p ∧ ∀ m ∈ b.worker, q := by
  constructor
  · intro hserves
    have hp := hserves.route
    rw [hroute, Option.some_inj, ite_empty_eq_fixture] at hp
    refine ⟨hp, ?_⟩
    intro m hm
    have hq := hserves.worker m hm
    rwa [hworker m hm, Option.some_inj, ite_empty_eq_fixture] at hq
  · intro h
    obtain ⟨hp, hq⟩ := h
    refine ⟨?_, hclass, ?_⟩
    · rw [hroute, if_pos hp]
    · intro m hm
      rw [hworker m hm, if_pos (hq m hm)]

/-- The answer to a service worker, by means of the choice of the table. -/
theorem workerAnswer_first (hfirst : op.primarySuccess? = some first)
    (hsource : namedSuccess? op = some source) (hschema : source.schemaName = some schema) :
    workerAnswer op first =
      if first.schemaName.isSome ∧ first.status ≠ noContent then
        .fixture source.status schema (Naming.fixture op.id source.status)
      else .empty first.status := by
  unfold workerAnswer
  by_cases hbody : first.status = noContent
  · rw [if_pos hbody, if_neg fun h => h.2 hbody]
  · rw [if_neg hbody, answer_first hfirst hsource hschema]
    simp only [hbody, ne_eq, not_false_eq_true, and_true]

/-- **What is served for a success.**  Let operations be separate, and let the
table have a success entry of one of them.  The entry is built from the smallest
success with a schema name.  The handlers answer with the smallest success: by
means of the entry if it has a schema name, but a service worker never does so
where there is no body.  The mock class serves the response of the entry.  So all
that is generated serves this response exactly if the smallest success has a
schema name and, for the service worker, a body.  Route handler and mock class
are those of the operation unless an earlier error has taken their names. -/
theorem successes_served (c : Config) {ops earlier later : List Operation} {op : Operation}
    {schema : String} (hseparate : Separate ops) (hops : ops = earlier ++ op :: later)
    (hentry : (bundle c ops).value.fixtures.schema? (Naming.fixture op.id 200) = some schema) :
    ∃ source first, IsFixtureSource op source ∧ source.schemaName = some schema ∧
      IsSmallestSuccess op first ∧
      let b := (bundle c ops).value
      let answer := Answer.fixture source.status schema (Naming.fixture op.id source.status)
      (∀ m ∈ b.worker, m.answer? (Naming.workerHandler op.id) =
        some (if first.schemaName.isSome ∧ first.status ≠ noContent then answer
          else .empty first.status)) ∧
      (¬ HandlerTaken c earlier op → b.routes.answer? (Naming.handler op.id) =
        some (if first.schemaName.isSome then answer else .empty first.status)) ∧
      (¬ ClassTaken c earlier op →
        ∀ m ∈ b.builders, m.answer? (Naming.mockClass op.id 200) = some answer) ∧
      (¬ HandlerTaken c earlier op → ¬ ClassTaken c earlier op →
        (b.Serves op.id answer ↔
          first.schemaName.isSome ∧ (c.generateMsw = true → first.status ≠ noContent))) := by
  have hop : op ∈ ops := by rw [hops]; simp
  have hascending := hseparate.ascending op hop
  obtain ⟨source, hsource, hschema⟩ := namedSuccess?_of_entry hseparate.lower hops hentry
  obtain ⟨first, hfirst⟩ := exists_primarySuccess?_of_namedSuccess? hsource
  have hother := ne_of_nodup_map hseparate.upper hops
  refine ⟨source, first, isFixtureSource_of_namedSuccess? hascending hsource, hschema,
    (primarySuccess?_eq_some_iff hascending).mp hfirst, ?_⟩
  intro b answer
  have hworker : ∀ m ∈ b.worker, m.answer? (Naming.workerHandler op.id) =
      some (if first.schemaName.isSome ∧ first.status ≠ noContent then answer
        else .empty first.status) := by
    intro m hm
    obtain ⟨_, rfl⟩ := mem_when.mp hm
    rw [worker_handler hops hother hfirst, workerAnswer_first hfirst hsource hschema]
  have hroute : ¬ HandlerTaken c earlier op → b.routes.answer? (Naming.handler op.id) =
      some (if first.schemaName.isSome then answer else .empty first.status) := by
    intro hfree
    have hroutes := routes_handler hops hother hfree
    rw [routeAnswer, hfirst] at hroutes
    rw [← answer_first hfirst hsource hschema]
    exact hroutes
  have hclass : ¬ ClassTaken c earlier op →
      ∀ m ∈ b.builders, m.answer? (Naming.mockClass op.id 200) = some answer := by
    intro hfree m hm
    obtain ⟨_, rfl⟩ := mem_when.mp hm
    exact classes_class hops hother hfree hsource hschema
  refine ⟨hworker, hroute, hclass, ?_⟩
  intro hhandler hfree
  rw [Bundle.serves_iff (hroute hhandler) (hclass hfree) hworker]
  apply and_congr_right
  intro hnamed
  constructor
  · intro h hwanted
    exact (h _ (mem_when.mpr ⟨hwanted, rfl⟩)).2
  · intro h m hm
    exact ⟨hnamed, h (mem_when.mp hm).1⟩

/-- An operation whose smallest success has no schema name. -/
def createUser : Operation where
  id := "createUser"
  method := .post
  path := "/users"
  responses := [{ status := 200 }, { status := 201, schemaName := "Created" }]

/-- An operation whose success never has a body, but a schema name. -/
def deleteUser : Operation where
  id := "deleteUser"
  method := .delete
  path := "/users/{id}"
  responses := [{ status := 204, schemaName := "Deleted" }]

/-- An operation with an error. -/
def getUser : Operation where
  id := "getUser"
  method := .get
  path := "/users/{id}"
  responses := [{ status := 200, schemaName := "User" }, { status := 404, schemaName := "Missing" }]

/-- An operation that is named like this error. -/
def getUserError404 : Operation where
  id := "getUserError404"
  method := .get
  path := "/errors"
  responses := [{ status := 200, schemaName := "Errors" }]

/-- The operation in front is served the response of its entry. -/
theorem serves_get_user :
    Separate [getUser, getUserError404] ∧
    (bundle { generateMsw := true } [getUser, getUserError404]).value.fixtures.schema?
      (Naming.fixture "getUser" 200) = some "User" ∧
    ∃ source, IsFixtureSource getUser source ∧
      (bundle { generateMsw := true } [getUser, getUserError404]).value.Serves "getUser"
        (.fixture source.status "User" (Naming.fixture "getUser" source.status)) := by
  have hseparate : Separate [getUser, getUserError404] := ⟨by decide, by decide, by decide⟩
  have hentry : (bundle { generateMsw := true } [getUser, getUserError404]).value.fixtures.schema?
      (Naming.fixture "getUser" 200) = some "User" := by decide
  -- nothing is in front of the operation
  have hhandler : ¬ HandlerTaken { generateMsw := true } [] getUser := by simp [HandlerTaken]
  have hclass : ¬ ClassTaken { generateMsw := true } [] getUser := by simp [ClassTaken]
  have hops : [getUser, getUserError404] = [] ++ getUser :: [getUserError404] := rfl
  have hserved := successes_served { generateMsw := true } hseparate hops hentry
  obtain ⟨source, first, hsource, _, ⟨hfirst, hsuccess, _⟩, _, _, _, h⟩ := hserved
  refine ⟨hseparate, hentry, source, hsource, (h hhandler hclass).mpr ?_⟩
  simp only [getUser, List.mem_cons, List.not_mem_nil, or_false] at hfirst
  rcases hfirst with rfl | rfl
  · exact ⟨rfl, by decide⟩
  · cases hsuccess

/-- The modules do not always serve the response of the table: a smallest success
without a schema name is served instead, a service worker leaves out a body where
there is none, and an earlier error can have the names of a success. -/
theorem not_successesAgree :
    ({ generateMsw := true } : Config).isValid = true ∧
    ∀ ops ∈ [[createUser], [deleteUser], [getUser, getUserError404]],
      Separate ops ∧ ¬ SuccessesAgree { generateMsw := true } ops := by
  refine ⟨by decide, ?_⟩
  intro ops hops
  simp only [List.mem_cons, List.not_mem_nil, or_false] at hops
  rcases hops with rfl | rfl | rfl
  · refine ⟨⟨by decide, by decide, by decide⟩, ?_⟩
    intro hagree
    obtain ⟨_, _, _, hserves⟩ := hagree createUser (by simp) "Created" (by decide)
    have hempty : (routesModule { generateMsw := true } [createUser]).value.answer?
        (Naming.handler "createUser") = some (.empty 200) := by decide
    cases hempty.symm.trans hserves.route
  · refine ⟨⟨by decide, by decide, by decide⟩, ?_⟩
    intro hagree
    obtain ⟨_, _, _, hserves⟩ := hagree deleteUser (by simp) "Deleted" (by decide)
    have hempty : (workerModule { generateMsw := true } [deleteUser]).value.answer?
        (Naming.workerHandler "deleteUser") = some (.empty 204) := by decide
    cases hempty.symm.trans (hserves.worker _ rfl)
  · refine ⟨⟨by decide, by decide, by decide⟩, ?_⟩
    intro hagree
    obtain ⟨_, _, _, hserves⟩ := hagree getUserError404 (by simp) "Errors" (by decide)
    have herror : (routesModule { generateMsw := true } [getUser, getUserError404]).value.answer?
        (Naming.handler "getUserError404") = some (.fixture 404 "Missing" "getUserError404") := by
      decide
    have hschema : some (some "Missing") = some (some "Errors") :=
      congrArg (Option.map Answer.schema?) (herror.symm.trans hserves.route)
    exact absurd hschema (by decide)

end ApiMocks.Emit
