import ApiMocks.Proofs.SuccessAnswers

/-!
# Names that clash

Ids that differ with a capital first letter give different names to operations,
and the statuses of an operation give different names to its errors.  One clash is
left: an operation can be named like an error of another one, as `getUserError404`
is.  Then both ask for one handler or one mock class, and only one is kept.  Apart
from this no declaration is left out but what shares the success slot of its
operation: mock classes for its second and later successes.

* `HandlersClash`, `ClassesClash`: an operation is named like an error that has a
  handler, or like a response that has a mock class;
* `ownClasses`: the mock classes of an operation that have names of their own;
* `routes_apart_iff`, `classes_apart_iff`: names of operations are apart exactly
  without clashes;
* `all_kept_iff`: then, and only then, everything is kept.
-/

namespace ApiMocks.Emit

open Text

/-! ## Clashes -/

/-- Some operation is named like an error that has a route handler. -/
def HandlersClash (c : Config) (ops : List Operation) : Prop :=
  ∃ op ∈ ops, HandlerTaken c ops op

/-- Some operation with a mocked success is named like a response that is no
success and has a mock class. -/
def ClassesClash (c : Config) (ops : List Operation) : Prop :=
  ∃ op ∈ ops, (∃ m ∈ mockedResponses c op, m.1.status.isSuccess = true) ∧ ClassTaken c ops op

instance (id other : String) (s : Status) : Decidable (IsErrorId id other s) :=
  inferInstanceAs (Decidable (capitalize id = capitalize other ++ "Error" ++ toString s))

instance (c : Config) (ops : List Operation) (op : Operation) :
    Decidable (HandlerTaken c ops op) :=
  inferInstanceAs (Decidable (∃ o ∈ ops, handlesErrors c o = true ∧
    ∃ r ∈ o.errors, r.schemaName.isSome ∧ IsErrorId op.id o.id r.status))

instance (c : Config) (ops : List Operation) (op : Operation) : Decidable (ClassTaken c ops op) :=
  inferInstanceAs (Decidable (∃ o ∈ ops, ∃ m ∈ mockedResponses c o,
    m.1.status.isSuccess = false ∧ IsErrorId op.id o.id m.1.status))

instance (c : Config) (ops : List Operation) : Decidable (HandlersClash c ops) :=
  inferInstanceAs (Decidable (∃ op ∈ ops, HandlerTaken c ops op))

instance (c : Config) (ops : List Operation) : Decidable (ClassesClash c ops) :=
  inferInstanceAs (Decidable (∃ op ∈ ops,
    (∃ m ∈ mockedResponses c op, m.1.status.isSuccess = true) ∧ ClassTaken c ops op))

/-- The classes without those of the second and later successes. -/
def withoutLaterSuccesses : List MockClass → List MockClass
  | [] => []
  | k :: rest =>
    if k.status.isSuccess then k :: rest.filter (!·.status.isSuccess)
    else k :: withoutLaterSuccesses rest

/-- The mock classes of an operation that have names of their own. -/
def ownClasses (c : Config) (op : Operation) : List MockClass :=
  withoutLaterSuccesses (classCandidates c op)

variable {c : Config} {op o p : Operation} {ops : List Operation}

/-! ## Within an operation -/

/-- Errors of different statuses have route handlers of different names. -/
theorem nodup_errorCandidates (hstatuses : (op.responses.map (·.status)).Nodup) :
    ((op.errors.filterMap (errorCandidate? c op)).map Handler.name).Nodup := by
  have hsublist : (op.errors.map (·.status)).Sublist (op.responses.map (·.status)) :=
    List.filter_sublist.map _
  have hdistinct := hstatuses.sublist hsublist
  rw [List.Nodup, List.pairwise_map] at hdistinct ⊢
  apply List.pairwise_filterMap.mpr
  apply hdistinct.imp
  intro r r' hne h hh h' hh' hname
  obtain ⟨_, _, rfl⟩ := errorCandidate?_eq_some hh
  obtain ⟨_, _, rfl⟩ := errorCandidate?_eq_some hh'
  exact hne (Naming.errorHandler_inj hname).2

/-- So an operation asks for route handlers of different names: its own one has a
shorter name than those of its errors. -/
theorem nodup_routeCandidates (hstatuses : (op.responses.map (·.status)).Nodup) :
    ((routeCandidates c op).map Handler.name).Nodup := by
  rw [routeCandidates_eq, List.map_cons]
  split
  · apply List.nodup_cons.mpr
    refine ⟨?_, nodup_errorCandidates hstatuses⟩
    intro hmem
    obtain ⟨h, hh, hname⟩ := List.mem_map.mp hmem
    obtain ⟨r, _, hcandidate⟩ := List.mem_filterMap.mp hh
    obtain ⟨_, _, rfl⟩ := errorCandidate?_eq_some hcandidate
    exact Naming.ne_append_error _ _ (Naming.handler_eq_errorHandler.mp hname.symm)
  · exact List.nodup_singleton _

theorem nodup_statuses_classCandidates (hstatuses : (op.responses.map (·.status)).Nodup) :
    ((classCandidates c op).map (·.status)).Nodup := by
  rw [List.Nodup, List.pairwise_map] at hstatuses ⊢
  rw [classCandidates, List.pairwise_map, mockedResponses_eq]
  apply List.pairwise_filterMap.mpr
  apply hstatuses.imp
  intro r r' hne m hm m' hm'
  obtain ⟨rfl, _⟩ := mocked?_eq_some_iff.mp hm
  obtain ⟨rfl, _⟩ := mocked?_eq_some_iff.mp hm'
  exact hne

/-- Classes of one id have different names, if none serves a success. -/
theorem nodup_names_of_not_success (id : String) {classes : List MockClass}
    (hnames : ∀ k ∈ classes, k.name = Naming.mockClass id k.status)
    (hstatuses : (classes.map (·.status)).Nodup)
    (hother : ∀ k ∈ classes, k.status.isSuccess = false) :
    (classes.map MockClass.name).Nodup := by
  rw [List.Nodup, List.pairwise_map] at hstatuses ⊢
  apply hstatuses.imp_of_mem
  intro k k' hk hk' hne hname
  rw [hnames k hk, hnames k' hk', Naming.mockClass_eq_iff, hother k hk] at hname
  simp [hne] at hname

/-- Of classes of one id, whose names are free, all are kept but those of the
later successes. -/
theorem firsts_eq_withoutLaterSuccesses (id : String) {classes : List MockClass}
    {taken : List String} (hnames : ∀ k ∈ classes, k.name = Naming.mockClass id k.status)
    (hstatuses : (classes.map (·.status)).Nodup) (hfree : ∀ k ∈ classes, k.name ∉ taken) :
    firsts MockClass.name taken classes = withoutLaterSuccesses classes := by
  induction classes generalizing taken with
  | nil => rfl
  | cons k rest ih =>
      obtain ⟨hk, hrest⟩ := List.nodup_cons.mp hstatuses
      obtain ⟨hname, hnames'⟩ := List.forall_mem_cons.mp hnames
      obtain ⟨hfree₀, hfree'⟩ := List.forall_mem_cons.mp hfree
      -- only two successes can share a name
      have hstillFree : ∀ k' ∈ rest, ¬ (k'.status.isSuccess = true ∧ k.status.isSuccess = true) →
          k'.name ∉ k.name :: taken := by
        intro k' hk' hnot hmem
        rcases List.mem_cons.mp hmem with hsame | hmem
        · rw [hname, hnames' k' hk', Naming.mockClass_eq_iff] at hsame
          rcases hsame with hstatus | hsuccesses
          · exact hk (List.mem_map.mpr ⟨k', hk', hstatus⟩)
          · exact hnot hsuccesses
        · exact hfree' k' hk' hmem
      rw [firsts, if_neg hfree₀, withoutLaterSuccesses]
      split
      · rename_i hsuccess
        congr 1
        apply firsts_eq_filter
        · intro k' hk' hlater
          have hsame : k'.name = k.name := by
            rw [hname, hnames' k' hk', Naming.mockClass_eq_iff]
            exact .inr ⟨by simpa using hlater, hsuccess⟩
          exact List.mem_cons.mpr (.inl hsame)
        · intro k' hk' hother
          exact hstillFree k' hk' (by simpa [hsuccess] using hother)
        · apply nodup_names_of_not_success id
          · exact fun k' hk' => hnames' k' (List.mem_filter.mp hk').1
          · exact hrest.sublist (List.filter_sublist.map _)
          · exact fun k' hk' => by simpa using (List.mem_filter.mp hk').2
      · rename_i hother
        congr 1
        exact ih hnames' hrest fun k' hk' => hstillFree k' hk' fun h => hother h.2

theorem firsts_routeCandidates (hstatuses : (op.responses.map (·.status)).Nodup) :
    firsts Handler.name [] (routeCandidates c op) = routeCandidates c op :=
  firsts_eq_self (nodup_routeCandidates hstatuses)

/-- Alone, an operation keeps all mock classes with names of their own. -/
theorem firsts_classCandidates (hstatuses : (op.responses.map (·.status)).Nodup) :
    firsts MockClass.name [] (classCandidates c op) = ownClasses c op := by
  have hnames : ∀ k ∈ classCandidates c op, k.name = Naming.mockClass op.id k.status := by
    intro k hk
    obtain ⟨m, _, rfl⟩ := List.mem_map.mp hk
    rfl
  exact firsts_eq_withoutLaterSuccesses op.id hnames (nodup_statuses_classCandidates hstatuses)
    fun _ _ => List.not_mem_nil

/-! ## Between operations -/

theorem IsErrorId.ne {id other : String} {s : Status} (h : IsErrorId id other s) :
    capitalize id ≠ capitalize other := by
  intro heq
  exact Naming.ne_append_error _ s (heq.symm.trans h)

/-- Operations of different ids ask for route handlers of different names exactly
if none is named like an error. -/
theorem routes_apart_iff (hupper : (ops.map fun op => capitalize op.id).Nodup) :
    (∀ o ∈ ops, ∀ p ∈ ops, o ≠ p → NamesApart (routeCandidates c) Handler.name o p) ↔
      ¬ HandlersClash c ops := by
  constructor
  · -- who clashes asks for the handler of the error too
    intro hapart hclash
    obtain ⟨op, hop, o, ho, herrors, r, hr, hnamed, hid⟩ := hclash
    obtain ⟨schema, hschema⟩ := Option.isSome_iff_exists.mp hnamed
    obtain ⟨h, hcandidate, hname⟩ := exists_errorCandidate? c o hschema
    have hmain : mainHandler c op ∈ routeCandidates c op := mem_routeCandidates.mpr (.inl rfl)
    have herror : h ∈ routeCandidates c o :=
      mem_routeCandidates.mpr (.inr ⟨herrors, r, hr, hcandidate⟩)
    have hne : op ≠ o := fun heq => hid.ne (heq ▸ rfl)
    apply hapart op hop o ho hne (mainHandler c op) hmain h herror
    rw [hname]
    exact Naming.handler_eq_errorHandler.mpr hid
  · intro hfree o ho p hp hne x hx y hy hname
    have hid : capitalize o.id ≠ capitalize p.id :=
      fun heq => hne (List.inj_on_of_nodup_map hupper ho hp heq)
    -- only with one handler of an operation and one of an error is there a clash
    rcases mem_routeCandidates.mp hx with rfl | ⟨_, r, _, hxr⟩
    · rcases id_eq_or_handlerTaken hp hy hname.symm with heq | htaken
      · exact hid heq.symm
      · exact hfree ⟨o, ho, htaken⟩
    · rcases mem_routeCandidates.mp hy with rfl | ⟨_, r', _, hyr⟩
      · rcases id_eq_or_handlerTaken ho hx hname with heq | htaken
        · exact hid heq
        · exact hfree ⟨p, hp, htaken⟩
      · obtain ⟨_, _, rfl⟩ := errorCandidate?_eq_some hxr
        obtain ⟨_, _, rfl⟩ := errorCandidate?_eq_some hyr
        exact hid (Naming.errorHandler_inj hname).1

theorem classes_apart_iff (hupper : (ops.map fun op => capitalize op.id).Nodup) :
    (∀ o ∈ ops, ∀ p ∈ ops, o ≠ p → NamesApart (classCandidates c) MockClass.name o p) ↔
      ¬ ClassesClash c ops := by
  constructor
  · intro hapart hclash
    obtain ⟨op, hop, ⟨m, hm, hsuccess⟩, o, ho, m', hm', hother, hid⟩ := hclash
    obtain ⟨k, hk, hname⟩ := exists_mem_classCandidates hm
    obtain ⟨k', hk', hname'⟩ := exists_mem_classCandidates hm'
    have hne : op ≠ o := fun heq => hid.ne (heq ▸ rfl)
    apply hapart op hop o ho hne k hk k' hk'
    rw [hname, hname']
    exact (Naming.mockClass_eq_of_error hother hsuccess hid).symm
  · intro hfree o ho p hp hne x hx y hy hname
    have hid : capitalize o.id ≠ capitalize p.id :=
      fun heq => hne (List.inj_on_of_nodup_map hupper ho hp heq)
    obtain ⟨m, hm, hxm⟩ := List.mem_map.mp hx
    obtain ⟨m', hm', hym⟩ := List.mem_map.mp hy
    have hxname : x.name = Naming.mockClass o.id m.1.status := by rw [← hxm]
    have hyname : y.name = Naming.mockClass p.id m'.1.status := by rw [← hym]
    -- only with one class of a success and one of another response is there a clash
    cases hsuccess : m.1.status.isSuccess with
    | true =>
        rcases id_eq_or_classTaken hp hy hsuccess (hname.symm.trans hxname) with heq | htaken
        · exact hid heq.symm
        · exact hfree ⟨o, ho, ⟨m, hm, hsuccess⟩, htaken⟩
    | false =>
        cases hsuccess' : m'.1.status.isSuccess with
        | true =>
            rcases id_eq_or_classTaken ho hx hsuccess' (hname.trans hyname) with heq | htaken
            · exact hid heq
            · exact hfree ⟨p, hp, ⟨m', hm', hsuccess'⟩, htaken⟩
        | false =>
            rw [hxname, hyname] at hname
            exact hid (Naming.mockClass_eq_not_success hsuccess hsuccess' hname).1

/-! ## What is kept -/

/-- Operations with ids that are different in their capital forms keep their own
declarations exactly if no name of one is that of another. -/
theorem keeps_own_iff {α : Type} {asks own : Operation → List α} {name : α → String}
    {clash : Prop} (hupper : (ops.map fun op => capitalize op.id).Nodup)
    (hown : ∀ op ∈ ops, firsts name [] (asks op) = own op)
    (hapart : (∀ o ∈ ops, ∀ p ∈ ops, o ≠ p → NamesApart asks name o p) ↔ ¬ clash) :
    firsts name [] (ops.flatMap asks) = ops.flatMap own ↔ ¬ clash := by
  rw [← hapart, ← firsts_flatMap_iff hupper.of_map, List.flatMap_congr hown]

/-- **What is kept of all that is asked for.**  Let ids differ with capital first
letters, and let the statuses of each operation differ.  All route handlers are
kept exactly if no operation is named like an error that has a handler; then the
handler that is found under the name of an operation is its own.  All mock classes
but those of the second and later successes of an operation are kept exactly if no
operation with a mocked success is named like another mocked response. -/
theorem all_kept_iff (c : Config) (ops : List Operation)
    (hupper : (ops.map fun op => capitalize op.id).Nodup)
    (hstatuses : ∀ op ∈ ops, (op.responses.map (·.status)).Nodup) :
    ((routesModule c ops).value.handlers = ops.flatMap (routeCandidates c) ↔
      ¬ HandlersClash c ops) ∧
    (¬ HandlersClash c ops → ∀ op ∈ ops,
      (routesModule c ops).value.handlers.find? (·.name = Naming.handler op.id) =
        some (handlerOf c op (Naming.handler op.id) (routeAnswer op))) ∧
    ((mockClassesModule c ops).value.classes = ops.flatMap (ownClasses c) ↔
      ¬ ClassesClash c ops) := by
  have hhandlers : (routesModule c ops).value.handlers = ops.flatMap (routeCandidates c) ↔
      ¬ HandlersClash c ops := by
    rw [routesModule_handlers]
    exact keeps_own_iff hupper (fun op hop => firsts_routeCandidates (hstatuses op hop))
      (routes_apart_iff hupper)
  have hclasses : (mockClassesModule c ops).value.classes = ops.flatMap (ownClasses c) ↔
      ¬ ClassesClash c ops := by
    rw [mockClassesModule_classes]
    exact keeps_own_iff hupper (fun op hop => firsts_classCandidates (hstatuses op hop))
      (classes_apart_iff hupper)
  refine ⟨hhandlers, ?_, hclasses⟩
  intro hfree op hop
  have hmain : mainHandler c op ∈ routeCandidates c op := mem_routeCandidates.mpr (.inl rfl)
  have hkept : mainHandler c op ∈ (routesModule c ops).value.handlers := by
    rw [hhandlers.mpr hfree]
    exact List.mem_flatMap.mpr ⟨op, hop, hmain⟩
  rw [routesModule_handlers] at hkept ⊢
  exact mem_firsts_iff_find?.mp hkept

/-- An operation with two successes. -/
def listPets : Operation where
  id := "listPets"
  method := .get
  path := "/pets"
  responses := [{ status := 200, schemaName := "Pets" }, { status := 206, schemaName := "Page" }]

/-- An operation with an error and one with two successes keep all they ask for, but
the class of the second success. -/
theorem kept_get_user_list_pets :
    ([getUser, listPets].map fun op => capitalize op.id).Nodup ∧
    (∀ op ∈ [getUser, listPets], (op.responses.map (·.status)).Nodup) ∧
    ¬ HandlersClash {} [getUser, listPets] ∧ ¬ ClassesClash {} [getUser, listPets] ∧
    (routesModule {} [getUser, listPets]).value.handlers =
      [getUser, listPets].flatMap (routeCandidates {}) ∧
    (mockClassesModule {} [getUser, listPets]).value.classes =
      [getUser, listPets].flatMap (ownClasses {}) := by
  have hupper : ([getUser, listPets].map fun op => capitalize op.id).Nodup := by decide
  have hstatuses : ∀ op ∈ [getUser, listPets], (op.responses.map (·.status)).Nodup := by decide
  have hhandlers : ¬ HandlersClash {} [getUser, listPets] := by decide
  have hclasses : ¬ ClassesClash {} [getUser, listPets] := by decide
  obtain ⟨hroutes, _, hmocks⟩ := all_kept_iff {} [getUser, listPets] hupper hstatuses
  exact ⟨hupper, hstatuses, hhandlers, hclasses, hroutes.mpr hhandlers, hmocks.mpr hclasses⟩

/-- An operation that is named like an error of another one has neither a route
handler nor a mock class, though all ids and statuses differ. -/
theorem not_kept_get_user_error :
    ([getUser, getUserError404].map fun op => capitalize op.id).Nodup ∧
    (∀ op ∈ [getUser, getUserError404], (op.responses.map (·.status)).Nodup) ∧
    (routesModule {} [getUser, getUserError404]).value.handlers ≠
      [getUser, getUserError404].flatMap (routeCandidates {}) ∧
    (∀ h ∈ (routesModule {} [getUser, getUserError404]).value.handlers,
      h.glob ≠ Path.glob getUserError404.path "**/api/**") ∧
    (mockClassesModule {} [getUser, getUserError404]).value.classes ≠
      [getUser, getUserError404].flatMap (ownClasses {}) ∧
    (∀ k ∈ (mockClassesModule {} [getUser, getUserError404]).value.classes,
      k.glob ≠ Path.glob getUserError404.path "**/api/**") := by
  refine ⟨?_, ?_, ?_, ?_, ?_, ?_⟩ <;> decide

end ApiMocks.Emit
