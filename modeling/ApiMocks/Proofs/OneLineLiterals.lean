import ApiMocks.Proofs.EmittedIdentifiers
import ApiMocks.Proofs.ModuleLiterals

/-!
# Which generated literals are on one line

The literals of a bundle are texts of the templates, which have no line ends, and values
of the configuration and the paths, which can have any.  Escaping leaves line ends as
they are.  So all literals are tokens exactly if there are no line ends in those texts
that come into one: what modules import from, the base of the globs, and what stands
outside the placeholders of the paths.

* `Appears`, `HasClass`: the operations whose paths come into a literal;
* `Bundle.forall_literals_iff`: the literals, module by module;
* `literals_oneLine_iff`: the exact condition;
* `not_forall_literals_oneLine`: it does not always hold.
-/

namespace ApiMocks.Emit

open ApiMocks.Path

/-- The module that the data of the fixtures comes from. -/
def FixturesModule.sourceImport (m : FixturesModule) : String :=
  match m.strategy with
  | .static => m.buildersImport
  | .zod => m.zodImport

/-- The operation has a class in the module of mock classes. -/
def HasClass (c : Config) (ops : List Operation) (op : Operation) : Prop :=
  c.generateBuilders = true ∧
    ∃ k ∈ (mockClassesModule c ops).value.classes, k ∈ classCandidates c op

/-- The operation has a handler or a class in one of the modules. -/
def Appears (c : Config) (ops : List Operation) (op : Operation) : Prop :=
  (∃ h ∈ (routesModule c ops).value.handlers, h ∈ routeCandidates c op) ∨
  HasClass c ops op ∨
  c.generateMsw = true ∧
    ∃ h ∈ (workerModule c ops).value.handlers, h ∈ (workerCandidate? c op).toList

variable {c : Config} {op : Operation} {ops : List Operation} {b : Bundle} {s : String}

/-! ## Texts of the templates -/

theorem oneLine_method (m : Method) : (Literal.ofText m.name).OneLine := by
  cases m <;> decide

theorem oneLine_moduleName {modules : List String}
    (h : ∀ name ∈ modules, name ∈ ["fixtures", "routes", "builders", "msw"]) :
    ∀ l ∈ indexLiterals modules, l.OneLine := by
  have hall : ∀ name ∈ ["fixtures", "routes", "builders", "msw"],
      (Literal.ofText ("./" ++ name)).OneLine := by decide
  intro l hl
  obtain ⟨name, hname, rfl⟩ := List.mem_map.mp hl
  exact hall name (h name hname)

/-! ## Module by module -/

theorem Bundle.forall_literals_iff {p : Literal → Prop} :
    (∀ ls ∈ b.literals, ∀ l ∈ ls, p l) ↔
      (∀ l ∈ b.fixtures.literals, p l) ∧ (∀ l ∈ b.routes.routeLiterals, p l) ∧
      (∀ m ∈ b.builders, ∀ l ∈ m.literals, p l) ∧
      (∀ m ∈ b.worker, ∀ l ∈ m.workerLiterals, p l) ∧
      ∀ l ∈ indexLiterals (b.modules.map (·.1)), p l := by
  simp only [literals, List.forall_mem_append, List.forall_mem_cons, List.not_mem_nil,
    Option.mem_toList, Option.mem_def, Option.map_eq_some_iff]
  grind

theorem FixturesModule.oneLine_literals_iff {m : FixturesModule} :
    (∀ l ∈ m.literals, l.OneLine) ↔
      (m.fixtures ≠ [] → (Literal.ofText m.typesImport).OneLine ∧
        (Literal.ofText m.sourceImport).OneLine) := by
  have hmock : (Literal.ofText "@anatine/zod-mock").OneLine := by decide
  unfold literals sourceLiterals sourceImport
  by_cases hempty : m.fixtures = []
  · simp [hempty]
  · cases m.strategy <;> simp [hempty, hmock]

theorem oneLine_tableLiterals_iff :
    (∀ l ∈ tableLiterals s, l.OneLine) ↔ (Literal.ofText s).OneLine := by
  have htable : (Literal.ofText "./fixtures").OneLine := by decide
  simp [tableLiterals, htable]

theorem HandlersModule.oneLine_imports_iff {m : HandlersModule} :
    (∀ l ∈ m.importLiterals, l.OneLine) ↔
      (m.uses ≠ [] → (Literal.ofText m.typesImport).OneLine) := by
  unfold importLiterals
  split
  · rename_i huses
    rw [oneLine_tableLiterals_iff, forall_prop_of_true (m.usesFixtures_iff.mp huses)]
  · rename_i hnone
    exact iff_of_true nofun fun huses => absurd (m.usesFixtures_iff.mpr huses) hnone

/-- The literals of the routes module: its imports, and the globs. -/
theorem HandlersModule.oneLine_routes_iff {m : HandlersModule} :
    (∀ l ∈ m.routeLiterals, l.OneLine) ↔
      (m.uses ≠ [] → (Literal.ofText m.typesImport).OneLine) ∧
        ∀ h ∈ m.handlers, (Literal.ofText h.glob).OneLine := by
  have hpage : (Literal.ofText "@playwright/test").OneLine := by decide
  rw [routeLiterals, List.cons_append, List.forall_mem_cons, List.forall_mem_append,
    oneLine_imports_iff, and_iff_right hpage, List.forall_mem_flatMap]
  simp [Handler.routeLiterals, oneLine_method]

theorem HandlersModule.oneLine_worker_iff {m : HandlersModule} :
    (∀ l ∈ m.workerLiterals, l.OneLine) ↔
      (m.uses ≠ [] → (Literal.ofText m.typesImport).OneLine) ∧
        ∀ h ∈ m.handlers, (Literal.ofText h.glob).OneLine := by
  have hlibrary : (Literal.ofText "msw").OneLine := by decide
  have hhandler : ∀ h : Handler,
      (∀ l ∈ h.workerLiterals, l.OneLine) ↔ (Literal.ofText h.glob).OneLine := by
    intro h
    have hfunction : (Literal.ofText "function").OneLine := by decide
    unfold Handler.workerLiterals
    split <;> simp [hfunction]
  rw [workerLiterals, List.cons_append, List.forall_mem_cons, List.forall_mem_append,
    oneLine_imports_iff, and_iff_right hlibrary, List.forall_mem_flatMap]
  simp only [hhandler]

/-- The literals of the mock classes: their imports, the globs, and the expressions. -/
theorem MockClassesModule.oneLine_literals_iff {m : MockClassesModule} :
    (∀ l ∈ m.literals, l.OneLine) ↔
      (m.uses ≠ [] → (Literal.ofText m.typesImport).OneLine) ∧
        (∀ k ∈ m.classes, (Literal.ofText k.glob).OneLine) ∧
        ∀ k ∈ m.classes, (Literal.mk .regex k.pattern).OneLine := by
  have hpage : (Literal.ofText "@playwright/test").OneLine := by decide
  have himports : (∀ l ∈ m.importLiterals, l.OneLine) ↔
      (m.uses ≠ [] → (Literal.ofText m.typesImport).OneLine) := by
    unfold importLiterals uses
    split
    · rename_i hempty
      simp [List.isEmpty_iff.mp hempty]
    · rename_i hsome
      have hne : m.classes ≠ [] := fun h => hsome (List.isEmpty_iff.mpr h)
      simp [oneLine_tableLiterals_iff, hne]
  rw [literals, List.cons_append, List.forall_mem_cons, List.forall_mem_append,
    himports, and_iff_right hpage, List.forall_mem_flatMap, ← forall₂_and]
  simp [MockClass.literals, oneLine_method]

/-! ## What comes from the operations -/

/-- What is kept has a property of its operations exactly if the operations have it that
something is kept of. -/
theorem forall_kept_iff {α : Type} {name : α → String} {asks : Operation → List α}
    {p : α → Prop} {q : Operation → Prop} (h : ∀ op, ∀ x ∈ asks op, (p x ↔ q op)) :
    (∀ x ∈ firsts name [] (ops.flatMap asks), p x) ↔
      ∀ op ∈ ops, (∃ x ∈ firsts name [] (ops.flatMap asks), x ∈ asks op) → q op := by
  constructor
  · intro hall op _ hkept
    obtain ⟨x, hx, hasks⟩ := hkept
    exact (h op x hasks).mp (hall x hx)
  · intro hall x hx
    obtain ⟨op, hop, hasks⟩ := List.mem_flatMap.mp (mem_of_mem_firsts hx)
    exact (h op x hasks).mpr (hall op hop ⟨x, hx, hasks⟩)

theorem glob_of_route {h : Handler} (hh : h ∈ routeCandidates c op) :
    h.glob = glob op.path c.baseUrlPattern := by
  rcases mem_routeCandidates.mp hh with rfl | ⟨-, r, -, hcandidate⟩
  · rfl
  · obtain ⟨_, -, rfl⟩ := errorCandidate?_eq_some hcandidate
    rfl

theorem glob_of_worker {h : Handler} (hh : h ∈ (workerCandidate? c op).toList) :
    h.glob = glob op.path c.baseUrlPattern := by
  obtain ⟨_, -, rfl⟩ := Option.map_eq_some_iff.mp (Option.mem_toList.mp hh)
  rfl

theorem glob_of_class {k : MockClass} (hk : k ∈ classCandidates c op) :
    k.glob = glob op.path c.baseUrlPattern := by
  obtain ⟨_, -, rfl⟩ := List.mem_map.mp hk
  rfl

theorem pattern_of_class {k : MockClass} (hk : k ∈ classCandidates c op) :
    k.pattern = regexBody op.path := by
  obtain ⟨_, -, rfl⟩ := List.mem_map.mp hk
  rfl

/-- The expressions of the classes that are generated are those of paths. -/
theorem exists_pattern_eq : ∀ m ∈ (bundle c ops).value.builders, ∀ k ∈ m.classes,
    ∃ path, k.pattern = regexBody path := by
  intro m hm k hk
  obtain ⟨-, rfl⟩ := mem_when.mp hm
  obtain ⟨op, -, hasks⟩ := List.mem_flatMap.mp (mem_of_mem_firsts hk)
  exact ⟨op.path, pattern_of_class hasks⟩

/-- A module that reads a fixture is generated beside a table with one. -/
theorem fixtures_ne_nil_of_uses {uses : List Fixture} (hne : uses ≠ [])
    (hreads : uses ⊆ (bundle c ops).value.reads) : (bundle c ops).value.fixtures.fixtures ≠ [] := by
  obtain ⟨f, hf⟩ := List.exists_mem_of_ne_nil uses hne
  obtain ⟨op, hop, hasked⟩ := exists_asked_of_mem_reads (hreads hf)
  have hkey := mem_keys_of_mem_askedFixtures hop hasked
  obtain ⟨g, hg, -⟩ := List.mem_map.mp hkey
  exact List.ne_nil_of_mem hg

theorem forall_when_iff {α : Type} {isWanted : Bool} {step : Logged α} {p : α → Prop} :
    (∀ m ∈ (Logged.when isWanted step).value, p m) ↔ (isWanted = true → p step.value) := by
  constructor
  · intro h hwanted
    exact h _ (mem_when.mpr ⟨hwanted, rfl⟩)
  · intro h m hm
    obtain ⟨hwanted, rfl⟩ := mem_when.mp hm
    exact h hwanted

/-- What holds of the classes that are generated, by the operations that have one. -/
theorem forall_classes_iff {p : MockClass → Prop} {q : Operation → Prop}
    (h : ∀ op, ∀ k ∈ classCandidates c op, (p k ↔ q op)) :
    (∀ m ∈ (bundle c ops).value.builders, ∀ k ∈ m.classes, p k) ↔
      ∀ op ∈ ops, HasClass c ops op → q op := by
  have hkept : (∀ k ∈ (mockClassesModule c ops).value.classes, p k) ↔ ∀ op ∈ ops,
      (∃ k ∈ (mockClassesModule c ops).value.classes, k ∈ classCandidates c op) → q op :=
    forall_kept_iff h
  change (∀ m ∈ (Logged.when c.generateBuilders (mockClassesModule c ops)).value, _) ↔ _
  rw [forall_when_iff, hkept]
  simp only [HasClass, and_imp]
  exact ⟨fun hall op hop hwanted => hall hwanted op hop, fun hall hwanted op hop => hall op hop hwanted⟩

/-- What holds of the globs, by the operations that appear. -/
theorem forall_globs_iff {p : String → Prop} :
    ((∀ h ∈ (bundle c ops).value.routes.handlers, p h.glob) ∧
      (∀ m ∈ (bundle c ops).value.builders, ∀ k ∈ m.classes, p k.glob) ∧
      ∀ m ∈ (bundle c ops).value.worker, ∀ h ∈ m.handlers, p h.glob) ↔
      ∀ op ∈ ops, Appears c ops op → p (glob op.path c.baseUrlPattern) := by
  have hroutes : (∀ h ∈ (routesModule c ops).value.handlers, p h.glob) ↔ ∀ op ∈ ops,
      (∃ h ∈ (routesModule c ops).value.handlers, h ∈ routeCandidates c op) →
        p (glob op.path c.baseUrlPattern) :=
    forall_kept_iff fun _ _ hh => by rw [glob_of_route hh]
  have hclasses : (∀ m ∈ (bundle c ops).value.builders, ∀ k ∈ m.classes, p k.glob) ↔
      ∀ op ∈ ops, HasClass c ops op → p (glob op.path c.baseUrlPattern) :=
    forall_classes_iff fun _ _ hk => by rw [glob_of_class hk]
  have hworker : (∀ h ∈ (workerModule c ops).value.handlers, p h.glob) ↔ ∀ op ∈ ops,
      (∃ h ∈ (workerModule c ops).value.handlers, h ∈ (workerCandidate? c op).toList) →
        p (glob op.path c.baseUrlPattern) := by
    rw [workerModule_handlers]
    exact forall_kept_iff fun _ _ hh => by rw [glob_of_worker hh]
  change (∀ h ∈ (routesModule c ops).value.handlers, _) ∧ _ ∧
    (∀ m ∈ (Logged.when c.generateMsw (workerModule c ops)).value, _) ↔ _
  rw [hroutes, hclasses, forall_when_iff, hworker]
  simp only [Appears, or_imp, and_imp]
  grind

/-! ## Files and their literals -/

theorem exists_generate_eq_ok (h : c.isValid = true) (ops : List Operation) :
    ∃ out, generate c ops = .ok out ∧ out.value = (bundle c ops).value.files := by
  unfold generate
  rw [if_pos h]
  exact ⟨_, rfl, rfl⟩

/-- Reading finds the literals of the files, if the names have no delimiters. -/
theorem literalsIn_files
    (h : ∀ n ∈ (bundle c ops).value.identifiers, Without delimiters n.toList) :
    (bundle c ops).value.files.map (fun file => literalsIn .code file.content.toList) =
      (bundle c ops).value.literals := by
  rw [← List.forall₂_eq_eq_eq, List.forall₂_map_left_iff]
  refine (Bundle.made exists_pattern_eq).imp fun file ls hmade => ?_
  have hread := hmade.literalsIn_append h []
  rwa [List.append_nil, literalsIn, List.append_nil] at hread

/-- Whatever the names are, every literal stands in its file, and line ends are all that
can be wrong with it. -/
theorem literals_stand (c : Config) (ops : List Operation) :
    List.Forall₂ (fun (file : GeneratedFile) ls => ∀ l ∈ ls,
        (∃ front back, file.content = front ++ l.text ++ back) ∧ (l.IsToken ↔ l.OneLine))
      (bundle c ops).value.files (bundle c ops).value.literals := by
  refine (Bundle.made exists_pattern_eq).imp fun file ls hmade => ?_
  intro l hl
  exact ⟨hmade.exists_append hl, hmade.isToken_iff hl⟩

/-- All literals of a bundle are on one line if those are that hold a value of the
configuration or a path. -/
theorem forall_oneLine_iff :
    (∀ ls ∈ (bundle c ops).value.literals, ∀ l ∈ ls, l.OneLine) ↔
      ((bundle c ops).value.fixtures.fixtures ≠ [] →
        (Literal.ofText c.typesImport).OneLine ∧
          (Literal.ofText (bundle c ops).value.fixtures.sourceImport).OneLine) ∧
      (∀ op ∈ ops, Appears c ops op →
        (Literal.ofText (glob op.path c.baseUrlPattern)).OneLine) ∧
      (∀ op ∈ ops, HasClass c ops op → (Literal.ofPath op.path).OneLine) := by
  rw [Bundle.forall_literals_iff, FixturesModule.oneLine_literals_iff,
    HandlersModule.oneLine_routes_iff]
  simp only [MockClassesModule.oneLine_literals_iff, HandlersModule.oneLine_worker_iff]
  have hindex : ∀ l ∈ indexLiterals ((bundle c ops).value.modules.map (·.1)), l.OneLine :=
    oneLine_moduleName fun _ => mem_moduleNames
  have hglobs : _ ↔ ∀ op ∈ ops, Appears c ops op →
      (Literal.ofText (glob op.path c.baseUrlPattern)).OneLine :=
    forall_globs_iff (p := fun g => (Literal.ofText g).OneLine)
  have hclasses : (∀ m ∈ (bundle c ops).value.builders, ∀ k ∈ m.classes,
      (Literal.mk .regex k.pattern).OneLine) ↔
      ∀ op ∈ ops, HasClass c ops op → (Literal.ofPath op.path).OneLine :=
    forall_classes_iff fun op k hk => by rw [pattern_of_class hk]; rfl
  rw [← hglobs, ← hclasses]
  constructor
  · intro h
    obtain ⟨hfixtures, ⟨-, hroutes⟩, hbuilders, hworker, -⟩ := h
    exact ⟨hfixtures, ⟨hroutes, fun m hm => (hbuilders m hm).2.1, fun m hm => (hworker m hm).2⟩,
      fun m hm => (hbuilders m hm).2.2⟩
  · intro h
    obtain ⟨hfixtures, ⟨hroutes, hbuilders, hworker⟩, hpatterns⟩ := h
    -- other modules import the types too, but then the table has fixtures
    have himport : ∀ uses : List Fixture, uses ⊆ (bundle c ops).value.reads → uses ≠ [] →
        (Literal.ofText c.typesImport).OneLine :=
      fun _ hreads hne => (hfixtures (fixtures_ne_nil_of_uses hne hreads)).1
    refine ⟨hfixtures, ⟨himport _ ?_, hroutes⟩, ?_, ?_, hindex⟩
    · intro f hf
      simp [Bundle.reads, hf]
    · intro m hm
      have hreads : m.uses ⊆ (bundle c ops).value.reads := by
        intro f hf
        simp [Bundle.reads, Option.mem_def.mp hm, hf]
      refine ⟨?_, hbuilders m hm, hpatterns m hm⟩
      obtain ⟨-, rfl⟩ := mem_when.mp hm
      exact himport _ hreads
    · intro m hm
      have hreads : m.uses ⊆ (bundle c ops).value.reads := by
        intro f hf
        simp [Bundle.reads, Option.mem_def.mp hm, hf]
      refine ⟨?_, hworker m hm⟩
      obtain ⟨-, rfl⟩ := mem_when.mp hm
      exact himport _ hreads

/-- **Literals of the generated code are tokens exactly if no line ends in them.**  Whatever
the configuration and the operations, each literal stands in its file, with its delimiters
and backslashes in order, and if the names have no delimiters, then reading the files
finds these literals and no others.  No line ends in any of them exactly if none ends in
what the fixtures module imports from (if it has fixtures), in the base and in the literal
text of the paths of those operations that appear; for those with a mock class not with a
line or paragraph separator either. -/
theorem literals_oneLine_iff (c : Config) (ops : List Operation) :
    (c.isValid = true →
      ∃ out, generate c ops = .ok out ∧ out.value = (bundle c ops).value.files) ∧
    List.Forall₂ (fun (file : GeneratedFile) ls => ∀ l ∈ ls,
        (∃ front back, file.content = front ++ l.text ++ back) ∧ (l.IsToken ↔ l.OneLine))
      (bundle c ops).value.files (bundle c ops).value.literals ∧
    ((∀ n ∈ (bundle c ops).value.identifiers, Without delimiters n.toList) →
      (bundle c ops).value.files.map (fun file => literalsIn .code file.content.toList) =
        (bundle c ops).value.literals) ∧
    ((∀ ls ∈ (bundle c ops).value.literals, ∀ l ∈ ls, l.OneLine) ↔
      ((bundle c ops).value.fixtures.fixtures ≠ [] →
        Without LiteralKind.string.lineEnds c.typesImport.toList ∧
        Without LiteralKind.string.lineEnds (bundle c ops).value.fixtures.sourceImport.toList) ∧
      (∀ op ∈ ops, Appears c ops op →
        Without LiteralKind.string.lineEnds c.baseUrlPattern.toList ∧
        Without LiteralKind.string.lineEnds (literalText op.path)) ∧
      (∀ op ∈ ops, HasClass c ops op →
        Without LiteralKind.regex.lineEnds (literalText op.path))) := by
  refine ⟨fun hvalid => exists_generate_eq_ok hvalid ops, literals_stand c ops, literalsIn_files, ?_⟩
  rw [forall_oneLine_iff]
  simp only [oneLine_glob_iff]
  simp only [oneLine_ofText_iff, oneLine_ofPath_iff]

/-- An operation with a quote in its path. -/
def getOwner : Operation where
  id := "getOwner"
  method := .get
  path := "/owner's/{id}"
  responses := [{ status := 200, schemaName := "Owner" }]

set_option maxRecDepth 4000 in
/-- The quote does no harm. -/
theorem literals_oneLine_owner :
    ({} : Config).isValid = true ∧
    (∀ n ∈ (bundle {} [getOwner]).value.identifiers, Without delimiters n.toList) ∧
    (bundle {} [getOwner]).value.files.map (fun file => literalsIn .code file.content.toList) =
      (bundle {} [getOwner]).value.literals ∧
    ∀ ls ∈ (bundle {} [getOwner]).value.literals, ∀ l ∈ ls, l.OneLine := by
  have hnames : ∀ n ∈ (bundle {} [getOwner]).value.identifiers, Without delimiters n.toList := by
    decide +kernel
  obtain ⟨-, -, hread, hiff⟩ := literals_oneLine_iff {} [getOwner]
  refine ⟨by decide +kernel, hnames, hread hnames, hiff.mpr ⟨?_, ?_, ?_⟩⟩
  · intro _
    decide +kernel
  · intro op hop _
    obtain rfl := List.mem_singleton.mp hop
    decide +kernel
  · intro op hop _
    obtain rfl := List.mem_singleton.mp hop
    decide +kernel

/-- A literal of the files is found by reading. -/
theorem exists_file_of_mem_literals
    (h : ∀ n ∈ (bundle c ops).value.identifiers, Without delimiters n.toList)
    {l : Literal} (hl : ∃ ls ∈ (bundle c ops).value.literals, l ∈ ls) :
    ∃ file ∈ (bundle c ops).value.files, l ∈ literalsIn .code file.content.toList := by
  obtain ⟨ls, hls, hl⟩ := hl
  rw [← literalsIn_files h] at hls
  obtain ⟨file, hfile, rfl⟩ := List.mem_map.mp hls
  exact ⟨file, hfile, hl⟩

/-- An operation with a line end in its path. -/
def getTwoLines : Operation where
  id := "getTwoLines"
  method := .get
  path := "/a\nb"
  responses := [{ status := 200, schemaName := "Pet" }]

/-- **Not all literals are on one line**: the line ends within the glob and within the
expression. -/
theorem not_forall_literals_oneLine :
    (¬ ∀ c ops out, generate c ops = .ok out → ∀ file ∈ out.value,
      ∀ l ∈ literalsIn .code file.content.toList, l.kind = .string → l.OneLine) ∧
    ¬ ∀ c ops out, generate c ops = .ok out → ∀ file ∈ out.value,
      ∀ l ∈ literalsIn .code file.content.toList, l.kind = .regex → l.OneLine := by
  have hnames : ∀ n ∈ (bundle {} [getTwoLines]).value.identifiers,
      Without delimiters n.toList := by decide +kernel
  have hvalid : ({} : Config).isValid = true := by decide +kernel
  obtain ⟨out, hout, hfiles⟩ := exists_generate_eq_ok hvalid [getTwoLines]
  constructor
  · intro h
    obtain ⟨file, hfile, hl⟩ := exists_file_of_mem_literals hnames
      (l := .ofText "**/api/**/a\nb") (by decide +kernel)
    rw [← hfiles] at hfile
    exact absurd (h _ _ _ hout file hfile _ hl rfl) (by decide +kernel)
  · intro h
    obtain ⟨file, hfile, hl⟩ := exists_file_of_mem_literals hnames
      (l := .ofPath "/a\nb") (by decide +kernel)
    rw [← hfiles] at hfile
    exact absurd (h _ _ _ hout file hfile _ hl rfl) (by decide +kernel)

end ApiMocks.Emit
