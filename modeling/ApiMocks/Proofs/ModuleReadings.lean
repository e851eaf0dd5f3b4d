import ApiMocks.Proofs.DeclarationReading

/-!
# The modules, read from their texts

A module is a header, its imports, and its declarations in a row.  A reader that looks at the
text only finds the imports and the declarations again: every handler with its method, its
glob and its answer, every mock class with all that it is made from, and every fixture with
its schema and the code of its value.  A declaration is read in front of whatever comes behind
it, so the law of a module follows from that of one declaration.

Two conditions are about texts that cannot be told from the template around them.  Names or
paths with line ends may look like lines of their own, so then the lines are those that were
put together, not those of the text.  The name of a service-worker handler that takes data
has types behind it on the same line, and ends where they begin if it has no blank; any other
name of that kind is seen in the lines of its handler only.

* `Handler.parts` and its siblings: the texts that a module puts into its template;
* `Handler.readRoute?_eq`, `Handler.readWorker?_eq`, `MockClass.readClass?_eq`,
  `Fixture.readFixture?_eq`: the declarations, one by one;
* `Handler.read_route`, `Handler.read_worker`, `MockClass.read`: in front of other lines;
* `HandlersModule.routesRead`, `HandlersModule.workerRead`, `MockClassesModule.textRead`,
  `FixturesModule.textRead`: the texts of the modules.
-/

namespace ApiMocks.Emit

/-! ## Parts -/

/-- The texts that a handler puts into its template. -/
def Handler.parts (h : Handler) : List String :=
  match h.answer with
  | .empty _ => [h.name, h.glob]
  | .fixture _ schema key => [h.name, h.glob, schema, key]

/-- The texts of a module with handlers. -/
def HandlersModule.parts (m : HandlersModule) : List String :=
  m.typesImport :: m.handlers.flatMap Handler.parts

/-- The texts that a mock class puts into its template. -/
def MockClass.parts (k : MockClass) : List String :=
  [k.name, k.schema, k.glob, k.pattern, k.fixture]

/-- The texts of a module with mock classes. -/
def MockClassesModule.parts (m : MockClassesModule) : List String :=
  m.typesImport :: m.classes.flatMap MockClass.parts

/-- The texts that a fixture puts into the table and the interface. -/
def Fixture.parts (strategy : Strategy) (f : Fixture) : List String :=
  [f.name, f.schema, f.value strategy]

/-- The texts of the fixtures module. -/
def FixturesModule.parts (m : FixturesModule) : List String :=
  m.typesImport :: m.buildersImport :: m.zodImport :: m.builderImports ++
    m.fixtures.flatMap (Fixture.parts m.strategy)

variable {ls rest more parts : List String}

/-! ## Handlers -/

/-- **A route handler is read from its lines**, whatever comes behind them. -/
theorem Handler.readRoute?_eq {h : Handler} (hls : ls = h.routeLines.tail ++ rest) :
    readRoute? ls = some h := by
  obtain ⟨name, method, glob, answer⟩ := h
  have hname : routeName.gapAt? 0 ls = some name := LineForm.gapAt?_eq (by rw [hls]; rfl)
  have hglob : routeGlob.gapAt? 4 ls = some (quote glob) := LineForm.gapAt?_eq (by rw [hls]; rfl)
  have hmethod : (methodCheck "    ").gapAt? 5 ls = some method.name :=
    LineForm.gapAt?_eq (by rw [hls]; rfl)
  rw [readRoute?, hname, hglob, hmethod]
  simp only [Option.bind_eq_bind, Option.bind_some, literal?_quote, ofName?_name]
  cases answer with
  | empty status =>
      have hanswer : ls[9]? = some emptyAnswer := by rw [hls]; rfl
      have hdefault : routeDefault.gapAt? 2 ls = some (toString status) := by
        refine LineForm.gapAt?_eq ?_
        rw [hls]
        exact congrArg some String.append_empty.symm
      rw [if_pos hanswer, hdefault]
      simp only [Option.bind_some, number?_toString, Option.pure_def]
  | fixture status schema key =>
      have hanswer : ls[9]? = some "    await route.fulfill(\x7b" := by rw [hls]; rfl
      have hother : ls[9]? ≠ some emptyAnswer := by
        rw [hanswer]
        decide
      have htype : routeType.gapAt? 2 ls = some schema := LineForm.gapAt?_eq (by rw [hls]; rfl)
      have hstatus : routeStatus.gapAt? 10 ls = some (toString status) :=
        LineForm.gapAt?_eq (by rw [hls]; rfl)
      have hkeys : routeKeys.gapAt? 11 ls =
          some (repeatWith [", ...data \x7d : fixtures."] key) := by
        refine LineForm.gapAt?_eq ?_
        rw [hls]
        apply congrArg some
        simp only [routeKeys, repeatWith, List.foldl_cons, List.foldl_nil, String.append_assoc]
      rw [if_neg hother, htype, hstatus, hkeys]
      simp only [Option.bind_some, number?_toString, repeated?_repeatWith, Option.pure_def]

/-- The name of a service-worker handler can be told from the types behind it: it has no
types behind it, or it has no blank. -/
def Handler.Legible (h : Handler) : Prop := h.answer.fixture?.isSome = true → ' ' ∉ h.name.toList

/-- The line with the method and the glob. -/
theorem Handler.request_eq {h : Handler} (hls : ls = h.workerLines.tail ++ rest) :
    workerRequest.gapAt? 1 ls = some (h.method.name ++ ("(" ++ quote h.glob)) := by
  obtain ⟨name, method, glob, answer⟩ := h
  have hline : ls[1]? =
      some ("  return http." ++ method.name ++ "(" ++ quote glob ++ ", () => \x7b") := by
    rw [hls]
    cases answer <;> rfl
  refine LineForm.gapAt?_eq (hline.trans (congrArg some ?_))
  simp only [workerRequest, String.append_assoc]

theorem upToMark_method (m : Method) (glob : String) :
    upToMark '(' (m.name ++ ("(" ++ glob)) = (m.name, "(" ++ glob) :=
  upToMark_eq (by cases m <;> decide)

/-- The type of the data, three times in the line with the name. -/
def typeThrice (schema : String) : String :=
  repeatWith [" | ((defaultData: ", ") => "] ("types." ++ schema)

theorem head_eq {name schema : String}
    (h : ls[0]? = some ("export const " ++ name ++ " = (data?: " ++ ("types." ++ schema) ++
      " | ((defaultData: " ++ ("types." ++ schema) ++ ") => " ++ ("types." ++ schema) ++
      ")) => \x7b")) :
    workerHead.gapAt? 0 ls = some (name ++ (" = (data?: " ++ typeThrice schema)) := by
  refine LineForm.gapAt?_eq (h.trans (congrArg some ?_))
  simp only [workerHead, typeThrice, repeatWith, List.foldl_cons, List.foldl_nil,
    String.append_assoc]

/-- **A service-worker handler is read from its lines**, if its name can be told. -/
theorem Handler.readWorker?_eq {h : Handler} (hlegible : h.Legible)
    (hls : ls = h.workerLines.tail ++ rest) : readWorker? ls = some h := by
  have hglob : workerGlob.gap? ("(" ++ quote h.glob) = some (quote h.glob) :=
    workerGlob.gap?_of_last rfl
  rw [readWorker?, h.request_eq hls]
  simp only [Option.bind_eq_bind, Option.bind_some, upToMark_method, hglob, literal?_quote,
    ofName?_name]
  obtain ⟨name, method, glob, answer⟩ := h
  cases answer with
  | empty status =>
      have hanswer : ls[3]? = some "  \x7d);" := by rw [hls]; rfl
      have hother : ls[3]? ≠ some dataCheck := by
        rw [hanswer]
        decide
      have hname : workerName.gapAt? 0 ls = some name := LineForm.gapAt?_eq (by rw [hls]; rfl)
      have hstatus : workerEmptyStatus.gapAt? 2 ls = some (toString status) :=
        LineForm.gapAt?_eq (by rw [hls]; rfl)
      rw [if_neg hother, hname, hstatus]
      simp only [Option.bind_some, number?_toString, Option.pure_def]
  | fixture status schema key =>
      have hanswer : ls[3]? = some dataCheck := by rw [hls]; rfl
      have hhead : workerHead.gapAt? 0 ls = some (name ++ (" = (data?: " ++ typeThrice schema)) :=
        head_eq (by rw [hls]; rfl)
      have hname : upToMark ' ' (name ++ (" = (data?: " ++ typeThrice schema)) =
          (name, " = (data?: " ++ typeThrice schema) :=
        upToMark_eq (hlegible rfl)
      have htypes : workerTypes.gap? (" = (data?: " ++ typeThrice schema) =
          some (typeThrice schema) :=
        workerTypes.gap?_of_last rfl
      have htype : repeated? [" | ((defaultData: ", ") => "] (typeThrice schema) =
          some ("types." ++ schema) :=
        repeated?_repeatWith _ _
      have hschema : typeName.gap? ("types." ++ schema) = some schema := typeName.gap?_of_last rfl
      have hkey : workerKey.gapAt? 2 ls = some key := LineForm.gapAt?_eq (by rw [hls]; rfl)
      have hstatus : workerStatus.gapAt? 7 ls = some (toString status) :=
        LineForm.gapAt?_eq (by rw [hls]; rfl)
      rw [if_pos hanswer, hhead, hkey, hstatus]
      simp only [Option.bind_some, hname, htypes, htype, hschema, number?_toString,
        Option.pure_def]

theorem Handler.read_route {h : Handler} (hparts : h.parts ⊆ parts) {xs : List (Option Handler)}
    (hmore : Read readRoute? parts more [] xs) :
    ∃ x, x = some h ∧ Read readRoute? parts (h.routeLines ++ more) [] (x :: xs) := by
  refine ⟨some h, rfl, ?_⟩
  have hread : readRoute? (h.routeLines.tail ++ more) = some h := readRoute?_eq rfl
  obtain ⟨name, method, glob, answer⟩ := h
  cases answer with
  | empty status =>
      obtain ⟨hname, hglob, -⟩ : name ∈ parts ∧ glob ∈ parts ∧ [] ⊆ parts := by
        simpa only [Handler.parts, List.cons_subset] using hparts
      -- line by line, in the order of the template
      refine .empty (.exports (.around (.part hname) (by decide)) hread ?_)
      refine .skip (by decide) (.inner (.append (.fixed (by decide)) (.number status)) ?_)
      refine .skip (by decide) (.inner (.around (.quote (.part hglob)) (by decide)) ?_)
      refine .inner (.around (.method method) (by decide)) ?_
      iterate 6 refine .skip (by decide) ?_
      exact hmore
  | fixture status schema key =>
      obtain ⟨hname, hglob, hschema, hkey, -⟩ :
          name ∈ parts ∧ glob ∈ parts ∧ schema ∈ parts ∧ key ∈ parts ∧ [] ⊆ parts := by
        simpa only [Handler.parts, List.cons_subset] using hparts
      refine .empty (.exports (.around (.part hname) (by decide)) hread ?_)
      refine .skip (by decide) (.inner (.around (.part hschema) (by decide)) ?_)
      refine .skip (by decide) (.inner (.around (.quote (.part hglob)) (by decide)) ?_)
      refine .inner (.around (.method method) (by decide)) ?_
      iterate 4 refine .skip (by decide) ?_
      refine .inner (.around (.number status) (by decide)) (.inner ?_ ?_)
      · exact ((Row.around (.part hkey) (by decide)).append (.part hkey)).append
          (.fixed (by decide))
      iterate 3 refine .skip (by decide) ?_
      exact hmore

/-- The lines declare a service-worker handler: they begin with its own, and it is read from
them if its name can be told. -/
def Handler.DeclaredBy (h : Handler) (ls : List String) : Prop :=
  h.workerLines.tail <+: ls ∧ (h.Legible → readWorker? ls = some h)

theorem Handler.read_worker {h : Handler} (hparts : h.parts ⊆ parts) {xs : List (List String)}
    (hmore : Read id parts more [] xs) :
    ∃ x, h.DeclaredBy x ∧ Read id parts (h.workerLines ++ more) [] (x :: xs) := by
  refine ⟨_, ⟨List.prefix_append _ more, fun hlegible => readWorker?_eq hlegible rfl⟩, ?_⟩
  obtain ⟨name, method, glob, answer⟩ := h
  cases answer with
  | empty status =>
      obtain ⟨hname, hglob, -⟩ : name ∈ parts ∧ glob ∈ parts ∧ [] ⊆ parts := by
        simpa only [Handler.parts, List.cons_subset] using hparts
      refine .empty (.exports (.around (.part hname) (by decide)) rfl (.inner ?_ ?_))
      · exact ((Row.around (.method method) (by decide)).append (.quote (.part hglob))).append
          (.fixed (by decide))
      refine .inner (.around (.number status) (by decide)) ?_
      iterate 2 refine .skip (by decide) ?_
      exact hmore
  | fixture status schema key =>
      obtain ⟨hname, hglob, hschema, hkey, -⟩ :
          name ∈ parts ∧ glob ∈ parts ∧ schema ∈ parts ∧ key ∈ parts ∧ [] ⊆ parts := by
        simpa only [Handler.parts, List.cons_subset] using hparts
      have htype : Unbroken parts ("types." ++ schema) :=
        (Unbroken.fixed (by decide)).append (.part hschema)
      refine .empty (.exports ?_ rfl (.inner ?_ ?_))
      · exact ((((((Row.around (.part hname) (by decide)).append htype).append
          (.fixed (by decide))).append htype).append (.fixed (by decide))).append htype).append
          (.fixed (by decide))
      · exact ((Row.around (.method method) (by decide)).append (.quote (.part hglob))).append
          (.fixed (by decide))
      refine .inner (.around (.part hkey) (by decide)) ?_
      iterate 3 refine .skip (by decide) ?_
      refine .empty (.inner (.around (.number status) (by decide)) ?_)
      iterate 2 refine .skip (by decide) ?_
      exact hmore

/-- The import of the page that mocks are applied to. -/
def pageImport : String := "import type \x7b Page \x7d from '@playwright/test';"

/-- The import of what service workers answer with. -/
def workerImport : String := "import \x7b http, HttpResponse \x7d from 'msw';"

theorem row_typesImport (value : String) (h : value ∈ parts) :
    Row parts "import ".toList ("import type * as types from " ++ quote value ++ ";") :=
  .around (.quote (.part h)) (by decide)

/-- The lines that import the data types and the fixture table. -/
theorem row_tableImports (value : String) (h : value ∈ parts) :
    ∀ line ∈ ["import type * as types from " ++ quote value ++ ";",
      "import \x7b fixtures \x7d from './fixtures';"], Row parts "import ".toList line :=
  List.forall_mem_cons.mpr ⟨row_typesImport value h,
    List.forall_mem_singleton.mpr (.fixed (by decide))⟩

theorem HandlersModule.row_imports (m : HandlersModule) :
    ∀ line ∈ m.imports, Row m.parts "import ".toList line := by
  unfold imports
  split
  · exact row_tableImports _ List.mem_cons_self
  · exact List.forall_mem_nil _

theorem HandlersModule.parts_subset {h : Handler} (m : HandlersModule) (hh : h ∈ m.handlers) :
    h.parts ⊆ m.parts :=
  List.subset_cons_of_subset _ fun _ hpart => List.mem_flatMap.mpr ⟨h, hh, hpart⟩

/-- What is read for each of some declarations is the declaration. -/
theorem eq_map_some {α : Type} {xs : List (Option α)} {bs : List α}
    (h : List.Forall₂ (fun x b => x = some b) xs bs) : xs = bs.map some :=
  List.forall₂_eq_eq_eq ▸ List.forall₂_map_right_iff.mpr h

/-- The text of the routes module, read line by line, has these imports and handlers. -/
def HandlersModule.RoutesRead (m : HandlersModule) : Prop :=
  LinesOf m.routesText m.parts fun ls =>
    imported ls = pageImport :: m.imports ∧ declared readRoute? ls = m.handlers.map some

/-- The text of the service-worker module has these imports, and at each export the lines of
the next handler, which is read from them if its name can be told. -/
def HandlersModule.WorkerRead (m : HandlersModule) : Prop :=
  LinesOf m.workerText m.parts fun ls =>
    imported ls = workerImport :: m.imports ∧
    List.Forall₂ Handler.DeclaredBy m.handlers (declared id ls)

/-- **The routes module is read from its text.** -/
theorem HandlersModule.routesRead (m : HandlersModule) : m.RoutesRead := by
  obtain ⟨xs, hxs, hread⟩ : ∃ xs, List.Forall₂ (fun x h => x = some h) xs m.handlers ∧
      Read readRoute? m.parts (m.handlers.flatMap Handler.routeLines) [] xs :=
    Read.exists_flatMap fun _ hh _ _ => Handler.read_route (m.parts_subset hh)
  refine Read.linesOf (fun ls himported (hdeclared : declared readRoute? ls = xs) =>
    ⟨himported, hdeclared.trans (eq_map_some hxs)⟩) ?_
  iterate 3 refine .skip (by decide) ?_
  exact .empty (.imports (.fixed (by decide)) (hread.importLines m.row_imports))

/-- **The service-worker module is read from its text.** -/
theorem HandlersModule.workerRead (m : HandlersModule) : m.WorkerRead := by
  obtain ⟨xs, hxs, hread⟩ : ∃ xs, List.Forall₂ (fun x h => Handler.DeclaredBy h x) xs m.handlers ∧
      Read id m.parts (m.handlers.flatMap Handler.workerLines) [] xs :=
    Read.exists_flatMap fun _ hh _ _ => Handler.read_worker (m.parts_subset hh)
  refine Read.linesOf (fun ls himported (hdeclared : declared id ls = xs) =>
    ⟨himported, hdeclared ▸ hxs.flip⟩) ?_
  iterate 3 refine .skip (by decide) ?_
  exact .empty (.imports (.fixed (by decide)) (hread.importLines m.row_imports))

/-! ## Mock classes -/

/-- **A mock class is read from its lines**, whatever comes behind them. -/
theorem MockClass.readClass?_eq {k : MockClass} (hls : ls = k.lines.tail ++ rest) :
    readClass? ls = some k := by
  have hname : className.gapAt? 0 ls = some k.name := LineForm.gapAt?_eq (by rw [hls]; rfl)
  have htype : classType.gapAt? 1 ls = some ("types." ++ k.schema) :=
    LineForm.gapAt?_eq (by rw [hls]; rfl)
  have hschema : typeName.gap? ("types." ++ k.schema) = some k.schema :=
    typeName.gap?_of_last rfl
  have hglob : classGlob.gapAt? 4 ls = some (quote k.glob) :=
    LineForm.gapAt?_eq (by rw [hls]; rfl)
  have hpattern : classPattern.gapAt? 7 ls = some k.pattern :=
    LineForm.gapAt?_eq (by rw [hls]; rfl)
  have hkey : classKey.gapAt? 10 ls = some k.fixture := LineForm.gapAt?_eq (by rw [hls]; rfl)
  have hmethod : (methodCheck "      ").gapAt? 36 ls = some k.method.name :=
    LineForm.gapAt?_eq (by rw [hls]; rfl)
  have hstatus : classStatus.gapAt? 41 ls = some (toString k.status) :=
    LineForm.gapAt?_eq (by rw [hls]; rfl)
  rw [readClass?, hname, htype, hglob, hpattern, hkey, hmethod, hstatus]
  simp only [Option.bind_eq_bind, Option.bind_some, hschema, literal?_quote, ofName?_name,
    number?_toString, Option.pure_def]

theorem MockClass.read {k : MockClass} (hparts : k.parts ⊆ parts) {xs : List (Option MockClass)}
    (hmore : Read readClass? parts more [] xs) :
    ∃ x, x = some k ∧ Read readClass? parts (k.lines ++ more) [] (x :: xs) := by
  refine ⟨some k, rfl, ?_⟩
  have hread : readClass? (k.lines.tail ++ more) = some k := readClass?_eq rfl
  obtain ⟨hname, hschema, hglob, hpattern, hkey, -⟩ : k.name ∈ parts ∧ k.schema ∈ parts ∧
      k.glob ∈ parts ∧ k.pattern ∈ parts ∧ k.fixture ∈ parts ∧ [] ⊆ parts := by
    simpa only [MockClass.parts, List.cons_subset] using hparts
  have htype : Unbroken parts ("types." ++ k.schema) :=
    (Unbroken.fixed (by decide)).append (.part hschema)
  refine .empty (.exports (.around (.part hname) (by decide)) hread ?_)
  refine .inner (.around htype (by decide)) (.empty (.skip (by decide) ?_))
  refine .inner (.around (.quote (.part hglob)) (by decide)) (.empty (.skip (by decide) ?_))
  refine .inner (.around (.part hpattern) (by decide)) (.empty (.skip (by decide) ?_))
  refine .inner (.around (.part hkey) (by decide)) (.skip (by decide) (.empty ?_))
  iterate 3 refine .skip (by decide) ?_
  refine .inner (.around htype (by decide)) ?_
  iterate 3 refine .skip (by decide) ?_
  refine .empty ?_
  iterate 3 refine .skip (by decide) ?_
  refine .inner (.around htype (by decide)) ?_
  iterate 2 refine .skip (by decide) ?_
  refine .empty ?_
  iterate 5 refine .skip (by decide) ?_
  refine .inner (.around (.part hname) (by decide)) ?_
  iterate 2 refine .skip (by decide) ?_
  refine .inner (.around (.method k.method) (by decide)) ?_
  iterate 4 refine .skip (by decide) ?_
  refine .inner (.around (.number k.status) (by decide)) ?_
  iterate 5 refine .skip (by decide) ?_
  exact hmore

theorem MockClassesModule.row_imports (m : MockClassesModule) :
    ∀ line ∈ m.imports, Row m.parts "import ".toList line := by
  unfold imports
  split
  · exact List.forall_mem_nil _
  · exact row_tableImports _ List.mem_cons_self

/-- The text of the module with mock classes has these imports and classes. -/
def MockClassesModule.TextRead (m : MockClassesModule) : Prop :=
  LinesOf m.text m.parts fun ls =>
    imported ls = pageImport :: m.imports ∧ declared readClass? ls = m.classes.map some

/-- **The module with mock classes is read from its text.** -/
theorem MockClassesModule.textRead (m : MockClassesModule) : m.TextRead := by
  obtain ⟨xs, hxs, hread⟩ : ∃ xs, List.Forall₂ (fun x k => x = some k) xs m.classes ∧
      Read readClass? m.parts (m.classes.flatMap MockClass.lines) [] xs :=
    Read.exists_flatMap fun k hk _ _ => MockClass.read <|
      List.subset_cons_of_subset _ fun _ hpart => List.mem_flatMap.mpr ⟨k, hk, hpart⟩
  refine Read.linesOf (fun ls himported (hdeclared : declared readClass? ls = xs) =>
    ⟨himported, hdeclared.trans (eq_map_some hxs)⟩) ?_
  iterate 3 refine .skip (by decide) ?_
  exact .empty (.imports (.fixed (by decide)) (hread.importLines m.row_imports))

/-! ## Fixtures -/

/-- The entry of a fixture in the interface. -/
def Fixture.typeLine (f : Fixture) : String := "  " ++ f.name ++ ": types." ++ f.schema ++ ";"

/-- The code of a value does not begin like a type, and ends with a parenthesis. -/
theorem Fixture.exists_value_eq (strategy : Strategy) (f : Fixture) :
    ∃ c l, c ≠ 't' ∧ (f.value strategy).toList = (c :: l) ++ [')'] := by
  cases strategy with
  | static =>
      have hvalue : f.value .static = "new " ++ Naming.schemaBuilder f.schema ++ "().build()" := rfl
      have hfront : "new ".toList = 'n' :: "ew ".toList := by decide
      have hback : "().build()".toList = "().build(".toList ++ [')'] := by decide
      refine ⟨'n', "ew ".toList ++ (Naming.schemaBuilder f.schema).toList ++ "().build(".toList,
        by decide, ?_⟩
      rw [hvalue, String.toList_append, String.toList_append, hfront, hback]
      simp only [List.append_assoc, List.cons_append]
  | zod =>
      have hvalue : f.value .zod =
          "generateMock(schemas." ++ Naming.zodSchema f.schema ++ ")" := rfl
      have hfront : "generateMock(schemas.".toList = 'g' :: "enerateMock(schemas.".toList := by
        decide
      have hback : ")".toList = [')'] := by decide
      refine ⟨'g', "enerateMock(schemas.".toList ++ (Naming.zodSchema f.schema).toList,
        by decide, ?_⟩
      rw [hvalue, String.toList_append, String.toList_append, hfront, hback]
      simp only [List.append_assoc, List.cons_append]

/-- **A fixture is read from its two entries.** -/
theorem Fixture.readFixture?_eq (strategy : Strategy) (f : Fixture) {commas : List Char}
    (hcommas : commas = [] ∨ commas = [',']) :
    readFixture? ("  " ++ f.name ++ ": " ++ f.value strategy ++ String.ofList commas) f.typeLine =
      some (f, f.value strategy) := by
  obtain ⟨c, l, hne, hvalue⟩ := f.exists_value_eq strategy
  have hentry : ("  " ++ f.name ++ ": " ++ f.value strategy ++ String.ofList commas).toList =
      ("  " ++ f.name ++ ": ").toList ++ c :: (l ++ [')'] ++ commas) := by
    rw [String.toList_append, String.toList_append, hvalue, String.toList_ofList]
    simp only [List.append_assoc, List.cons_append]
  have hmember : ("types." ++ f.schema ++ ";").toList =
      't' :: ("ypes.".toList ++ (f.schema ++ ";").toList) := by
    have hfront : "types.".toList = 't' :: "ypes.".toList := by decide
    rw [String.append_assoc, String.toList_append, hfront, List.cons_append]
  have htype : f.typeLine.toList =
      ("  " ++ f.name ++ ": ").toList ++ ("types." ++ f.schema ++ ";").toList := by
    have hplace : ": types." = ": " ++ "types." := by decide
    rw [← String.toList_append, typeLine, hplace]
    simp only [String.append_assoc]
  have hname : entryKey.gap? ("  " ++ f.name ++ ": ") = some f.name := entryKey.gap?_eq _
  have hschema : entryType.gap? ("types." ++ f.schema ++ ";") = some f.schema :=
    entryType.gap?_eq _
  have hdrop : (c :: (l ++ [')'] ++ commas)).rdropWhile (· == ',') = (f.value strategy).toList := by
    rw [hvalue, ← List.cons_append, ← List.cons_append]
    rcases hcommas with rfl | rfl
    · rw [List.append_nil, List.rdropWhile_concat_neg _ _ _ (by decide)]
    · rw [List.rdropWhile_concat_pos _ _ _ (by decide),
        List.rdropWhile_concat_neg _ _ _ (by decide)]
  rw [readFixture?, hentry, htype, hmember, commonFront_eq hne, hdrop, ← hmember]
  simp only [String.ofList_toList, hname, hschema, Option.bind_eq_bind, Option.bind_some,
    Option.pure_def]

/-- The entries of the fixtures are read side by side. -/
theorem zipWith_readFixture?_eq (strategy : Strategy) (fixtures : List Fixture) :
    List.zipWith readFixture? (FixturesModule.tableLines strategy fixtures)
        (fixtures.map Fixture.typeLine) =
      fixtures.map fun f => some (f, f.value strategy) := by
  fun_induction FixturesModule.tableLines strategy fixtures with
  | case1 => rfl
  | case2 f =>
      have hread := f.readFixture?_eq strategy (.inl rfl)
      rw [List.map_singleton, List.map_singleton, List.zipWith_cons_cons, List.zipWith_nil_left,
        ← hread]
      exact congrArg (fun entry => [readFixture? entry _]) String.append_empty.symm
  | case3 f rest _ ih =>
      have hread := f.readFixture?_eq strategy (.inr rfl)
      rw [List.map_cons, List.map_cons, List.zipWith_cons_cons, ih, ← hread]

/-- The entries are those in front of the first line without blanks. -/
theorem readEntries_eq {line close : String} {entries : List String}
    (hentries : ∀ entry ∈ entries, Row parts [' ', ' '] entry)
    (hclose : begins "  " close = false) :
    readEntries (line :: (entries ++ close :: more)) = (some line, entries) := by
  have hblanks : "  ".toList = [' ', ' '] := by decide
  have hbegins : ∀ entry ∈ entries, begins "  " entry = true :=
    fun entry hentry => Row.begins (hblanks ▸ hentries entry hentry)
  rw [readEntries, List.tail_cons, List.takeWhile_append_of_pos hbegins,
    List.takeWhile_cons_of_neg (by rw [hclose]; decide), List.append_nil]
  rfl

theorem readTable_eq {strategy : Strategy} {fixtures : List Fixture}
    (h : declared readEntries ls =
      [(some "export const fixtures = \x7b", FixturesModule.tableLines strategy fixtures),
        (some "export interface Fixtures \x7b", fixtures.map Fixture.typeLine)]) :
    readTable ls = fixtures.map fun f => some (f, f.value strategy) := by
  rw [readTable, h]
  exact zipWith_readFixture?_eq strategy fixtures

/-- A table without entries comes without an interface. -/
theorem readTable_eq_nil
    (h : declared readEntries ls = [(some "export const fixtures = \x7b\x7d as const;", [])]) :
    readTable ls = [] := by
  rw [readTable, h]
  rfl

theorem row_tableLines {strategy : Strategy} {fixtures : List Fixture}
    (h : ∀ f ∈ fixtures, f.parts strategy ⊆ parts) :
    ∀ line ∈ FixturesModule.tableLines strategy fixtures, Row parts [' ', ' '] line := by
  have hentry : ∀ f ∈ fixtures,
      Row parts [' ', ' '] ("  " ++ f.name ++ ": " ++ f.value strategy) := by
    intro f hf
    have hparts := h f hf
    exact (Row.around (.part (hparts (by simp [Fixture.parts]))) (by decide)).append
      (.part (hparts (by simp [Fixture.parts])))
  fun_induction FixturesModule.tableLines strategy fixtures with
  | case1 => exact List.forall_mem_nil _
  | case2 f => exact List.forall_mem_singleton.mpr (hentry f List.mem_cons_self)
  | case3 f rest _ ih =>
      obtain ⟨hf, hrest⟩ := List.forall_mem_cons.mp hentry
      exact List.forall_mem_cons.mpr ⟨hf.append (.fixed (by decide)),
        ih (fun g hg => h g (List.mem_cons_of_mem _ hg)) hrest⟩

theorem row_typeLines {strategy : Strategy} {fixtures : List Fixture}
    (h : ∀ f ∈ fixtures, f.parts strategy ⊆ parts) :
    ∀ line ∈ fixtures.map Fixture.typeLine, Row parts [' ', ' '] line := by
  intro line hline
  obtain ⟨f, hf, rfl⟩ := List.mem_map.mp hline
  have hparts := h f hf
  exact ((Row.around (.part (hparts (by simp [Fixture.parts]))) (by decide)).append
    (.part (hparts (by simp [Fixture.parts])))).append (.fixed (by decide))

/-- Names with commas between them. -/
theorem Unbroken.intercalate {names : List String} (h : names ⊆ parts) :
    Unbroken parts (String.intercalate ", " names) := by
  induction names with
  | nil => exact .fixed (l := []) (by decide)
  | cons name names ih =>
      obtain ⟨hname, hnames⟩ := List.cons_subset.mp h
      cases names with
      | nil =>
          rw [String.intercalate_singleton]
          exact .part hname
      | cons next names =>
          rw [String.intercalate_cons_cons]
          exact ((Unbroken.part hname).append (.fixed (by decide))).append (ih hnames)

theorem FixturesModule.row_imports (m : FixturesModule) :
    ∀ line ∈ m.imports, Row m.parts "import ".toList line := by
  have hbuilders : m.builderImports ⊆ m.parts := by
    intro name hname
    simp [parts, hname]
  unfold imports
  cases m.strategy with
  | static =>
      refine List.forall_mem_singleton.mpr ?_
      exact ((Row.around (.intercalate hbuilders) (by decide)).append
        (.quote (.part (by simp [parts])))).append (.fixed (by decide))
  | zod =>
      refine List.forall_mem_cons.mpr ⟨.fixed (by decide), List.forall_mem_singleton.mpr ?_⟩
      exact .around (.quote (.part (by simp [parts]))) (by decide)

/-- The text of the fixtures module has these imports, none without a fixture, and these
fixtures with the code of their values. -/
def FixturesModule.TextRead (m : FixturesModule) : Prop :=
  LinesOf m.text m.parts fun ls =>
    (imported ls = if m.fixtures = [] then [] else
      ("import type * as types from " ++ quote m.typesImport ++ ";") :: m.imports) ∧
    readTable ls = m.fixtures.map fun f => some (f, f.value m.strategy)

/-- **The fixtures module is read from its text.** -/
theorem FixturesModule.textRead (m : FixturesModule) : m.TextRead := by
  rw [TextRead, text]
  cases hfixtures : m.fixtures with
  | nil =>
      refine Read.linesOf (fun ls himported hdeclared =>
        ⟨himported, readTable_eq_nil hdeclared⟩) ?_
      exact .skip (by decide) (.exports (.fixed (by decide)) rfl .nil)
  | cons first more =>
      have hparts : ∀ f ∈ first :: more, f.parts m.strategy ⊆ m.parts := by
        intro f hf part hpart
        exact List.mem_append_right _ (List.mem_flatMap.mpr ⟨f, hfixtures ▸ hf, hpart⟩)
      have htable := row_tableLines hparts
      have htypes := row_typeLines hparts
      rw [if_neg (List.cons_ne_nil first more)]
      simp only [List.isEmpty_cons, List.append_assoc, List.cons_append, List.nil_append]
      refine Read.linesOf (fun ls himported hdeclared => ⟨himported, readTable_eq hdeclared⟩) ?_
      iterate 3 refine .skip (by decide) ?_
      refine .empty (.imports (row_typesImport _ List.mem_cons_self) ?_)
      refine .importLines m.row_imports (.empty ?_)
      refine .exports (.fixed (by decide)) (readEntries_eq htable (by decide)) ?_
      refine .inners htable (.skip (by decide) (.empty ?_))
      refine .exports (.fixed (by decide)) (readEntries_eq htypes (by decide)) ?_
      exact .inners htypes (.skip (by decide) .nil)

end ApiMocks.Emit
