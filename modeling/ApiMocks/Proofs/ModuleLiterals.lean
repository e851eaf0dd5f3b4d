import ApiMocks.Proofs.CodeReading
import ApiMocks.Proofs.IdentifierPlaces
import ApiMocks.Proofs.ResponseNames

/-!
# The literals of the modules

What the templates leave open in a module are names, statuses, and literals.  So a module
is made of code, names and literals, and its literals are the values that its parts have
in places for them: what it imports from, the globs, the expressions of mock classes, and
the methods.

* `Made.skip`, `Made.line`, `Made.lines_append`, `Made.lines_flatMap`: a text line by line;
* `Bundle.literals`: the literals of each file of a bundle;
* `FixturesModule.made`, `HandlersModule.made_routes`, `HandlersModule.made_worker`,
  `MockClassesModule.made`, `made_indexText`: the modules;
* `Bundle.made`: every file of a bundle is made of code, its names, and its literals.
-/

namespace ApiMocks.Emit

variable {names : List String} {s t u : CodeState} {front part : String}
  {more rest : List String} {as ls ms : List Literal} {l k : List Char}

/-! ## Lines -/

/-- Code of a template. -/
theorem Made.fixed (h : s.after? l = some t) : Made names s (String.ofList l) [] t :=
  .code (by rwa [String.toList_ofList])

/-- A status has digits only. -/
theorem Made.status (status : Status) : Made names .code (toString status) [] .code := by
  refine .code (after?_of_without ?_)
  intro c hc hdelimiter
  have hdigit := Naming.isDigit_of_mem_status hc
  have hdelimiters : ∀ d ∈ delimiters, d.isDigit = false := by simp [delimiters]
  rw [hdelimiters c hdelimiter] at hdigit
  cases hdigit

/-- More code behind a text. -/
theorem Made.then_plain (h : Made names s front ls t) (hpart : Made names t part [] u) :
    Made names s (front ++ part) ls u := by
  have happend := h.append hpart
  rwa [List.append_nil] at happend

/-- A part with code of a template around it. -/
theorem Made.around (hpart : Made names .code part ls .code)
    (h : CodeState.after? .code l = some .code ∧ CodeState.after? .code k = some .code) :
    Made names .code (String.ofList l ++ part ++ String.ofList k) ls .code :=
  ((Made.fixed h.1).append hpart).then_plain (.fixed h.2)

theorem Made.no_lines : Made names s (lines []) [] s := .code rfl

/-- A line of a template, which may begin or end a comment. -/
theorem Made.skip (h : s.after? (l ++ ['\n']) = some t) (hmore : Made names t (lines more) ls u) :
    Made names s (lines (String.ofList l :: more)) ls u := by
  have hline : String.ofList l ++ "\n" = String.ofList (l ++ ['\n']) := by
    rw [String.ofList_append]
  rw [lines_cons, hline]
  exact (Made.fixed h).append hmore

/-- A line with names or literals. -/
theorem Made.line (h : Made names .code front as .code) (hmore : Made names .code (lines more) ls t) :
    Made names .code (lines (front :: more)) (as ++ ls) t := by
  have hend : Made names .code "\n" [] .code := .fixed (l := ['\n']) (by decide)
  have hline := (h.append hend).append hmore
  rwa [List.append_nil, ← lines_cons] at hline

theorem Made.lines_append (h : Made names s (lines more) as t)
    (hrest : Made names t (lines rest) ls u) :
    Made names s (lines (more ++ rest)) (as ++ ls) u := by
  rw [ApiMocks.Emit.lines_append]
  exact h.append hrest

/-- Declarations in a row. -/
theorem Made.lines_flatMap {α : Type} {xs : List α} {asLines : α → List String}
    {literals : α → List Literal}
    (h : ∀ x ∈ xs, Made names .code (lines (asLines x)) (literals x) .code) :
    Made names .code (lines (xs.flatMap asLines)) (xs.flatMap literals) .code := by
  induction xs with
  | nil => exact .no_lines
  | cons x xs ih =>
      rw [List.flatMap_cons, List.flatMap_cons]
      exact (h x List.mem_cons_self).lines_append
        (ih fun y hy => h y (List.mem_cons_of_mem _ hy))

theorem Made.lines_map {α : Type} {xs : List α} {asLine : α → String}
    {literals : α → List Literal} (h : ∀ x ∈ xs, Made names .code (asLine x) (literals x) .code) :
    Made names .code (lines (xs.map asLine)) (xs.flatMap literals) .code := by
  rw [List.map_eq_flatMap]
  refine .lines_flatMap fun x hx => ?_
  have hline := (h x hx).line .no_lines
  rwa [List.append_nil] at hline

/-- Names with commas between them. -/
theorem Made.intercalate {ns : List String} (h : ns ⊆ names) :
    Made names .code (String.intercalate ", " ns) [] .code := by
  induction ns with
  | nil => exact .code rfl
  | cons n ns ih =>
      obtain ⟨hn, hns⟩ := List.cons_subset.mp h
      cases ns with
      | nil =>
          rw [String.intercalate_singleton]
          exact .name hn
      | cons m ns =>
          rw [String.intercalate_cons_cons]
          exact ((Made.name hn).then_plain (.fixed (by decide))).then_plain (ih hns)

/-! ## Parts that several modules have -/

/-- The name of a method needs no escaping. -/
theorem quote_name (m : Method) : quote m.name = "'" ++ m.name ++ "'" := by
  cases m <;> decide

theorem Made.methodName (m : Method) : Made names .code m.name [] .code := by
  cases m <;> exact .fixed (by decide)

/-- A name of a method between quotes of the template. -/
theorem Made.method (m : Method)
    (h : CodeState.after? .code l = some .code ∧ CodeState.after? .code k = some .code) :
    Made names .code (String.ofList (l ++ ['\'']) ++ m.name ++ String.ofList ('\'' :: k))
      [.ofText m.name] .code := by
  have htext : String.ofList (l ++ ['\'']) ++ m.name ++ String.ofList ('\'' :: k) =
      String.ofList l ++ quote m.name ++ String.ofList k := by
    rw [quote_name]
    apply String.toList_inj.mp
    simp [String.toList_append]
  rw [htext]
  exact .around (.text _) h

/-- The import of the data types. -/
theorem Made.typesImport (value : String) :
    Made names .code ("import type * as types from " ++ quote value ++ ";") [.ofText value] .code :=
  .around (.text value) (by decide)

/-- The literals of the lines that import the data types and the fixture table. -/
def tableLiterals (typesImport : String) : List Literal :=
  [.ofText typesImport, .ofText "./fixtures"]

theorem Made.tableImports (value : String) :
    Made names .code (lines ["import type * as types from " ++ quote value ++ ";",
      "import \x7b fixtures \x7d from './fixtures';"]) (tableLiterals value) .code := by
  have hline : "import \x7b fixtures \x7d from './fixtures';" =
      "import \x7b fixtures \x7d from " ++ quote "./fixtures" ++ ";" := by decide
  have htable : Made names .code "import \x7b fixtures \x7d from './fixtures';"
      [.ofText "./fixtures"] .code := by
    rw [hline]
    exact .around (.text _) (by decide)
  exact (Made.typesImport value).line (htable.line .no_lines)

/-- The import of the page that mocks are applied to. -/
theorem Made.pageImport :
    Made names .code "import type \x7b Page \x7d from '@playwright/test';"
      [.ofText "@playwright/test"] .code := by
  have hline : "import type \x7b Page \x7d from '@playwright/test';" =
      "import type \x7b Page \x7d from " ++ quote "@playwright/test" ++ ";" := by decide
  rw [hline]
  exact .around (.text _) (by decide)

/-- The import of what service workers answer with. -/
theorem Made.workerImport :
    Made names .code "import \x7b http, HttpResponse \x7d from 'msw';" [.ofText "msw"] .code := by
  have hline : "import \x7b http, HttpResponse \x7d from 'msw';" =
      "import \x7b http, HttpResponse \x7d from " ++ quote "msw" ++ ";" := by decide
  rw [hline]
  exact .around (.text _) (by decide)

/-- The line that asks whether data is made by a function. -/
theorem Made.dataLine :
    Made names .code "    const responseData = typeof data === 'function'" [.ofText "function"]
      .code := by
  have hline : "    const responseData = typeof data === 'function'" =
      "    const responseData = typeof data === " ++ quote "function" := by decide
  rw [hline]
  exact (Made.fixed (by decide)).append (.text _)

/-! ## Handlers -/

/-- What a module with handlers imports from. -/
def HandlersModule.importLiterals (m : HandlersModule) : List Literal :=
  if m.usesFixtures then tableLiterals m.typesImport else []

/-- The literals of a route handler: its glob and its method. -/
def Handler.routeLiterals (h : Handler) : List Literal := [.ofText h.glob, .ofText h.method.name]

/-- The literals of a service-worker handler: its glob, and a type of data. -/
def Handler.workerLiterals (h : Handler) : List Literal :=
  .ofText h.glob :: if h.answer.fixture?.isSome then [.ofText "function"] else []

/-- The literals of the routes module. -/
def HandlersModule.routeLiterals (m : HandlersModule) : List Literal :=
  .ofText "@playwright/test" :: m.importLiterals ++ m.handlers.flatMap Handler.routeLiterals

/-- The literals of the service-worker module. -/
def HandlersModule.workerLiterals (m : HandlersModule) : List Literal :=
  .ofText "msw" :: m.importLiterals ++ m.handlers.flatMap Handler.workerLiterals

theorem HandlersModule.made_imports (m : HandlersModule) :
    Made names .code (lines m.imports) m.importLiterals .code := by
  unfold imports importLiterals
  split
  · exact .tableImports _
  · exact .no_lines

/-- The lines of a route handler. -/
theorem Handler.made_route {h : Handler} (hname : h.name ∈ names)
    (huse : ∀ f ∈ h.answer.use?, f.members ⊆ names) :
    Made names .code (lines h.routeLines) h.routeLiterals .code := by
  have hopening : Made names .code ("export async function " ++ h.name ++ "(") [] .code :=
    .around (.name hname) (by decide)
  have hroute : Made names .code ("  await page.route(" ++ quote h.glob ++ ", async (route) => \x7b")
      [.ofText h.glob] .code :=
    .around (.text _) (by decide)
  have hmethod : Made names .code
      ("    if (route.request().method().toLowerCase() !== '" ++ h.method.name ++ "') \x7b")
      [.ofText h.method.name] .code :=
    .method (l := "    if (route.request().method().toLowerCase() !== ".toList) _ (by decide)
  unfold routeLines
  cases hanswer : h.answer with
  | empty status =>
      have hparameter : Made names .code ("  status = " ++ toString status) [] .code :=
        (Made.fixed (by decide)).then_plain (.status status)
      refine .skip (t := .code) (by decide) (hopening.line (.skip (t := .code) (by decide) ?_))
      refine hparameter.line (.skip (t := .code) (by decide) (hroute.line (hmethod.line ?_)))
      iterate 6 refine .skip (t := .code) (by decide) ?_
      exact .no_lines
  | fixture status schema key =>
      obtain ⟨hschema, hkey⟩ : schema ∈ names ∧ key ∈ names := by
        simpa [hanswer, Answer.use?, Fixture.members] using huse
      have hparameter : Made names .code ("  data?: Partial<types." ++ schema ++ ">") [] .code :=
        .around (.name hschema) (by decide)
      have hstatus : Made names .code ("      status: " ++ toString status ++ ",") [] .code :=
        .around (.status status) (by decide)
      have hjson : Made names .code ("      json: data ? \x7b ...fixtures." ++ key ++
          ", ...data \x7d : fixtures." ++ key ++ ",") [] .code :=
        ((Made.around (.name hkey) (by decide)).then_plain (.name hkey)).then_plain
          (.fixed (by decide))
      refine .skip (t := .code) (by decide) (hopening.line (.skip (t := .code) (by decide) ?_))
      refine hparameter.line (.skip (t := .code) (by decide) (hroute.line (hmethod.line ?_)))
      iterate 4 refine .skip (t := .code) (by decide) ?_
      refine hstatus.line (hjson.line ?_)
      iterate 3 refine .skip (t := .code) (by decide) ?_
      exact .no_lines

/-- The lines of a service-worker handler. -/
theorem Handler.made_worker {h : Handler} (hname : h.name ∈ names)
    (huse : ∀ f ∈ h.answer.use?, f.members ⊆ names) :
    Made names .code (lines h.workerLines) h.workerLiterals .code := by
  have hrespond : Made names .code
      ("  return http." ++ h.method.name ++ "(" ++ quote h.glob ++ ", () => \x7b")
      [.ofText h.glob] .code :=
    ((Made.around (.methodName h.method) (by decide)).append (.text h.glob)).then_plain
      (.fixed (by decide))
  unfold workerLines workerLiterals
  cases hanswer : h.answer with
  | empty status =>
      have hopening : Made names .code ("export const " ++ h.name ++ " = () => \x7b") [] .code :=
        .around (.name hname) (by decide)
      have hbody : Made names .code
          ("    return new HttpResponse(null, \x7b status: " ++ toString status ++ " \x7d);") [] .code :=
        .around (.status status) (by decide)
      refine .skip (t := .code) (by decide) (hopening.line (hrespond.line (hbody.line ?_)))
      iterate 2 refine .skip (t := .code) (by decide) ?_
      exact .no_lines
  | fixture status schema key =>
      obtain ⟨hschema, hkey⟩ : schema ∈ names ∧ key ∈ names := by
        simpa [hanswer, Answer.use?, Fixture.members] using huse
      have htype : Made names .code ("types." ++ schema) [] .code :=
        (Made.fixed (by decide)).then_plain (.name hschema)
      have hopening : Made names .code ("export const " ++ h.name ++ " = (data?: " ++
          ("types." ++ schema) ++ " | ((defaultData: " ++ ("types." ++ schema) ++ ") => " ++
          ("types." ++ schema) ++ ")) => \x7b") [] .code :=
        ((((((Made.around (.name hname) (by decide)).then_plain htype).then_plain
          (.fixed (by decide))).then_plain htype).then_plain (.fixed (by decide))).then_plain
          htype).then_plain (.fixed (by decide))
      have hdefault : Made names .code ("    const defaultData = fixtures." ++ key ++ ";") [] .code :=
        .around (.name hkey) (by decide)
      have hbody : Made names .code ("    return HttpResponse.json(responseData, \x7b status: " ++
          toString status ++ " \x7d);") [] .code :=
        .around (.status status) (by decide)
      refine .skip (t := .code) (by decide) (hopening.line (hrespond.line (hdefault.line ?_)))
      refine Made.dataLine.line ?_
      iterate 3 refine .skip (t := .code) (by decide) ?_
      refine hbody.line ?_
      iterate 2 refine .skip (t := .code) (by decide) ?_
      exact .no_lines

/-- The handlers of a module in a row, if each is made of code, its names, and its
literals. -/
theorem HandlersModule.made_handlers {m : HandlersModule} {asLines : Handler → List String}
    {literals : Handler → List Literal} (hexports : m.exports ⊆ names)
    (huses : ∀ f ∈ m.uses, f.members ⊆ names)
    (hmade : ∀ h : Handler, h.name ∈ names → (∀ f ∈ h.answer.use?, f.members ⊆ names) →
      Made names .code (lines (asLines h)) (literals h) .code) :
    Made names .code (lines (m.handlers.flatMap asLines)) (m.handlers.flatMap literals) .code :=
  .lines_flatMap fun h hh => hmade h (hexports (List.mem_map_of_mem hh))
    fun f hf => huses f (List.mem_filterMap.mpr ⟨h, hh, hf⟩)

/-- The routes module is made of code, its names, and its literals. -/
theorem HandlersModule.made_routes {m : HandlersModule} (hexports : m.exports ⊆ names)
    (huses : ∀ f ∈ m.uses, f.members ⊆ names) :
    Made names .code m.routesText m.routeLiterals .code := by
  refine .lines_append ?_ (made_handlers hexports huses fun _ => Handler.made_route)
  refine .skip (t := .block) (by decide) (.skip (t := .block) (by decide) ?_)
  iterate 2 refine .skip (t := .code) (by decide) ?_
  exact Made.pageImport.line m.made_imports

/-- The service-worker module, too. -/
theorem HandlersModule.made_worker {m : HandlersModule} (hexports : m.exports ⊆ names)
    (huses : ∀ f ∈ m.uses, f.members ⊆ names) :
    Made names .code m.workerText m.workerLiterals .code := by
  refine .lines_append ?_ (made_handlers hexports huses fun _ => Handler.made_worker)
  refine .skip (t := .block) (by decide) (.skip (t := .block) (by decide) ?_)
  iterate 2 refine .skip (t := .code) (by decide) ?_
  exact Made.workerImport.line m.made_imports

/-! ## Mock classes -/

/-- The literals of a mock class: its glob, its expression, and its method. -/
def MockClass.literals (k : MockClass) : List Literal :=
  [.ofText k.glob, ⟨.regex, k.pattern⟩, .ofText k.method.name]

/-- What the module with mock classes imports from, beside the page. -/
def MockClassesModule.importLiterals (m : MockClassesModule) : List Literal :=
  if m.classes.isEmpty then [] else tableLiterals m.typesImport

/-- The literals of the module with mock classes. -/
def MockClassesModule.literals (m : MockClassesModule) : List Literal :=
  .ofText "@playwright/test" :: m.importLiterals ++ m.classes.flatMap MockClass.literals

theorem MockClassesModule.made_imports (m : MockClassesModule) :
    Made names .code (lines m.imports) m.importLiterals .code := by
  unfold imports importLiterals
  split
  · exact .no_lines
  · exact .tableImports _

/-- The lines of a mock class, if its expression is that of a path. -/
theorem MockClass.made {k : MockClass} (hname : k.name ∈ names) (huse : k.use.members ⊆ names)
    (hpattern : ∃ path, k.pattern = regexBody path) :
    Made names .code (Emit.lines k.lines) k.literals .code := by
  obtain ⟨hschema, hkey⟩ : k.schema ∈ names ∧ k.fixture ∈ names := by
    simpa [use, Fixture.members] using huse
  have htype : Made names .code ("types." ++ k.schema) [] .code :=
    (Made.fixed (by decide)).then_plain (.name hschema)
  have hopening : Made names .code ("export class " ++ k.name ++ " \x7b") [] .code :=
    .around (.name hname) (by decide)
  have hdata : Made names .code ("  private data: " ++ ("types." ++ k.schema) ++ ";") [] .code :=
    .around htype (by decide)
  have hglob : Made names .code ("  static readonly globPattern = " ++ quote k.glob ++ ";")
      [.ofText k.glob] .code :=
    .around (.text _) (by decide)
  have hregex : Made names .code ("  static readonly pattern = /" ++ k.pattern ++ "/;")
      [⟨.regex, k.pattern⟩] .code := by
    obtain ⟨path, heq⟩ := hpattern
    have hline : "  static readonly pattern = /" ++ regexBody path ++ "/;" =
        "  static readonly pattern = " ++ ("/" ++ regexBody path ++ "/") ++ ";" := by
      simp only [String.append_assoc]
      rfl
    rw [heq, hline]
    exact .around (.path path) (by decide)
  have hclone : Made names .code ("    this.data = structuredClone(fixtures." ++ k.fixture ++ ");")
      [] .code :=
    .around (.name hkey) (by decide)
  have hoverrides : Made names .code
      ("  with(overrides: Partial<" ++ ("types." ++ k.schema) ++ ">): this \x7b") [] .code :=
    .around htype (by decide)
  have hbuild : Made names .code ("  build(): " ++ ("types." ++ k.schema) ++ " \x7b") [] .code :=
    .around htype (by decide)
  have hdefault : Made names .code ("  async apply(page: Page, pattern: string | RegExp = " ++
      k.name ++ ".pattern): Promise<void> \x7b") [] .code :=
    .around (.name hname) (by decide)
  have hmethod : Made names .code
      ("      if (route.request().method().toLowerCase() !== '" ++ k.method.name ++ "') \x7b")
      [.ofText k.method.name] .code :=
    .method (l := "      if (route.request().method().toLowerCase() !== ".toList) _ (by decide)
  have hstatus : Made names .code ("        status: " ++ toString k.status ++ ",") [] .code :=
    .around (.status k.status) (by decide)
  -- from here on line by line; in the comments of the methods the reader is in a block
  refine .skip (t := .code) (by decide) (hopening.line (hdata.line ?_))
  iterate 2 refine .skip (t := .code) (by decide) ?_
  refine hglob.line ?_
  iterate 2 refine .skip (t := .code) (by decide) ?_
  refine hregex.line ?_
  iterate 2 refine .skip (t := .code) (by decide) ?_
  refine hclone.line ?_
  iterate 2 refine .skip (t := .code) (by decide) ?_
  iterate 2 refine .skip (t := .block) (by decide) ?_
  refine .skip (t := .code) (by decide) (hoverrides.line ?_)
  iterate 4 refine .skip (t := .code) (by decide) ?_
  iterate 2 refine .skip (t := .block) (by decide) ?_
  refine .skip (t := .code) (by decide) (hbuild.line ?_)
  iterate 3 refine .skip (t := .code) (by decide) ?_
  iterate 4 refine .skip (t := .block) (by decide) ?_
  refine .skip (t := .code) (by decide) (hdefault.line ?_)
  iterate 2 refine .skip (t := .code) (by decide) ?_
  refine hmethod.line ?_
  iterate 4 refine .skip (t := .code) (by decide) ?_
  refine hstatus.line ?_
  iterate 5 refine .skip (t := .code) (by decide) ?_
  exact .no_lines

/-- The module with mock classes is made of code, its names, and its literals, if the
expressions are those of paths. -/
theorem MockClassesModule.made {m : MockClassesModule} (hexports : m.exports ⊆ names)
    (huses : ∀ f ∈ m.uses, f.members ⊆ names)
    (hpatterns : ∀ k ∈ m.classes, ∃ path, k.pattern = regexBody path) :
    Made names .code m.text m.literals .code := by
  have hclasses : Made names .code (lines (m.classes.flatMap MockClass.lines))
      (m.classes.flatMap MockClass.literals) .code :=
    .lines_flatMap fun k hk => MockClass.made (hexports (List.mem_map_of_mem hk))
      (huses _ (List.mem_map_of_mem hk)) (hpatterns k hk)
  refine .lines_append ?_ hclasses
  refine .skip (t := .block) (by decide) (.skip (t := .block) (by decide) ?_)
  iterate 2 refine .skip (t := .code) (by decide) ?_
  exact Made.pageImport.line m.made_imports

/-! ## Fixtures -/

/-- What the data of the fixtures is imported from. -/
def FixturesModule.sourceLiterals (m : FixturesModule) : List Literal :=
  match m.strategy with
  | .zod => [.ofText "@anatine/zod-mock", .ofText m.zodImport]
  | .static => [.ofText m.buildersImport]

/-- The literals of the fixtures module. -/
def FixturesModule.literals (m : FixturesModule) : List Literal :=
  if m.fixtures.isEmpty then [] else .ofText m.typesImport :: m.sourceLiterals

theorem FixturesModule.made_imports {m : FixturesModule} (h : m.builderImports ⊆ names) :
    Made names .code (lines m.imports) m.sourceLiterals .code := by
  unfold imports sourceLiterals
  cases m.strategy with
  | static =>
      exact Made.line (((Made.around (.intercalate h) (by decide)).append
        (.text _)).then_plain (.fixed (by decide))) .no_lines
  | zod =>
      have hline : "import \x7b generateMock \x7d from '@anatine/zod-mock';" =
          "import \x7b generateMock \x7d from " ++ quote "@anatine/zod-mock" ++ ";" := by decide
      rw [hline]
      exact Made.line (.around (.text _) (by decide))
        (.line (.around (.text _) (by decide)) .no_lines)

theorem Fixture.made_value {strategy : Strategy} {f : Fixture} (h : f.source strategy ∈ names) :
    Made names .code (f.value strategy) [] .code := by
  cases strategy with
  | static => exact .around (.name h) (by decide)
  | zod => exact .around (.name h) (by decide)

theorem made_tableLines {strategy : Strategy} {fixtures : List Fixture}
    (hmembers : ∀ f ∈ fixtures, f.members ⊆ names)
    (hsources : ∀ f ∈ fixtures, f.source strategy ∈ names) :
    Made names .code (lines (FixturesModule.tableLines strategy fixtures)) [] .code := by
  have hentry : ∀ f ∈ fixtures,
      Made names .code ("  " ++ f.name ++ ": " ++ f.value strategy) [] .code := by
    intro f hf
    have hkey : f.name ∈ names := hmembers f hf (by simp [Fixture.members])
    exact (Made.around (.name hkey) (by decide)).then_plain
      (Fixture.made_value (hsources f hf))
  fun_induction FixturesModule.tableLines strategy fixtures with
  | case1 => exact .no_lines
  | case2 f => exact (hentry f List.mem_cons_self).line .no_lines
  | case3 f rest _ ih =>
      have hmore := ih (fun g hg => hmembers g (List.mem_cons_of_mem _ hg))
        (fun g hg => hsources g (List.mem_cons_of_mem _ hg))
        (fun g hg => hentry g (List.mem_cons_of_mem _ hg))
      exact ((hentry f List.mem_cons_self).then_plain (.fixed (by decide))).line hmore

/-- The fixtures module is made of code, its names, and its literals. -/
theorem FixturesModule.made {m : FixturesModule} (hmembers : ∀ f ∈ m.fixtures, f.members ⊆ names)
    (hsources : ∀ f ∈ m.fixtures, f.source m.strategy ∈ names)
    (himports : m.builderImports ⊆ names) :
    Made names .code m.text m.literals .code := by
  unfold text literals
  split
  · refine .skip (t := .code) (by decide) (.skip (t := .code) (by decide) .no_lines)
  · have hheader : Made names .code (lines [
        "/**",
        " * Generated fixtures for API responses",
        " */",
        "",
        "import type * as types from " ++ quote m.typesImport ++ ";"])
        [.ofText m.typesImport] .code := by
      refine .skip (t := .block) (by decide) (.skip (t := .block) (by decide) ?_)
      iterate 2 refine .skip (t := .code) (by decide) ?_
      exact (Made.typesImport _).line .no_lines
    have htable := made_tableLines hmembers hsources
    have htypes : Made names .code
        (lines (m.fixtures.map fun f => "  " ++ f.name ++ ": types." ++ f.schema ++ ";"))
        (m.fixtures.flatMap fun _ => []) .code := by
      refine .lines_map fun f hf => ?_
      have hkey : f.name ∈ names := hmembers f hf (by simp [Fixture.members])
      have hschema : f.schema ∈ names := hmembers f hf (by simp [Fixture.members])
      exact ((Made.around (.name hkey) (by decide)).then_plain
        (.name hschema)).then_plain (.fixed (by decide))
    have hopen : Made names .code (lines ["", "export const fixtures = \x7b"]) [] .code :=
      .skip (t := .code) (by decide) (.skip (t := .code) (by decide) .no_lines)
    have hbetween : Made names .code
        (lines ["\x7d as const;", "", "export interface Fixtures \x7b"]) [] .code := by
      iterate 3 refine .skip (t := .code) (by decide) ?_
      exact .no_lines
    have hclose : Made names .code (lines ["\x7d"]) [] .code :=
      .skip (t := .code) (by decide) .no_lines
    have hmodule := (((((hheader.lines_append (made_imports himports)).lines_append
      hopen).lines_append htable).lines_append hbetween).lines_append htypes).lines_append hclose
    have hnone : (m.fixtures.flatMap fun _ => ([] : List Literal)) = [] := by simp
    simp only [hnone, List.append_nil] at hmodule
    exact hmodule

/-! ## All files -/

/-- The literals of the index: the names of the modules. -/
def indexLiterals (modules : List String) : List Literal :=
  modules.map fun name => .ofText ("./" ++ name)

/-- The literals of the files, in order. -/
def Bundle.literals (b : Bundle) : List (List Literal) :=
  [b.fixtures.literals, b.routes.routeLiterals] ++ (b.builders.map MockClassesModule.literals).toList ++
    (b.worker.map HandlersModule.workerLiterals).toList ++ [indexLiterals (b.modules.map (·.1))]

theorem mem_moduleNames {b : Bundle} {name : String} (h : name ∈ b.modules.map (·.1)) :
    name ∈ ["fixtures", "routes", "builders", "msw"] := by
  unfold Bundle.modules at h
  cases hbuilders : b.builders <;> cases hworker : b.worker <;>
    simp [hbuilders, hworker] at h ⊢ <;> tauto

/-- The index is made of code and its literals. -/
theorem made_indexText {modules : List String}
    (h : ∀ name ∈ modules, name ∈ ["fixtures", "routes", "builders", "msw"]) :
    Made names .code (indexText modules) (indexLiterals modules) .code := by
  have hquoted : ∀ name ∈ ["fixtures", "routes", "builders", "msw"],
      "export * from './" ++ name ++ "';" = "export * from " ++ quote ("./" ++ name) ++ ";" := by
    decide
  have hline : ∀ name ∈ modules,
      Made names .code ("export * from './" ++ name ++ "';") [.ofText ("./" ++ name)] .code := by
    intro name hname
    rw [hquoted name (h name hname)]
    exact .around (.text _) (by decide)
  have hexports := Made.lines_map hline
  rw [← List.map_eq_flatMap] at hexports
  refine .skip (t := .block) (by decide) (.skip (t := .block) (by decide) ?_)
  iterate 2 refine .skip (t := .code) (by decide) ?_
  exact hexports

theorem forall₂_toList {α β γ : Type} {r : β → γ → Prop} {o : Option α} {f : α → β} {g : α → γ}
    (h : ∀ x ∈ o, r (f x) (g x)) : List.Forall₂ r (o.map f).toList (o.map g).toList := by
  cases o with
  | none => exact .nil
  | some x => exact .cons (h x rfl) .nil

theorem Bundle.members_subset {b : Bundle} {f : Fixture} (hf : f ∈ b.reads) :
    f.members ⊆ b.identifiers := by
  intro t ht
  simp only [identifiers, List.mem_append, List.mem_flatMap]
  exact .inl (.inl (.inr ⟨f, hf, ht⟩))

theorem Bundle.exports_subset {b : Bundle} {m : String × List String} (hm : m ∈ b.exports) :
    m.2 ⊆ b.identifiers := by
  intro t ht
  simp only [identifiers, List.mem_append, List.mem_flatMap]
  exact .inl (.inl (.inl ⟨m, hm, ht⟩))

/-- **Every file is made of code, the names of the bundle, and its literals**, if the
expressions of its classes are those of paths. -/
theorem Bundle.made {b : Bundle}
    (hpatterns : ∀ m ∈ b.builders, ∀ k ∈ m.classes, ∃ path, k.pattern = regexBody path) :
    List.Forall₂ (fun (file : GeneratedFile) ls => Made b.identifiers .code file.content ls .code)
      b.files b.literals := by
  have hfixtures : Made b.identifiers .code b.fixtures.text b.fixtures.literals .code := by
    refine FixturesModule.made ?_ ?_ ?_
    · intro f hf
      exact members_subset (by simp [reads, hf])
    · intro f hf
      simp only [identifiers, List.mem_append, List.mem_map]
      exact .inl (.inr ⟨f, hf, rfl⟩)
    · intro t ht
      simp [identifiers, ht]
  have hroutes : Made b.identifiers .code b.routes.routesText b.routes.routeLiterals .code := by
    refine HandlersModule.made_routes ?_ ?_
    · exact exports_subset (m := ("routes", b.routes.exports)) (by simp [exports])
    · intro f hf
      exact members_subset (by simp [reads, hf])
  have hindex : Made b.identifiers .code (indexText (b.modules.map (·.1)))
      (indexLiterals (b.modules.map (·.1))) .code :=
    made_indexText fun _ => mem_moduleNames
  have hclasses : ∀ m ∈ b.builders, Made b.identifiers .code m.text m.literals .code := by
    intro m hm
    refine MockClassesModule.made ?_ ?_ (hpatterns m hm)
    · exact exports_subset (m := ("builders", m.exports)) (by simp [exports, Option.mem_def.mp hm])
    · intro f hf
      exact members_subset (by simp [reads, Option.mem_def.mp hm, hf])
  have hworker : ∀ m ∈ b.worker, Made b.identifiers .code m.workerText m.workerLiterals .code := by
    intro m hm
    refine HandlersModule.made_worker ?_ ?_
    · exact exports_subset (m := ("msw", m.exports)) (by simp [exports, Option.mem_def.mp hm])
    · intro f hf
      exact members_subset (by simp [reads, Option.mem_def.mp hm, hf])
  refine List.rel_append (List.forall₂_map_left_iff.mpr ?_) (.cons hindex .nil)
  refine List.rel_append (List.rel_append ?_ ?_) ?_
  · exact .cons hfixtures (.cons hroutes .nil)
  · exact forall₂_toList hclasses
  · exact forall₂_toList hworker

end ApiMocks.Emit
