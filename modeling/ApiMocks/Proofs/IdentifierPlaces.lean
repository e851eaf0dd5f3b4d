import ApiMocks.Proofs.ExportedNames
import Mathlib

/-!
# Where identifiers stand

The templates of the modules have places for identifiers: behind a keyword, behind
`types.` or `fixtures.`, as a key of the table, and where the data of a fixture is
made.  What a bundle writes there are the names that its modules export, the keys
and schemas of the fixtures that they have and read, and what makes their data.

* `Bundle.identifiers`: the texts at places of identifiers;
* `Bundle.reads`: the fixtures that the modules have and read;
* `forall_identifiers_iff`: the identifiers, kind by kind;
* `Bundle.identifiers_placed`: each stands at such a place of a module.
-/

namespace ApiMocks.Emit

/-! ## Identifiers -/

/-- The members that stand for a fixture: its type behind `types.`, and its key
behind `fixtures.` and in the table. -/
def Fixture.members (f : Fixture) : List String := [f.schema, f.name]

/-- What the data of a fixture is made by: a builder class, or an export of the zod
schemas. -/
def Fixture.source (strategy : Strategy) (f : Fixture) : String :=
  match strategy with
  | .static => Naming.schemaBuilder f.schema
  | .zod => Naming.zodSchema f.schema

/-- The fixtures that the modules have and read. -/
def Bundle.reads (b : Bundle) : List Fixture :=
  b.fixtures.fixtures ++ b.routes.uses ++
    b.builders.toList.flatMap MockClassesModule.uses ++ b.worker.toList.flatMap HandlersModule.uses

/-- The texts of the modules that stand where an identifier does: what they export,
members, what makes the data, and what is imported for it. -/
def Bundle.identifiers (b : Bundle) : List String :=
  b.exports.flatMap (·.2) ++ b.reads.flatMap Fixture.members ++
    b.fixtures.fixtures.map (Fixture.source b.fixtures.strategy) ++ b.fixtures.builderImports

/-- Imports bring nothing that makes no entry. -/
theorem exists_source_of_mem_builderImports {m : FixturesModule} {t : String}
    (h : t ∈ m.builderImports) : ∃ f ∈ m.fixtures, f.source m.strategy = t := by
  obtain ⟨f, hf, hmakes⟩ := (m.mem_builderImports t).mp h
  refine ⟨f, hf, ?_⟩
  cases hstrategy : m.strategy with
  | static =>
      rw [hstrategy] at hmakes
      exact instantiates_static.mp hmakes
  | zod =>
      rw [hstrategy] at hmakes
      exact absurd hmakes not_instantiates_zod

/-- **The identifiers of a bundle**, kind by kind. -/
theorem forall_identifiers_iff {b : Bundle} {p : String → Prop} :
    (∀ t ∈ b.identifiers, p t) ↔
      (∀ m ∈ b.exports, ∀ t ∈ m.2, p t) ∧ (∀ f ∈ b.reads, ∀ t ∈ f.members, p t) ∧
      (∀ f ∈ b.fixtures.fixtures, p (f.source b.fixtures.strategy)) := by
  simp only [Bundle.identifiers, List.forall_mem_append, List.forall_mem_flatMap,
    List.forall_mem_map]
  constructor
  · intro h
    obtain ⟨⟨⟨hexports, hreads⟩, hsources⟩, -⟩ := h
    exact ⟨hexports, hreads, hsources⟩
  · intro h
    obtain ⟨hexports, hreads, hsources⟩ := h
    refine ⟨⟨⟨hexports, hreads⟩, hsources⟩, ?_⟩
    intro t ht
    obtain ⟨f, hf, rfl⟩ := exists_source_of_mem_builderImports ht
    exact hsources f hf

/-! ## Places -/

/-- A place for an identifier in a template: what stands in front and behind. -/
structure IdentifierPlace where
  before : String
  behind : String
  deriving DecidableEq

/-- The places of the templates. -/
def identifierPlaces : List IdentifierPlace := [
  -- exports
  ⟨"export const ", " = \x7b"⟩, ⟨"export interface ", " \x7b"⟩,
  ⟨"export async function ", "("⟩, ⟨"export class ", " \x7b"⟩,
  ⟨"export const ", " = () => \x7b"⟩, ⟨"export const ", " = (data?: "⟩,
  -- members
  ⟨"  ", ": types."⟩, ⟨": types.", ";"⟩,
  ⟨"  data?: Partial<types.", ">"⟩, ⟨"      json: data ? \x7b ...fixtures.", ", ...data \x7d : fixtures."⟩,
  ⟨"types.", " | ((defaultData: "⟩, ⟨"    const defaultData = fixtures.", ";"⟩,
  ⟨"types.", ";"⟩, ⟨"    this.data = structuredClone(fixtures.", ");"⟩,
  -- what makes the data
  ⟨"new ", "().build()"⟩, ⟨"generateMock(schemas.", ")"⟩]

/-- The name stands at a place for an identifier. -/
def Placed (name text : String) : Prop :=
  ∃ place ∈ identifierPlaces, ∃ front back,
    text = front ++ (place.before ++ name ++ place.behind) ++ back

/-- It stands at such a place of one of the lines. -/
def PlacedIn (name : String) (ls : List String) : Prop := ∃ line ∈ ls, Placed name line

variable {name line : String} {ls ms : List String}

/-- What stands in a line stands in the text. -/
theorem PlacedIn.placed (h : PlacedIn name ls) : Placed name (lines ls) := by
  obtain ⟨line, hline, place, hplace, front, back, rfl⟩ := h
  obtain ⟨before, after, rfl⟩ := List.append_of_mem hline
  refine ⟨place, hplace, lines before ++ front, back ++ ("\n" ++ lines after), ?_⟩
  rw [lines_append, lines_cons]
  simp only [String.append_assoc]

theorem PlacedIn.mono (h : PlacedIn name ls) (hsubset : ls ⊆ ms) : PlacedIn name ms := by
  obtain ⟨line, hline, hplaced⟩ := h
  exact ⟨line, hsubset hline, hplaced⟩

theorem placed_of {front back : String} (place : IdentifierPlace)
    (hplace : place ∈ identifierPlaces) :
    Placed name (front ++ (place.before ++ name ++ place.behind) ++ back) :=
  ⟨place, hplace, front, back, rfl⟩

variable {h : Handler} {k : MockClass} {f : Fixture}

/-! ## Handlers -/

/-- An answer that reads a fixture is one with it. -/
theorem answer_of_use? {answer : Answer} (h : answer.use? = some f) :
    ∃ status, answer = .fixture status f.schema f.name := by
  cases answer with
  | empty status => cases h
  | fixture status schema key =>
      cases h
      exact ⟨status, rfl⟩

theorem Handler.placed_name_route (h : Handler) : PlacedIn h.name h.routeLines := by
  refine ⟨"" ++ ("export async function " ++ h.name ++ "(") ++ "", by simp [routeLines], ?_⟩
  exact placed_of ⟨"export async function ", "("⟩ (by simp [identifierPlaces])

theorem Handler.placed_members_route (huse : h.answer.use? = some f) :
    ∀ t ∈ f.members, PlacedIn t h.routeLines := by
  obtain ⟨status, hanswer⟩ := answer_of_use? huse
  intro t ht
  rcases List.mem_pair.mp ht with rfl | rfl
  · refine ⟨"" ++ ("  data?: Partial<types." ++ f.schema ++ ">") ++ "",
      by simp [routeLines, hanswer], ?_⟩
    exact placed_of ⟨"  data?: Partial<types.", ">"⟩ (by simp [identifierPlaces])
  · refine ⟨"" ++ ("      json: data ? \x7b ...fixtures." ++ f.name ++ ", ...data \x7d : fixtures.") ++
      (f.name ++ ","), by simp [routeLines, hanswer, String.append_assoc], ?_⟩
    exact placed_of ⟨"      json: data ? \x7b ...fixtures.", ", ...data \x7d : fixtures."⟩
      (by simp [identifierPlaces])

theorem Handler.placed_name_worker (h : Handler) : PlacedIn h.name h.workerLines := by
  cases hanswer : h.answer with
  | empty status =>
      refine ⟨"" ++ ("export const " ++ h.name ++ " = () => \x7b") ++ "",
        by simp [workerLines, hanswer], ?_⟩
      exact placed_of ⟨"export const ", " = () => \x7b"⟩ (by simp [identifierPlaces])
  | fixture status schema key =>
      let type := "types." ++ schema
      refine ⟨"" ++ ("export const " ++ h.name ++ " = (data?: ") ++ (type ++ " | ((defaultData: " ++
        type ++ ") => " ++ type ++ ")) => \x7b"),
        by simp [workerLines, hanswer, type, String.append_assoc], ?_⟩
      exact placed_of ⟨"export const ", " = (data?: "⟩ (by simp [identifierPlaces])

theorem Handler.placed_members_worker (huse : h.answer.use? = some f) :
    ∀ t ∈ f.members, PlacedIn t h.workerLines := by
  obtain ⟨status, hanswer⟩ := answer_of_use? huse
  intro t ht
  rcases List.mem_pair.mp ht with rfl | rfl
  · let type := "types." ++ f.schema
    refine ⟨("export const " ++ h.name ++ " = (data?: ") ++
      ("types." ++ f.schema ++ " | ((defaultData: ") ++ (type ++ ") => " ++ type ++ ")) => \x7b"),
      by simp [workerLines, hanswer, type, String.append_assoc], ?_⟩
    exact placed_of ⟨"types.", " | ((defaultData: "⟩ (by simp [identifierPlaces])
  · refine ⟨"" ++ ("    const defaultData = fixtures." ++ f.name ++ ";") ++ "",
      by simp [workerLines, hanswer], ?_⟩
    exact placed_of ⟨"    const defaultData = fixtures.", ";"⟩ (by simp [identifierPlaces])

/-! ## Mock classes -/

theorem MockClass.placed_name (k : MockClass) : PlacedIn k.name k.lines := by
  refine ⟨"" ++ ("export class " ++ k.name ++ " \x7b") ++ "", by simp [lines], ?_⟩
  exact placed_of ⟨"export class ", " \x7b"⟩ (by simp [identifierPlaces])

theorem MockClass.placed_members (k : MockClass) : ∀ t ∈ k.use.members, PlacedIn t k.lines := by
  intro t ht
  rcases List.mem_pair.mp ht with rfl | rfl
  · refine ⟨"  private data: " ++ ("types." ++ k.schema ++ ";") ++ "",
      by simp [lines, String.append_assoc], ?_⟩
    exact placed_of ⟨"types.", ";"⟩ (by simp [identifierPlaces])
  · refine ⟨"" ++ ("    this.data = structuredClone(fixtures." ++ k.fixture ++ ");") ++ "",
      by simp [lines], ?_⟩
    exact placed_of ⟨"    this.data = structuredClone(fixtures.", ");"⟩
      (by simp [identifierPlaces])

/-! ## Fixtures -/

theorem Fixture.placed_members (f : Fixture) :
    ∀ t ∈ f.members, Placed t ("  " ++ f.name ++ ": types." ++ f.schema ++ ";") := by
  intro t ht
  rcases List.mem_pair.mp ht with rfl | rfl
  · have hline : "  " ++ f.name ++ ": types." ++ f.schema ++ ";" =
        ("  " ++ f.name) ++ (": types." ++ f.schema ++ ";") ++ "" := by
      simp [String.append_assoc]
    rw [hline]
    exact placed_of ⟨": types.", ";"⟩ (by simp [identifierPlaces])
  · have hline : "  " ++ f.name ++ ": types." ++ f.schema ++ ";" =
        "" ++ ("  " ++ f.name ++ ": types.") ++ (f.schema ++ ";") := by
      simp [String.append_assoc]
    rw [hline]
    exact placed_of ⟨"  ", ": types."⟩ (by simp [identifierPlaces])

theorem Fixture.placed_source (strategy : Strategy) (f : Fixture) (front back : String) :
    Placed (f.source strategy) (front ++ f.value strategy ++ back) := by
  cases strategy with
  | static =>
      exact placed_of ⟨"new ", "().build()"⟩ (by simp [identifierPlaces])
  | zod =>
      exact placed_of ⟨"generateMock(schemas.", ")"⟩ (by simp [identifierPlaces])

/-- An entry of the table is made by its source. -/
theorem placed_tableLines {strategy : Strategy} {fixtures : List Fixture} (hf : f ∈ fixtures) :
    PlacedIn (f.source strategy) (FixturesModule.tableLines strategy fixtures) := by
  fun_induction FixturesModule.tableLines strategy fixtures with
  | case1 => cases hf
  | case2 g =>
      obtain rfl := List.mem_singleton.mp hf
      refine ⟨_, List.mem_cons_self, ?_⟩
      have hplaced := f.placed_source strategy ("  " ++ f.name ++ ": ") ""
      rwa [String.append_empty] at hplaced
  | case3 g rest _ ih =>
      rcases List.mem_cons.mp hf with rfl | hf
      · exact ⟨_, List.mem_cons_self, f.placed_source strategy ("  " ++ f.name ++ ": ") ","⟩
      · exact (ih hf).mono (List.subset_cons_self _ _)

/-! ## Modules -/

/-- What stands in the lines of one declaration stands in the module. -/
theorem placed_flatMap {α : Type} {xs : List α} {x : α} {asLines : α → List String}
    {header : List String} (hx : x ∈ xs) (h : PlacedIn name (asLines x)) :
    Placed name (lines (header ++ xs.flatMap asLines)) := by
  refine (h.mono ?_).placed
  intro line hline
  exact List.mem_append_right _ (List.mem_flatMap.mpr ⟨x, hx, hline⟩)

/-- In a module with handlers all names are placed, if they are in its handlers. -/
theorem HandlersModule.placed (m : HandlersModule) {header : List String}
    {asLines : Handler → List String} (hname : ∀ h : Handler, PlacedIn h.name (asLines h))
    (hmembers : ∀ (h : Handler) (f : Fixture), h.answer.use? = some f →
      ∀ t ∈ f.members, PlacedIn t (asLines h)) :
    ∀ t ∈ m.exports ++ m.uses.flatMap Fixture.members,
      Placed t (lines (header ++ m.handlers.flatMap asLines)) := by
  intro t ht
  rcases List.mem_append.mp ht with hexport | hmember
  · obtain ⟨h, hh, rfl⟩ := List.mem_map.mp hexport
    exact placed_flatMap hh (hname h)
  · obtain ⟨f, hf, ht⟩ := List.mem_flatMap.mp hmember
    obtain ⟨h, hh, huse⟩ := List.mem_filterMap.mp hf
    exact placed_flatMap hh (hmembers h f huse t ht)

theorem MockClassesModule.placed (m : MockClassesModule) :
    ∀ t ∈ m.exports ++ m.uses.flatMap Fixture.members, Placed t m.text := by
  intro t ht
  rcases List.mem_append.mp ht with hexport | hmember
  · obtain ⟨k, hk, rfl⟩ := List.mem_map.mp hexport
    exact placed_flatMap hk k.placed_name
  · obtain ⟨f, hf, ht⟩ := List.mem_flatMap.mp hmember
    obtain ⟨k, hk, rfl⟩ := List.mem_map.mp hf
    exact placed_flatMap hk (k.placed_members t ht)

theorem FixturesModule.placed_exports (m : FixturesModule) : ∀ t ∈ m.exports, Placed t m.text := by
  intro t ht
  have htable : Placed "fixtures" ("" ++ ("export const " ++ "fixtures" ++ " = \x7b") ++ "") :=
    placed_of ⟨"export const ", " = \x7b"⟩ (by simp [identifierPlaces])
  have hempty : Placed "fixtures"
      ("" ++ ("export const " ++ "fixtures" ++ " = \x7b") ++ "\x7d as const;") :=
    placed_of ⟨"export const ", " = \x7b"⟩ (by simp [identifierPlaces])
  have htypes : Placed "Fixtures" ("" ++ ("export interface " ++ "Fixtures" ++ " \x7b") ++ "") :=
    placed_of ⟨"export interface ", " \x7b"⟩ (by simp [identifierPlaces])
  unfold exports at ht
  unfold text
  split at ht
  · rename_i hnone
    obtain rfl := List.mem_singleton.mp ht
    rw [if_pos hnone]
    exact PlacedIn.placed ⟨"export const fixtures = \x7b\x7d as const;", by simp, hempty⟩
  · rename_i hsome
    rw [if_neg hsome]
    rcases List.mem_pair.mp ht with rfl | rfl
    · exact PlacedIn.placed ⟨"export const fixtures = \x7b", by simp, htable⟩
    · exact PlacedIn.placed ⟨"export interface Fixtures \x7b", by simp, htypes⟩

theorem FixturesModule.placed_fixtures {m : FixturesModule} (hf : f ∈ m.fixtures) :
    ∀ t ∈ f.source m.strategy :: f.members, Placed t m.text := by
  intro t ht
  have hsome : ¬ m.fixtures.isEmpty = true := by
    simpa using List.ne_nil_of_mem hf
  rw [text, if_neg hsome]
  rcases List.mem_cons.mp ht with rfl | ht
  · refine ((placed_tableLines hf).mono ?_).placed
    intro line hline
    simp only [List.mem_append]
    exact .inl (.inl (.inl (.inr hline)))
  · refine PlacedIn.placed ⟨_, ?_, f.placed_members t ht⟩
    simp only [List.mem_append, List.mem_map]
    exact .inl (.inr ⟨f, hf, rfl⟩)

/-- **Identifiers stand in the modules**, each at a place for one. -/
theorem Bundle.identifiers_placed (b : Bundle) :
    ∀ t ∈ b.identifiers, ∃ m ∈ b.modules, Placed t m.2 := by
  have hroutes : ∀ t ∈ b.routes.exports ++ b.routes.uses.flatMap Fixture.members,
      Placed t b.routes.routesText :=
    b.routes.placed Handler.placed_name_route fun _ _ => Handler.placed_members_route
  have hworker : ∀ m : HandlersModule, ∀ t ∈ m.exports ++ m.uses.flatMap Fixture.members,
      Placed t m.workerText :=
    fun m => m.placed Handler.placed_name_worker fun _ _ => Handler.placed_members_worker
  have htable : ("fixtures", b.fixtures.text) ∈ b.modules := by simp [modules]
  have hroute : ("routes", b.routes.routesText) ∈ b.modules := by simp [modules]
  have hclass : ∀ m ∈ b.builders, ("builders", m.text) ∈ b.modules := by
    intro m hm
    rw [Option.mem_def] at hm
    simp [modules, hm]
  have hmsw : ∀ m ∈ b.worker, ("msw", m.workerText) ∈ b.modules := by
    intro m hm
    rw [Option.mem_def] at hm
    simp [modules, hm]
  refine forall_identifiers_iff.mpr ⟨?_, ?_, ?_⟩
  · intro m hm t ht
    unfold exports at hm
    rcases List.mem_append.mp hm with hm | hm
    · rcases List.mem_append.mp hm with hm | hm
      · rcases List.mem_pair.mp hm with rfl | rfl
        · exact ⟨_, htable, b.fixtures.placed_exports t ht⟩
        · exact ⟨_, hroute, hroutes t (List.mem_append_left _ ht)⟩
      · obtain ⟨classes, hclasses, rfl⟩ := Option.map_eq_some_iff.mp (Option.mem_toList.mp hm)
        exact ⟨_, hclass classes hclasses, classes.placed t (List.mem_append_left _ ht)⟩
    · obtain ⟨worker, hsome, rfl⟩ := Option.map_eq_some_iff.mp (Option.mem_toList.mp hm)
      exact ⟨_, hmsw worker hsome, hworker worker t (List.mem_append_left _ ht)⟩
  · intro f hf t ht
    unfold reads at hf
    rcases List.mem_append.mp hf with hf | hf
    · rcases List.mem_append.mp hf with hf | hf
      · rcases List.mem_append.mp hf with hf | hf
        · exact ⟨_, htable, FixturesModule.placed_fixtures hf t (List.mem_cons_of_mem _ ht)⟩
        · exact ⟨_, hroute, hroutes t (List.mem_append_right _ (List.mem_flatMap.mpr ⟨f, hf, ht⟩))⟩
      · obtain ⟨classes, hclasses, hf⟩ := List.mem_flatMap.mp hf
        exact ⟨_, hclass classes (Option.mem_toList.mp hclasses),
          classes.placed t (List.mem_append_right _ (List.mem_flatMap.mpr ⟨f, hf, ht⟩))⟩
    · obtain ⟨worker, hsome, hf⟩ := List.mem_flatMap.mp hf
      exact ⟨_, hmsw worker (Option.mem_toList.mp hsome),
        hworker worker t (List.mem_append_right _ (List.mem_flatMap.mpr ⟨f, hf, ht⟩))⟩
  · intro f hf
    exact ⟨_, htable, FixturesModule.placed_fixtures hf _ List.mem_cons_self⟩

end ApiMocks.Emit
