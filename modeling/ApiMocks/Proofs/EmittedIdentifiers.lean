import ApiMocks.Proofs.CollectedOperations
import ApiMocks.Proofs.ExportedIdentifiers
import ApiMocks.Proofs.IdentifierNames
import ApiMocks.Proofs.IdentifierPlaces
import ApiMocks.Proofs.MadeUpIds
import ApiMocks.Proofs.ResponseNames

/-!
# Identifiers of the generated code

Ids and schema names are written into the generated code as they come, with a case
change, a front or a suffix.  A front makes any text a name that can follow in one;
a suffix leaves a name one, and an empty text becomes one.  So all that the modules
write where an identifier stands is settled by three texts: the id with a capital,
the id with a small first letter, and the name of the schema.

* `Suits`: ids whose names are all names of identifiers;
* `isName_handler_iff` and its siblings: each kind of name;
* `suits_operationId_iff`: which ids that are made up suit;
* `identifiers_valid_iff`: when all identifiers are valid.
-/

namespace ApiMocks.Emit

open Identifier Text

/-- All names from the id of an operation are names of identifiers: those with a
front only need that it can follow, those of fixtures and mock classes begin with
it. -/
structure Suits (a : Alphabet) (c : Config) (op : Operation) : Prop where
  follows : a.Continues (capitalize op.id).toList
  key : mockedResponses c op ≠ [] →
    (lowerFirst op.id).toList = [] ∨ a.IsName (lowerFirst op.id).toList
  type : mockedResponses c op ≠ [] → c.generateBuilders = true →
    (capitalize op.id).toList = [] ∨ a.IsName (capitalize op.id).toList

variable {a : Alphabet} {c : Config} {op : Operation} {ops : List Operation}

/-! ## Fronts and suffixes -/

/-- The key of a fixture is the id with a small first letter and a plain suffix. -/
theorem exists_fixture_eq (id : String) (s : Status) :
    ∃ kind, Word kind.toList ∧ Naming.fixture id s = lowerFirst id ++ kind := by
  cases h : s.isSuccess with
  | true => exact ⟨"Response", by decide, Naming.fixture_of_success h⟩
  | false => exact ⟨"Error" ++ toString s, word_error s, Naming.fixture_of_not_success h⟩

/-- Behind a plain front, a text only needs to follow. -/
theorem isName_front_iff (front : String) {text : String} (hfront : Word front.toList) :
    a.IsName (front ++ text).toList ↔ a.Continues text.toList := by
  rw [String.toList_append]
  exact Alphabet.isName_word_append hfront

theorem isName_handler_iff (id : String) :
    a.IsName (Naming.handler id).toList ↔ a.Continues (capitalize id).toList :=
  isName_front_iff "mock" (by decide)

theorem isName_workerHandler_iff (id : String) :
    a.IsName (Naming.workerHandler id).toList ↔ a.Continues (capitalize id).toList :=
  isName_front_iff "mswMock" (by decide)

theorem isName_errorHandler {id : String} {s : Status}
    (h : a.Continues (capitalize id).toList) : a.IsName (Naming.errorHandler id s).toList := by
  have hfollows := h.append (word_error s).isName.continues
  rw [Naming.errorHandler_eq, isName_front_iff "mock" (by decide), String.append_assoc,
    String.toList_append]
  exact hfollows

theorem isName_fixture_iff {id : String} {s : Status} (h : a.Continues (capitalize id).toList) :
    a.IsName (Naming.fixture id s).toList ↔
      (lowerFirst id).toList = [] ∨ a.IsName (lowerFirst id).toList := by
  obtain ⟨kind, hkind, heq⟩ := exists_fixture_eq id s
  rw [heq, String.toList_append]
  exact Alphabet.isName_append_iff ((wellFormed_lowerFirst_iff id).mpr h.wellFormed) hkind.isName

theorem isName_mockClass_iff {id : String} {s : Status} (h : a.Continues (capitalize id).toList) :
    a.IsName (Naming.mockClass id s).toList ↔
      (capitalize id).toList = [] ∨ a.IsName (capitalize id).toList := by
  obtain ⟨kind, hkind, heq⟩ := exists_mockClass_eq id s
  rw [heq, String.toList_append]
  exact Alphabet.isName_append_iff h.wellFormed hkind.isName

/-- A schema whose name is a name makes its data with a name. -/
theorem isName_source {strategy : Strategy} {f : Fixture} (h : a.IsName f.schema.toList) :
    a.IsName (f.source strategy).toList := by
  cases strategy with
  | static =>
      have hbuilder : Word "Builder".toList := by decide
      rw [Fixture.source, Naming.schemaBuilder, String.toList_append]
      exact h.append hbuilder.isName.continues
  | zod =>
      exact (isName_front_iff "z" (by decide)).mpr h.continues

/-! ## What stands in a bundle -/

/-- What a bundle has and reads is asked for by the operations. -/
theorem exists_asked_of_mem_reads {f : Fixture} (hf : f ∈ (bundle c ops).value.reads) :
    ∃ op ∈ ops, f ∈ askedFixtures c op := by
  unfold Bundle.reads at hf
  rcases List.mem_append.mp hf with hf | hworker
  · rcases List.mem_append.mp hf with hf | hclasses
    · rcases List.mem_append.mp hf with htable | hroutes
      · exact List.mem_flatMap.mp (mem_of_mem_firsts htable)
      · apply exists_asked_of_mem_uses ?_ hroutes
        intro h hh u hu
        obtain ⟨op, hop, hh⟩ := List.mem_flatMap.mp hh
        exact ⟨op, hop, use_mem_askedFixtures_of_route hh hu⟩
    · obtain ⟨m, hm, hf⟩ := List.mem_flatMap.mp hclasses
      obtain ⟨-, rfl⟩ := mem_when.mp (Option.mem_toList.mp hm)
      obtain ⟨k, hk, rfl⟩ := List.mem_map.mp hf
      obtain ⟨op, hop, hk⟩ := List.mem_flatMap.mp (mem_of_mem_firsts hk)
      exact ⟨op, hop, use_mem_askedFixtures_of_class hk⟩
  · obtain ⟨m, hm, hf⟩ := List.mem_flatMap.mp hworker
    obtain ⟨-, rfl⟩ := mem_when.mp (Option.mem_toList.mp hm)
    apply exists_asked_of_mem_uses ?_ hf
    intro h hh u hu
    obtain ⟨op, hop, hh⟩ := List.mem_filterMap.mp hh
    exact ⟨op, hop, use_mem_askedFixtures_of_worker hh hu⟩

theorem mem_reads_of_mem_fixtures {f : Fixture} (hf : f ∈ (fixturesModule c ops).value.fixtures) :
    f ∈ (bundle c ops).value.reads := by
  simp only [Bundle.reads, List.mem_append]
  exact .inl (.inl (.inl hf))

/-- Every operation has a route handler of its name. -/
theorem handler_mem_exports (hop : op ∈ ops) :
    Naming.handler op.id ∈ (routesModule c ops).value.exports := by
  have hasked : mainHandler c op ∈ ops.flatMap (routeCandidates c) :=
    List.mem_flatMap.mpr ⟨op, hop, mem_routeCandidates.mpr (.inl rfl)⟩
  exact name_mem_map_firsts hasked

/-- Every mocked response has a mock class of its name. -/
theorem mockClass_mem_exports (hop : op ∈ ops) {m : Response × String}
    (hm : m ∈ mockedResponses c op) :
    Naming.mockClass op.id m.1.status ∈ (mockClassesModule c ops).value.exports := by
  obtain ⟨k, hk, hname⟩ := exists_mem_classCandidates hm
  rw [← hname]
  exact name_mem_map_firsts (List.mem_flatMap.mpr ⟨op, hop, hk⟩)

/-- The modules of a bundle with their exports. -/
theorem mem_exports_iff {m : String × List String} :
    m ∈ (bundle c ops).value.exports ↔
      m = ("fixtures", (fixturesModule c ops).value.exports) ∨
      m = ("routes", (routesModule c ops).value.exports) ∨
      c.generateBuilders = true ∧ m = ("builders", (mockClassesModule c ops).value.exports) ∨
      c.generateMsw = true ∧ m = ("msw", (workerModule c ops).value.exports) := by
  cases hbuilders : c.generateBuilders <;> cases hworker : c.generateMsw <;>
    simp [Bundle.exports, bundle, Logged.when, hbuilders, hworker]

/-- Exported names are those of the table, or come from the id of an operation. -/
theorem isName_of_mem_exports (hsuits : ∀ op ∈ ops, Suits a c op) {m : String × List String}
    (hm : m ∈ (bundle c ops).value.exports) : ∀ t ∈ m.2, a.IsName t.toList := by
  intro t ht
  rcases mem_exports_iff.mp hm with rfl | rfl | ⟨hbuilders, rfl⟩ | ⟨-, rfl⟩
  · have hwords : ∀ m : FixturesModule, ∀ t ∈ m.exports, Word t.toList := by
      intro m
      unfold FixturesModule.exports
      split <;> decide
    exact (hwords _ t ht).isName
  · obtain ⟨h, hh, rfl⟩ := List.mem_map.mp ht
    obtain ⟨op, hop, hh⟩ := List.mem_flatMap.mp (mem_of_mem_firsts hh)
    have hfollows := (hsuits op hop).follows
    rcases mem_routeCandidates.mp hh with rfl | ⟨_, r, _, hcandidate⟩
    · exact (isName_handler_iff op.id).mpr hfollows
    · obtain ⟨_, _, rfl⟩ := errorCandidate?_eq_some hcandidate
      exact isName_errorHandler hfollows
  · obtain ⟨k, hk, rfl⟩ := List.mem_map.mp ht
    obtain ⟨op, hop, hk⟩ := List.mem_flatMap.mp (mem_of_mem_firsts hk)
    obtain ⟨r, hr, rfl⟩ := List.mem_map.mp hk
    have hsuits := hsuits op hop
    exact (isName_mockClass_iff hsuits.follows).mpr
      (hsuits.type (List.ne_nil_of_mem hr) hbuilders)
  · obtain ⟨h, hh, rfl⟩ := List.mem_map.mp ht
    obtain ⟨op, hop, hh⟩ := List.mem_filterMap.mp (mem_of_mem_firsts hh)
    obtain ⟨r, _, rfl⟩ := Option.map_eq_some_iff.mp hh
    exact (isName_workerHandler_iff op.id).mpr (hsuits op hop).follows

/-- The names of fixtures come from ids too. -/
theorem isName_of_mem_reads (hsuits : ∀ op ∈ ops, Suits a c op) {f : Fixture}
    (hf : f ∈ (bundle c ops).value.reads) : a.IsName f.name.toList := by
  obtain ⟨op, hop, hasked⟩ := exists_asked_of_mem_reads hf
  obtain ⟨r, hr, rfl⟩ := List.mem_map.mp hasked
  have hsuits := hsuits op hop
  exact (isName_fixture_iff hsuits.follows).mpr (hsuits.key (List.ne_nil_of_mem hr))

/-- With valid identifiers every id suits. -/
theorem suits_of_identifiers
    (h : ∀ t ∈ (bundle c ops).value.identifiers, a.IsName t.toList) (hop : op ∈ ops) :
    Suits a c op := by
  obtain ⟨hexports, hreads, -⟩ := forall_identifiers_iff.mp h
  have hfollows : a.Continues (capitalize op.id).toList := by
    rw [← isName_handler_iff]
    exact hexports _ (mem_exports_iff.mpr (.inr (.inl rfl))) _ (handler_mem_exports hop)
  refine ⟨hfollows, ?_, ?_⟩
  · intro hmocked
    obtain ⟨m, hm⟩ := List.exists_mem_of_ne_nil _ hmocked
    have hasked : ⟨Naming.fixture op.id m.1.status, m.2⟩ ∈ askedFixtures c op :=
      List.mem_map_of_mem hm
    obtain ⟨f, hf, hname⟩ := List.mem_map.mp (mem_keys_of_mem_askedFixtures hop hasked)
    have hvalid := hreads f (mem_reads_of_mem_fixtures hf) f.name (by simp [Fixture.members])
    rw [hname] at hvalid
    exact (isName_fixture_iff hfollows).mp hvalid
  · intro hmocked hbuilders
    obtain ⟨m, hm⟩ := List.exists_mem_of_ne_nil _ hmocked
    have hvalid := hexports _ (mem_exports_iff.mpr (.inr (.inr (.inl ⟨hbuilders, rfl⟩)))) _
      (mockClass_mem_exports hop hm)
    exact (isName_mockClass_iff hfollows).mp hvalid

/-! ## Ids -/

/-- Plain ids suit. -/
theorem suits_of_word (h : Word op.id.toList) : Suits a c op :=
  ⟨h.capitalize.isName.continues, fun _ => .inr h.lowerFirst.isName,
    fun _ _ => .inr h.capitalize.isName⟩

theorem word_name (m : Method) : Word m.name.toList := by
  cases m <;> decide

/-- **An id that is made up** suits exactly if the spelling of its path can follow. -/
theorem suits_operationId_iff (h : op.id = Naming.operationId op.method op.path) :
    Suits a c op ↔ a.Continues (Naming.spelling op.path) := by
  have hword := word_name op.method
  have hne : op.method.name.toList ≠ [] := by
    intro hnil
    rw [hnil] at hword
    exact hword
  have hcapital : (capitalize op.id).toList =
      (capitalize op.method.name).toList ++ Naming.spelling op.path := by
    rw [h, Naming.operationId_eq, capitalize, toList_mapFirst_append hne, String.toList_ofList]
    rfl
  have hsmall : (lowerFirst op.id).toList =
      (lowerFirst op.method.name).toList ++ Naming.spelling op.path := by
    rw [h, Naming.operationId_eq, lowerFirst, toList_mapFirst_append hne, String.toList_ofList]
    rfl
  constructor
  · intro hsuits
    have hfollows := hsuits.follows
    rwa [hcapital, Alphabet.continues_word_append hword.capitalize] at hfollows
  · intro hspelling
    constructor
    · rwa [hcapital, Alphabet.continues_word_append hword.capitalize]
    · intro _
      rw [hsmall]
      exact .inr ((Alphabet.isName_word_append hword.lowerFirst).mpr hspelling)
    · intro _ _
      rw [hcapital]
      exact .inr ((Alphabet.isName_word_append hword.capitalize).mpr hspelling)

/-! ## Valid identifiers -/

/-- **Identifiers of the generated code.**  Each stands at a place for one in the
modules.  Whatever the operations, all of them are names exactly if the ids of the
operations suit and the schema names that the modules read are names.  An id that is
made up suits exactly if the spelling of its path can follow in a name.  All schema
names come from responses, as they are; so with plain ids and plain schema names all
is valid. -/
theorem identifiers_valid_iff (a : Alphabet) (c : Config) (ops : List Operation) :
    (∀ t ∈ (bundle c ops).value.identifiers, ∃ m ∈ (bundle c ops).value.modules,
      Placed t m.2) ∧
    ((∀ t ∈ (bundle c ops).value.identifiers, a.IsName t.toList) ↔
      (∀ op ∈ ops, Suits a c op) ∧
        ∀ f ∈ (bundle c ops).value.reads, a.IsName f.schema.toList) ∧
    (∀ op ∈ ops, op.id = Naming.operationId op.method op.path →
      (Suits a c op ↔ a.Continues (Naming.spelling op.path))) ∧
    (∀ f ∈ (bundle c ops).value.reads,
      ∃ op ∈ ops, ∃ r ∈ op.responses, r.schemaName = some f.schema) ∧
    ((∀ op ∈ ops, Word op.id.toList) →
      (∀ op ∈ ops, ∀ r ∈ op.responses, ∀ name ∈ r.schemaName, Word name.toList) →
      ∀ t ∈ (bundle c ops).value.identifiers, a.IsName t.toList) := by
  have hiff : (∀ t ∈ (bundle c ops).value.identifiers, a.IsName t.toList) ↔
      (∀ op ∈ ops, Suits a c op) ∧
        ∀ f ∈ (bundle c ops).value.reads, a.IsName f.schema.toList := by
    constructor
    · intro h
      obtain ⟨-, hreads, -⟩ := forall_identifiers_iff.mp h
      exact ⟨fun op hop => suits_of_identifiers h hop,
        fun f hf => hreads f hf f.schema List.mem_cons_self⟩
    · intro h
      obtain ⟨hsuits, hschemas⟩ := h
      refine forall_identifiers_iff.mpr ⟨?_, ?_, ?_⟩
      · exact fun m hm => isName_of_mem_exports hsuits hm
      · intro f hf t ht
        rcases List.mem_pair.mp ht with rfl | rfl
        · exact hschemas f hf
        · exact isName_of_mem_reads hsuits hf
      · exact fun f hf => isName_source (hschemas f (mem_reads_of_mem_fixtures hf))
  have hnamed : ∀ f ∈ (bundle c ops).value.reads,
      ∃ op ∈ ops, ∃ r ∈ op.responses, r.schemaName = some f.schema := by
    intro f hf
    obtain ⟨op, hop, hasked⟩ := exists_asked_of_mem_reads hf
    obtain ⟨r, hr, hname, -, -⟩ := mem_askedFixtures.mp hasked
    exact ⟨op, hop, r, hr, hname⟩
  refine ⟨Bundle.identifiers_placed _, hiff, fun op _ h => suits_operationId_iff h, hnamed, ?_⟩
  intro hids hschemas
  refine hiff.mpr ⟨fun op hop => suits_of_word (hids op hop), ?_⟩
  intro f hf
  obtain ⟨op, hop, r, hr, hname⟩ := hnamed f hf
  exact (hschemas op hop r hr f.schema hname).isName

/-- A document whose path has a dash. -/
def userGroupsText : String :=
  "\x7b\"openapi\":\"3.1\",\"paths\":\x7b\"/user-groups\":\x7b\"get\":\x7b\x7d\x7d\x7d\x7d"

/-- The document of this text. -/
def userGroups : SourceDocument := .openApi {
  openapi := "3.1"
  paths := ⟨[("/user-groups", ({} : OpenApi.PathItem).set .get (some {}))]⟩ }

set_option maxRecDepth 4000 in
/-- **Not all documents give valid identifiers**: the dash comes into the name of a
function. -/
theorem not_forall_identifiers_valid :
    ¬ ∃ a : Alphabet, ∀ dialect encoding text doc c,
      SourceDocument.parse dialect encoding text = .ok doc → c.isValid = true →
        ∀ t ∈ (bundle c doc.collect.value).value.identifiers, a.IsName t.toList := by
  intro h
  obtain ⟨a, hall⟩ := h
  have hparse : SourceDocument.parse .openApi .json userGroupsText = .ok userGroups := rfl
  have hvalid : ({} : Config).isValid = true := by decide +kernel
  have hname := hall _ _ _ _ _ hparse hvalid "mockGetUser-groups" (by decide +kernel)
  have hdash := hname.isAsciiPart (c := '-') (by decide +kernel) (by decide +kernel) (by decide)
  exact absurd hdash (by decide)

end ApiMocks.Emit
