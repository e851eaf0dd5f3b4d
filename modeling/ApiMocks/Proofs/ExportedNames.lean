import ApiMocks.Proofs.CapitalForms
import ApiMocks.Proofs.FixtureUses
import Mathlib.Data.List.Nodup

/-!
# Exported names

The index exports all that the modules export, so no two of them may export one
name.  Within a module every name is kept once.  Across modules the beginnings of
the names differ: a route handler begins with `mock`, a service-worker handler
with `mswMock`, and a mock class with a capital form or with its suffix, never
with a small letter.  So every name tells the module that exports it, whatever the
ids of the operations are.

* `Bundle.exports`: what each module exports;
* `homeModule`: the module that a name tells;
* `homeModule_handler` and its siblings: each kind of name tells its module;
* `exports_nodup`: the index exports every name once.
-/

namespace ApiMocks.Emit

open Text

/-! ## What is exported -/

/-- The exported names of the fixtures module: the table, and the interface if
there are fixtures. -/
def FixturesModule.exports (m : FixturesModule) : List String :=
  if m.fixtures.isEmpty then ["fixtures"] else ["fixtures", "Fixtures"]

/-- The exported functions of a module with handlers. -/
def HandlersModule.exports (m : HandlersModule) : List String := m.handlers.map Handler.name

/-- The exported classes of a module with mock classes. -/
def MockClassesModule.exports (m : MockClassesModule) : List String :=
  m.classes.map MockClass.name

/-- The modules with the names that they export. -/
def Bundle.exports (b : Bundle) : List (String × List String) :=
  [("fixtures", b.fixtures.exports), ("routes", b.routes.exports)] ++
    (b.builders.map fun m => ("builders", m.exports)).toList ++
    (b.worker.map fun m => ("msw", m.exports)).toList

/-- The module that exports a name, as its beginning tells: `mock` or `mswMock`,
or else a mock class. -/
def homeModule (name : String) : String :=
  if name = "fixtures" ∨ name = "Fixtures" then "fixtures"
  else match name.toList with
    | 'm' :: 'o' :: _ => "routes"
    | 'm' :: _ => "msw"
    | _ => "builders"

variable {c : Config} {op : Operation} {ops : List Operation}

/-! ## Each kind of name tells its module -/

theorem ne_of_head_ne {s t : String} (h : s.toList.head? ≠ t.toList.head?) : s ≠ t :=
  fun heq => h (congrArg (List.head? ∘ String.toList) heq)

/-- With a small `m` in front, a name is none of the table. -/
theorem homeModule_of_head {name : String} (h : name.toList.head? = some 'm') :
    homeModule name =
      match name.toList with
      | 'm' :: 'o' :: _ => "routes"
      | 'm' :: _ => "msw"
      | _ => "builders" := by
  have htable : name ≠ "fixtures" ∧ name ≠ "Fixtures" :=
    ⟨ne_of_head_ne (by simp [h]), ne_of_head_ne (by simp [h])⟩
  exact if_neg (not_or.mpr htable)

theorem homeModule_mock (rest : String) : homeModule ("mock" ++ rest) = "routes" := by
  have hchars : ("mock" ++ rest).toList = 'm' :: 'o' :: 'c' :: 'k' :: rest.toList :=
    String.toList_append
  rw [homeModule_of_head (by rw [hchars]; rfl), hchars]
  rfl

theorem homeModule_mswMock (rest : String) : homeModule ("mswMock" ++ rest) = "msw" := by
  have hchars : ("mswMock" ++ rest).toList =
      'm' :: 's' :: 'w' :: 'M' :: 'o' :: 'c' :: 'k' :: rest.toList :=
    String.toList_append
  rw [homeModule_of_head (by rw [hchars]; rfl), hchars]
  rfl

/-- The name of a mock class is the capital form of the id and a suffix. -/
theorem mockClass_eq (id : String) (s : Status) :
    ∃ kind, (kind = "" ∨ kind = "Error" ++ toString s) ∧
      Naming.mockClass id s = capitalize id ++ (kind ++ "Mock") := by
  unfold Naming.mockClass
  split
  · exact ⟨"", .inl rfl, by rw [String.empty_append]⟩
  · exact ⟨"Error" ++ toString s, .inr rfl, by simp only [String.append_assoc]⟩

/-- It begins with no small letter: the suffix does not either. -/
theorem isLower_head_mockClass {id : String} {s : Status} {d : Char}
    (h : (Naming.mockClass id s).toList.head? = some d) : d.isLower = false := by
  obtain ⟨kind, hkind, heq⟩ := mockClass_eq id s
  rw [heq, String.toList_append] at h
  cases hcapital : (capitalize id).toList with
  | nil =>
      rw [hcapital, List.nil_append, String.toList_append] at h
      rcases hkind with rfl | rfl
      · obtain rfl : 'M' = d := Option.some.inj h
        rfl
      · rw [String.toList_append] at h
        obtain rfl : 'E' = d := Option.some.inj h
        rfl
  | cons first rest =>
      rw [hcapital] at h
      apply isLower_head_capitalize (s := id)
      rw [hcapital]
      exact h

/-- A text that begins with no small letter, and ends as the mock classes do, tells
their module. -/
theorem homeModule_of_ends {name : String}
    (hfirst : ∀ d ∈ name.toList.head?, d.isLower = false)
    (hlast : name.toList.getLast? = some 'k') : homeModule name = "builders" := by
  have hnot : ¬ (name = "fixtures" ∨ name = "Fixtures") := by
    intro h
    rcases h with rfl | rfl
    · exact absurd hlast (by decide)
    · exact absurd hlast (by decide)
  rw [homeModule, if_neg hnot]
  split
  · rename_i hchars
    exact absurd (hfirst 'm' (by rw [hchars]; rfl)) (by decide)
  · rename_i hchars
    exact absurd (hfirst 'm' (by rw [hchars]; rfl)) (by decide)
  · rfl

theorem getLast?_mockClass (id : String) (s : Status) :
    (Naming.mockClass id s).toList.getLast? = some 'k' := by
  obtain ⟨kind, _, heq⟩ := mockClass_eq id s
  simp [heq, String.toList_append]

theorem homeModule_mockClass (id : String) (s : Status) :
    homeModule (Naming.mockClass id s) = "builders" :=
  homeModule_of_ends (fun _ => isLower_head_mockClass) (getLast?_mockClass id s)

/-! ## What the modules export -/

theorem FixturesModule.mem_exports {m : FixturesModule} {name : String} (h : name ∈ m.exports) :
    name = "fixtures" ∨ name = "Fixtures" := by
  unfold exports at h
  split at h
  · exact .inl (List.mem_singleton.mp h)
  · simpa using h

theorem homeModule_of_mem_table {name : String}
    (h : name ∈ (fixturesModule c ops).value.exports) : homeModule name = "fixtures" :=
  if_pos (FixturesModule.mem_exports h)

theorem homeModule_of_mem_routes {name : String}
    (h : name ∈ (routesModule c ops).value.exports) : homeModule name = "routes" := by
  obtain ⟨handler, hhandler, rfl⟩ := List.mem_map.mp h
  obtain ⟨op, _, hasked⟩ := List.mem_flatMap.mp (mem_of_mem_firsts hhandler)
  rcases mem_routeCandidates.mp hasked with rfl | ⟨_, r, _, hcandidate⟩
  · exact homeModule_mock _
  · obtain ⟨schema, _, rfl⟩ := errorCandidate?_eq_some hcandidate
    change homeModule ("mock" ++ capitalize op.id ++ "Error" ++ toString r.status) = "routes"
    rw [String.append_assoc, String.append_assoc]
    exact homeModule_mock _

theorem homeModule_of_mem_classes {name : String}
    (h : name ∈ (mockClassesModule c ops).value.exports) : homeModule name = "builders" := by
  obtain ⟨k, hk, rfl⟩ := List.mem_map.mp h
  obtain ⟨op, _, hasked⟩ := List.mem_flatMap.mp (mem_of_mem_firsts hk)
  obtain ⟨m, _, rfl⟩ := List.mem_map.mp hasked
  exact homeModule_mockClass op.id m.1.status

theorem homeModule_of_mem_worker {name : String}
    (h : name ∈ (workerModule c ops).value.exports) : homeModule name = "msw" := by
  obtain ⟨handler, hhandler, rfl⟩ := List.mem_map.mp h
  obtain ⟨op, _, hasked⟩ := List.mem_filterMap.mp (mem_of_mem_firsts hhandler)
  obtain ⟨r, _, rfl⟩ := Option.map_eq_some_iff.mp hasked
  exact homeModule_mswMock _

/-- The names of a module are distinct, and each tells the module. -/
def Sound (m : String × List String) : Prop :=
  m.2.Nodup ∧ ∀ name ∈ m.2, homeModule name = m.1

theorem FixturesModule.nodup_exports (m : FixturesModule) : m.exports.Nodup := by
  unfold exports
  split <;> decide

theorem sound_of_mem_exports {m : String × List String}
    (hm : m ∈ (bundle c ops).value.exports) : Sound m := by
  unfold Bundle.exports at hm
  rcases List.mem_append.mp hm with hm | hm
  · rcases List.mem_append.mp hm with hm | hm
    · rcases List.mem_pair.mp hm with rfl | rfl
      · exact ⟨FixturesModule.nodup_exports _, fun _ => homeModule_of_mem_table⟩
      · exact ⟨nodup_firsts, fun _ => homeModule_of_mem_routes⟩
    · obtain ⟨classes, hclasses, rfl⟩ := Option.map_eq_some_iff.mp (Option.mem_toList.mp hm)
      obtain ⟨_, rfl⟩ := mem_when.mp hclasses
      exact ⟨nodup_firsts, fun _ => homeModule_of_mem_classes⟩
  · obtain ⟨worker, hworker, rfl⟩ := Option.map_eq_some_iff.mp (Option.mem_toList.mp hm)
    obtain ⟨_, rfl⟩ := mem_when.mp hworker
    exact ⟨nodup_firsts, fun _ => homeModule_of_mem_worker⟩

/-- The modules that export names are those of the index. -/
theorem Bundle.map_fst_exports (b : Bundle) : b.exports.map (·.1) = b.modules.map (·.1) := by
  unfold exports modules
  cases b.builders <;> cases b.worker <;> rfl

theorem Bundle.nodup_modules (b : Bundle) : (b.modules.map (·.1)).Nodup := by
  unfold modules
  cases b.builders <;> cases b.worker <;> simp

/-- **The index exports every name once.**  It exports the modules of the bundle,
no name is exported twice by one of them, and no name by two of them. -/
theorem exports_nodup (c : Config) (ops : List Operation) :
    (bundle c ops).value.exports.map (·.1) = (bundle c ops).value.modules.map (·.1) ∧
    ((bundle c ops).value.exports.flatMap (·.2)).Nodup := by
  refine ⟨Bundle.map_fst_exports _, ?_⟩
  apply List.nodup_flatMap.mpr
  refine ⟨fun m hm => (sound_of_mem_exports hm).1, ?_⟩
  have hmodules := Bundle.nodup_modules (bundle c ops).value
  rw [← Bundle.map_fst_exports, List.Nodup, List.pairwise_map] at hmodules
  apply hmodules.imp_of_mem
  intro m m' hm hm' hne name hname hname'
  apply hne
  rw [← (sound_of_mem_exports hm).2 name hname, (sound_of_mem_exports hm').2 name hname']

end ApiMocks.Emit
