import ApiMocks.Cli.Run
import ApiMocks.Proofs.FilePlaces
import Mathlib.Data.List.Nodup

/-!
# What commands do to files

A command decides before it changes anything.  What it reads while it decides are
the configuration and a document, so a fault there leaves the tree as it is; and
so do the commands whose plans have no changes.  The plan of `generate` makes one
directory and then writes its files into it, one after the other.

* `configIn`, `documentIn`: what a command reads, as functions of the tree;
* `performSteps_reports`: a plan without changes;
* `performSteps_writes`: files that are written one after the other;
* `InitEffect`, `GenerateEffect`, `Command.Respects`: what each command does;
* `Command.respects_run`, `run_respects`: every command does just that.
-/

namespace ApiMocks.Cli

open FileTree

variable {t t' : FileTree} {path : String} {place : Place} {files : List Emit.GeneratedFile}

/-! ## What a command reads -/

/-- The configuration of the project in a tree. -/
def configIn (t : FileTree) : Except Failure Config :=
  if t.has Config.fileName then
    match t.read Config.fileName with
    | .error fault => .error (.cannotReadConfig fault)
    | .ok text => (Config.ofText text).mapError .cannotParseConfig
  else .ok {}

/-- The document at a path in a tree. -/
def documentIn (t : FileTree) (dialect : Dialect) (path : String) :
    Except Failure SourceDocument :=
  match t.read path with
  | .error fault => .error (.cannotRead path fault)
  | .ok text =>
      (SourceDocument.parse dialect (.ofExtension (extension? path)) text).mapError
        (.cannotParse path)

theorem run_loadConfig (t : FileTree) : (loadConfig (.ofTree t)).run = configIn t := by
  rw [configIn]
  cases hhas : t.has Config.fileName with
  | false =>
      simp only [loadConfig, Files.ofTree, hhas]
      rfl
  | true =>
      cases hread : t.read Config.fileName with
      | error fault =>
          simp only [loadConfig, Files.ofTree, hhas, hread]
          rfl
      | ok text =>
          simp only [loadConfig, Files.ofTree, hhas, hread, liftM_pure, pure_bind]
          cases Config.ofText text <;> rfl

theorem run_loadDocument (t : FileTree) (dialect : Dialect) (path : String) :
    (loadDocument (.ofTree t) dialect path).run = documentIn t dialect path := by
  rw [documentIn]
  cases hread : t.read path with
  | error fault =>
      simp only [loadDocument, Files.ofTree, hread]
      rfl
  | ok text =>
      simp only [loadDocument, Files.ofTree, hread, liftM_pure, pure_bind]
      cases SourceDocument.parse dialect (.ofExtension (extension? path)) text <;> rfl

theorem run_bind {α β : Type} (x : ExceptT Failure Id α) (f : α → ExceptT Failure Id β) :
    (x >>= f).run = ((x.run : Except Failure α) >>= fun v => (f v).run : Except Failure β) := by
  rw [ExceptT.run_bind]
  cases (x.run : Except Failure α) <;> rfl

/-! ## Steps -/

theorem Command.run_eq (command : Command) (t : FileTree) :
    command.run t = match ((command.plan? (.ofTree t)).run : Except Failure Plan) with
      | .ok plan => plan.perform t
      | .error failure => { tree := t, failure := some failure } := by
  change (Id.run (command.plan (.ofTree t))).perform t = _
  rw [Command.plan]
  cases ((command.plan? (.ofTree t)).run : Except Failure Plan) <;> rfl

/-- A command whose plan has reports only leaves the tree as it is. -/
theorem performSteps_reports (t : FileTree) (lines : List String) :
    (performSteps t (lines.map .report)).tree = t := by
  induction lines with
  | nil => rfl
  | cons line rest ih => exact ih

/-- After files are written into a directory, one after the other.  Each has come where
its path leads, and the last one that came to a place has stayed there. -/
structure Written (t t' : FileTree) (path : String) (files : List Emit.GeneratedFile) : Prop where
  grows : Grows t t'
  leads : ∀ f ∈ files, ∃ q, t'.locate (childPath path f.path) = .ok q
  contents : ∀ before f after q, files = before ++ f :: after →
    t'.locate (childPath path f.path) = .ok q →
      (∀ g ∈ after, t'.locate (childPath path g.path) ≠ .ok q) →
        ∃ r, t'.get? q = some (.file f.content r)
  others : ∀ q, (∀ f ∈ files, t'.locate (childPath path f.path) ≠ .ok q) → t'.get? q = t.get? q

/-- One file more in front. -/
theorem Written.cons {next : FileTree} {f : Emit.GeneratedFile}
    (hwrite : t.write (childPath path f.path) f.content = .ok next)
    (h : Written next t' path files) : Written t t' path (f :: files) := by
  obtain ⟨hgrows, p, r, hlocate, hfile, hothers⟩ := write_eq_ok hwrite
  have hgrows' : Grows t t' := hgrows.trans h.grows
  have hplace : t'.locate (childPath path f.path) = .ok p := hgrows'.locate hlocate
  refine ⟨hgrows', ?_, ?_, ?_⟩
  · intro g hg
    rcases List.mem_cons.mp hg with rfl | hg
    · exact ⟨p, hplace⟩
    · exact h.leads g hg
  · intro before g after q hfiles hg hlast
    cases before with
    | nil =>
        obtain ⟨rfl, rfl⟩ := List.cons.inj hfiles
        rw [hplace] at hg
        obtain rfl := Except.ok.inj hg
        exact ⟨r, (h.others p hlast).trans hfile⟩
    | cons first before =>
        exact h.contents before g after q (List.cons.inj hfiles).2 hg hlast
  · intro q hq
    have hne : q ≠ p := by
      rintro rfl
      exact hq f List.mem_cons_self hplace
    rw [h.others q fun g hg => hq g (List.mem_cons_of_mem _ hg), hothers q hne]

/-- The first file is written, and then all others. -/
theorem performSteps_write_cons (f : Emit.GeneratedFile) (rest : List Emit.GeneratedFile)
    (lines : List String) :
    performSteps t ((f :: rest).flatMap (writeSteps path) ++ lines.map .report) =
      match t.write (childPath path f.path) f.content with
      | .error fault =>
          { tree := t, failure := some (.cannotWrite (childPath path f.path) fault) }
      | .ok next =>
          let outcome := performSteps next (rest.flatMap (writeSteps path) ++ lines.map .report)
          { outcome with
            reports := ("  wrote " ++ childPath path f.path) :: outcome.reports } := by
  rw [List.flatMap_cons, writeSteps]
  simp only [List.cons_append, List.nil_append, performSteps, Change.apply]
  cases t.write (childPath path f.path) f.content <;> rfl

/-- **Files are written one after the other**, and a run that does not fail has
written all of them. -/
theorem performSteps_writes (lines : List String)
    (hdone : (performSteps t (files.flatMap (writeSteps path) ++ lines.map .report)).failure =
      none) :
    Written t (performSteps t (files.flatMap (writeSteps path) ++ lines.map .report)).tree path
      files := by
  induction files generalizing t with
  | nil =>
      rw [List.flatMap_nil, List.nil_append, performSteps_reports]
      refine ⟨.refl t, fun f hf => (nomatch hf), ?_, fun q _ => rfl⟩
      intro before f after q hfiles
      cases before <;> cases hfiles
  | cons f rest ih =>
      rw [performSteps_write_cons] at hdone ⊢
      cases hwrite : t.write (childPath path f.path) f.content with
      | error fault =>
          rw [hwrite] at hdone
          cases hdone
      | ok next =>
          rw [hwrite] at hdone
          exact (ih hdone).cons hwrite

/-! ## Generated files -/

/-- The names of the files that can be generated. -/
def generatedNames : List String :=
  ["fixtures.ts", "routes.ts", "builders.ts", "msw.ts", "index.ts", "README.md"]

/-- The note beside the generated files. -/
def readme : Emit.GeneratedFile := ⟨"README.md", readmeText⟩

theorem plainName_of_mem_generatedNames : ∀ name ∈ generatedNames, PlainName name := by
  decide

theorem files_sublist (b : Emit.Bundle) :
    ((b.files ++ [readme]).map (·.path)).Sublist generatedNames := by
  obtain ⟨fixtures, routes, builders, worker⟩ := b
  cases builders <;> cases worker <;>
    simp [Emit.Bundle.files, Emit.Bundle.modules, generatedNames, readme]

/-- The directory at a path has these files: the path of each leads under its name in
the directory, or where a link there leads, and a place that several of them lead to
has the last one.  No other file and no link has changed, nothing has gone, and the
directories that are new are on the way. -/
structure Filled (t t' : FileTree) (path : String) (place : Place)
    (files : List Emit.GeneratedFile) : Prop where
  grows : Grows t t'
  directory : t'.directoryOf path = .ok place ∧ ∃ r, t'.get? place = some (.directory r)
  leads : ∀ f ∈ files, ∃ q, t'.locate (childPath path f.path) = .ok q ∧
    (q = place ++ [f.path] ∨ t.LeadsOn (place ++ [f.path]))
  contents : ∀ before f after q, files = before ++ f :: after →
    t'.locate (childPath path f.path) = .ok q →
      (∀ g ∈ after, t'.locate (childPath path g.path) ≠ .ok q) →
        ∃ r, t'.get? q = some (.file f.content r)
  others : ∀ q, (∀ f ∈ files, t'.locate (childPath path f.path) ≠ .ok q) →
    t'.get? q = t.get? q ∨
      t.get? q = none ∧ t'.get? q = some (.directory t.directoryRights) ∧ t'.OnTheWay path q

/-- Without links under the names of the files, each is in the directory under its name. -/
theorem Filled.own (h : Filled t t' path place files) (hdistinct : (files.map (·.path)).Nodup)
    (hno : ∀ f ∈ files, ¬ t.LeadsOn (place ++ [f.path])) {f : Emit.GeneratedFile}
    (hf : f ∈ files) : ∃ r, t'.get? (place ++ [f.path]) = some (.file f.content r) := by
  have hown : ∀ g ∈ files, t'.locate (childPath path g.path) = .ok (place ++ [g.path]) := by
    intro g hg
    obtain ⟨q, hq, rfl | hlink⟩ := h.leads g hg
    · exact hq
    · exact absurd hlink (hno g hg)
  obtain ⟨before, after, rfl⟩ := List.append_of_mem hf
  refine h.contents before f after _ rfl (hown f hf) ?_
  intro g hg heq
  have hpaths : place ++ [g.path] = place ++ [f.path] :=
    Except.ok.inj ((hown g (by simp [hg])).symm.trans heq)
  have hsame : f.path = g.path := (List.cons.inj (List.append_cancel_left hpaths)).1.symm
  rw [List.map_append, List.map_cons] at hdistinct
  have hnot := (List.nodup_cons.mp (List.nodup_append.mp hdistinct).2.1).1
  exact hnot (hsame ▸ List.mem_map_of_mem hg)

theorem LeadsOn.of_grows {p : Place} (hgrows : Grows t t') (h : t'.LeadsOn p) : t.LeadsOn p := by
  rcases h with ⟨target, hlink⟩ | ⟨place, hsame⟩
  · exact .inl ⟨target, hgrows.link_iff.mp hlink⟩
  · exact .inr ⟨place, hgrows.sameAs_iff.mp hsame⟩

/-- A directory is made and then filled. -/
theorem Written.filled {next : FileTree} (hmake : t.makeDirectory path = .ok next)
    (hnames : ∀ f ∈ files, PlainName f.path) (hfiles : files ≠ [])
    (h : Written next t' path files) : ∃ place, Filled t t' path place files := by
  obtain ⟨hgrows, hchanged⟩ := makeDirectory_eq_ok hmake
  have hgrows' : Grows t t' := hgrows.trans h.grows
  obtain ⟨first, more, rfl⟩ := List.exists_cons_of_ne_nil hfiles
  obtain ⟨_, hfirst⟩ := h.leads first List.mem_cons_self
  obtain ⟨place, r, hplace, hdirectory, _⟩ :=
    locate_childPath (hnames first List.mem_cons_self) hfirst
  refine ⟨place, hgrows', ⟨hplace, r, hdirectory⟩, ?_, h.contents, ?_⟩
  · intro f hf
    obtain ⟨q, hq⟩ := h.leads f hf
    obtain ⟨place', _, hplace', _, hend⟩ := locate_childPath (hnames f hf) hq
    rw [hplace] at hplace'
    obtain rfl := Except.ok.inj hplace'
    exact ⟨q, hq, hend.imp_right (LeadsOn.of_grows hgrows')⟩
  · intro q hq
    rw [h.others q hq]
    rcases hchanged q with hsame | ⟨hnone, hmade, route, front, hroute, hfront, hwalk⟩
    · exact .inl hsame
    · refine .inr ⟨hnone, hmade, route, front, hroute, hfront, ?_⟩
      rw [h.grows.workingDirectory]
      exact h.grows.walk hwalk

variable {c : Config} {ops : List Operation}

theorem files_sublist_of_generate {generated : Logged (List Emit.GeneratedFile)}
    (h : Emit.generate c ops = .ok generated) :
    ((generated.value ++ [readme]).map (·.path)).Sublist generatedNames := by
  rw [Emit.generate] at h
  split_ifs at h
  cases h
  exact files_sublist _

theorem perform_generatePlan_error {problems : List String}
    (h : Emit.generate c ops = .error problems) :
    ((generatePlan c path ops).perform t).tree = t ∧
      ((generatePlan c path ops).perform t).failure = some (.invalidConfig problems) := by
  rw [generatePlan, h]
  exact ⟨rfl, rfl⟩

/-- **A plan that does not fail fills the directory.** -/
theorem perform_generatePlan_ok {generated : Logged (List Emit.GeneratedFile)}
    (h : Emit.generate c ops = .ok generated)
    (hdone : ((generatePlan c path ops).perform t).failure = none) :
    ∃ place, Filled t ((generatePlan c path ops).perform t).tree path place
      (generated.value ++ [readme]) := by
  have hnames : ∀ f ∈ generated.value ++ [readme], PlainName f.path := fun f hf =>
    plainName_of_mem_generatedNames _ ((files_sublist_of_generate h).subset
      (List.mem_map_of_mem hf))
  let filling : List Step := (generated.value ++ [readme]).flatMap (writeSteps path) ++
    ["Generated " ++ toString (generated.value ++ [readme]).length ++ " files in " ++ path].map
      .report
  let outcome : Outcome := performSteps t (.change (.makeDirectory path) :: filling)
  have htree : ((generatePlan c path ops).perform t).tree = outcome.tree := by
    rw [generatePlan, h]
    rfl
  have hfailure : ((generatePlan c path ops).perform t).failure = outcome.failure := by
    rw [generatePlan, h]
    change (outcome.failure <|> none) = outcome.failure
    cases outcome.failure <;> rfl
  rw [hfailure] at hdone
  rw [htree]
  cases hmake : t.makeDirectory path with
  | error stop =>
      have hstop : outcome.failure = some (.cannotMakeDirectory path stop.fault) := by
        simp only [outcome, performSteps, Change.apply, hmake, Change.failure]
      rw [hstop] at hdone
      cases hdone
  | ok next =>
      have hgoes : outcome = performSteps next filling := by
        simp only [outcome, performSteps, Change.apply, hmake]
      rw [hgoes] at hdone ⊢
      exact (performSteps_writes _ hdone).filled hmake hnames (by simp)

/-! ## The commands -/

/-- What `generate` does.  A fault in what it reads, or a problem of the
configuration, leaves the tree as it is; a run that does not fail fills the output
directory. -/
structure GenerateEffect (input output : Option String) (t : FileTree) (o : Outcome) : Prop where
  configFault : ∀ failure, configIn t = .error failure → o.failure = some failure ∧ o.tree = t
  documentFault : ∀ c failure, configIn t = .ok c →
    documentIn t c.dialect (input.getD c.input) = .error failure →
      o.failure = some failure ∧ o.tree = t
  invalid : ∀ c, configIn t = .ok c → c.isValid = false → o.failure ≠ none ∧ o.tree = t
  success : o.failure = none → ∃ c d generated place,
    configIn t = .ok c ∧ documentIn t c.dialect (input.getD c.input) = .ok d ∧
      Emit.generate c d.collect.value = .ok generated ∧
      Filled t o.tree (output.getD c.output) place (generated.value ++ [readme]) ∧
      ((∀ f ∈ generated.value ++ [readme], ¬ t.LeadsOn (place ++ [f.path])) →
        ∀ f ∈ generated.value ++ [readme],
          ∃ r, o.tree.get? (place ++ [f.path]) = some (.file f.content r))

/-- What `init` does.  It refuses to touch a configuration file that is there, unless it
is forced to.  A run that does not fail has set the file that the name leads to, which
is not there yet if the run is not forced, and no run changes anything else. -/
structure InitEffect (isForced : Bool) (t : FileTree) (o : Outcome) : Prop where
  refuses : t.has Config.fileName = true → isForced = false →
    o.failure = some .configExists ∧ o.tree = t
  failed : o.failure ≠ none → o.tree = t
  success : o.failure = none → Grows t o.tree ∧ ∃ q r,
    o.tree.locate Config.fileName = .ok q ∧
      (q = t.workingDirectory ++ [Config.fileName] ∨
        t.LeadsOn (t.workingDirectory ++ [Config.fileName])) ∧
      o.tree.get? q = some (.file Config.defaultText r) ∧
      (isForced = false → t.get? q = none) ∧
      ∀ p, p ≠ q → o.tree.get? p = t.get? p

/-- What a command does to the files. -/
def Command.Respects : Command → FileTree → Outcome → Prop
  | .generate input output, t, o => GenerateEffect input output t o
  | .init isForced, t, o => InitEffect isForced t o
  | .validate _ _, t, o | .inspect _ _ _, t, o | .pattern _ _ _, t, o | .version, t, o =>
      o.tree = t

section Generate

variable {input output : Option String} {d : SourceDocument} {failure : Failure}

theorem run_generate_of_configFault (hconfig : configIn t = .error failure) :
    (Command.generate input output).run t = { tree := t, failure := some failure } := by
  rw [Command.run_eq, Command.plan?, run_bind, run_loadConfig, hconfig]
  rfl

theorem run_generate_of_document (hconfig : configIn t = .ok c) :
    (Command.generate input output).run t =
      match documentIn t c.dialect (input.getD c.input) with
      | .error failure => { tree := t, failure := some failure }
      | .ok d => (generatePlan c (output.getD c.output) d.collect.value).perform t := by
  have hplan : ((Command.plan? (.ofTree t) (.generate input output)).run : Except Failure Plan) =
      ((loadDocument (.ofTree t) c.dialect (input.getD c.input) >>= fun d =>
        pure (generatePlan c (output.getD c.output) d.collect.value)).run :
          Except Failure Plan) := by
    rw [Command.plan?, run_bind, run_loadConfig, hconfig]
    rfl
  rw [Command.run_eq, hplan, run_bind, run_loadDocument]
  cases documentIn t c.dialect (input.getD c.input) <;> rfl

theorem generate_of_invalid (hinvalid : c.isValid = false) :
    Emit.generate c ops = .error c.problems := by
  rw [Emit.generate, hinvalid]
  rfl

theorem generateEffect_run (input output : Option String) (t : FileTree) :
    GenerateEffect input output t ((Command.generate input output).run t) where
  configFault failure hconfig := by
    rw [run_generate_of_configFault hconfig]
    exact ⟨rfl, rfl⟩
  documentFault c failure hconfig hdocument := by
    rw [run_generate_of_document hconfig, hdocument]
    exact ⟨rfl, rfl⟩
  invalid c hconfig hinvalid := by
    rw [run_generate_of_document hconfig]
    cases documentIn t c.dialect (input.getD c.input) with
    | error failure => exact ⟨(nomatch ·), rfl⟩
    | ok d =>
        have hplan : ∀ path, ((generatePlan c path d.collect.value).perform t).tree = t ∧
            ((generatePlan c path d.collect.value).perform t).failure =
              some (.invalidConfig c.problems) := fun path =>
          perform_generatePlan_error (generate_of_invalid hinvalid)
        obtain ⟨htree, hfailure⟩ := hplan (output.getD c.output)
        exact ⟨by simp [hfailure], htree⟩
  success hdone := by
    cases hconfig : configIn t with
    | error failure =>
        rw [run_generate_of_configFault hconfig] at hdone
        cases hdone
    | ok c =>
        rw [run_generate_of_document hconfig] at hdone ⊢
        cases hdocument : documentIn t c.dialect (input.getD c.input) with
        | error failure =>
            rw [hdocument] at hdone
            cases hdone
        | ok d =>
            rw [hdocument] at hdone
            cases hgenerate : Emit.generate c d.collect.value with
            | error problems =>
                have hfailure := (perform_generatePlan_error hgenerate).2.symm.trans hdone
                cases hfailure
            | ok generated =>
                obtain ⟨place, hfilled⟩ := perform_generatePlan_ok hgenerate hdone
                have hdistinct := (files_sublist_of_generate hgenerate).nodup (by decide)
                exact ⟨c, d, generated, place, rfl, hdocument, hgenerate, hfilled,
                  fun hno f hf => hfilled.own hdistinct hno hf⟩

end Generate

/-! ### Making a configuration file -/

theorem plan_init (isForced : Bool) (t : FileTree) :
    ((Command.plan? (.ofTree t) (.init isForced)).run : Except Failure Plan) =
      if (t.has Config.fileName && !isForced) = true then .error .configExists
      else .ok { steps := [.change (.writeConfig Config.defaultText),
        .report ("Created " ++ Config.fileName)] } := by
  cases hhas : t.has Config.fileName <;> cases isForced <;>
    simp only [Command.plan?, Files.ofTree, hhas] <;> rfl

/-- A configuration file that cannot be written leaves the tree as it is. -/
theorem perform_writeConfig (t : FileTree) (content line : String) :
    ({ steps := [.change (.writeConfig content), .report line] } : Plan).perform t =
      match t.write Config.fileName content with
      | .error fault => { tree := t, failure := some (.cannotWriteConfig fault) }
      | .ok next => { tree := next, reports := [line] } := by
  simp only [Plan.perform, performSteps, Change.apply]
  cases t.write Config.fileName content <;> rfl

theorem plainName_configFile : PlainName Config.fileName := by decide

/-- The configuration file is in the working directory, or where a link there leads. -/
theorem locate_configFile {q : Place} (h : t.locate Config.fileName = .ok q) :
    q = t.workingDirectory ++ [Config.fileName] ∨
      t.LeadsOn (t.workingDirectory ++ [Config.fileName]) := by
  have hchild : childPath "" Config.fileName = Config.fileName := rfl
  obtain ⟨dir, _, hdir, _, hend⟩ := locate_childPath plainName_configFile (hchild ▸ h)
  obtain rfl : t.workingDirectory = dir := Except.ok.inj hdir
  exact hend

theorem get?_of_has_eq_false {q : Place} (hhas : t.has path = false)
    (hlocate : t.locate path = .ok q) : t.get? q = none := by
  rw [has, hlocate] at hhas
  simpa using hhas

theorem initEffect_run (isForced : Bool) (t : FileTree) :
    InitEffect isForced t ((Command.init isForced).run t) := by
  rw [Command.run_eq, plan_init]
  by_cases hrefused : (t.has Config.fileName && !isForced) = true
  · rw [if_pos hrefused]
    exact ⟨fun _ _ => ⟨rfl, rfl⟩, fun _ => rfl, (nomatch ·)⟩
  · rw [if_neg hrefused]
    dsimp only
    rw [perform_writeConfig]
    -- a run that writes is not one that must refuse
    have hnotRefused : t.has Config.fileName = true → isForced ≠ false := by
      intro hhas hforced
      exact hrefused (by rw [hhas, hforced]; rfl)
    cases hwrite : t.write Config.fileName Config.defaultText with
    | error fault =>
        exact ⟨fun h h' => absurd h' (hnotRefused h), fun _ => rfl, (nomatch ·)⟩
    | ok next =>
        refine ⟨fun h h' => absurd h' (hnotRefused h), fun h => absurd rfl h, fun _ => ?_⟩
        obtain ⟨hgrows, q, r, hlocate, hfile, hothers⟩ := write_eq_ok hwrite
        refine ⟨hgrows, q, r, hgrows.locate hlocate, locate_configFile hlocate, hfile, ?_, hothers⟩
        intro hforced
        refine get?_of_has_eq_false ?_ hlocate
        exact Bool.eq_false_iff.mpr fun hhas => hnotRefused hhas hforced

/-! ### All commands -/

/-- A command that only reads a document leaves the tree as it is. -/
theorem tree_run_of_reports {command : Command} (h : ∀ plan,
      ((command.plan? (.ofTree t)).run : Except Failure Plan) = .ok plan →
        ∃ lines : List String, plan.steps = lines.map .report) :
    (command.run t).tree = t := by
  rw [Command.run_eq]
  cases hplan : ((command.plan? (.ofTree t)).run : Except Failure Plan) with
  | error failure => rfl
  | ok plan =>
      obtain ⟨lines, hlines⟩ := h plan hplan
      have htree : (plan.perform t).tree = (performSteps t plan.steps).tree := rfl
      dsimp only
      rw [htree, hlines]
      exact performSteps_reports t lines

/-- A plan that is made from a document alone. -/
theorem exists_document_of_plan {dialect : Option Dialect} {make : SourceDocument → Plan}
    {plan : Plan}
    (h : ((loadDialect (.ofTree t) dialect >>= fun dialect =>
      loadDocument (.ofTree t) dialect path >>= fun d => pure (make d)).run : Except Failure Plan) =
        .ok plan) :
    ∃ d, plan = make d := by
  rw [run_bind] at h
  obtain ⟨_, -, hread⟩ := except_bind_eq_ok.mp h
  rw [run_bind] at hread
  obtain ⟨d, -, hmake⟩ := except_bind_eq_ok.mp hread
  cases hmake
  exact ⟨d, rfl⟩

/-- **What a command does to the files**, whatever tree it is run on. -/
theorem Command.respects_run (command : Command) (t : FileTree) :
    command.Respects t (command.run t) := by
  cases command with
  | generate input output => exact generateEffect_run input output t
  | init isForced => exact initEffect_run isForced t
  | validate input dialect =>
      refine tree_run_of_reports fun plan hplan => ?_
      obtain ⟨d, rfl⟩ := exists_document_of_plan hplan
      exact ⟨_, rfl⟩
  | inspect input dialect encoding =>
      refine tree_run_of_reports fun plan hplan => ?_
      obtain ⟨d, rfl⟩ := exists_document_of_plan hplan
      exact ⟨[], rfl⟩
  | pattern path base url =>
      refine tree_run_of_reports fun plan hplan => ?_
      cases hplan
      exact ⟨[], rfl⟩
  | version =>
      refine tree_run_of_reports fun plan hplan => ?_
      cases hplan
      exact ⟨[], rfl⟩

/-- A tree with a document, and with a link to a directory that has a file from an
earlier run. -/
def documentTree : FileTree where
  nodes := [
    (["home"], .directory),
    (["home", "work"], .directory),
    (["home", "work", "api.json"], .file "\x7b\"openapi\":\"3.1\"\x7d"),
    (["home", "latest"], .link "/out"),
    (["out"], .directory),
    (["out", "index.ts"], .file "")]
  workingDirectory := ["home", "work"]

end ApiMocks.Cli
