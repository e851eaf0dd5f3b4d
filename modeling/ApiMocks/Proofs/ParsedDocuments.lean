import ApiMocks.Document.Source
import ApiMocks.Proofs.DocumentParts
import ApiMocks.Proofs.TableViews

/-!
# What holds of every document that is read

A map is filled entry by entry, and no entry gives it a key twice.  So the paths
of a document are distinct, in whatever notation the document is written.  And a
path item is a record of its methods: it is the same for every order in which the
text has them.

* `ensures_table`, `ensures_record`: what a reader of a map or record gives;
* `OpenApi.Document.ensures_read`: the paths of a document are distinct;
* `OpenApi.PathItem.run_read_perm`: the methods of a path item in any order;
* `SourceDocument.distinctPaths_of_parse`: documents in JSON and in YAML.
-/

namespace ApiMocks

open Reading Budgeted

/-! ## What readers ensure -/

section Ensured

variable {m : Type → Type} [Monad m] [MonadExceptOf Fault m] [Budgeted m]
variable {ν α τ : Type} {read : ν → m α} {P : τ → Prop} {fields : List (Field m ν τ)}

theorem ensures_readValues (hfields : ∀ f ∈ fields, ∀ n r, P r → Ensures (f.store n r) P)
    (expected : String) (index : Nat) (values : List ν) {r : τ} (hr : P r) :
    Ensures (readValues expected index fields values r) P := by
  induction fields generalizing index values r with
  | nil =>
      cases values with
      | nil => exact Ensures.pure hr
      | cons _ _ => exact Ensures.throw _ P
  | cons f fields ih =>
      have hrest : ∀ index values {r}, P r →
          Ensures (readValues expected index fields values r) P :=
        ih fun g hg => hfields g (List.mem_cons_of_mem _ hg)
      cases values with
      | nil =>
          unfold readValues
          split_ifs
          · exact hrest _ _ hr
          · exact Ensures.throw _ P
      | cons n values =>
          exact (hfields f List.mem_cons_self n r hr).bind fun next hnext => hrest _ _ hnext

variable [Format ν m]

theorem ensures_readEntry (hfields : ∀ f ∈ fields, ∀ n r, P r → Ensures (f.store n r) P)
    {state : τ × List String} (hstate : P state.1) (entry : ν × ν) :
    Ensures (readEntry fields state entry) fun next => P next.1 := by
  refine Ensures.after fun key => ?_
  cases hfind : fields.find? (·.name = key) with
  | none => exact Ensures.after fun _ => Ensures.pure hstate
  | some f =>
      have hstore := hfields f (List.mem_of_find?_eq_some hfind) entry.2 state.1 hstate
      have hstored : Ensures (do
          let record ← f.store entry.2 state.1
          pure (record, key :: state.2)) fun next => P next.1 :=
        hstore.bind fun r hr => Ensures.pure hr
      by_cases hseen : key ∈ state.2
      · simp only [if_pos hseen]
        exact Ensures.after fun _ => hstored
      · simp only [if_neg hseen]
        exact hstored

/-- What a blank record has and every field keeps, the record has that is read. -/
theorem ensures_record (hfields : ∀ f ∈ fields, ∀ n r, P r → Ensures (f.store n r) P)
    (title : String) {blank : τ} (hblank : P blank) (n : ν) :
    Ensures (record title fields blank n) P := by
  refine Ensures.after fun text => ?_
  cases text with
  | positional values => exact ensures_readValues hfields _ _ _ hblank
  | keyed entries =>
      have hentries : Ensures (entries.foldlM (readEntry fields) (blank, [])) fun s => P s.1 :=
        Ensures.foldlM (fun state entry hstate => ensures_readEntry hfields hstate entry) hblank
          entries
      refine hentries.bind fun state hstate => ?_
      dsimp only
      split
      · exact Ensures.throw _ P
      · exact Ensures.pure hstate

/-- The keys of a map that is read are distinct. -/
theorem ensures_table (n : ν) : Ensures (table read n) fun t => t.keys.Nodup := by
  have hempty : (Table.empty : Table α).keys.Nodup := List.nodup_nil
  refine Ensures.after fun entries =>
    Ensures.foldlM (P := fun t : Table α => t.keys.Nodup) ?_ hempty entries
  intro t entry ht
  exact Ensures.after fun key => Ensures.after fun value =>
    Ensures.pure (Table.nodup_keys_set ht key value)

end Ensured

/-! ## The readers of documents -/

section Steadiness

variable {m : Type → Type} [Monad m] [LawfulMonad m] [MonadExceptOf Fault m] [Budgeted m]
variable {ν τ : Type} [Format ν m] [SteadyFormat ν] {fields : List (Field m ν τ)}

omit [LawfulMonad m] in
theorem steady_text (n : ν) : Steady (text n) := SteadyFormat.text _ n

omit [LawfulMonad m] in
/-- A record with steady parts is read steadily. -/
theorem Divided.steady_record (d : Divided fields) (h : SteadyParts d.parts) (title : String)
    (blank : τ) (n : ν) : Steady (record title fields blank n) := by
  refine ApiMocks.steady_record (fun f hf n r => ?_) title blank n
  rw [d.fields_eq] at hf
  obtain ⟨p, hp, rfl⟩ := List.mem_map.mp hf
  exact (h p hp n).bind fun v => Steady.pure _

namespace OpenApi

theorem MediaType.steady_read (n : ν) : Steady (MediaType.read n) := by
  refine MediaType.divided.steady_record (fun p hp n => ?_) _ _ n
  simp only [MediaType.divided, List.mem_cons, List.not_mem_nil, or_false] at hp
  obtain rfl := hp
  exact steady_optional SteadyFormat.value n

theorem ResponseObject.steady_read (n : ν) : Steady (ResponseObject.read n) := by
  refine ResponseObject.divided.steady_record (fun p hp n => ?_) _ _ n
  simp only [ResponseObject.divided, List.mem_cons, List.not_mem_nil, or_false] at hp
  rcases hp with rfl | rfl
  · exact steady_optional steady_text n
  · exact steady_table MediaType.steady_read n

theorem OperationObject.steady_read (n : ν) : Steady (OperationObject.read n) := by
  refine OperationObject.divided.steady_record (fun p hp n => ?_) _ _ n
  simp only [OperationObject.divided, List.mem_cons, List.not_mem_nil, or_false] at hp
  rcases hp with rfl | rfl | rfl | rfl | rfl
  case inr.inr.inr.inl => exact steady_optional (steady_list steady_text) n
  case inr.inr.inr.inr => exact steady_table (steady_optional ResponseObject.steady_read) n
  all_goals exact steady_optional steady_text n

theorem PathItem.steadyParts : SteadyParts (PathItem.divided (m := m) (ν := ν)).parts := by
  intro p hp n
  obtain ⟨method, -, rfl⟩ := List.mem_map.mp hp
  exact steady_optional OperationObject.steady_read n

/-- **The methods of a path item can stand in any order**: two places that hold the
same entries in different order have the same path item. -/
theorem PathItem.run_read_perm {n n' : ν} {budget left rest : Nat}
    {entries entries' : List (ν × ν)} {item : PathItem}
    (hn : run (Format.recordText "PathItem" n) budget = .ok (.keyed entries, left))
    (hn' : run (Format.recordText "PathItem" n') budget = .ok (.keyed entries', left))
    (hperm : entries.Perm entries') (hread : run (PathItem.read n) budget = .ok (item, rest)) :
    run (PathItem.read n') budget = .ok (item, rest) := by
  rw [PathItem.read, record_eq, run_bind_eq_ok] at hread ⊢
  -- both places hold entries, and these are left with the same budget
  obtain ⟨_, _, htext, hentries⟩ := hread
  rw [hn] at htext
  cases htext
  refine ⟨_, _, hn', ?_⟩
  dsimp only at hentries ⊢
  rw [PathItem.divided.fields_eq] at hentries ⊢
  exact run_readKeyed_perm PathItem.divided.separate PathItem.steadyParts hperm hentries

end OpenApi

end Steadiness

namespace OpenApi

/-- The paths of a document are distinct. -/
theorem Document.ensures_read {m : Type → Type} [Monad m] [MonadExceptOf Fault m] [Budgeted m]
    {ν : Type} [Format ν m] (n : ν) :
    Ensures (Document.read n : m Document) fun d => d.paths.keys.Nodup := by
  have hblank : ({} : Document).paths.keys.Nodup := List.nodup_nil
  refine ensures_record (P := fun d : Document => d.paths.keys.Nodup) (fun f hf n d hd => ?_) _
    hblank n
  simp only [Document.fields, List.mem_cons, List.not_mem_nil, or_false] at hf
  rcases hf with rfl | rfl | rfl | rfl
  case inr.inr.inl => exact (ensures_table n).bind fun paths hpaths => Ensures.pure hpaths
  all_goals exact Ensures.after fun _ => Ensures.pure hd

/-- In JSON, the members of a path item can stand in any order. -/
theorem PathItem.read_json_perm {room : Nat}
    {members members' : List (Option String × JsonText.Tree)} {item : PathItem} (hperm : members.Perm members')
    (hread : PathItem.read (⟨room, .object members⟩ : JsonText.Site) = .ok item) :
    PathItem.read (⟨room, .object members'⟩ : JsonText.Site) = .ok item := by
  cases room with
  | zero => cases hread
  | succ room =>
      have hplaced := hperm.map fun m : Option String × JsonText.Tree =>
        ((⟨room, .string m.1⟩, ⟨room, m.2⟩) : JsonText.Site × JsonText.Site)
      have hrun : run (PathItem.read (⟨room + 1, .object members'⟩ : JsonText.Site)) 0 =
          .ok (item, 0) :=
        PathItem.run_read_perm rfl rfl hplaced (run_json_eq_ok.mpr ⟨hread, rfl⟩)
      exact (run_json_eq_ok.mp hrun).1

/-- In YAML, the entries of a path item can stand in any order. -/
theorem PathItem.run_read_yaml_perm {n : Yaml.Site} {anchor : Option Nat} {tag : Option String}
    {entries entries' : List (Yaml.Node × Yaml.Node)} {budget rest : Nat} {item : PathItem}
    (hperm : entries.Perm entries')
    (hread : run (PathItem.read (n.move (.mapping anchor tag entries))) budget =
      .ok (item, rest)) :
    run (PathItem.read (n.move (.mapping anchor tag entries'))) budget = .ok (item, rest) := by
  obtain ⟨anchors, room, node⟩ := n
  cases room with
  | zero => cases hread
  | succ room =>
      have hplaced := hperm.map fun e : Yaml.Node × Yaml.Node =>
        ((⟨anchors, room, e.1⟩, ⟨anchors, room, e.2⟩) : Yaml.Site × Yaml.Site)
      exact PathItem.run_read_perm rfl rfl hplaced hread

end OpenApi

/-! ## Whole documents -/

namespace SourceDocument

/-- The paths of an OpenAPI document are distinct. -/
def DistinctPaths : SourceDocument → Prop
  | openApi d => d.paths.keys.Nodup
  | operationList _ => True

/-- What the readers ensure in both notations, every document has. -/
theorem ensured_of_readWith {α : Type} {encoding : Encoding} {text : String} {v : α}
    {fromYaml : Yaml.Site → Yaml.Read α} {fromJson : JsonText.Site → Except Fault α} {P : α → Prop}
    (hyaml : ∀ n, Ensures (fromYaml n) P) (hjson : ∀ n, Ensures (fromJson n) P)
    (h : readWith encoding fromYaml fromJson text = .ok v) : P v := by
  cases encoding with
  | yaml =>
      have hread : Yaml.readDocument fromYaml text = .ok v := mapError_eq_ok.mp h
      obtain ⟨⟨u, left⟩, hrun, hend⟩ := except_bind_eq_ok.mp hread
      have hv : u = v := by
        dsimp only at hend
        split_ifs at hend
        exact Except.ok.inj hend
      exact hv ▸ hyaml _ _ _ _ hrun
  | json =>
      have hread : JsonText.readDocument fromJson text = .ok v := mapError_eq_ok.mp h
      obtain ⟨u, hu, hend⟩ := except_bind_eq_ok.mp hread
      have hv : u = v := by
        split_ifs at hend
        exact Except.ok.inj hend
      exact hv ▸ hjson _ 0 _ _ (run_json_eq_ok.mpr ⟨hu, rfl⟩)

theorem checkVersion_eq_ok {d d' : OpenApi.Document} :
    checkVersion d = .ok d' ↔ "3.".toList.isPrefixOf d.openapi.toList = true ∧ d' = d := by
  rw [checkVersion]
  split_ifs with h
  · exact ⟨fun heq => by cases heq; exact ⟨h, rfl⟩, fun heq => by rw [heq.2]⟩
  · exact ⟨(nomatch ·), fun heq => absurd heq.1 h⟩

/-- **A document that is read has distinct paths.** -/
theorem distinctPaths_of_parse {dialect : Dialect} {encoding : Encoding} {text : String}
    {doc : SourceDocument} (h : parse dialect encoding text = .ok doc) : doc.DistinctPaths := by
  cases dialect with
  | openApi =>
      obtain ⟨d, hread, hrest⟩ := except_bind_eq_ok.mp h
      obtain ⟨d', hversion, hdoc⟩ := except_bind_eq_ok.mp hrest
      cases hdoc
      rw [(checkVersion_eq_ok.mp hversion).2]
      exact ensured_of_readWith (P := fun d : OpenApi.Document => d.paths.keys.Nodup)
        OpenApi.Document.ensures_read OpenApi.Document.ensures_read hread
  | operationList =>
      obtain ⟨d, hread, hdoc⟩ := except_bind_eq_ok.mp h
      cases hdoc
      exact trivial

end SourceDocument

end ApiMocks
