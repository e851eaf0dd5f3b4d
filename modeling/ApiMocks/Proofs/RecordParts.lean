import ApiMocks.Document.OpenApi
import ApiMocks.Document.OperationList
import ApiMocks.Proofs.ReadingCosts
import Mathlib

/-!
# Records as independent parts

The fields of a record are read one by one into the same record, in the order in
which the text has them.  Each field reads a value of its own and puts it into
its own place, so it never matters what was read before: an entry of a record has
an effect that depends on the entry alone, and effects of different fields can
change places.

* `Part`: a field that reads a value and puts it into the record;
* `Effect`, `HasEffect`: what an entry does to the record;
* `Makes`, `exists_makes`, `Makes.costs`: a record is read from entries exactly if
  every entry has an effect, no field is set twice and no required one is missing,
  and the record is then made by the effects;
* `run_readKeyed_perm`: **the order of the entries does not matter**.
-/

namespace ApiMocks

/-- A part of a record: its value is read on its own, and then put into the
record. -/
structure Part (m : Type → Type) (ν τ : Type) where
  name : String
  presence : Presence
  Value : Type
  read : ν → m Value
  put : Value → τ → τ

section

variable {m : Type → Type} {ν τ : Type} {parts : List (Part m ν τ)} {p q : Part m ν τ}

/-- The field of a part. -/
def Part.field [Monad m] (p : Part m ν τ) : Field m ν τ :=
  ⟨p.name, p.presence, fun n r => do pure (p.put (← p.read n) r)⟩

/-- The values can be put into two parts in any order. -/
def Part.Commutes (p q : Part m ν τ) : Prop :=
  ∀ v w r, p.put v (q.put w r) = q.put w (p.put v r)

/-- The parts have different names and different places. -/
structure Separate (parts : List (Part m ν τ)) : Prop where
  names : (parts.map (·.name)).Nodup
  places : parts.Pairwise Part.Commutes

theorem Separate.commutes (h : Separate parts) (hp : p ∈ parts) (hq : q ∈ parts)
    (hne : p.name ≠ q.name) : p.Commutes q := by
  let Apart (p q : Part m ν τ) : Prop := p.name ≠ q.name → p.Commutes q
  have hsymm : Std.Symm Apart := ⟨fun p q hpq hne v w r => (hpq hne.symm w v r).symm⟩
  have hself : ∀ p ∈ parts, Apart p p := fun p _ hne => absurd rfl hne
  have hall : parts.Pairwise Apart := h.places.imp (by intro p q hcommutes _; exact hcommutes)
  exact hall.forall_of_forall hself hp hq hne

theorem Separate.find?_eq_some (h : Separate parts) (hp : p ∈ parts) :
    parts.find? (·.name = p.name) = some p := by
  cases hfind : parts.find? (·.name = p.name) with
  | none =>
      have hnone := List.find?_eq_none.mp hfind p hp
      simp at hnone
  | some q =>
      have hname : q.name = p.name := by simpa using List.find?_some hfind
      have hq := List.mem_of_find?_eq_some hfind
      rw [List.inj_on_of_nodup_map h.names hq hp hname]

theorem find?_map_field [Monad m] (holds : String → Presence → Bool) :
    (parts.map Part.field).find? (fun f => holds f.name f.presence) =
      (parts.find? fun p => holds p.name p.presence).map Part.field := by
  rw [List.find?_map]
  rfl

/-- The fields are those of independent parts. -/
structure Divided [Monad m] (fields : List (Field m ν τ)) where
  parts : List (Part m ν τ)
  fields_eq : fields = parts.map Part.field
  separate : Separate parts

end

/-! ## Effects -/

/-- What an entry does to a record: it sets a field and changes the record, or it
does nothing. -/
structure Effect (τ : Type) where
  key : Option String
  change : τ → τ

namespace Effect

variable {τ : Type} {effects effects' : List (Effect τ)}

/-- The fields that are set, in order. -/
def keys (effects : List (Effect τ)) : List String := effects.filterMap (·.key)

/-- The record after all effects. -/
def result (effects : List (Effect τ)) (blank : τ) : τ :=
  effects.foldl (fun r e => e.change r) blank

/-- The record and the fields that are set, after one more effect. -/
def apply (state : τ × List String) (e : Effect τ) : τ × List String :=
  (e.change state.1, e.key.toList ++ state.2)

theorem foldl_apply (effects : List (Effect τ)) (r : τ) (seen : List String) :
    effects.foldl apply (r, seen) = (result effects r, (keys effects).reverse ++ seen) := by
  induction effects generalizing r seen with
  | nil => rfl
  | cons e rest ih =>
      rw [List.foldl_cons, apply, ih]
      cases hkey : e.key <;> simp [result, keys, hkey]

/-- Two effects can change places. -/
def Swaps (e e' : Effect τ) : Prop := ∀ r, e'.change (e.change r) = e.change (e'.change r)

theorem result_perm (h : effects.Perm effects') (hswap : effects.Pairwise Swaps) (blank : τ) :
    result effects blank = result effects' blank := by
  have hsymm : Std.Symm (Swaps : Effect τ → Effect τ → Prop) := ⟨fun e e' he r => (he r).symm⟩
  have hall := hswap.forall_of_forall fun e _ r => rfl
  exact h.foldl_eq' (fun e he e' he' r => hall he he' r) blank

/-- An effect that can change places with all others may as well come last. -/
theorem result_cons {e : Effect τ} (hswap : (e :: effects).Pairwise Swaps) (blank : τ) :
    result (e :: effects) blank = e.change (result effects blank) := by
  rw [result_perm (List.perm_append_singleton e effects).symm hswap, result, List.foldl_append]
  rfl

end Effect

/-! ## Reading entries -/

section

variable {m : Type → Type} [Monad m] [MonadExceptOf Fault m] [Budgeted m]
variable {ν : Type} [Format ν m] {τ : Type}
variable {parts : List (Part m ν τ)} {entry : ν × ν} {entries entries' : List (ν × ν)}
variable {c budget rest : Nat} {e : Effect τ}

open Reading Budgeted

/-- Reading the entry takes so much of the budget and has this effect. -/
inductive HasEffect (parts : List (Part m ν τ)) (entry : ν × ν) : Nat → Effect τ → Prop
  /-- the key names no part -/
  | passed {key : String} {c c' : Nat}
      (hkey : Costs (Format.text "field identifier" entry.1) c key)
      (hunknown : ∀ p ∈ parts, p.name ≠ key)
      (hskip : Costs (Format.skip entry.2) c' ()) :
      HasEffect parts entry (c + c') ⟨none, id⟩
  | put {p : Part m ν τ} {v : p.Value} {c c' : Nat} (hp : p ∈ parts)
      (hkey : Costs (Format.text "field identifier" entry.1) c p.name)
      (hread : Costs (p.read entry.2) c' v) :
      HasEffect parts entry (c + c') ⟨some p.name, p.put v⟩

/-- The parts are read steadily. -/
def SteadyParts (parts : List (Part m ν τ)) : Prop := ∀ p ∈ parts, ∀ n, Steady (p.read n)

/-- An entry with an effect can be read, unless it sets a field once more. -/
theorem HasEffect.costs (hparts : Separate parts) (h : HasEffect parts entry c e)
    {state : τ × List String} (hnew : ∀ key ∈ e.key, key ∉ state.2) :
    Costs (readEntry (parts.map Part.field) state entry) c (e.apply state) := by
  cases h with
  | @passed key c c' hkey hunknown hskip =>
      refine hkey.bind ?_
      have hnone : parts.find? (·.name = key) = none :=
        List.find?_eq_none.mpr fun p hp => by simpa using hunknown p hp
      rw [find?_map_field fun name _ => name = key, hnone]
      exact hskip.bind_pure _
  | @put p v c c' hp hkey hread =>
      refine hkey.bind ?_
      rw [find?_map_field fun name _ => name = p.name, hparts.find?_eq_some hp, Option.map_some]
      have hfresh : p.name ∉ state.2 := hnew _ rfl
      simp only [if_neg hfresh]
      exact (hread.bind_pure fun v => p.put v state.1).bind_pure fun r => (r, p.name :: state.2)

/-- **An entry has an effect of its own**, whatever was read before. -/
theorem exists_effect [SteadyFormat ν] (hsteady : SteadyParts parts)
    {state state' : τ × List String}
    (h : run (readEntry (parts.map Part.field) state entry) budget = .ok (state', rest)) :
    ∃ c e, HasEffect parts entry c e ∧ (∀ key ∈ e.key, key ∉ state.2) ∧
      state' = e.apply state ∧ budget = c + rest := by
  obtain ⟨key, left, hrun, h⟩ := run_bind_eq_ok.mp h
  obtain ⟨c, hc, hkey⟩ := SteadyFormat.text _ _ _ _ _ hrun
  rw [find?_map_field fun name _ => name = key] at h
  cases hfind : parts.find? (·.name = key) with
  | none =>
      rw [hfind] at h
      obtain ⟨u, left', hrun', h⟩ := run_bind_eq_ok.mp h
      obtain ⟨c', hc', hskip⟩ := SteadyFormat.skip _ _ _ _ hrun'
      rw [run_pure] at h
      cases h
      refine ⟨c + c', _, .passed hkey ?_ hskip, by simp, rfl, by omega⟩
      intro p hp
      simpa using List.find?_eq_none.mp hfind p hp
  | some p =>
      have hp := List.mem_of_find?_eq_some hfind
      have hname : p.name = key := by simpa using List.find?_some hfind
      subst hname
      rw [hfind, Option.map_some] at h
      by_cases hseen : p.name ∈ state.2
      · simp only [if_pos hseen] at h
        obtain ⟨u, left', hthrow, -⟩ := run_bind_eq_ok.mp h
        rw [run_throw] at hthrow
        cases hthrow
      · simp only [if_neg hseen] at h
        obtain ⟨r, left', hstore, h⟩ := run_bind_eq_ok.mp h
        obtain ⟨v, left'', hrun', hput⟩ := run_bind_eq_ok.mp hstore
        obtain ⟨c', hc', hread⟩ := hsteady p hp _ _ _ _ hrun'
        rw [run_pure] at h hput
        cases hput
        cases h
        refine ⟨c + c', _, .put hp hkey hread, ?_, rfl, by omega⟩
        intro key hkey
        cases hkey
        exact hseen

/-- The entries have these effects, each for its amount. -/
def HaveEffects (parts : List (Part m ν τ)) (entries : List (ν × ν))
    (effects : List (Nat × Effect τ)) : Prop :=
  List.Forall₂ (fun entry e => HasEffect parts entry e.1 e.2) entries effects

theorem exists_effects [SteadyFormat ν] (hsteady : SteadyParts parts)
    {state state' : τ × List String} (hseen : state.2.Nodup)
    (h : run (entries.foldlM (readEntry (parts.map Part.field)) state) budget =
      .ok (state', rest)) :
    ∃ effects, HaveEffects parts entries effects ∧
      state' = (effects.map (·.2)).foldl Effect.apply state ∧ state'.2.Nodup ∧
      budget = (effects.map (·.1)).sum + rest := by
  induction entries generalizing state budget with
  | nil =>
      rw [List.foldlM_nil, run_pure] at h
      cases h
      exact ⟨[], .nil, rfl, hseen, by simp⟩
  | cons entry entries ih =>
      rw [List.foldlM_cons] at h
      obtain ⟨next, left, hentry, hentries⟩ := run_bind_eq_ok.mp h
      obtain ⟨c, e, he, hnew, rfl, hc⟩ := exists_effect hsteady hentry
      have hnodup : (e.apply state).2.Nodup := by
        cases hkey : e.key with
        | none => simpa [Effect.apply, hkey] using hseen
        | some key => simpa [Effect.apply, hkey, hseen] using hnew key hkey
      obtain ⟨effects, heffects, hstate, hfinal, hsum⟩ := ih hnodup hentries
      refine ⟨(c, e) :: effects, .cons he heffects, hstate, hfinal, ?_⟩
      rw [List.map_cons, List.sum_cons]
      omega

theorem HaveEffects.costs (hparts : Separate parts) {effects : List (Nat × Effect τ)}
    (h : HaveEffects parts entries effects) {state : τ × List String}
    (hfinal : ((effects.map (·.2)).foldl Effect.apply state).2.Nodup) :
    Costs (entries.foldlM (readEntry (parts.map Part.field)) state) (effects.map (·.1)).sum
      ((effects.map (·.2)).foldl Effect.apply state) := by
  induction h generalizing state with
  | nil => exact Costs.pure state
  | @cons entry e entries effects he _ ih =>
      rw [List.foldlM_cons, List.map_cons, List.sum_cons]
      refine (he.costs hparts ?_).bind (ih hfinal)
      intro key hkey hmem
      rw [List.map_cons, List.foldl_cons, Effect.apply, Effect.foldl_apply, hkey] at hfinal
      have hnodup := hfinal.of_append_right
      simp [hmem] at hnodup

end

/-! ## Whole records -/

section

variable {m : Type → Type} [Monad m] [MonadExceptOf Fault m] {ν : Type} [Format ν m] {τ : Type}

open Reading

/-- Ends the reading of a record: the first required field that is missing is
reported. -/
def finish (fields : List (Field m ν τ)) (state : τ × List String) : m τ :=
  match fields.find? fun f => f.presence = .required && f.name ∉ state.2 with
  | some field => throw (Fault.missingField field.name)
  | none => pure state.1

/-- Reads a record with keys. -/
def readKeyed (fields : List (Field m ν τ)) (blank : τ) (entries : List (ν × ν)) : m τ := do
  finish fields (← entries.foldlM (readEntry fields) (blank, []))

/-- A record is read from its entries or from its values. -/
theorem record_eq (title : String) (fields : List (Field m ν τ)) (blank : τ) (n : ν) :
    record title fields blank n =
      Format.recordText title n >>= fun
        | .positional values =>
          readValues (countedTitle title fields.length) 0 fields values blank
        | .keyed entries => readKeyed fields blank entries := by
  unfold record
  congr 1

end

section

variable {m : Type → Type} [Monad m] [MonadExceptOf Fault m] [Budgeted m]
variable {ν : Type} [Format ν m] {τ : Type}
variable {parts : List (Part m ν τ)} {entries entries' : List (ν × ν)} {blank r : τ}
variable {effects : List (Nat × Effect τ)} {budget rest : Nat}

open Budgeted

/-- The entries make the record by their effects: no field is set twice, and
every required one is set. -/
structure Makes (parts : List (Part m ν τ)) (blank : τ) (entries : List (ν × ν))
    (effects : List (Nat × Effect τ)) (r : τ) : Prop where
  entries : HaveEffects parts entries effects
  nodup : (Effect.keys (effects.map (·.2))).Nodup
  required : ∀ p ∈ parts, p.presence = .required → p.name ∈ Effect.keys (effects.map (·.2))
  result : r = Effect.result (effects.map (·.2)) blank

omit [Format ν m] in
/-- The reading of a record ends well if every required part is there. -/
theorem run_finish_iff {seen : List String} {r' : τ} :
    run (finish (parts.map Part.field) (r, seen)) budget = .ok (r', rest) ↔
      (∀ p ∈ parts, p.presence = .required → p.name ∈ seen) ∧ r' = r ∧ rest = budget := by
  have hfind : (parts.map Part.field).find? (fun f => f.presence = .required && f.name ∉ seen) =
      (parts.find? fun p => p.presence = .required && p.name ∉ seen).map Part.field :=
    find?_map_field fun name presence => presence = .required && name ∉ seen
  rw [finish, hfind]
  cases hmissing : parts.find? (fun p => p.presence = .required && p.name ∉ seen) with
  | none =>
      rw [Option.map_none, run_pure]
      constructor
      · intro h
        cases h
        refine ⟨fun p hp hpresence => ?_, rfl, rfl⟩
        simpa [hpresence] using List.find?_eq_none.mp hmissing p hp
      · intro h
        obtain ⟨-, rfl, rfl⟩ := h
        rfl
  | some p =>
      have hp := List.mem_of_find?_eq_some hmissing
      have hbad := List.find?_some hmissing
      rw [Option.map_some, run_throw]
      simp only [Bool.and_eq_true, decide_eq_true_eq] at hbad
      constructor
      · intro h
        cases h
      · intro h
        exact absurd (h.1 p hp hbad.1) hbad.2

theorem exists_makes [SteadyFormat ν] (hsteady : SteadyParts parts)
    (h : run (readKeyed (parts.map Part.field) blank entries) budget = .ok (r, rest)) :
    ∃ effects, Makes parts blank entries effects r ∧ budget = (effects.map (·.1)).sum + rest := by
  obtain ⟨state, left, hentries, hfinish⟩ := run_bind_eq_ok.mp h
  obtain ⟨effects, heffects, rfl, hnodup, hsum⟩ :=
    exists_effects hsteady List.nodup_nil hentries
  rw [Effect.foldl_apply, List.append_nil] at hfinish hnodup
  obtain ⟨hrequired, hresult, rfl⟩ := run_finish_iff.mp hfinish
  refine ⟨effects, ⟨heffects, List.nodup_reverse.mp hnodup, ?_, hresult⟩, hsum⟩
  intro p hp hpresence
  exact List.mem_reverse.mp (hrequired p hp hpresence)

theorem Makes.costs (hparts : Separate parts) (h : Makes parts blank entries effects r) :
    Costs (readKeyed (parts.map Part.field) blank entries) (effects.map (·.1)).sum r := by
  have hstate := Effect.foldl_apply (effects.map (·.2)) blank []
  rw [List.append_nil] at hstate
  have hnodup : ((effects.map (·.2)).foldl Effect.apply (blank, [])).2.Nodup := by
    rw [hstate]
    exact List.nodup_reverse.mpr h.nodup
  rw [← Nat.add_zero (effects.map (·.1)).sum]
  refine (h.entries.costs hparts hnodup).bind ?_
  intro rest
  rw [hstate, Nat.zero_add]
  refine run_finish_iff.mpr ⟨?_, h.result, rfl⟩
  intro p hp hpresence
  exact List.mem_reverse.mpr (h.required p hp hpresence)

/-- Effects on different fields can change places. -/
theorem HasEffect.swaps (hparts : Separate parts) {entry entry' : ν × ν} {c c' : Nat}
    {e e' : Effect τ} (h : HasEffect parts entry c e) (h' : HasEffect parts entry' c' e')
    (hne : ∀ key ∈ e.key, ∀ key' ∈ e'.key, key ≠ key') : e.Swaps e' := by
  cases h with
  | passed => exact fun _ => rfl
  | @put p v _ _ hp =>
      cases h' with
      | passed => exact fun _ => rfl
      | @put q w _ _ hq =>
          intro r
          exact hparts.commutes hq hp (hne _ rfl _ rfl).symm w v r

theorem HaveEffects.exists_entry (h : HaveEffects parts entries effects) :
    ∀ e ∈ effects, ∃ entry ∈ entries, HasEffect parts entry e.1 e.2 := by
  induction h with
  | nil => simp
  | @cons entry e entries effects he _ ih =>
      intro e' he'
      rcases List.mem_cons.mp he' with rfl | he'
      · exact ⟨entry, List.mem_cons_self, he⟩
      · obtain ⟨entry', hentry', heffect⟩ := ih e' he'
        exact ⟨entry', List.mem_cons_of_mem _ hentry', heffect⟩

theorem Makes.swaps (hparts : Separate parts) (h : Makes parts blank entries effects r) :
    (effects.map (·.2)).Pairwise Effect.Swaps := by
  have hkeys := List.pairwise_map.mp (List.pairwise_filterMap.mp h.nodup)
  refine List.pairwise_map.mpr (hkeys.imp_of_mem ?_)
  intro e e' he he' hne
  obtain ⟨entry, -, heffect⟩ := h.entries.exists_entry e he
  obtain ⟨entry', -, heffect'⟩ := h.entries.exists_entry e' he'
  exact heffect.swaps hparts heffect' fun key hkey key' hkey' => hne key hkey key' hkey'

/-- **The order of the entries does not matter.** -/
theorem Makes.perm (hparts : Separate parts) (h : Makes parts blank entries effects r)
    (hperm : entries.Perm entries') :
    ∃ effects', effects.Perm effects' ∧ Makes parts blank entries' effects' r := by
  obtain ⟨effects', heffects', hperm'⟩ := List.perm_comp_forall₂ hperm.symm h.entries
  have hpermEffects := hperm'.symm.map (·.2)
  have hpermKeys := hpermEffects.filterMap Effect.key
  refine ⟨effects', hperm'.symm, heffects', hpermKeys.nodup h.nodup, ?_, ?_⟩
  · intro p hp hrequired
    exact hpermKeys.mem_iff.mp (h.required p hp hrequired)
  · rw [h.result]
    exact Effect.result_perm hpermEffects (h.swaps hparts) blank

/-- An entry that is passed over changes nothing. -/
theorem Makes.cons_passed (h : Makes parts blank entries effects r) {entry : ν × ν} {c : Nat}
    (he : HasEffect parts entry c ⟨none, id⟩) :
    Makes parts blank (entry :: entries) ((c, ⟨none, id⟩) :: effects) r where
  entries := .cons he h.entries
  nodup := h.nodup
  required := h.required
  result := h.result

/-- An entry that puts into a fresh field what a blank record has there changes
nothing. -/
theorem Makes.cons_put (h : Makes parts blank entries effects r) {entry : ν × ν} {c : Nat}
    {key : String} {change : τ → τ} (he : HasEffect parts entry c ⟨some key, change⟩)
    (hfresh : key ∉ Effect.keys (effects.map (·.2))) (hblank : change blank = blank) :
    Makes parts blank (entry :: entries) ((c, ⟨some key, change⟩) :: effects) r where
  entries := .cons he h.entries
  nodup := List.nodup_cons.mpr ⟨hfresh, h.nodup⟩
  required p hp hpresence := List.mem_cons_of_mem key (h.required p hp hpresence)
  result := by
    have hresult : Effect.result (effects.map (·.2)) (change blank) = r := by
      rw [hblank, h.result]
    exact hresult.symm

/-- Another value of the first entry is put into the same place of the same record. -/
theorem Makes.replace_head (hparts : Separate parts) {key n : ν} {p : Part m ν τ}
    (hp : p ∈ parts)
    (hkey : ∀ c name, Costs (Format.text "field identifier" key) c name → name = p.name)
    (h : Makes parts blank ((key, n) :: entries) effects r) :
    ∃ c v others, Costs (p.read n) c v ∧ r = p.put v others ∧
      ∀ n' c' v', Costs (p.read n') c' v' →
        ∃ effects', Makes parts blank ((key, n') :: entries) effects' (p.put v' others) := by
  obtain ⟨hentries, hnodup, hrequired, hresult⟩ := h
  cases hentries with
  | @cons _ e _ rest he hrest =>
      obtain ⟨c, e⟩ := e
      cases he with
      | passed hcosts hunknown _ => exact absurd (hkey _ _ hcosts).symm (hunknown p hp)
      | @put q v ck cv hq hcosts hread =>
          have hname : q.name = p.name := hkey _ _ hcosts
          have hsame := hparts.find?_eq_some hp
          rw [← hname, hparts.find?_eq_some hq] at hsame
          cases hsame
          have hput : ∀ n' c' v', Costs (p.read n') c' v' → Makes parts blank ((key, n') :: entries)
              ((ck + c', ⟨some p.name, p.put v'⟩) :: rest)
              (p.put v' (Effect.result (rest.map (·.2)) blank)) := by
            intro n' c' v' hread'
            have hmakes : Makes parts blank ((key, n') :: entries)
                ((ck + c', ⟨some p.name, p.put v'⟩) :: rest) _ :=
              ⟨.cons (.put hp hcosts hread') hrest, hnodup, hrequired, rfl⟩
            exact ⟨hmakes.entries, hnodup, hrequired,
              (Effect.result_cons (hmakes.swaps hparts) blank).symm⟩
          refine ⟨cv, v, _, hread, ?_, fun n' c' v' hread' => ⟨_, hput n' c' v' hread'⟩⟩
          rw [hresult, (hput n cv v hread).result]
          rfl

theorem run_readKeyed_perm [SteadyFormat ν] (hparts : Separate parts)
    (hsteady : SteadyParts parts) (hperm : entries.Perm entries')
    (h : run (readKeyed (parts.map Part.field) blank entries) budget = .ok (r, rest)) :
    run (readKeyed (parts.map Part.field) blank entries') budget = .ok (r, rest) := by
  obtain ⟨effects, hmakes, rfl⟩ := exists_makes hsteady h
  obtain ⟨effects', hpermEffects, hmakes'⟩ := hmakes.perm hparts hperm
  rw [(hpermEffects.map (·.1)).sum_nat]
  exact hmakes'.costs hparts rest

end

end ApiMocks
