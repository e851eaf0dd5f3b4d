import ApiMocks.Json.Reading
import ApiMocks.Yaml.Reading
import Mathlib.Tactic.SplitIfs

/-!
# What reading costs

Reading YAML spends a budget: every alias that is followed takes one from it.
Reading JSON spends nothing.  Either way a reader that succeeds takes some fixed
amount and leaves the rest, so it gives the same value on every budget that is
large enough.  That is why values can be read in any order.

* `Budgeted`: a monad of readers with its runs;
* `Costs`: a reader gives a value for an amount, whatever is left over;
* `Steady`: every successful run of a reader is of that kind;
* `SteadyFormat`: a notation whose operations are steady, as JSON and YAML are.
-/

namespace ApiMocks

theorem except_bind_eq_ok {ε α β : Type} {x : Except ε α} {f : α → Except ε β} {w : β} :
    x >>= f = .ok w ↔ ∃ v, x = .ok v ∧ f v = .ok w := by
  cases x with
  | error fault => exact ⟨(nomatch ·), fun ⟨_, h, _⟩ => nomatch h⟩
  | ok v => exact ⟨fun h => ⟨v, rfl, h⟩, fun ⟨_, h, hf⟩ => by cases h; exact hf⟩

theorem mapError_eq_ok {ε ε' α : Type} {x : Except ε α} {f : ε → ε'} {v : α} :
    x.mapError f = .ok v ↔ x = .ok v := by
  cases x with
  | error fault => exact ⟨(nomatch ·), (nomatch ·)⟩
  | ok u => exact ⟨fun h => by cases h; rfl, fun h => by cases h; rfl⟩

/-- A monad of readers.  A run starts with a budget and gives a value with what
is left of the budget, or a fault. -/
class Budgeted (m : Type → Type) [Monad m] [MonadExceptOf Fault m] where
  run {α : Type} : m α → Nat → Except Fault (α × Nat)
  run_pure {α : Type} (a : α) (budget : Nat) : run (pure a) budget = .ok (a, budget)
  run_bind {α β : Type} (x : m α) (f : α → m β) (budget : Nat) :
    run (x >>= f) budget = (run x budget).bind fun p => run (f p.1) p.2
  run_throw {α : Type} (fault : Fault) (budget : Nat) :
    run (throw fault : m α) budget = .error fault

/-- Without aliases the budget stays. -/
instance : Budgeted (Except Fault) where
  run x budget := x.map (·, budget)
  run_pure _ _ := rfl
  run_bind x f _ := by cases x <;> rfl
  run_throw _ _ := rfl

instance : Budgeted Yaml.Read where
  run x budget := x.run budget
  run_pure _ _ := rfl
  run_bind _ _ _ := rfl
  run_throw _ _ := rfl

section Runs

variable {m : Type → Type} [Monad m] [MonadExceptOf Fault m] [Budgeted m]
variable {α β γ : Type} {x : m α} {f : α → m β} {v : α} {w : β} {c c' : Nat}

open Budgeted

/-- The reader takes `c` from every budget and gives `v`. -/
def Costs (x : m α) (c : Nat) (v : α) : Prop :=
  ∀ rest, run x (c + rest) = .ok (v, rest)

/-- What the reader gives does not depend on what is left over. -/
def Steady (x : m α) : Prop :=
  ∀ budget v rest, run x budget = .ok (v, rest) → ∃ c, budget = c + rest ∧ Costs x c v

/-- Every value that the reader gives has the property. -/
def Ensures (x : m α) (P : α → Prop) : Prop :=
  ∀ budget v rest, run x budget = .ok (v, rest) → P v

theorem run_bind_eq_ok {budget rest : Nat} :
    run (x >>= f) budget = .ok (w, rest) ↔
      ∃ v left, run x budget = .ok (v, left) ∧ run (f v) left = .ok (w, rest) := by
  rw [run_bind]
  constructor
  · intro h
    cases hx : run x budget with
    | error fault =>
        rw [hx] at h
        cases h
    | ok p =>
        rw [hx] at h
        exact ⟨p.1, p.2, rfl, h⟩
  · intro h
    obtain ⟨v, left, hx, hf⟩ := h
    rw [hx]
    exact hf

theorem Costs.pure (v : α) : Costs (pure v : m α) 0 v := by
  intro rest
  rw [Nat.zero_add, run_pure]

theorem Costs.bind (hx : Costs x c v) (hf : Costs (f v) c' w) : Costs (x >>= f) (c + c') w := by
  intro rest
  rw [Nat.add_assoc]
  exact run_bind_eq_ok.mpr ⟨v, c' + rest, hx _, hf rest⟩

theorem Costs.bind_pure (hx : Costs x c v) (g : α → β) :
    Costs (x >>= fun v => Pure.pure (g v)) c (g v) := by
  rw [← Nat.add_zero c]
  exact hx.bind (Costs.pure (g v))

theorem Steady.pure (v : α) : Steady (pure v : m α) := by
  intro budget u rest h
  rw [run_pure] at h
  cases h
  exact ⟨0, (Nat.zero_add _).symm, Costs.pure v⟩

theorem Steady.throw (fault : Fault) : Steady (throw fault : m α) := by
  intro budget u rest h
  rw [run_throw] at h
  cases h

theorem Steady.bind (hx : Steady x) (hf : ∀ v, Steady (f v)) : Steady (x >>= f) := by
  intro budget w rest h
  obtain ⟨v, left, hfirst, hsecond⟩ := run_bind_eq_ok.mp h
  obtain ⟨c, hc, hcosts⟩ := hx _ _ _ hfirst
  obtain ⟨c', hc', hcosts'⟩ := hf v _ _ _ hsecond
  exact ⟨c + c', by omega, hcosts.bind hcosts'⟩

theorem Steady.mapM [LawfulMonad m] (hf : ∀ v, Steady (f v)) (items : List α) :
    Steady (items.mapM f) := by
  induction items with
  | nil =>
      rw [List.mapM_nil]
      exact Steady.pure []
  | cons v rest ih =>
      rw [List.mapM_cons]
      exact (hf v).bind fun _ => ih.bind fun _ => Steady.pure _

theorem Steady.foldlM {g : β → α → m β} (hg : ∀ b v, Steady (g b v)) (items : List α) (b : β) :
    Steady (items.foldlM g b) := by
  induction items generalizing b with
  | nil => exact Steady.pure b
  | cons v rest ih =>
      rw [List.foldlM_cons]
      exact (hg b v).bind fun _ => ih _

theorem Steady.map [LawfulMonad m] {g : α → γ} (hx : Steady x) : Steady (g <$> x) := by
  rw [map_eq_pure_bind]
  exact hx.bind fun _ => Steady.pure _

theorem Ensures.pure {P : α → Prop} {v : α} (h : P v) : Ensures (pure v : m α) P := by
  intro budget u rest hrun
  rw [run_pure] at hrun
  cases hrun
  exact h

theorem Ensures.throw (fault : Fault) (P : α → Prop) : Ensures (throw fault : m α) P := by
  intro budget u rest h
  rw [run_throw] at h
  cases h

theorem Ensures.bind {P : β → Prop} {Q : α → Prop} (hx : Ensures x Q)
    (hf : ∀ v, Q v → Ensures (f v) P) : Ensures (x >>= f) P := by
  intro budget w rest h
  obtain ⟨v, left, hfirst, hsecond⟩ := run_bind_eq_ok.mp h
  exact hf v (hx _ _ _ hfirst) _ _ _ hsecond

/-- What is ensured whatever comes first. -/
theorem Ensures.after {P : β → Prop} (hf : ∀ v, Ensures (f v) P) : Ensures (x >>= f) P := by
  intro budget w rest h
  obtain ⟨v, left, -, hsecond⟩ := run_bind_eq_ok.mp h
  exact hf v _ _ _ hsecond

theorem Ensures.foldlM {g : β → α → m β} {P : β → Prop}
    (hg : ∀ b v, P b → Ensures (g b v) P) {b : β} (hb : P b) (items : List α) :
    Ensures (items.foldlM g b) P := by
  induction items generalizing b with
  | nil => exact Ensures.pure hb
  | cons v tail ih =>
      rw [List.foldlM_cons]
      exact (hg b v hb).bind fun next hnext => ih hnext

end Runs

/-! ## Notations -/

/-- A notation whose operations are steady. -/
class SteadyFormat (ν : Type) {m : Type → Type} [Monad m] [MonadExceptOf Fault m] [Budgeted m]
    [Format ν m] : Prop where
  text (expected : String) (n : ν) : Steady (Format.text expected n)
  present? (n : ν) : Steady (Format.present? n)
  items (n : ν) : Steady (Format.items n)
  entries (n : ν) : Steady (Format.entries n)
  recordText (title : String) (n : ν) : Steady (Format.recordText title n)
  value (n : ν) : Steady (Format.value n)
  skip (n : ν) : Steady (Format.skip n)

section Shapes

variable {m : Type → Type} [Monad m] [MonadExceptOf Fault m] [Budgeted m]
variable {ν α τ : Type} {read : ν → m α} {fields : List (Field m ν τ)}

open Reading

theorem steady_readValues (hfields : ∀ f ∈ fields, ∀ n r, Steady (f.store n r))
    (expected : String) (index : Nat) (values : List ν) (r : τ) :
    Steady (readValues expected index fields values r) := by
  induction fields generalizing index values r with
  | nil =>
      cases values with
      | nil => exact Steady.pure r
      | cons _ _ => exact Steady.throw _
  | cons f fields ih =>
      have hrest := ih fun g hg => hfields g (List.mem_cons_of_mem _ hg)
      cases values with
      | nil =>
          unfold readValues
          split_ifs
          · exact hrest _ _ _
          · exact Steady.throw _
      | cons n values =>
          exact (hfields f List.mem_cons_self n r).bind fun _ => hrest _ _ _

variable [Format ν m] [SteadyFormat ν]

theorem steady_optional [LawfulMonad m] (hread : ∀ n, Steady (read n)) (n : ν) :
    Steady (optional read n) := by
  refine (SteadyFormat.present? n).bind fun found => ?_
  cases found with
  | none => exact Steady.pure none
  | some n => exact (hread n).map

theorem steady_list [LawfulMonad m] (hread : ∀ n, Steady (read n)) (n : ν) :
    Steady (list read n) :=
  (SteadyFormat.items n).bind fun items => Steady.mapM hread items

theorem steady_table (hread : ∀ n, Steady (read n)) (n : ν) : Steady (table read n) := by
  refine (SteadyFormat.entries n).bind fun entries => Steady.foldlM (fun t entry => ?_) _ _
  refine (SteadyFormat.text _ entry.1).bind fun key => ?_
  exact (hread entry.2).bind fun value => Steady.pure _

theorem steady_readEntry (hfields : ∀ f ∈ fields, ∀ n r, Steady (f.store n r))
    (state : τ × List String) (entry : ν × ν) : Steady (readEntry fields state entry) := by
  refine (SteadyFormat.text _ entry.1).bind fun key => ?_
  cases hfind : fields.find? (·.name = key) with
  | none => exact (SteadyFormat.skip entry.2).bind fun _ => Steady.pure _
  | some f =>
      have hstore := hfields f (List.mem_of_find?_eq_some hfind) entry.2 state.1
      by_cases hseen : key ∈ state.2
      · simp only [if_pos hseen]
        exact (Steady.throw _).bind fun _ => hstore.bind fun _ => Steady.pure _
      · simp only [if_neg hseen]
        exact hstore.bind fun _ => Steady.pure _

theorem steady_record (hfields : ∀ f ∈ fields, ∀ n r, Steady (f.store n r)) (title : String)
    (blank : τ) (n : ν) : Steady (record title fields blank n) := by
  refine (SteadyFormat.recordText title n).bind fun text => ?_
  cases text with
  | positional values => exact steady_readValues hfields _ _ _ _
  | keyed entries =>
      refine (Steady.foldlM (steady_readEntry hfields) _ _).bind fun state => ?_
      dsimp only
      split
      · exact Steady.throw _
      · exact Steady.pure _

end Shapes

theorem run_json_eq_ok {α : Type} {x : Except Fault α} {v : α} {budget rest : Nat} :
    Budgeted.run x budget = .ok (v, rest) ↔ x = .ok v ∧ rest = budget := by
  change x.map (·, budget) = .ok (v, rest) ↔ _
  cases x with
  | error fault => exact ⟨(nomatch ·), fun h => nomatch h.1⟩
  | ok u =>
      constructor
      · intro h
        cases h
        exact ⟨rfl, rfl⟩
      · intro h
        obtain ⟨hv, rfl⟩ := h
        cases hv
        rfl

/-- A reader of JSON gives its value for nothing. -/
theorem costs_json_iff {α : Type} {x : Except Fault α} {c : Nat} {v : α} :
    Costs x c v ↔ c = 0 ∧ x = .ok v := by
  constructor
  · intro h
    obtain ⟨hv, hrest⟩ := run_json_eq_ok.mp (h 0)
    exact ⟨hrest.symm, hv⟩
  · intro h rest
    obtain ⟨rfl, hv⟩ := h
    exact run_json_eq_ok.mpr ⟨hv, (Nat.zero_add rest).symm⟩

theorem steady_json {α : Type} (x : Except Fault α) : Steady x := by
  intro budget v rest h
  obtain ⟨hv, rfl⟩ := run_json_eq_ok.mp h
  exact ⟨0, (Nat.zero_add _).symm, costs_json_iff.mpr ⟨rfl, hv⟩⟩

instance : SteadyFormat JsonText.Site where
  text _ _ := steady_json _
  present? _ := steady_json _
  items _ := steady_json _
  entries _ := steady_json _
  recordText _ _ := steady_json _
  value _ := steady_json _
  skip _ := steady_json _

namespace Yaml

theorem steady_lift {α : Type} (x : Except Fault α) : Steady (liftM x : Read α) := by
  cases x with
  | error fault => exact Steady.throw fault
  | ok v => exact Steady.pure v

theorem Site.run_follow_reference {n : Site} {number : Nat} (hnode : n.node = .reference number)
    (budget : Nat) :
    Budgeted.run n.follow (budget + 1) =
      match n.anchors.lookup number with
      | some node => .ok ({ n with node }, budget)
      | none => .error .malformed := by
  unfold Site.follow
  simp only [hnode]
  cases n.anchors.lookup number <;> rfl

/-- Following an alias takes one, and going on from anything else nothing. -/
theorem Site.steady_follow (n : Site) : Steady n.follow := by
  intro budget v rest h
  cases hnode : n.node with
  | reference number =>
      have hfollow := run_follow_reference hnode
      cases budget with
      | zero =>
          unfold Site.follow at h
          simp only [hnode] at h
          cases h
      | succ budget =>
          rw [hfollow] at h
          cases hlookup : n.anchors.lookup number with
          | none =>
              rw [hlookup] at h
              cases h
          | some node =>
              rw [hlookup] at h hfollow
              cases h
              refine ⟨1, Nat.add_comm _ _, ?_⟩
              intro rest
              rw [Nat.add_comm]
              exact hfollow rest
  | scalar _ _ _ _ | sequence _ _ _ | mapping _ _ _ | fault =>
      have hpure : n.follow = pure n := by
        unfold Site.follow
        simp only [hnode]
      rw [hpure] at h ⊢
      exact Steady.pure n _ _ _ h

theorem Site.steady_enter (n : Site) : Steady n.enter := by
  unfold Site.enter
  split
  · exact Steady.throw _
  · exact Steady.pure _

theorem Site.steady_text (expected : String) (n : Site) : Steady (n.text expected) := by
  refine n.steady_follow.bind fun n => ?_
  split
  · exact Steady.pure _
  · exact steady_lift _

theorem Site.steady_present? (n : Site) : Steady n.present? := by
  refine n.steady_follow.bind fun n => ?_
  split
  · split
    · exact Steady.pure _
    · split_ifs
      · exact Steady.pure _
      · exact Steady.pure _
      · exact Steady.throw _
  · exact Steady.throw _
  · exact Steady.pure _

theorem Site.steady_items (n : Site) : Steady n.items := by
  refine n.steady_follow.bind fun n => ?_
  split
  · exact n.steady_enter.bind fun _ => Steady.pure _
  · split_ifs
    · exact Steady.pure _
    · exact steady_lift _

theorem Site.steady_entries (expected : String) (n : Site) : Steady (n.entries expected) := by
  refine n.steady_follow.bind fun n => ?_
  split
  · exact n.steady_enter.bind fun _ => Steady.pure _
  · split_ifs
    · exact Steady.pure _
    · exact steady_lift _

theorem Site.steady_scalar (tag : Option String) (style : Style) (text : String) :
    Steady (Site.scalar tag style text) := by
  unfold Site.scalar
  split
  · exact Steady.throw _
  · exact (steady_lift _).bind fun v => steady_lift _

theorem Site.steady_members {read : Site → Read Json} (hread : ∀ n, Steady (read n))
    (isFirst : Bool) (entries : List (Site × Site)) :
    Steady (Site.members read isFirst entries) := by
  induction entries generalizing isFirst with
  | nil =>
      cases isFirst <;> exact Steady.pure []
  | cons e rest ih =>
      have hcons : Steady (do
          let key ← text (if isFirst then "a string key" else "a string") e.1
          let value ← read e.2
          let more ← Site.members read false rest
          pure ((key, value) :: more)) :=
        (steady_text _ _).bind fun _ => (hread _).bind fun _ => (ih _).bind fun _ => Steady.pure _
      cases isFirst <;> exact hcons

theorem Site.steady_valueWithin (room : Nat) (n : Site) : Steady (n.valueWithin room) := by
  induction room generalizing n with
  | zero =>
      unfold Site.valueWithin
      refine n.steady_follow.bind fun n => ?_
      split
      · exact steady_scalar _ _ _
      · split_ifs
        · exact Steady.throw _
        · exact Steady.throw _
      · split_ifs
        · exact Steady.throw _
        · exact Steady.throw _
      · exact Steady.throw _
      · exact Steady.throw _
  | succ room ih =>
      unfold Site.valueWithin
      refine n.steady_follow.bind fun n => ?_
      split
      · exact steady_scalar _ _ _
      · split_ifs
        · exact Steady.throw _
        · exact (Steady.mapM (fun item => ih _) _).map
      · split_ifs
        · exact Steady.throw _
        · exact (steady_members ih _ _).map
      · exact Steady.throw _
      · exact Steady.throw _

end Yaml

instance : SteadyFormat Yaml.Site where
  text expected n := n.steady_text expected
  present? n := n.steady_present?
  items n := n.steady_items
  entries n := n.steady_entries _
  recordText _ n := (n.steady_entries _).map
  value n := n.steady_valueWithin _
  skip n := by
    change Steady (if n.node.isIntact then pure () else throw .malformed : Yaml.Read Unit)
    split_ifs
    · exact Steady.pure ()
    · exact Steady.throw _

end ApiMocks
