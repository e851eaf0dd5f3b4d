import ApiMocks.Emit.Distinct
import ApiMocks.Operation.Basic
import Mathlib.Data.List.Nodup
import Mathlib.Data.List.Pairwise

/-!
# Which declaration of a name is kept

Every generated module keeps the first of the declarations that its operations
ask for under one name.  So a declaration is in the module exactly if it is the
one that a look-up of its name finds among all that are asked for; and then it
can be traced to the first operation that asks for the name.

* `mem_firsts_iff`, `find?_firsts`: what is kept, and what look-ups find;
* `firsts_append`, `firsts_eq_filter`, `nodup_firsts`: all that is kept, and that
  no name is kept twice;
* `AsksFirst`: an operation that is the first to ask for a name;
* `mem_firsts_flatMap_iff`, `find?_firsts_eq_some_iff`: both are traced to such
  an operation;
* `firsts_flatMap_append`: further operations leave what is kept in front;
* `firsts_flatMap_iff`: when each operation keeps its own declarations.
-/

namespace ApiMocks.Emit

section Firsts

variable {α : Type} {name : α → String} {taken : List String} {xs : List α}

/-- Leaving out repetitions changes no look-up of a name that is free. -/
theorem find?_firsts {n : String} (hn : n ∉ taken) :
    (firsts name taken xs).find? (name · = n) = xs.find? (name · = n) := by
  induction xs generalizing taken with
  | nil => rfl
  | cons x rest ih =>
      rw [firsts]
      by_cases hx : name x ∈ taken
      · have hne : name x ≠ n := fun heq => hn (heq ▸ hx)
        rw [if_pos hx, ih hn]
        simp [hne]
      · rw [if_neg hx]
        by_cases heq : name x = n
        · simp [heq]
        · have hfree : n ∉ name x :: taken := by simp [Ne.symm heq, hn]
          simp [heq, ih hfree]

/-- A candidate is kept exactly if its name is free and the look-up of its name
finds this candidate. -/
theorem mem_firsts_iff {x : α} :
    x ∈ firsts name taken xs ↔ name x ∉ taken ∧ xs.find? (name · = name x) = some x := by
  induction xs generalizing taken with
  | nil => simp [firsts]
  | cons y rest ih =>
      rw [firsts]
      by_cases hy : name y ∈ taken
      · rw [if_pos hy, ih]
        constructor
        · intro h
          have hne : name y ≠ name x := fun heq => h.1 (heq ▸ hy)
          exact ⟨h.1, by simp [hne, h.2]⟩
        · intro h
          have hne : name y ≠ name x := fun heq => h.1 (heq ▸ hy)
          exact ⟨h.1, by simpa [hne] using h.2⟩
      · rw [if_neg hy, List.mem_cons, ih]
        by_cases heq : name y = name x
        · have hnot : ¬ (name x ∉ name y :: taken) := by simp [heq]
          have hfree : name x ∉ taken := heq ▸ hy
          simp [heq, hfree, eq_comm]
        · have hne : x ≠ y := fun h => heq (h ▸ rfl)
          simp [heq, hne, Ne.symm heq]

/-- The first element with one property is the first with a narrower property,
if it has that one too. -/
theorem find?_eq_some_of_imp {p q : α → Bool} {x : α} (h : xs.find? q = some x) (hx : p x)
    (himp : ∀ y ∈ xs, p y → q y) : xs.find? p = some x := by
  obtain ⟨_, before, after, rfl, hbefore⟩ := List.find?_eq_some_iff_append.mp h
  apply List.find?_eq_some_iff_append.mpr
  refine ⟨hx, before, after, rfl, ?_⟩
  intro y hy
  have hq := hbefore y hy
  have hpq := himp y (List.mem_append_left _ hy)
  cases hp : p y with
  | false => rfl
  | true => rw [hpq hp] at hq; exact hq

/-! ## All that is kept -/

/-- Only taken names that candidates have make a difference. -/
theorem firsts_congr {taken' : List String}
    (h : ∀ x ∈ xs, name x ∈ taken ↔ name x ∈ taken') :
    firsts name taken xs = firsts name taken' xs := by
  induction xs generalizing taken taken' with
  | nil => rfl
  | cons x rest ih =>
      have hx := h x List.mem_cons_self
      have hrest : ∀ y ∈ rest, name y ∈ taken ↔ name y ∈ taken' :=
        fun y hy => h y (List.mem_cons_of_mem _ hy)
      rw [firsts, firsts]
      by_cases htaken : name x ∈ taken
      · rw [if_pos htaken, if_pos (hx.mp htaken), ih hrest]
      · rw [if_neg htaken, if_neg fun hx' => htaken (hx.mpr hx')]
        congr 1
        apply ih
        intro y hy
        rw [List.mem_cons, List.mem_cons, hrest y hy]

/-- **What is kept of more candidates** is what is kept of the front, and then of
the others what has neither a taken name nor one of the front. -/
theorem firsts_append {ys : List α} :
    firsts name taken (xs ++ ys) =
      firsts name taken xs ++ firsts name (xs.map name ++ taken) ys := by
  induction xs generalizing taken with
  | nil => rfl
  | cons x rest ih =>
      rw [List.cons_append, firsts, firsts]
      by_cases hx : name x ∈ taken
      · rw [if_pos hx, if_pos hx, ih]
        congr 1
        apply firsts_congr
        intro y _
        have hsame : name y = name x → name y ∈ taken := fun heq => heq ▸ hx
        simp only [List.map_cons, List.mem_append, List.mem_cons]
        tauto
      · rw [if_neg hx, if_neg hx, ih, List.cons_append]
        congr 2
        apply firsts_congr
        intro y _
        simp only [List.map_cons, List.mem_append, List.mem_cons]
        tauto

/-- Nothing is kept if all names are taken. -/
theorem firsts_eq_nil (h : ∀ x ∈ xs, name x ∈ taken) : firsts name taken xs = [] := by
  apply List.eq_nil_iff_forall_not_mem.mpr
  intro x hx
  obtain ⟨hfree, hfound⟩ := mem_firsts_iff.mp hx
  exact hfree (h x (List.mem_of_find?_eq_some hfound))

/-- No two candidates that are kept have one name. -/
theorem nodup_firsts : ((firsts name taken xs).map name).Nodup := by
  induction xs generalizing taken with
  | nil => exact List.nodup_nil
  | cons x rest ih =>
      rw [firsts]
      split
      · exact ih
      · apply List.nodup_cons.mpr
        refine ⟨?_, ih⟩
        intro hx
        obtain ⟨y, hy, hname⟩ := List.mem_map.mp hx
        exact (mem_firsts_iff.mp hy).1 (List.mem_cons.mpr (.inl hname))

/-- Candidates are kept if their names are free and distinct, and all others are
left out if their names are taken. -/
theorem firsts_eq_filter {p : α → Bool} (htaken : ∀ x ∈ xs, p x = false → name x ∈ taken)
    (hfree : ∀ x ∈ xs, p x = true → name x ∉ taken)
    (hnodup : ((xs.filter p).map name).Nodup) : firsts name taken xs = xs.filter p := by
  induction xs generalizing taken with
  | nil => rfl
  | cons x rest ih =>
      have htaken' : ∀ y ∈ rest, p y = false → name y ∈ taken :=
        fun y hy => htaken y (List.mem_cons_of_mem _ hy)
      have hfree' : ∀ y ∈ rest, p y = true → name y ∉ taken :=
        fun y hy => hfree y (List.mem_cons_of_mem _ hy)
      rw [firsts]
      cases hx : p x with
      | false =>
          rw [if_pos (htaken x List.mem_cons_self hx), List.filter_cons_of_neg (by simp [hx])]
          rw [List.filter_cons_of_neg (by simp [hx])] at hnodup
          exact ih htaken' hfree' hnodup
      | true =>
          rw [if_neg (hfree x List.mem_cons_self hx), List.filter_cons_of_pos hx]
          rw [List.filter_cons_of_pos hx, List.map_cons, List.nodup_cons] at hnodup
          congr 1
          apply ih
          · exact fun y hy hpy => List.mem_cons_of_mem _ (htaken' y hy hpy)
          · intro y hy hpy hmem
            rcases List.mem_cons.mp hmem with heq | hmem
            · apply hnodup.1
              rw [← heq]
              exact List.mem_map_of_mem (List.mem_filter.mpr ⟨hy, hpy⟩)
            · exact hfree' y hy hpy hmem
          · exact hnodup.2

/-- Every candidate is kept or counted as a repetition. -/
theorem mem_firsts_or_mem_repeats {x : α} (hx : x ∈ xs) :
    x ∈ firsts name taken xs ∨ x ∈ repeats name taken xs := by
  induction xs generalizing taken with
  | nil => cases hx
  | cons y rest ih =>
      rw [firsts, repeats]
      split
      · rcases List.mem_cons.mp hx with rfl | hx
        · exact .inr List.mem_cons_self
        · exact (ih hx).imp id (List.mem_cons_of_mem y)
      · rcases List.mem_cons.mp hx with rfl | hx
        · exact .inl List.mem_cons_self
        · exact (ih hx).imp (List.mem_cons_of_mem y) id

/-- All candidates are kept if no two have one name. -/
theorem firsts_eq_self (hnodup : (xs.map name).Nodup) : firsts name [] xs = xs := by
  have hall : firsts name [] xs = xs.filter fun _ => true :=
    firsts_eq_filter (by simp) (by simp) (by simpa using hnodup)
  rwa [List.filter_true] at hall

end Firsts

/-! ## Declarations of operations -/

section Asking

variable {α : Type} {asks : Operation → List α} {name : α → String} {candidates : List α}
  {ops : List Operation} {x : α}

/-- What is kept was asked for. -/
theorem mem_of_mem_firsts (h : x ∈ firsts name [] candidates) : x ∈ candidates :=
  List.mem_of_find?_eq_some (mem_firsts_iff.mp h).2

/-- Some declaration is kept for every name that is asked for. -/
theorem exists_mem_firsts (h : x ∈ candidates) :
    ∃ y ∈ firsts name [] candidates, name y = name x := by
  have hsome : (candidates.find? (name · = name x)).isSome :=
    List.find?_isSome.mpr ⟨x, h, by simp⟩
  rw [← find?_firsts List.not_mem_nil] at hsome
  obtain ⟨y, hy⟩ := Option.isSome_iff_exists.mp hsome
  exact ⟨y, List.mem_of_find?_eq_some hy, by simpa using List.find?_some hy⟩

/-- So every name that is asked for is the name of something kept. -/
theorem name_mem_map_firsts (h : x ∈ candidates) :
    name x ∈ (firsts name [] candidates).map name := by
  obtain ⟨y, hy, hname⟩ : ∃ y ∈ firsts name [] candidates, name y = name x := exists_mem_firsts h
  exact List.mem_map.mpr ⟨y, hy, hname⟩

/-- A declaration is kept exactly if the look-up of its name finds it. -/
theorem mem_firsts_iff_find? :
    x ∈ firsts name [] candidates ↔
      (firsts name [] candidates).find? (name · = name x) = some x := by
  rw [find?_firsts List.not_mem_nil, mem_firsts_iff]
  exact and_iff_right List.not_mem_nil

/-- `op` is the first operation, behind the `earlier` ones, that asks for a
declaration under the name of `x`; and it asks for `x` first under this name. -/
structure AsksFirst (asks : Operation → List α) (name : α → String) (earlier : List Operation)
    (op : Operation) (x : α) : Prop where
  asked : (asks op).find? (name · = name x) = some x
  unasked : ∀ op' ∈ earlier, ∀ y ∈ asks op', name y ≠ name x

/-- What is asked for first is asked for. -/
theorem AsksFirst.mem {earlier : List Operation} {op : Operation}
    (h : AsksFirst asks name earlier op x) : x ∈ asks op :=
  List.mem_of_find?_eq_some h.asked

/-- **The kept declaration of a name** is the one of the first operation that
asks for the name. -/
theorem find?_firsts_eq_some_iff :
    (firsts name [] (ops.flatMap asks)).find? (name · = name x) = some x ↔
      ∃ earlier op later, ops = earlier ++ op :: later ∧ AsksFirst asks name earlier op x := by
  rw [find?_firsts List.not_mem_nil, List.find?_flatMap, List.findSome?_eq_some_iff]
  constructor
  · intro h
    obtain ⟨earlier, op, later, hops, hasked, hnone⟩ := h
    refine ⟨earlier, op, later, hops, hasked, ?_⟩
    intro op' hop' y hy
    simpa using List.find?_eq_none.mp (hnone op' hop') y hy
  · intro h
    obtain ⟨earlier, op, later, hops, hasked, hunasked⟩ := h
    refine ⟨earlier, op, later, hops, hasked, ?_⟩
    intro op' hop'
    apply List.find?_eq_none.mpr
    intro y hy
    simpa using hunasked op' hop' y hy

theorem mem_firsts_flatMap_iff :
    x ∈ firsts name [] (ops.flatMap asks) ↔
      ∃ earlier op later, ops = earlier ++ op :: later ∧ AsksFirst asks name earlier op x := by
  rw [mem_firsts_iff_find?]
  exact find?_firsts_eq_some_iff

/-- Further operations leave what is kept in front. -/
theorem firsts_flatMap_append {more : List Operation} :
    firsts name [] (ops.flatMap asks) <+: firsts name [] ((ops ++ more).flatMap asks) := by
  rw [List.flatMap_append, firsts_append]
  exact List.prefix_append _ _

/-- Operations that are there already add nothing. -/
theorem firsts_flatMap_append_of_subset {more : List Operation} (h : ∀ op ∈ more, op ∈ ops) :
    firsts name [] ((ops ++ more).flatMap asks) = firsts name [] (ops.flatMap asks) := by
  have htaken : ∀ y ∈ more.flatMap asks, name y ∈ (ops.flatMap asks).map name ++ [] := by
    intro y hy
    obtain ⟨op, hop, hy⟩ := List.mem_flatMap.mp hy
    rw [List.append_nil]
    exact List.mem_map_of_mem (List.mem_flatMap.mpr ⟨op, h op hop, hy⟩)
  rw [List.flatMap_append, firsts_append, firsts_eq_nil htaken, List.append_nil]

/-- No declaration that `p` asks for has the name of one that `o` asks for. -/
def NamesApart (asks : Operation → List α) (name : α → String) (o p : Operation) : Prop :=
  ∀ x ∈ asks o, ∀ y ∈ asks p, name x ≠ name y

/-- Operations with names apart keep what each of them keeps alone. -/
theorem firsts_flatMap_of_apart (h : ops.Pairwise (NamesApart asks name)) :
    firsts name [] (ops.flatMap asks) = ops.flatMap fun op => firsts name [] (asks op) := by
  induction ops with
  | nil => rfl
  | cons op rest ih =>
      obtain ⟨hop, hrest⟩ := List.pairwise_cons.mp h
      rw [List.flatMap_cons, List.flatMap_cons, firsts_append, ← ih hrest]
      congr 1
      apply firsts_congr
      intro y hy
      obtain ⟨p, hp, hy⟩ := List.mem_flatMap.mp hy
      rw [List.append_nil]
      constructor
      · intro hmem
        obtain ⟨x, hx, hname⟩ := List.mem_map.mp hmem
        exact absurd hname (hop p hp x hx y hy)
      · intro hmem
        cases hmem

/-- And they keep it only then, for nothing that is kept shares its name. -/
theorem apart_of_firsts_flatMap
    (h : firsts name [] (ops.flatMap asks) = ops.flatMap fun op => firsts name [] (asks op)) :
    ops.Pairwise (NamesApart asks name) := by
  have hnodup : ((ops.flatMap fun op => firsts name [] (asks op)).map name).Nodup := by
    rw [← h]
    exact nodup_firsts
  rw [List.map_flatMap] at hnodup
  apply (List.nodup_flatMap.mp hnodup).2.imp
  intro o p hdisjoint x hx y hy hname
  have hxkept : ∃ x' ∈ firsts name [] (asks o), name x' = name x := exists_mem_firsts hx
  have hykept : ∃ y' ∈ firsts name [] (asks p), name y' = name y := exists_mem_firsts hy
  obtain ⟨x', hx', hxname⟩ := hxkept
  obtain ⟨y', hy', hyname⟩ := hykept
  apply hdisjoint (List.mem_map_of_mem hx')
  rw [hxname, hname, ← hyname]
  exact List.mem_map_of_mem hy'

/-- **Each operation keeps its own declarations** exactly if no two operations ask
for one name. -/
theorem firsts_flatMap_iff (hops : ops.Nodup) :
    firsts name [] (ops.flatMap asks) = ops.flatMap (fun op => firsts name [] (asks op)) ↔
      ∀ o ∈ ops, ∀ p ∈ ops, o ≠ p → NamesApart asks name o p := by
  constructor
  · intro h o ho p hp hne
    have hsymm : Std.Symm (NamesApart asks name) :=
      ⟨fun _ _ hapart x hx y hy heq => hapart y hy x hx heq.symm⟩
    exact (apart_of_firsts_flatMap h).forall ho hp hne
  · intro h
    exact firsts_flatMap_of_apart (hops.pairwise_of_forall_ne h)

end Asking

end ApiMocks.Emit
