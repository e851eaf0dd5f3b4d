import ApiMocks.Proofs.RecordParts
import ApiMocks.Proofs.TableViews
import Mathlib.Data.List.Perm.Basic

/-!
# Insertions that readers do not mind

A JSON text can get more members without a change of what is read from it: members
that a record has no field for, nulls for optional fields, and entries of a map
that are null.  Such insertions can be made deep inside a text, wherever a record
or map of the right kind is read.

* `RecordInsertion`, `ItemInsertion`, `ValueInsertion`, `NullEntry`: where a tree
  can get more members;
* `Idle`: after such an insertion a reader gives a value that looks the same;
* `idle_record`, `idle_list`, `idle_table`, `idle_nullEntry`, `idle_optional`:
  readers made of readers that do not mind do not mind.
-/

namespace ApiMocks

/-! ## Tables -/

namespace Table

variable {α : Type}

/-- The second table has one key more than the first one, and nothing under it. -/
structure Beside (key : String) (t t' : Table (Option α)) : Prop where
  others : t'.entries.filter (·.1 ≠ key) = t.entries
  nothing : ∀ e ∈ t'.entries, e.1 = key → e.2 = none

theorem beside_set_none {key : String} {t : Table (Option α)}
    (h : ∀ e ∈ t.entries, e.1 ≠ key) : Beside key t (t.set key none) := by
  obtain ⟨entries⟩ := t
  refine ⟨?_, ?_⟩
  · simp only [set]
    induction entries with
    | nil => simp [setIn]
    | cons e rest ih =>
        have he : e.1 ≠ key := h e List.mem_cons_self
        have hrest := ih fun e' he' => h e' (List.mem_cons_of_mem _ he')
        rw [setIn, if_neg he, List.filter_cons, if_pos (by simpa using he), hrest]
  · intro e he hkey
    rcases mem_setIn he with rfl | he
    · rfl
    · exact absurd hkey (h e he)

theorem Beside.set {key k : String} {t t' : Table (Option α)} (h : Beside key t t')
    (hk : k ≠ key) (value : Option α) : Beside key (t.set k value) (t'.set k value) := by
  have hfilter : ∀ entries : List (String × Option α),
      (setIn k value entries).filter (·.1 ≠ key) =
        setIn k value (entries.filter (·.1 ≠ key)) := by
    intro entries
    induction entries with
    | nil => simp [setIn, hk]
    | cons e rest ih =>
        by_cases he : e.1 = k
        · simp [setIn, he, hk]
        · by_cases hkey : e.1 = key
          · simpa [setIn, he, hkey, hk.symm] using ih
          · simpa [setIn, he, hkey] using ih
  refine ⟨?_, ?_⟩
  · have hothers := hfilter t'.entries
    rw [h.others] at hothers
    exact hothers
  · intro e he hkey
    rcases mem_setIn he with rfl | he
    · exact absurd hkey hk
    · exact h.nothing e he hkey

/-- A key with nothing under it does not show. -/
theorem Beside.present_eq {key : String} {t t' : Table (Option α)} (h : Beside key t t') :
    t'.present = t.present := by
  rw [present, present, ← h.others, List.filter_filter]
  congr 1
  refine List.filter_congr fun e he => ?_
  by_cases hkey : e.1 = key
  · simp [h.nothing e he hkey]
  · simp [hkey]

end Table

namespace JsonText

/-! ## Insertions into a tree -/

/-- An insertion into an object that is read as a record with these fields.
`Inside` says which insertions the value of a field allows. -/
inductive RecordInsertion {τ : Type} (fields : List (Field (Except Fault) Site τ))
    (Inside : String → Tree → Tree → Prop) : Tree → Tree → Prop
  /-- a member that no field has the name of -/
  | unknown {before after : List (Option String × Tree)} {key : String} {value : Tree}
      (hunknown : ∀ f ∈ fields, f.name ≠ key) (hvalue : value.isIntact = true) :
      RecordInsertion fields Inside (.object (before ++ after))
        (.object (before ++ (some key, value) :: after))
  /-- a null for an optional field that is absent -/
  | null {before after : List (Option String × Tree)} {f : Field (Except Fault) Site τ}
      (hf : f ∈ fields) (hoptional : f.presence = .optional)
      (habsent : ∀ member ∈ before ++ after, member.1 ≠ some f.name) :
      RecordInsertion fields Inside (.object (before ++ after))
        (.object (before ++ (some f.name, .null) :: after))
  /-- an insertion into the value of a field -/
  | inside {before after : List (Option String × Tree)} {key : String} {value value' : Tree}
      (h : Inside key value value') :
      RecordInsertion fields Inside (.object (before ++ (some key, value) :: after))
        (.object (before ++ (some key, value') :: after))

/-- An insertion into an item of a list. -/
inductive ItemInsertion (Inside : Tree → Tree → Prop) : Tree → Tree → Prop
  | inside {before after : List Tree} {item item' : Tree} (h : Inside item item') :
      ItemInsertion Inside (.array (before ++ item :: after)) (.array (before ++ item' :: after))

/-- An insertion into a value of a map. -/
inductive ValueInsertion (Inside : Tree → Tree → Prop) : Tree → Tree → Prop
  | inside {before after : List (Option String × Tree)} {key : Option String} {value value' : Tree}
      (h : Inside value value') :
      ValueInsertion Inside (.object (before ++ (key, value) :: after))
        (.object (before ++ (key, value') :: after))

/-- A new entry of a map: a null under a key that the map does not have. -/
inductive NullEntry : Tree → Tree → Prop
  | insert {before after : List (Option String × Tree)} {key : String}
      (hfresh : ∀ member ∈ before ++ after, member.1 ≠ some key) :
      NullEntry (.object (before ++ after)) (.object (before ++ (some key, .null) :: after))

/-! ## Readers that do not mind -/

/-- After such an insertion the reader gives a value again, and one that looks
the same. -/
structure Idle {α γ : Type} (read : Site → Except Fault α) (view : α → γ)
    (Insertion : Tree → Tree → Prop) : Prop where
  reads : ∀ {room t t' v}, Insertion t t' → read ⟨room, t⟩ = .ok v →
    ∃ v', read ⟨room, t'⟩ = .ok v' ∧ view v' = view v
  notNull : ∀ {t t'}, Insertion t t' → t ≠ .null ∧ t' ≠ .null

section

variable {α β γ τ : Type} {read : Site → Except Fault α} {view : α → γ}
variable {Insertion Insertion' Inside : Tree → Tree → Prop}

open Reading

theorem Idle.of_view {view' : α → β} (h : Idle read view Insertion)
    (hview : ∀ v v', view v' = view v → view' v' = view' v) : Idle read view' Insertion where
  reads hinsert hread := by
    obtain ⟨v', hread', hsame⟩ := h.reads hinsert hread
    exact ⟨v', hread', hview _ _ hsame⟩
  notNull := h.notNull

theorem Idle.or (h : Idle read view Insertion) (h' : Idle read view Insertion') :
    Idle read view fun t t' => Insertion t t' ∨ Insertion' t t' where
  reads hinsert hread := hinsert.elim (h.reads · hread) (h'.reads · hread)
  notNull hinsert := hinsert.elim h.notNull h'.notNull

theorem Idle.of_same {view : α → γ} (h : Idle read id Insertion) : Idle read view Insertion :=
  h.of_view fun _ _ hsame => congrArg view hsame

theorem idle_optional (h : Idle read view Insertion) :
    Idle (optional read) (Option.map view) Insertion where
  reads {room t t' v} hinsert hread := by
    obtain ⟨hnull, hnull'⟩ := h.notNull hinsert
    have hpresent : ∀ t, t ≠ .null → optional read ⟨room, t⟩ = some <$> read ⟨room, t⟩ := by
      intro t ht
      cases t with
      | null => exact absurd rfl ht
      | _ => rfl
    rw [hpresent t hnull] at hread
    rw [hpresent t' hnull']
    cases hfirst : read ⟨room, t⟩ with
    | error fault =>
        rw [hfirst] at hread
        cases hread
    | ok u =>
        rw [hfirst] at hread
        cases hread
        obtain ⟨u', hread', hsame⟩ := h.reads hinsert hfirst
        rw [hread']
        exact ⟨some u', rfl, congrArg some hsame⟩
  notNull := h.notNull

theorem idle_optional_same (h : Idle read id Insertion) : Idle (optional read) id Insertion :=
  (idle_optional h).of_view fun v v' hsame => by rwa [Option.map_id, id, id] at hsame

/-! ### Lists -/

theorem mapM_insertion {f : β → Except Fault α} {x x' : β}
    (h : ∀ v, f x = .ok v → ∃ v', f x' = .ok v' ∧ view v' = view v) {before after : List β}
    {vs : List α} (hread : (before ++ x :: after).mapM f = .ok vs) :
    ∃ vs', (before ++ x' :: after).mapM f = .ok vs' ∧ vs'.map view = vs.map view := by
  rw [List.mapM_append, List.mapM_cons] at hread ⊢
  obtain ⟨front, hfront, hread⟩ := except_bind_eq_ok.mp hread
  obtain ⟨back, hback, hread⟩ := except_bind_eq_ok.mp hread
  obtain ⟨v, hv, hback⟩ := except_bind_eq_ok.mp hback
  obtain ⟨rest, hrest, hback⟩ := except_bind_eq_ok.mp hback
  cases hback
  cases hread
  obtain ⟨v', hv', hsame⟩ := h v hv
  rw [hfront, hv', hrest]
  refine ⟨front ++ v' :: rest, rfl, ?_⟩
  rw [List.map_append, List.map_append, List.map_cons, List.map_cons, hsame]

theorem idle_list (h : Idle read view Inside) :
    Idle (list read) (List.map view) (ItemInsertion Inside) where
  reads {room t t' v} hinsert hread := by
    obtain ⟨hitem⟩ := hinsert
    cases room with
    | zero => cases hread
    | succ room =>
        have hitems : ∀ items, list read ⟨room + 1, .array items⟩ =
            (items.map (⟨room, ·⟩)).mapM read := fun _ => rfl
        rw [hitems, List.map_append, List.map_cons] at hread
        rw [hitems, List.map_append, List.map_cons]
        exact mapM_insertion (fun v hv => h.reads hitem hv) hread
  notNull hinsert := by
    cases hinsert
    exact ⟨by simp, by simp⟩

/-! ### Maps -/

theorem readRow_eq_ok {t t' : Table α} {entry : Site × Site} :
    readRow read t entry = .ok t' ↔
      ∃ key v, text entry.1 = .ok key ∧ read entry.2 = .ok v ∧ t' = t.set key v := by
  constructor
  · intro h
    obtain ⟨key, hkey, h⟩ := except_bind_eq_ok.mp h
    obtain ⟨v, hv, h⟩ := except_bind_eq_ok.mp h
    cases h
    exact ⟨key, v, hkey, hv, rfl⟩
  · intro h
    obtain ⟨key, v, hkey, hv, rfl⟩ := h
    exact except_bind_eq_ok.mpr ⟨key, hkey, except_bind_eq_ok.mpr ⟨v, hv, rfl⟩⟩

theorem foldlM_middle_eq_ok {f : α → β → Except Fault α} {before after : List β} {x : β} {t u : α} :
    (before ++ x :: after).foldlM f t = .ok u ↔
      ∃ front next, before.foldlM f t = .ok front ∧ f front x = .ok next ∧
        after.foldlM f next = .ok u := by
  simp only [List.foldlM_append, List.foldlM_cons, except_bind_eq_ok, exists_and_left]

/-- The rows behind are read alike into tables that look the same. -/
theorem foldlM_readRow_view {t t' u : Table α} (h : t'.map view = t.map view)
    {entries : List (Site × Site)} (hread : entries.foldlM (readRow read) t = .ok u) :
    ∃ u', entries.foldlM (readRow read) t' = .ok u' ∧ u'.map view = u.map view := by
  induction entries generalizing t t' with
  | nil =>
      cases hread
      exact ⟨t', rfl, h⟩
  | cons entry rest ih =>
      rw [List.foldlM_cons] at hread
      obtain ⟨next, hentry, hrest⟩ := except_bind_eq_ok.mp hread
      obtain ⟨key, v, hkey, hv, rfl⟩ := readRow_eq_ok.mp hentry
      have hnext : (t'.set key v).map view = (t.set key v).map view := by
        rw [Table.set_map, Table.set_map, h]
      obtain ⟨u', hrest', hsame⟩ := ih hnext hrest
      refine ⟨u', ?_, hsame⟩
      rw [List.foldlM_cons]
      exact except_bind_eq_ok.mpr ⟨_, readRow_eq_ok.mpr ⟨key, v, hkey, hv, rfl⟩, hrest'⟩

theorem table_object (room : Nat) (members : List (Option String × Tree)) :
    table read ⟨room + 1, .object members⟩ =
      (Site.placeMembers members room).foldlM (readRow read) Table.empty := rfl

theorem placeMembers_append (before after : List (Option String × Tree)) (room : Nat) :
    Site.placeMembers (before ++ after) room =
      Site.placeMembers before room ++ Site.placeMembers after room := List.map_append

theorem placeMembers_cons (member : Option String × Tree) (rest : List (Option String × Tree))
    (room : Nat) :
    Site.placeMembers (member :: rest) room =
      (⟨room, .string member.1⟩, ⟨room, member.2⟩) :: Site.placeMembers rest room := rfl

theorem idle_table (h : Idle read view Inside) :
    Idle (table read) (Table.map view) (ValueInsertion Inside) where
  reads {room t t' v} hinsert hread := by
    obtain @⟨before, after, name, value, value', hvalue⟩ := hinsert
    cases room with
    | zero => cases hread
    | succ room =>
        rw [table_object, placeMembers_append, placeMembers_cons] at hread
        rw [table_object, placeMembers_append, placeMembers_cons]
        obtain ⟨front, next, hfront, hentry, hrest⟩ := foldlM_middle_eq_ok.mp hread
        obtain ⟨key, w, hkey, hw, rfl⟩ := readRow_eq_ok.mp hentry
        obtain ⟨w', hw', hsame⟩ := h.reads hvalue hw
        have hnext : (front.set key w').map view = (front.set key w).map view := by
          rw [Table.set_map, Table.set_map, hsame]
        obtain ⟨u', hrest', hview⟩ := foldlM_readRow_view hnext hrest
        have hentry' : readRow read front (⟨room, .string name⟩, ⟨room, value'⟩) =
            .ok (front.set key w') := readRow_eq_ok.mpr ⟨key, w', hkey, hw', rfl⟩
        exact ⟨u', foldlM_middle_eq_ok.mpr ⟨front, _, hfront, hentry', hrest'⟩, hview⟩
  notNull hinsert := by
    cases hinsert
    exact ⟨by simp, by simp⟩

/-- If the values are the same, so is the table. -/
theorem idle_table_same (h : Idle read id Inside) : Idle (table read) id (ValueInsertion Inside) :=
  (idle_table h).of_view fun t t' hsame => by
    have hmap : ∀ t : Table α, t.map id = t := fun t => congrArg Table.mk (List.map_id _)
    rwa [hmap, hmap] at hsame

/-- The text of a key is the key. -/
theorem text_key_eq_ok {expected : String} {room : Nat} {key : Option String} {name : String} :
    Format.text expected (⟨room, .string key⟩ : Site) = .ok name ↔ key = some name := by
  cases key with
  | none => exact ⟨(nomatch ·), (nomatch ·)⟩
  | some key => exact ⟨fun h => by cases h; rfl, fun h => by cases h; rfl⟩

theorem foldlM_readRow_keys {t u : Table α} {key : String} (h : ∀ e ∈ t.entries, e.1 ≠ key)
    {room : Nat} {members : List (Option String × Tree)}
    (hfresh : ∀ member ∈ members, member.1 ≠ some key)
    (hread : (Site.placeMembers members room).foldlM (readRow read) t = .ok u) :
    ∀ e ∈ u.entries, e.1 ≠ key := by
  induction members generalizing t with
  | nil =>
      cases hread
      exact h
  | cons member rest ih =>
      rw [placeMembers_cons, List.foldlM_cons] at hread
      obtain ⟨next, hentry, hrest⟩ := except_bind_eq_ok.mp hread
      obtain ⟨k, v, hk, -, rfl⟩ := readRow_eq_ok.mp hentry
      refine ih ?_ (fun m hm => hfresh m (List.mem_cons_of_mem _ hm)) hrest
      intro e he
      rcases Table.mem_setIn he with rfl | he
      · intro hkey
        have hmember := text_key_eq_ok.mp hk
        exact hfresh member List.mem_cons_self (hmember.trans (congrArg some hkey))
      · exact h e he

theorem foldlM_readRow_beside {read : Site → Except Fault (Option α)}
    {t t' u : Table (Option α)} {key : String} (h : Table.Beside key t t') {room : Nat}
    {members : List (Option String × Tree)} (hfresh : ∀ member ∈ members, member.1 ≠ some key)
    (hread : (Site.placeMembers members room).foldlM (readRow read) t = .ok u) :
    ∃ u', (Site.placeMembers members room).foldlM (readRow read) t' = .ok u' ∧
      Table.Beside key u u' := by
  induction members generalizing t t' with
  | nil =>
      cases hread
      exact ⟨t', rfl, h⟩
  | cons member rest ih =>
      rw [placeMembers_cons, List.foldlM_cons] at hread
      obtain ⟨next, hentry, hrest⟩ := except_bind_eq_ok.mp hread
      obtain ⟨k, v, hk, hv, rfl⟩ := readRow_eq_ok.mp hentry
      have hne : k ≠ key := by
        intro hkey
        have hmember := text_key_eq_ok.mp hk
        exact hfresh member List.mem_cons_self (hmember.trans (congrArg some hkey))
      obtain ⟨u', hrest', hbeside⟩ :=
        ih (h.set hne v) (fun m hm => hfresh m (List.mem_cons_of_mem _ hm)) hrest
      refine ⟨u', ?_, hbeside⟩
      rw [placeMembers_cons, List.foldlM_cons]
      exact except_bind_eq_ok.mpr ⟨_, readRow_eq_ok.mpr ⟨k, v, hk, hv, rfl⟩, hrest'⟩

/-- A null entry is read as a key with nothing under it. -/
theorem idle_nullEntry : Idle (table (optional read)) Table.present NullEntry where
  reads {room t t' v} hinsert hread := by
    obtain @⟨before, after, key, hfresh⟩ := hinsert
    cases room with
    | zero => cases hread
    | succ room =>
        rw [table_object, placeMembers_append, List.foldlM_append] at hread
        rw [table_object, placeMembers_append, placeMembers_cons]
        obtain ⟨front, hfront, hrest⟩ := except_bind_eq_ok.mp hread
        have hbefore : ∀ e ∈ front.entries, e.1 ≠ key :=
          foldlM_readRow_keys (t := Table.empty) (fun e he => nomatch he)
            (fun m hm => hfresh m (List.mem_append_left _ hm)) hfront
        obtain ⟨u', hrest', hbeside⟩ := foldlM_readRow_beside (Table.beside_set_none hbefore)
          (fun m hm => hfresh m (List.mem_append_right _ hm)) hrest
        exact ⟨u', foldlM_middle_eq_ok.mpr ⟨front, _, hfront, rfl, hrest'⟩, hbeside.present_eq⟩
  notNull hinsert := by
    cases hinsert
    exact ⟨by simp, by simp⟩

/-! ### Records -/

variable {fields : List (Field (Except Fault) Site τ)} {blank : τ} {title : String}

/-- A record that is an object is made by the effects of its members. -/
theorem record_object_eq_ok (d : Divided fields) {room : Nat}
    {members : List (Option String × Tree)} {r : τ} :
    record title fields blank ⟨room, .object members⟩ = .ok r ↔
      ∃ inner effects, room = inner + 1 ∧
        Makes d.parts blank (Site.placeMembers members inner) effects r := by
  cases room with
  | zero =>
      constructor
      · intro h
        cases h
      · intro h
        obtain ⟨inner, effects, hroom, -⟩ := h
        cases hroom
  | succ inner =>
      have hkeyed : record title fields blank ⟨inner + 1, .object members⟩ =
          readKeyed (d.parts.map Part.field) blank (Site.placeMembers members inner) := by
        rw [← d.fields_eq]
        exact record_eq title fields blank _
      rw [hkeyed]
      constructor
      · intro h
        have hrun : Budgeted.run (readKeyed (d.parts.map Part.field) blank
            (Site.placeMembers members inner)) 0 = .ok (r, 0) := by
          rw [h]
          rfl
        obtain ⟨effects, hmakes, -⟩ := exists_makes (fun _ _ _ => steady_json _) hrun
        exact ⟨inner, effects, rfl, hmakes⟩
      · intro h
        obtain ⟨_, effects, hroom, hmakes⟩ := h
        cases hroom
        exact (costs_json_iff.mp (hmakes.costs d.separate)).2

/-- The optional parts of a record are blank when they are null. -/
def NullIsBlank (d : Divided fields) (blank : τ) : Prop :=
  ∀ p ∈ d.parts, p.presence = .optional →
    ∀ room, ∃ v, p.read ⟨room, .null⟩ = .ok v ∧ p.put v blank = blank

/-- What may be inserted under a key is inserted into the value of a part, and
after it the record looks the same. -/
def PartsIdle (d : Divided fields) (view : τ → γ) (Inside : String → Tree → Tree → Prop) : Prop :=
  ∀ key t t', Inside key t t' → ∃ p ∈ d.parts, p.name = key ∧
    ∀ room v, p.read ⟨room, t⟩ = .ok v →
      ∃ v', p.read ⟨room, t'⟩ = .ok v' ∧ ∀ r, view (p.put v' r) = view (p.put v r)

theorem partsIdle_nowhere (d : Divided fields) (view : τ → γ) :
    PartsIdle d view fun _ _ _ => False := fun _ _ _ h => h.elim

/-- The value of a part does not mind, and the record looks the same with it. -/
theorem partsIdle_part (d : Divided fields) {view : τ → γ} {p : Part (Except Fault) Site τ}
    (hp : p ∈ d.parts) {name : String} (hname : p.name = name) {valueView : p.Value → β}
    (h : Idle p.read valueView Insertion)
    (hput : ∀ v v' r, valueView v' = valueView v → view (p.put v' r) = view (p.put v r)) :
    PartsIdle d view fun key t t' => key = name ∧ Insertion t t' := by
  intro key t t' hinside
  refine ⟨p, hp, hname.trans hinside.1.symm, ?_⟩
  intro room v hread
  obtain ⟨v', hread', hsame⟩ := h.reads hinside.2 hread
  exact ⟨v', hread', fun r => hput v v' r hsame⟩

theorem PartsIdle.or {d : Divided fields} {view : τ → γ}
    {Inside Inside' : String → Tree → Tree → Prop}
    (h : PartsIdle d view Inside) (h' : PartsIdle d view Inside') :
    PartsIdle d view fun key t t' => Inside key t t' ∨ Inside' key t t' := by
  intro key t t' hinside
  rcases hinside with hinside | hinside
  · exact h key t t' hinside
  · exact h' key t t' hinside

theorem PartsIdle.of_exists {ι : Type} {d : Divided fields} {view : τ → γ}
    {Inside : ι → String → Tree → Tree → Prop} (h : ∀ i, PartsIdle d view (Inside i)) :
    PartsIdle d view fun key t t' => ∃ i, Inside i key t t' := by
  intro key t t' hinside
  obtain ⟨i, hinside⟩ := hinside
  exact h i key t t' hinside

theorem costs_key (room : Nat) (name : String) :
    Costs (Format.text "field identifier" (⟨room, .string (some name)⟩ : Site)) 0 name :=
  costs_json_iff.mpr ⟨rfl, rfl⟩

theorem key_of_costs {room c : Nat} {key : Option String} {name : String}
    (h : Costs (Format.text "field identifier" (⟨room, .string key⟩ : Site)) c name) :
    key = some name :=
  text_key_eq_ok.mp (costs_json_iff.mp h).2

/-- The fields that are set are keys of the object. -/
theorem exists_member_of_mem_keys {parts : List (Part (Except Fault) Site τ)} {inner : Nat}
    {members : List (Option String × Tree)} {effects : List (Nat × Effect τ)}
    (h : HaveEffects parts (Site.placeMembers members inner) effects) {name : String}
    (hname : name ∈ Effect.keys (effects.map (·.2))) :
    ∃ member ∈ members, member.1 = some name := by
  obtain ⟨e, he, hkey⟩ := List.mem_filterMap.mp hname
  obtain ⟨indexed, hindexed, rfl⟩ := List.mem_map.mp he
  obtain ⟨entry, hentry, heffect⟩ := h.exists_entry indexed hindexed
  obtain ⟨member, hmember, rfl⟩ := List.mem_map.mp hentry
  refine ⟨member, hmember, ?_⟩
  generalize indexed.2 = e at heffect hkey
  generalize indexed.1 = c at heffect
  cases heffect with
  | passed => cases hkey
  | put _ hcosts _ =>
      cases hkey
      exact key_of_costs hcosts

theorem placeMembers_perm_middle (before after : List (Option String × Tree))
    (member : Option String × Tree) (inner : Nat) :
    (Site.placeMembers (member :: (before ++ after)) inner).Perm
      (Site.placeMembers (before ++ member :: after) inner) :=
  (List.perm_middle.symm).map _

/-- **Records do not mind** unknown members, nulls for optional fields that are
absent, and what their parts do not mind. -/
theorem idle_record (d : Divided fields) {Inside : String → Tree → Tree → Prop} {view : τ → γ}
    (hnull : NullIsBlank d blank) (hparts : PartsIdle d view Inside) :
    Idle (record title fields blank) view (RecordInsertion fields Inside) where
  reads {room t t' r} hinsert hread := by
    cases hinsert with
    | @unknown before after key value hunknown hvalue =>
        obtain ⟨inner, effects, rfl, hmakes⟩ := (record_object_eq_ok d).mp hread
        refine ⟨r, (record_object_eq_ok d).mpr ?_, rfl⟩
        have hunknownPart : ∀ p ∈ d.parts, p.name ≠ key := by
          intro p hp
          refine hunknown p.field ?_
          rw [d.fields_eq]
          exact List.mem_map_of_mem hp
        have hskip : Costs (Format.skip (⟨inner, value⟩ : Site)) 0 () :=
          costs_json_iff.mpr ⟨rfl, if_pos hvalue⟩
        have heffect : HasEffect d.parts (⟨inner, .string (some key)⟩, ⟨inner, value⟩)
            (0 + 0) ⟨none, id⟩ :=
          .passed (costs_key inner key) hunknownPart hskip
        obtain ⟨effects', -, hmakes'⟩ := (hmakes.cons_passed heffect).perm d.separate
          (placeMembers_perm_middle before after (some key, value) inner)
        exact ⟨inner, effects', rfl, hmakes'⟩
    | @null before after f hf hoptional habsent =>
        obtain ⟨inner, effects, rfl, hmakes⟩ := (record_object_eq_ok d).mp hread
        refine ⟨r, (record_object_eq_ok d).mpr ?_, rfl⟩
        rw [d.fields_eq] at hf
        obtain ⟨p, hp, rfl⟩ := List.mem_map.mp hf
        obtain ⟨v, hv, hblank⟩ := hnull p hp hoptional inner
        have heffect : HasEffect d.parts (⟨inner, .string (some p.name)⟩, ⟨inner, .null⟩)
            (0 + 0) ⟨some p.name, p.put v⟩ :=
          .put hp (costs_key inner p.name) (costs_json_iff.mpr ⟨rfl, hv⟩)
        have hfresh : p.name ∉ Effect.keys (effects.map (·.2)) := by
          intro hmem
          obtain ⟨member, hmember, hkey⟩ := exists_member_of_mem_keys hmakes.entries hmem
          exact habsent member hmember hkey
        obtain ⟨effects', -, hmakes'⟩ := (hmakes.cons_put heffect hfresh hblank).perm d.separate
          (placeMembers_perm_middle before after (some p.name, .null) inner)
        exact ⟨inner, effects', rfl, hmakes'⟩
    | @inside before after key value value' hinside =>
        obtain ⟨inner, effects, rfl, hmakes⟩ := (record_object_eq_ok d).mp hread
        obtain ⟨p, hp, hname, hvalue⟩ := hparts key value value' hinside
        subst hname
        have hperm := fun value =>
          placeMembers_perm_middle before after (some p.name, value) inner
        obtain ⟨effects, -, hfront⟩ := hmakes.perm d.separate (hperm value).symm
        obtain ⟨c, v, others, hcosts, rfl, hreplace⟩ := hfront.replace_head d.separate hp
          fun _ _ hkey => (Option.some_inj.mp (key_of_costs hkey)).symm
        obtain ⟨v', hread', hview⟩ := hvalue inner v (costs_json_iff.mp hcosts).2
        obtain ⟨effects', hfront'⟩ :=
          hreplace ⟨inner, value'⟩ 0 v' (costs_json_iff.mpr ⟨rfl, hread'⟩)
        obtain ⟨effects'', -, hmakes'⟩ := hfront'.perm d.separate (hperm value')
        exact ⟨p.put v' others, (record_object_eq_ok d).mpr ⟨inner, effects'', rfl, hmakes'⟩,
          hview others⟩
  notNull hinsert := by
    cases hinsert <;> exact ⟨by simp, by simp⟩

end

end JsonText

end ApiMocks
