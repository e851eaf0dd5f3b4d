import ApiMocks.Operation.Collect
import Mathlib.Data.List.Sort

/-!
# Which entry a response comes from

Entries are taken one after the other, and an earlier choice can still give
way: a `default` entry to the first number for its status.  The invariant is
that the slots after some entries are, in ascending order, the choices that a
reader would make who sees all of these entries at once.

* `bodies`, `slotFor?`: the entries for a status, and the choice among them;
* `Chosen.addEntry`, `Chosen.addEntries`: one step and a whole run keep the
  invariant;
* `normalizeResponses_choice`: the responses, what they are built from, and
  the orders of entries that make no difference.
-/

namespace ApiMocks

/-! ## The choice among all entries -/

/-- The bodies that entries offer for a status, in order: those under the key
`default` or those under other keys. -/
def bodies (isDefault : Bool) (s : Status) (entries : List (String × Option ResponseBody)) :
    List ResponseBody :=
  entries.filterMap fun e =>
    if decide (e.1 = Status.defaultKey) = isDefault ∧ Status.ofKey? e.1 = some s then e.2
    else none

/-- The body that counts for a status: the first under a number, or else the
first under `default`. -/
def bodyFor? (s : Status) (entries : List (String × Option ResponseBody)) :
    Option ResponseBody :=
  (bodies false s entries).head?.or (bodies true s entries).head?

/-- The slot for a status, with the key that its body stands under. -/
def slotFor? (schemas : Table Json) (s : Status)
    (entries : List (String × Option ResponseBody)) : Option Slot :=
  ((bodies false s entries).head?.map fun b => ⟨b.response s schemas, false⟩).or
    ((bodies true s entries).head?.map fun b => ⟨b.response s schemas, true⟩)

/-- Whether what is chosen so far gives way to another body. -/
def givesWay (isDefault : Bool) : Option Slot → Bool
  | none => true
  | some old => !isDefault && old.isDefault

variable {schemas : Table Json} {s t : Status} {key : String} {b : ResponseBody}
  {done entries : List (String × Option ResponseBody)} {slots : List Slot}

/-- The slot for a status holds the response of the body that counts. -/
theorem slotFor?_response :
    (slotFor? schemas s entries).map (·.response) =
      (bodyFor? s entries).map (·.response s schemas) := by
  unfold slotFor? bodyFor?
  cases (bodies false s entries).head? <;> cases (bodies true s entries).head? <;> rfl

theorem bodies_append (isDefault : Bool) (left right : List (String × Option ResponseBody)) :
    bodies isDefault s (left ++ right) = bodies isDefault s left ++ bodies isDefault s right :=
  List.filterMap_append

theorem bodies_singleton (isDefault : Bool) (e : String × Option ResponseBody) :
    bodies isDefault s [e] =
      if decide (e.1 = Status.defaultKey) = isDefault ∧ Status.ofKey? e.1 = some s
      then e.2.toList else [] := by
  unfold bodies
  cases he : e.2 <;> split <;> simp_all

theorem bodies_concat (isDefault : Bool) (e : String × Option ResponseBody) :
    bodies isDefault s (done ++ [e]) =
      bodies isDefault s done ++
        if decide (e.1 = Status.defaultKey) = isDefault ∧ Status.ofKey? e.1 = some s
        then e.2.toList else [] := by
  rw [bodies_append, bodies_singleton]

/-- An entry without a body or without a status changes no choice. -/
theorem slotFor?_concat_of_silent {e : String × Option ResponseBody}
    (h : e.2 = none ∨ Status.ofKey? e.1 = none) :
    slotFor? schemas s (done ++ [e]) = slotFor? schemas s done := by
  have hsame : ∀ isDefault, bodies isDefault s (done ++ [e]) = bodies isDefault s done := by
    intro isDefault
    rw [bodies_concat]
    rcases h with h | h <;> simp [h]
  simp only [slotFor?, hsame]

/-- An entry with a body makes a difference for its own status only, and only
if what is chosen so far gives way. -/
theorem slotFor?_concat (hkey : Status.ofKey? key = some t) :
    slotFor? schemas s (done ++ [(key, some b)]) =
      if t = s ∧ givesWay (key = Status.defaultKey) (slotFor? schemas s done)
      then some ⟨b.response t schemas, key = Status.defaultKey⟩
      else slotFor? schemas s done := by
  by_cases hs : t = s
  · subst hs
    by_cases hdefault : key = Status.defaultKey
    · subst hdefault
      cases hnumber : (bodies false t done).head? <;>
        cases hother : (bodies true t done).head? <;>
        simp [slotFor?, bodies_concat, givesWay, hkey, hnumber, hother]
    · cases hnumber : (bodies false t done).head? <;>
        cases hother : (bodies true t done).head? <;>
        simp [slotFor?, bodies_concat, givesWay, hkey, hdefault, hnumber, hother]
  · simp [slotFor?, bodies_concat, hkey, hs]

/-! ## Slots in ascending order -/

/-- The slots are in ascending order, without repetition. -/
def Ascending (slots : List Slot) : Prop :=
  slots.Pairwise fun a b => a.status < b.status

namespace Slot

theorem mem_insert {slot r : Slot} (h : r ∈ slot.insert slots) : r = slot ∨ r ∈ slots := by
  induction slots with
  | nil => exact .inl (List.mem_singleton.mp h)
  | cons old rest ih =>
      rw [insert] at h
      split at h
      · exact List.mem_cons.mp h
      · split at h
        · rcases List.mem_cons.mp h with rfl | h
          · exact .inl rfl
          · exact .inr (List.mem_cons_of_mem _ h)
        · rcases List.mem_cons.mp h with rfl | h
          · exact .inr List.mem_cons_self
          · rcases ih h with rfl | h
            · exact .inl rfl
            · exact .inr (List.mem_cons_of_mem _ h)

theorem ascending_insert (slot : Slot) (h : Ascending slots) :
    Ascending (slot.insert slots) := by
  induction slots with
  | nil => exact List.pairwise_singleton _ _
  | cons old rest ih =>
      obtain ⟨hold, hrest⟩ := List.pairwise_cons.mp h
      rw [insert]
      split
      · rename_i hlt
        refine List.pairwise_cons.mpr ⟨?_, h⟩
        intro r hr
        rcases List.mem_cons.mp hr with rfl | hr
        · exact hlt
        · exact Nat.lt_trans hlt (hold r hr)
      · split
        · rename_i heq
          exact List.pairwise_cons.mpr ⟨fun r hr => heq ▸ hold r hr, hrest⟩
        · rename_i hnlt hne
          refine List.pairwise_cons.mpr ⟨?_, ih hrest⟩
          intro r hr
          rcases mem_insert hr with rfl | hr
          · exact Nat.lt_of_le_of_ne (Nat.le_of_not_lt hnlt) (Ne.symm hne)
          · exact hold r hr

theorem find?_insert (slot : Slot) (s : Status) :
    (slot.insert slots).find? (·.status = s) =
      if slot.status = s then some slot else slots.find? (·.status = s) := by
  induction slots with
  | nil => by_cases h : slot.status = s <;> simp [insert, h]
  | cons old rest ih =>
      rw [insert]
      split
      · by_cases h : slot.status = s <;> simp [h]
      · split
        · rename_i heq
          by_cases h : slot.status = s
          · simp [h]
          · simp [h, ← heq]
        · rename_i hne
          by_cases hold : old.status = s
          · have h : slot.status ≠ s := fun hs => hne (hs.trans hold.symm)
            simp [hold, h]
          · simp [hold, ih]

end Slot

/-- In ascending slots each slot is the one that is found for its status. -/
theorem mem_iff_find? (h : Ascending slots) {r : Slot} :
    r ∈ slots ↔ slots.find? (·.status = r.status) = some r := by
  induction slots with
  | nil => simp
  | cons old rest ih =>
      obtain ⟨hold, hrest⟩ := List.pairwise_cons.mp h
      by_cases heq : old.status = r.status
      · have hnot : r ∉ rest := fun hr => Nat.ne_of_lt (hold r hr) heq
        simp [heq, hnot, eq_comm]
      · have hne : r ≠ old := fun hr => heq (hr ▸ rfl)
        simp [heq, hne, ih hrest]

/-! ## The invariant -/

/-- **The invariant.**  In ascending order, the slots are the choices among
the entries that are done. -/
structure Chosen (schemas : Table Json) (done : List (String × Option ResponseBody))
    (slots : List Slot) : Prop where
  ascending : Ascending slots
  found : ∀ s, slots.find? (·.status = s) = slotFor? schemas s done

theorem addEntry_of_silent {body : Option ResponseBody}
    (h : body = none ∨ Status.ofKey? key = none) :
    (addEntry schemas slots key body).1 = slots := by
  rcases h with rfl | h
  · rfl
  · cases body with
    | none => rfl
    | some b => simp [addEntry, h]

theorem addEntry_of_status (hkey : Status.ofKey? key = some t) :
    (addEntry schemas slots key (some b)).1 =
      if givesWay (key = Status.defaultKey) (slots.find? (·.status = t))
      then (⟨b.response t schemas, key = Status.defaultKey⟩ : Slot).insert slots
      else slots := by
  simp only [addEntry, hkey]
  cases hold : slots.find? (·.status = t) with
  | none => rfl
  | some old =>
      by_cases hdefault : key = Status.defaultKey <;>
        cases hwas : old.isDefault <;> simp [givesWay, hdefault, hwas]

/-- One entry keeps the invariant. -/
theorem Chosen.addEntry (h : Chosen schemas done slots) (key : String)
    (body : Option ResponseBody) :
    Chosen schemas (done ++ [(key, body)]) (addEntry schemas slots key body).1 := by
  by_cases hsilent : body = none ∨ Status.ofKey? key = none
  · rw [addEntry_of_silent hsilent]
    exact ⟨h.ascending, fun s => by rw [h.found, slotFor?_concat_of_silent hsilent]⟩
  · obtain ⟨hbody, hstatus⟩ := not_or.mp hsilent
    obtain ⟨b, rfl⟩ := Option.ne_none_iff_exists'.mp hbody
    obtain ⟨t, hkey⟩ := Option.ne_none_iff_exists'.mp hstatus
    rw [addEntry_of_status hkey, h.found]
    -- only the status that the key names can have another slot afterwards
    by_cases hway : givesWay (key = Status.defaultKey) (slotFor? schemas t done)
    · rw [if_pos hway]
      refine ⟨Slot.ascending_insert _ h.ascending, ?_⟩
      intro s
      rw [Slot.find?_insert, slotFor?_concat hkey, h.found]
      change (if t = s then _ else _) = _
      by_cases hs : t = s
      · subst hs
        rw [if_pos rfl, if_pos ⟨rfl, hway⟩]
      · rw [if_neg hs, if_neg fun hc => hs hc.1]
    · rw [if_neg hway]
      refine ⟨h.ascending, ?_⟩
      intro s
      rw [slotFor?_concat hkey, h.found]
      by_cases hs : t = s
      · subst hs
        rw [if_neg fun hc => hway hc.2]
      · rw [if_neg fun hc => hs hc.1]

/-- A run over entries keeps the invariant. -/
theorem Chosen.addEntries (h : Chosen schemas done slots)
    (entries : List (String × Option ResponseBody)) :
    Chosen schemas (done ++ entries) (addEntries schemas slots entries).1 := by
  induction entries generalizing done slots with
  | nil => simpa [ApiMocks.addEntries] using h
  | cons e rest ih =>
      have hrest := ih (h.addEntry e.1 e.2)
      rw [List.append_assoc, List.singleton_append] at hrest
      exact hrest

/-- The responses of an operation are the choices among its entries. -/
theorem exists_chosen (entries : List (String × Option ResponseBody)) (schemas : Table Json) :
    ∃ slots, Chosen schemas entries slots ∧
      (normalizeResponses entries schemas).value = slots.map (·.response) := by
  have hstart : Chosen schemas [] [] := ⟨List.Pairwise.nil, fun _ => rfl⟩
  exact ⟨_, hstart.addEntries entries, rfl⟩

/-- The invariant determines the slots. -/
theorem Chosen.unique {entries' : List (String × Option ResponseBody)} {slots' : List Slot}
    (h : Chosen schemas entries slots) (h' : Chosen schemas entries' slots')
    (hsame : ∀ s, slotFor? schemas s entries = slotFor? schemas s entries') :
    slots = slots' := by
  have hirrefl : Std.Irrefl fun a b : Slot => a.status < b.status :=
    ⟨fun a => Nat.lt_irrefl a.status⟩
  have hantisymm : Std.Antisymm fun a b : Slot => a.status < b.status :=
    ⟨fun a b hab hba => absurd hab (Nat.lt_asymm hba)⟩
  -- ascending lists are determined by their members
  refine h.ascending.eq_of_mem_iff h'.ascending ?_
  intro r
  rw [mem_iff_find? h.ascending, mem_iff_find? h'.ascending, h.found, h'.found, hsame]

/-! ## The responses -/

theorem mem_bodies {isDefault : Bool} :
    b ∈ bodies isDefault s entries ↔
      ∃ e ∈ entries, e.2 = some b ∧ Status.ofKey? e.1 = some s ∧
        decide (e.1 = Status.defaultKey) = isDefault := by
  simp only [bodies, List.mem_filterMap, Option.ite_none_right_eq_some]
  constructor
  · intro h
    obtain ⟨e, he, ⟨hdefault, hkey⟩, hbody⟩ := h
    exact ⟨e, he, hbody, hkey, hdefault⟩
  · intro h
    obtain ⟨e, he, hbody, hkey, hdefault⟩ := h
    exact ⟨e, he, ⟨hdefault, hkey⟩, hbody⟩

/-- A status has a body exactly if some entry with a body names it. -/
theorem bodyFor?_isSome_iff :
    (bodyFor? s entries).isSome ↔
      ∃ e ∈ entries, e.2.isSome ∧ Status.ofKey? e.1 = some s := by
  have hhead : ∀ isDefault, (bodies isDefault s entries).head?.isSome ↔
      ∃ b, b ∈ bodies isDefault s entries := by
    intro isDefault
    rw [List.isSome_head?]
    simp [List.eq_nil_iff_forall_not_mem]
  simp only [bodyFor?, Option.isSome_or, Bool.or_eq_true, hhead, mem_bodies]
  constructor
  · intro h
    rcases h with h | h <;> obtain ⟨b, e, he, hbody, hkey, _⟩ := h
    · exact ⟨e, he, by rw [hbody]; rfl, hkey⟩
    · exact ⟨e, he, by rw [hbody]; rfl, hkey⟩
  · intro h
    obtain ⟨e, he, hbody, hkey⟩ := h
    obtain ⟨b, hb⟩ := Option.isSome_iff_exists.mp hbody
    cases hdefault : decide (e.1 = Status.defaultKey) with
    | false => exact .inl ⟨b, e, he, hb, hkey, hdefault⟩
    | true => exact .inr ⟨b, e, he, hb, hkey, hdefault⟩

/-- A response says what a body says.  Its schema is the one that the table has
under its schema's name, or else the schema of the body. -/
structure BuiltFrom (schemas : Table Json) (body : ResponseBody) (r : Response) : Prop where
  description : r.description = body.description
  schemaName : r.schemaName = body.schema.bind schemaName?
  listed : ∀ name schema, r.schemaName = some name → schemas.get? name = some schema →
    r.schema = some schema
  own : r.schemaName.bind schemas.get? = none → r.schema = body.schema
  absent_iff : r.schema = none ↔ body.schema = none
  named : r.schemaName.isSome → r.schema.isSome

theorem builtFrom_response (schemas : Table Json) (s : Status) (body : ResponseBody) :
    BuiltFrom schemas body (body.response s schemas) := by
  have hschema : (body.response s schemas).schema =
      resolveSchema? (body.schema.bind schemaName?) body.schema schemas := rfl
  have habsent : (body.response s schemas).schema = none ↔ body.schema = none := by
    rw [hschema, resolveSchema?]
    cases body.schema with
    | none => simp
    | some given => split <;> simp
  refine ⟨rfl, rfl, ?_, ?_, habsent, ?_⟩
  · intro name schema hname hlisted
    have hbind : body.schema.bind schemaName? = some name := hname
    rw [hschema, resolveSchema?, hbind, Option.bind_some, hlisted]
  · intro hnone
    have hbind : (body.schema.bind schemaName?).bind schemas.get? = none := hnone
    rw [hschema, resolveSchema?, hbind]
  · intro hname
    have hbind : (body.schema.bind schemaName?).isSome := hname
    rw [Option.isSome_iff_ne_none]
    intro hnone
    rw [habsent.mp hnone] at hbind
    cases hbind

/-- The responses are in ascending order of status. -/
theorem normalizeResponses_ascending (entries : List (String × Option ResponseBody))
    (schemas : Table Json) :
    (normalizeResponses entries schemas).value.Pairwise fun a b => a.status < b.status := by
  obtain ⟨slots, hchosen, hvalue⟩ := exists_chosen entries schemas
  rw [hvalue, List.pairwise_map]
  exact hchosen.ascending

/-- **What a response is built from.**  A response is there exactly for the
statuses that have a body, and it is built from that body. -/
theorem mem_normalizeResponses {r : Response} :
    r ∈ (normalizeResponses entries schemas).value ↔
      ∃ body, bodyFor? r.status entries = some body ∧ r = body.response r.status schemas := by
  obtain ⟨slots, hchosen, hvalue⟩ := exists_chosen entries schemas
  rw [hvalue, List.mem_map]
  constructor
  · intro h
    obtain ⟨slot, hslot, rfl⟩ := h
    have hfound := (mem_iff_find? hchosen.ascending).mp hslot
    rw [hchosen.found] at hfound
    have hresponse := congrArg (Option.map (·.response)) hfound
    rw [slotFor?_response, Option.map_some, Option.map_eq_some_iff] at hresponse
    obtain ⟨body, hbody, heq⟩ := hresponse
    exact ⟨body, hbody, heq.symm⟩
  · intro h
    obtain ⟨body, hbody, heq⟩ := h
    have hresponse : (slotFor? schemas r.status entries).map (·.response) =
        (bodyFor? r.status entries).map (·.response r.status schemas) := slotFor?_response
    rw [hbody, Option.map_some, Option.map_eq_some_iff, ← heq] at hresponse
    obtain ⟨slot, hslot, rfl⟩ := hresponse
    refine ⟨slot, (mem_iff_find? hchosen.ascending).mpr ?_, rfl⟩
    rw [hchosen.found]
    exact hslot

/-! ## Orders that make no difference -/

/-- The responses depend on the bodies for each status only. -/
theorem normalizeResponses_congr {entries' : List (String × Option ResponseBody)}
    (hsame : ∀ isDefault s, bodies isDefault s entries' = bodies isDefault s entries) :
    (normalizeResponses entries' schemas).value = (normalizeResponses entries schemas).value := by
  obtain ⟨slots, hchosen, hvalue⟩ := exists_chosen entries schemas
  obtain ⟨slots', hchosen', hvalue'⟩ := exists_chosen entries' schemas
  rw [hvalue, hvalue', hchosen'.unique hchosen fun s => by simp only [slotFor?, hsame]]

/-- Two entries do not compete: their keys name different statuses, or one of
them is `default` and the other is not. -/
def Independent (e e' : String × Option ResponseBody) : Prop :=
  Status.ofKey? e.1 ≠ Status.ofKey? e'.1 ∨
    ¬ (e.1 = Status.defaultKey ↔ e'.1 = Status.defaultKey)

/-- Moving an entry past others that it does not compete with keeps the bodies
for each status in order. -/
theorem bodies_move {before mid after : List (String × Option ResponseBody)}
    {e : String × Option ResponseBody} (hmid : ∀ e' ∈ mid, Independent e e')
    (isDefault : Bool) (s : Status) :
    bodies isDefault s (before ++ mid ++ e :: after) =
      bodies isDefault s (before ++ e :: (mid ++ after)) := by
  have hswap : bodies isDefault s mid ++ bodies isDefault s [e] =
      bodies isDefault s [e] ++ bodies isDefault s mid := by
    by_cases he : decide (e.1 = Status.defaultKey) = isDefault ∧ Status.ofKey? e.1 = some s
    · have hnone : bodies isDefault s mid = [] := by
        refine List.filterMap_eq_nil_iff.mpr ?_
        intro e' he'
        refine if_neg ?_
        intro hcompete
        rcases hmid e' he' with hstatus | hkey
        · exact hstatus (he.2.trans hcompete.2.symm)
        · exact hkey (decide_eq_decide.mp (he.1.trans hcompete.1.symm))
      rw [hnone, List.nil_append, List.append_nil]
    · rw [bodies_singleton, if_neg he, List.nil_append, List.append_nil]
  calc bodies isDefault s (before ++ mid ++ e :: after)
      = bodies isDefault s before ++ (bodies isDefault s mid ++ bodies isDefault s [e]) ++
          bodies isDefault s after := by
        rw [← List.singleton_append, ← bodies_append, ← bodies_append, ← bodies_append]
        simp only [List.append_assoc]
    _ = bodies isDefault s before ++ (bodies isDefault s [e] ++ bodies isDefault s mid) ++
          bodies isDefault s after := by rw [hswap]
    _ = bodies isDefault s (before ++ e :: (mid ++ after)) := by
        rw [← bodies_append, ← bodies_append, ← bodies_append]
        simp only [List.append_assoc, List.nil_append, List.cons_append]

/-! ## The primary success -/

/-- The response of an operation with the smallest success status. -/
def IsSmallestSuccess (op : Operation) (r : Response) : Prop :=
  r ∈ op.responses ∧ r.status.isSuccess ∧
    ∀ r' ∈ op.responses, r'.status.isSuccess → r.status ≤ r'.status

/-- In ascending order the first response with some property is the smallest one
with it. -/
theorem find?_eq_some_iff_smallest {rs : List Response} {q : Response → Bool} {r : Response}
    (h : rs.Pairwise fun a b => a.status < b.status) :
    rs.find? q = some r ↔ r ∈ rs ∧ q r ∧ ∀ r' ∈ rs, q r' → r.status ≤ r'.status := by
  rw [List.find?_eq_some_iff_append]
  constructor
  · intro hfirst
    obtain ⟨hq, before, after, hsplit, hbefore⟩ := hfirst
    rw [hsplit] at h
    have hafter := (List.pairwise_cons.mp (List.pairwise_append.mp h).2.1).1
    refine ⟨by rw [hsplit]; simp, hq, ?_⟩
    intro r' hr' hr'q
    rw [hsplit] at hr'
    rcases List.mem_append.mp hr' with hr' | hr'
    · have hfail := hbefore r' hr'
      rw [hr'q] at hfail
      cases hfail
    · rcases List.mem_cons.mp hr' with rfl | hr'
      · exact Nat.le_refl _
      · exact Nat.le_of_lt (hafter r' hr')
  · intro hsmallest
    obtain ⟨hr, hq, hle⟩ := hsmallest
    obtain ⟨before, after, hsplit⟩ := List.append_of_mem hr
    refine ⟨hq, before, after, hsplit, ?_⟩
    intro r' hr'
    rw [hsplit] at h hle
    have hlt := (List.pairwise_append.mp h).2.2 r' hr' r List.mem_cons_self
    cases hr'q : q r' with
    | false => rfl
    | true =>
        have hge := hle r' (List.mem_append_left _ hr') hr'q
        exact absurd hlt (Nat.not_lt.mpr hge)

/-- With responses in ascending order the first success is the smallest one. -/
theorem primarySuccess?_eq_some_iff {op : Operation} {r : Response}
    (h : op.responses.Pairwise fun a b => a.status < b.status) :
    op.primarySuccess? = some r ↔ IsSmallestSuccess op r :=
  find?_eq_some_iff_smallest h

/-- A collected operation has the responses that are chosen for it. -/
theorem exists_entries_of_mem_collect {doc : SourceDocument} {op : Operation}
    (h : op ∈ doc.collect.value) :
    ∃ entries schemas, op.responses = (normalizeResponses entries schemas).value := by
  cases doc with
  | openApi d =>
      obtain ⟨step, hstep, rfl⟩ := List.mem_map.mp h
      obtain ⟨declared, _, rfl⟩ := List.mem_map.mp hstep
      exact ⟨declared.responses, d.schemas, rfl⟩
  | operationList d =>
      obtain ⟨found, hfound, hop⟩ := List.mem_filterMap.mp h
      obtain ⟨step, hstep, rfl⟩ := List.mem_map.mp hfound
      obtain ⟨entry, _, rfl⟩ := List.mem_map.mp hstep
      unfold OperationList.Entry.operation at hop
      cases hmethod : Method.ofName? entry.method with
      | none => simp [hmethod] at hop
      | some method =>
          obtain rfl : ((entry.declared method).operation d.schemas).value = op := by
            simpa [hmethod] using hop
          exact ⟨(entry.declared method).responses, d.schemas, rfl⟩

/-- **The choice of responses.**  The responses are in ascending order, and
there is one for each status that an entry with a body names.  It is built from
the first such entry whose key is a number, or else from the first under
`default`.  So only the bodies for each status matter, and an entry can be moved
past others that it does not compete with.  The first success of a collected
operation is the one with the smallest status. -/
theorem normalizeResponses_choice (entries : List (String × Option ResponseBody))
    (schemas : Table Json) :
    ((normalizeResponses entries schemas).value.Pairwise fun a b => a.status < b.status) ∧
    (∀ s, (∃ r ∈ (normalizeResponses entries schemas).value, r.status = s) ↔
      ∃ e ∈ entries, e.2.isSome ∧ Status.ofKey? e.1 = some s) ∧
    (∀ r ∈ (normalizeResponses entries schemas).value,
      ∃ body, bodyFor? r.status entries = some body ∧ BuiltFrom schemas body r) ∧
    (∀ entries', (∀ isDefault s, bodies isDefault s entries' = bodies isDefault s entries) →
      (normalizeResponses entries' schemas).value = (normalizeResponses entries schemas).value) ∧
    (∀ before e mid after, entries = before ++ e :: (mid ++ after) →
      (∀ e' ∈ mid, Independent e e') →
      (normalizeResponses (before ++ mid ++ e :: after) schemas).value =
        (normalizeResponses entries schemas).value) ∧
    (∀ doc : SourceDocument, ∀ op ∈ doc.collect.value, ∀ r,
      op.primarySuccess? = some r ↔ IsSmallestSuccess op r) := by
  refine ⟨normalizeResponses_ascending entries schemas, ?_, ?_, ?_, ?_, ?_⟩
  · intro s
    rw [← bodyFor?_isSome_iff]
    constructor
    · intro h
      obtain ⟨r, hr, rfl⟩ := h
      obtain ⟨body, hbody, _⟩ := mem_normalizeResponses.mp hr
      exact Option.isSome_iff_exists.mpr ⟨body, hbody⟩
    · intro h
      obtain ⟨body, hbody⟩ := Option.isSome_iff_exists.mp h
      exact ⟨body.response s schemas, mem_normalizeResponses.mpr ⟨body, hbody, rfl⟩, rfl⟩
  · intro r hr
    obtain ⟨body, hbody, heq⟩ := mem_normalizeResponses.mp hr
    exact ⟨body, hbody, heq ▸ builtFrom_response schemas r.status body⟩
  · intro entries' hsame
    exact normalizeResponses_congr hsame
  · intro before e mid after hentries hmid
    subst hentries
    exact normalizeResponses_congr (bodies_move hmid)
  · intro doc op hop r
    obtain ⟨own, table, hresponses⟩ := exists_entries_of_mem_collect hop
    refine primarySuccess?_eq_some_iff ?_
    rw [hresponses]
    exact normalizeResponses_ascending own table

/-- A number with a leading zero takes the place of a `default` entry in front
of it, and the order of the two makes no difference. -/
theorem normalizeResponses_default_then_number :
    (({ status := 200 } : Response) ∈ (normalizeResponses
        [("default", some { description := some "any" }), ("0200", some {})] {}).value ∧
      ∃ body, bodyFor? 200
          [("default", some { description := some "any" }), ("0200", some {})] = some body ∧
        BuiltFrom {} body { status := 200 }) ∧
    (normalizeResponses
        [("0200", some {}), ("default", some { description := some "any" })] {}).value =
      (normalizeResponses
        [("default", some { description := some "any" }), ("0200", some {})] {}).value := by
  have hmem : ({ status := 200 } : Response) ∈ (normalizeResponses
      [("default", some { description := some "any" }), ("0200", some {})] {}).value :=
    List.mem_singleton.mpr rfl
  have hspec := normalizeResponses_choice
    [("default", some { description := some "any" }), ("0200", some {})] {}
  refine ⟨⟨hmem, hspec.2.2.1 _ hmem⟩, ?_⟩
  refine hspec.2.2.2.2.1 [] _ [("0200", some {})] [] rfl ?_
  intro e' he'
  obtain rfl := List.mem_singleton.mp he'
  exact .inr (by decide)

end ApiMocks
