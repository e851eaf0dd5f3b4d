import ApiMocks.Proofs.CollectedOperations
import ApiMocks.Proofs.ResponseChoice

/-!
# No entry is lost

Entries are left out for several reasons: no body, no status, an unknown method, or
another entry for the same status.  Each time this is reported, and a number that
takes the place of `default` reports that too.  The invariant of a run is an
account: slots and notices together are as many as the entries taken so far.  It
rests on the order of the slots: only among ascending ones a new slot surely meets
the slot of its status, and takes its place.

* `Slot.length_insert`: a slot is added, or takes the place of one of its status;
* `addEntry_cases`: the three things that an entry can do;
* `length_addEntry`, `length_addEntries`: the account of a step and of a run;
* `key_addEntry`, `keys_addEntries`: notices name the entries that they are about;
* `Document.skipped_collect`: the notices on entries with an unknown method;
* `entries_accounted`: both accounts.
-/

namespace ApiMocks

/-! ## What notices are about -/

/-- The key of the response entry that a notice is about. -/
def Notice.responseKey? : Notice → Option String
  | noBody key | noStatus key | alreadyDeclared key _ | replacesDefault key _ => some key
  | unknownMethod _ _ | duplicate _ _ | generated _ _ => none

/-- Whether a notice is about an operation that is left out. -/
def Notice.isSkippedOperation : Notice → Bool
  | unknownMethod _ _ => true
  | _ => false

/-- Notices about response entries are for debugging, and about no operation. -/
theorem Notice.of_responseKey? {n : Notice} (h : n.responseKey?.isSome) :
    n.level = "DEBUG" ∧ n.isSkippedOperation = false := by
  cases n with
  | noBody key | noStatus key | alreadyDeclared key s | replacesDefault key s =>
      exact ⟨rfl, rfl⟩
  | unknownMethod method path | duplicate kind name | generated modules operations => cases h

variable {slots : List Slot}

/-! ## One entry -/

/-- In ascending order, no slot in front of a greater status has the smaller one. -/
theorem Ascending.find?_eq_none {s : Status} {old : Slot} {rest : List Slot}
    (h : Ascending (old :: rest)) (hlt : s < old.status) :
    (old :: rest).find? (·.status = s) = none := by
  obtain ⟨hold, _⟩ := List.pairwise_cons.mp h
  apply List.find?_eq_none.mpr
  intro r hr
  have hgreater : s < r.status := by
    rcases List.mem_cons.mp hr with rfl | hr
    · exact hlt
    · exact Nat.lt_trans hlt (hold r hr)
  simpa using (Nat.ne_of_lt hgreater).symm

/-- **A slot is added**, or takes the place of the one of its status. -/
theorem Slot.length_insert (slot : Slot) (h : Ascending slots) :
    (slot.insert slots).length =
      if slots.find? (·.status = slot.status) = none then slots.length + 1
      else slots.length := by
  induction slots with
  | nil => rfl
  | cons old rest ih =>
      rw [insert]
      split
      · rename_i hlt
        rw [if_pos (h.find?_eq_none hlt), List.length_cons]
      · split
        · rename_i heq
          have hfound : (old :: rest).find? (·.status = slot.status) = some old :=
            List.find?_cons_of_pos (by simp [heq])
          rw [hfound, if_neg (Option.some_ne_none old), List.length_cons, List.length_cons]
        · rename_i hne
          have hbehind : (old :: rest).find? (·.status = slot.status) =
              rest.find? (·.status = slot.status) :=
            List.find?_cons_of_neg (by simpa [eq_comm] using hne)
          rw [hbehind, List.length_cons, ih (List.pairwise_cons.mp h).2]
          split <;> rfl

/-- **What one entry can do**: it is reported and changes nothing, it adds the slot
of a new status, or it takes the place of the slot of its status and is reported. -/
theorem addEntry_cases (schemas : Table Json) (slots : List Slot) (key : String)
    (body : Option ResponseBody) :
    (∃ n, n.responseKey? = some key ∧ addEntry schemas slots key body = (slots, [n])) ∨
    ∃ slot : Slot,
      slots.find? (·.status = slot.status) = none ∧
          addEntry schemas slots key body = (slot.insert slots, []) ∨
        slots.find? (·.status = slot.status) ≠ none ∧
          addEntry schemas slots key body =
            (slot.insert slots, [.replacesDefault key slot.status]) := by
  cases body with
  | none => exact .inl ⟨.noBody key, rfl, rfl⟩
  | some b =>
      cases hkey : Status.ofKey? key with
      | none => exact .inl ⟨.noStatus key, rfl, by simp only [addEntry, hkey]⟩
      | some t =>
          let slot : Slot := ⟨b.response t schemas, key = Status.defaultKey⟩
          cases hold : slots.find? (·.status = t) with
          | none => exact .inr ⟨slot, .inl ⟨hold, by simp only [addEntry, hkey, hold, slot]⟩⟩
          | some old =>
              have hfound : slots.find? (·.status = slot.status) ≠ none :=
                fun hnone => Option.some_ne_none old (hold.symm.trans hnone)
              by_cases hkeep : (decide (key = Status.defaultKey) || !old.isDefault) = true
              · exact .inl ⟨.alreadyDeclared key t, rfl,
                  by simp only [addEntry, hkey, hold, if_pos hkeep]⟩
              · refine .inr ⟨slot, .inr ⟨hfound, ?_⟩⟩
                simp only [addEntry, hkey, hold, if_neg hkeep]
                rfl

variable (schemas : Table Json) (key : String) (body : Option ResponseBody)

/-- One entry keeps the slots in ascending order. -/
theorem ascending_addEntry (h : Ascending slots) :
    Ascending (addEntry schemas slots key body).1 := by
  rcases addEntry_cases schemas slots key body with
    ⟨n, _, hstep⟩ | ⟨slot, ⟨_, hstep⟩ | ⟨_, hstep⟩⟩ <;> rw [hstep]
  · exact h
  · exact Slot.ascending_insert slot h
  · exact Slot.ascending_insert slot h

/-- **The account of one entry**: it makes a slot more or a notice, and not both. -/
theorem length_addEntry (h : Ascending slots) :
    (addEntry schemas slots key body).1.length + (addEntry schemas slots key body).2.length =
      slots.length + 1 := by
  rcases addEntry_cases schemas slots key body with
    ⟨n, _, hstep⟩ | ⟨slot, ⟨hnew, hstep⟩ | ⟨hold, hstep⟩⟩ <;> rw [hstep]
  · rfl
  · exact (slot.length_insert h).trans (if_pos hnew)
  · exact congrArg (· + 1) ((slot.length_insert h).trans (if_neg hold))

/-- Whatever is reported of an entry names its key. -/
theorem key_addEntry :
    ((addEntry schemas slots key body).2.map Notice.responseKey?).Sublist [some key] := by
  rcases addEntry_cases schemas slots key body with
    ⟨n, hn, hstep⟩ | ⟨slot, ⟨_, hstep⟩ | ⟨_, hstep⟩⟩ <;> rw [hstep]
  · rw [List.map_singleton, hn]
  · exact List.nil_sublist _
  · exact List.Sublist.refl _

/-! ## All entries -/

/-- **The account of a run.** -/
theorem length_addEntries (h : Ascending slots)
    (entries : List (String × Option ResponseBody)) :
    (addEntries schemas slots entries).1.length + (addEntries schemas slots entries).2.length =
      slots.length + entries.length := by
  induction entries generalizing slots with
  | nil => rfl
  | cons e rest ih =>
      have hhere := length_addEntry schemas e.1 e.2 h
      have hlater := ih (ascending_addEntry schemas e.1 e.2 h)
      simp only [addEntries, List.length_append, List.length_cons]
      omega

/-- The notices of a run name entries, each at most once and in order. -/
theorem keys_addEntries (slots : List Slot) (entries : List (String × Option ResponseBody)) :
    ((addEntries schemas slots entries).2.map Notice.responseKey?).Sublist
      (entries.map fun e => some e.1) := by
  induction entries generalizing slots with
  | nil => exact List.Sublist.refl _
  | cons e rest ih =>
      simp only [addEntries, List.map_append, List.map_cons]
      exact (key_addEntry schemas e.1 e.2).append (ih _)

/-- Every notice on the responses of an operation names an entry. -/
theorem isSome_responseKey? {schemas : Table Json} {entries : List (String × Option ResponseBody)} {n : Notice}
    (hn : n ∈ (normalizeResponses entries schemas).notices) : n.responseKey?.isSome := by
  have hkey := (keys_addEntries schemas [] entries).mem (List.mem_map_of_mem hn)
  obtain ⟨e, _, he⟩ := List.mem_map.mp hkey
  rw [← he]
  rfl

/-! ## Operation lists -/

namespace OperationList

variable {e : Entry}

/-- The notice on an entry with an unknown method. -/
def Entry.skipped (e : Entry) : Notice := .unknownMethod e.method e.path

/-- Of the notices on an entry, one is about the operation if its method is unknown,
and none if it is known. -/
theorem Entry.skipped_operation (e : Entry) (schemas : Table Json) :
    (e.operation schemas).notices.filter Notice.isSkippedOperation =
      if e.HasMethod then [] else [e.skipped] := by
  unfold operation
  cases hmethod : Method.ofName? e.method with
  | none =>
      have hnone : ¬ e.HasMethod := by simp [Entry.hasMethod_iff, hmethod]
      rw [if_neg hnone]
      rfl
  | some method =>
      have hsome : e.HasMethod := by simp [Entry.hasMethod_iff, hmethod]
      rw [if_pos hsome]
      apply List.filter_eq_nil_iff.mpr
      intro n hn
      have hnotSkipped := (Notice.of_responseKey? (isSome_responseKey? hn)).2
      simp [hnotSkipped]

/-- **The notices on operations that are left out**: one for each entry without a
method, in order. -/
theorem Document.skipped_collect (d : Document) :
    d.collect.notices.filter Notice.isSkippedOperation =
      (d.operations.filter fun e => ¬ e.HasMethod).map Entry.skipped := by
  have hnotices : d.collect.notices =
      d.operations.flatMap fun e => (e.operation d.schemas).notices := by
    simp only [collect, Logged.all, List.flatMap_map]
  rw [hnotices, List.filter_flatMap]
  simp only [Entry.skipped_operation]
  induction d.operations with
  | nil => rfl
  | cons e rest ih =>
      rw [List.flatMap_cons, ih]
      by_cases h : e.HasMethod <;> simp [h]

/-- There is a record for each entry with a method. -/
theorem Document.length_collect (d : Document) :
    d.collect.value.length = (d.operations.filter fun e => e.HasMethod).length :=
  d.collects.length_eq.symm

end OperationList

/-! ## Both accounts -/

/-- **No entry disappears unreported.**  There are as many response entries as
responses that are chosen and debug messages together, and the messages name
entries, each at most once and in order.  There are as many entries of an operation
list as operations that are collected and messages on operations left out, and
these are about the entries with an unknown method, each of them once and in
order. -/
theorem entries_accounted (entries : List (String × Option ResponseBody))
    (schemas : Table Json) (d : OperationList.Document) :
    let responses := normalizeResponses entries schemas
    let operations := d.collect
    entries.length =
      responses.value.length + (responses.notices.filter (·.level = "DEBUG")).length ∧
    (responses.notices.map Notice.responseKey?).Sublist (entries.map fun e => some e.1) ∧
    d.operations.length =
      operations.value.length + (operations.notices.filter Notice.isSkippedOperation).length ∧
    operations.notices.filter Notice.isSkippedOperation =
      (d.operations.filter fun e => ¬ e.HasMethod).map OperationList.Entry.skipped := by
  intro responses operations
  refine ⟨?_, keys_addEntries schemas [] entries, ?_, d.skipped_collect⟩
  · have hdebug : responses.notices.filter (·.level = "DEBUG") = responses.notices := by
      apply List.filter_eq_self.mpr
      intro n hn
      exact decide_eq_true (Notice.of_responseKey? (isSome_responseKey? hn)).1
    have hrun := length_addEntries schemas List.Pairwise.nil entries
    have hlength : responses.value.length = (addEntries schemas [] entries).1.length :=
      List.length_map _
    rw [hdebug, hlength]
    calc entries.length = ([] : List Slot).length + entries.length := (Nat.zero_add _).symm
      _ = (addEntries schemas [] entries).1.length + responses.notices.length := hrun.symm
  · rw [d.skipped_collect, List.length_map, d.length_collect, Nat.add_comm]
    have hsplit := List.length_eq_length_filter_add (l := d.operations)
      fun e => decide ¬ e.HasMethod
    simpa using hsplit

end ApiMocks
