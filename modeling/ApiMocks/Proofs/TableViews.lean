import ApiMocks.Table
import Mathlib.Data.List.Nodup

/-!
# Tables and what is seen of them

The values of a table can be shown in another way; keys and places stay.  A table
that is filled by setting keys has distinct keys, and then its entries are what
its keys lead to.

* `Table.map`, `Table.present`: the table with its values shown in another way, or
  without the keys that have none;
* `Table.set_map`, `Table.get?_map`: setting and looking up do not mind;
* `Table.nodup_keys_set`, `Table.mem_entries_iff`: distinct keys.
-/

namespace ApiMocks.Table

variable {α γ : Type}

/-- The table with every value shown by `view`. -/
def map (view : α → γ) (t : Table α) : Table γ := ⟨t.entries.map fun e => (e.1, view e.2)⟩

/-- The table without the keys that have nothing. -/
def present (t : Table (Option α)) : Table (Option α) := ⟨t.entries.filter (·.2.isSome)⟩

theorem setIn_map (view : α → γ) (key : String) (value : α) (entries : List (String × α)) :
    (setIn key value entries).map (fun e => (e.1, view e.2)) =
      setIn key (view value) (entries.map fun e => (e.1, view e.2)) := by
  induction entries with
  | nil => rfl
  | cons e rest ih =>
      by_cases h : e.1 = key
      · simp [setIn, h]
      · simp [setIn, h, ih]

theorem set_map (view : α → γ) (t : Table α) (key : String) (value : α) :
    (t.set key value).map view = (t.map view).set key (view value) := by
  rw [map, set, setIn_map]
  rfl

theorem mem_setIn {key : String} {value : α} {entries : List (String × α)} {e : String × α}
    (h : e ∈ setIn key value entries) : e = (key, value) ∨ e ∈ entries := by
  induction entries with
  | nil => exact .inl (List.mem_singleton.mp h)
  | cons first rest ih =>
      by_cases hkey : first.1 = key
      · rw [setIn, if_pos hkey] at h
        exact (List.mem_cons.mp h).imp_right (List.mem_cons_of_mem _)
      · rw [setIn, if_neg hkey] at h
        rcases List.mem_cons.mp h with rfl | h
        · exact .inr List.mem_cons_self
        · exact (ih h).imp_right (List.mem_cons_of_mem _)

theorem get?_map (view : α → γ) (t : Table α) (key : String) :
    (t.map view).get? key = (t.get? key).map view := by
  obtain ⟨entries⟩ := t
  change (entries.map fun e => (e.1, view e.2)).lookup key = (entries.lookup key).map view
  induction entries with
  | nil => rfl
  | cons e rest ih =>
      rw [List.map_cons, List.lookup_cons, List.lookup_cons, ih]
      cases key == e.1 <;> rfl

theorem nodup_keys_set {t : Table α} (h : t.keys.Nodup) (key : String) (value : α) :
    (t.set key value).keys.Nodup := by
  rw [keys_set]
  by_cases hkey : key ∈ t.keys
  · rw [if_pos hkey]
    exact h
  · rw [if_neg hkey]
    exact List.nodup_append'.mpr
      ⟨h, List.nodup_singleton key, List.disjoint_singleton.mpr hkey⟩

/-- With distinct keys, the entries are what the keys lead to. -/
theorem mem_entries_iff {t : Table α} (h : t.keys.Nodup) {key : String} {value : α} :
    (key, value) ∈ t.entries ↔ t.get? key = some value := by
  obtain ⟨entries⟩ := t
  change (entries.map (·.1)).Nodup at h
  change (key, value) ∈ entries ↔ entries.lookup key = some value
  induction entries with
  | nil => simp
  | cons e rest ih =>
      obtain ⟨hnew, hrest⟩ := List.nodup_cons.mp h
      by_cases hkey : key = e.1
      · have hout : (key, value) ∉ rest := fun hmem =>
          hnew (List.mem_map.mpr ⟨(key, value), hmem, hkey⟩)
        have hfirst : (e :: rest).lookup key = some e.2 := by
          rw [List.lookup_cons, beq_iff_eq.mpr hkey]
        rw [hfirst, List.mem_cons, or_iff_left hout, Prod.ext_iff, Option.some_inj]
        exact ⟨fun hsame => hsame.2.symm, fun hsame => ⟨hkey, hsame.symm⟩⟩
      · have hother : (e :: rest).lookup key = rest.lookup key := by
          rw [List.lookup_cons, beq_false_of_ne hkey]
        rw [hother, ← ih hrest, List.mem_cons, or_iff_right]
        exact fun hsame => hkey (congrArg Prod.fst hsame)

end ApiMocks.Table
