/-!
# Tables in order of first use

A table is a list of entries with distinct keys.  Setting a key that is there already keeps its
place and changes its value; a new key goes to the end.
-/

namespace ApiMocks

/-- Entries in order of first use. -/
structure Table (α : Type) where
  entries : List (String × α) := []
  deriving Repr

namespace Table

variable {α : Type}

/-- The table without entries. -/
def empty : Table α := {}

/-- Entries with `key` set to `value`. -/
def setIn (key : String) (value : α) : List (String × α) → List (String × α)
  | [] => [(key, value)]
  | e :: rest => if e.1 = key then (key, value) :: rest else e :: setIn key value rest

/-- The table with `key` set to `value`. -/
def set (t : Table α) (key : String) (value : α) : Table α := ⟨setIn key value t.entries⟩

/-- The table of these entries, set one after the other. -/
def ofList (entries : List (String × α)) : Table α :=
  entries.foldl (fun t e => t.set e.1 e.2) empty

/-- The value of a key. -/
def get? (t : Table α) (key : String) : Option α := t.entries.lookup key

/-- The keys in order of first use. -/
def keys (t : Table α) : List String := t.entries.map (·.1)

theorem lookup_setIn_self (key : String) (value : α) (entries : List (String × α)) :
    (setIn key value entries).lookup key = some value := by
  induction entries with
  | nil => simp [setIn]
  | cons e rest ih =>
    by_cases h : e.1 = key
    · simp [setIn, h]
    · have h' : (key == e.1) = false := by simpa using fun hk => h hk.symm
      rw [setIn, if_neg h, List.lookup_cons, h']
      exact ih

theorem lookup_setIn_of_ne {key k : String} (hk : k ≠ key) (value : α)
    (entries : List (String × α)) :
    (setIn key value entries).lookup k = entries.lookup k := by
  have hkk : (k == key) = false := by simpa using hk
  induction entries with
  | nil => simp [setIn, List.lookup_cons, hkk]
  | cons e rest ih =>
    by_cases h : e.1 = key
    · obtain ⟨key', v⟩ := e
      subst h
      simp [setIn, List.lookup_cons, hkk]
    · rw [setIn, if_neg h, List.lookup_cons, List.lookup_cons, ih]

/-- A key has the value that was set last. -/
theorem get?_set_self (t : Table α) (key : String) (value : α) :
    (t.set key value).get? key = some value := lookup_setIn_self key value t.entries

/-- Setting a key changes no other one. -/
theorem get?_set_of_ne {key k : String} (hk : k ≠ key) (t : Table α) (value : α) :
    (t.set key value).get? k = t.get? k := lookup_setIn_of_ne hk value t.entries

/-- A key that is there keeps its place, and a new one goes to the end. -/
theorem keys_set (t : Table α) (key : String) (value : α) :
    (t.set key value).keys = if key ∈ t.keys then t.keys else t.keys ++ [key] := by
  obtain ⟨entries⟩ := t
  simp only [set, keys]
  induction entries with
  | nil => simp [setIn]
  | cons e rest ih =>
    by_cases h : e.1 = key
    · simp [setIn, h]
    · have h' : ¬ key = e.1 := fun hk => h hk.symm
      simp only [setIn, if_neg h, List.map_cons, ih, List.mem_cons, h', false_or]
      by_cases hm : key ∈ rest.map (·.1) <;> simp only [hm, if_true, if_false, List.cons_append]

end Table

end ApiMocks
