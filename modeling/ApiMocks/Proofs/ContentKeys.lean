import ApiMocks.Http.Method
import ApiMocks.Proofs.SchemaContents

/-!
# The keys of a content

Of the media types of a content the exact key `application/json` counts first, and
then the first key of a JSON type.  A JSON type is told in any casing, but the exact key
is not: spelled otherwise, it is a JSON type among others.  So a change of casing can
take the exact key away, or make one.  That is seen in the pick, unless the entry is
the first of a JSON type anyhow.  Entries of other types are never seen.

* `jsonPlace?`: the place of the entry that counts;
* `jsonPlace?_eq`: it is that of the exact key, or else of the first JSON type;
* `Recased`: the same content with its keys in another casing;
* `place_of_spelled`: distinct keys have one place for the exact spelling;
* `jsonContent?_jsonOnly`: only entries of JSON types make a difference;
* `jsonContent?_casing`: which changes of a content keep the pick.
-/

namespace ApiMocks

open Method (foldCase)

variable {α : Type} {content content' : Table α} {i j : Nat}

/-! ## The place of the pick -/

/-- The table in which every key leads to its place. -/
def Table.places (t : Table α) : Table Nat := ⟨t.keys.zipIdx⟩

/-- The value at a place. -/
def Table.valueAt? (t : Table α) (i : Nat) : Option α := t.entries[i]?.map (·.2)

/-- The place of the entry whose schema counts. -/
def jsonPlace? (content : Table α) : Option Nat := jsonContent? content.places

/-- The place of the first entry of a JSON type. -/
def firstJson? (content : Table α) : Option Nat := content.keys.findIdx? isJsonType

/-- At this place the key is spelled `application/json` exactly. -/
def SpelledAt (content : Table α) (i : Nat) : Prop := content.keys[i]? = some "application/json"

theorem Table.map_valueAt?_places (t : Table α) : t.places.map t.valueAt? = t.map some := by
  obtain ⟨entries⟩ := t
  rw [Table.map, Table.map, Table.mk.injEq]
  apply List.ext_getElem
  · simp [places, keys]
  · intro i _ hright
    have hi : i < entries.length := by simpa using hright
    simp [places, keys, valueAt?, List.getElem?_eq_getElem hi]

/-- The pick is the value at its place. -/
theorem jsonContent?_eq_valueAt? (content : Table α) :
    jsonContent? content = (jsonPlace? content).bind content.valueAt? := by
  have hvalue : (jsonPlace? content).map content.valueAt? = (jsonContent? content).map some := by
    rw [jsonPlace?, ← jsonContent?_map, Table.map_valueAt?_places, jsonContent?_map]
  calc jsonContent? content
      = ((jsonContent? content).map some).bind id := by cases jsonContent? content <;> rfl
    _ = ((jsonPlace? content).map content.valueAt?).bind id := by rw [hvalue]
    _ = (jsonPlace? content).bind content.valueAt? := by cases jsonPlace? content <;> rfl

theorem lookup_zipIdx (key : String) (keys : List String) :
    keys.zipIdx.lookup key = keys.idxOf? key := by
  rw [List.lookup_eq_findSome?, List.idxOf?, List.findIdx?_eq_findSome?_zipIdx]
  congr 1
  funext e
  rw [BEq.comm]

theorem find?_zipIdx (p : String → Bool) (keys : List String) :
    (keys.zipIdx.find? (p ·.1)).map (·.2) = keys.findIdx? p := by
  rw [List.findIdx?_eq_findSome?_zipIdx, List.find?_eq_findSome?_guard, List.map_findSome?]
  congr 1
  funext e
  cases hp : p e.1 <;> simp [Option.guard, hp]

/-- **The place of the pick** is that of the exact key, or else of the first JSON
type. -/
theorem jsonPlace?_eq (content : Table α) :
    jsonPlace? content = (content.keys.idxOf? "application/json").or (firstJson? content) := by
  rw [jsonPlace?, jsonContent?, Table.get?, Table.places, lookup_zipIdx, find?_zipIdx, firstJson?]
  cases content.keys.idxOf? "application/json" <;> rfl

/-! ## Other casings -/

/-- The same content with its keys in another ASCII casing. -/
structure Recased (content content' : Table α) : Prop where
  keys : content'.keys.map foldCase = content.keys.map foldCase
  values : content'.entries.map (·.2) = content.entries.map (·.2)

/-- No two keys are the same in some casing. -/
def CasesApart (content : Table α) : Prop := (content.keys.map foldCase).Nodup

/-- A JSON type is told by the key with its capitals made small. -/
theorem isJsonType_congr {key key' : String} (h : foldCase key' = foldCase key) :
    isJsonType key' = isJsonType key :=
  congrArg
    (fun folded => occursIn "application/".toList folded && occursIn "json".toList folded) h

theorem findIdx?_isJsonType_congr {keys keys' : List String}
    (h : keys'.map foldCase = keys.map foldCase) :
    keys'.findIdx? isJsonType = keys.findIdx? isJsonType := by
  induction keys generalizing keys' with
  | nil =>
      obtain rfl := List.map_eq_nil_iff.mp h
      rfl
  | cons key keys ih =>
      obtain ⟨key', rest, rfl, hkey, hrest⟩ := List.map_eq_cons_iff.mp h
      rw [List.findIdx?_cons, List.findIdx?_cons, isJsonType_congr hkey, ih hrest]

theorem Recased.firstJson?_eq (h : Recased content content') :
    firstJson? content' = firstJson? content :=
  findIdx?_isJsonType_congr h.keys

/-- **One place for the exact spelling**, whatever the casing, if no two keys are the
same in some casing. -/
theorem place_of_spelled (hapart : CasesApart content) (hrecased : Recased content content')
    (hi : SpelledAt content i) (hj : SpelledAt content j ∨ SpelledAt content' j) : j = i := by
  have hfolded : ∀ {t : Table α} {k : Nat}, SpelledAt t k →
      (t.keys.map foldCase)[k]? = some (foldCase "application/json") := by
    intro t k hk
    rw [List.getElem?_map, hk, Option.map_some]
  have hplace : (content.keys.map foldCase)[j]? = some (foldCase "application/json") := by
    rcases hj with hj | hj
    · exact hfolded hj
    · rw [← hrecased.keys]
      exact hfolded hj
  obtain ⟨hlength, -⟩ := List.getElem?_eq_some_iff.mp hplace
  exact (List.getElem?_inj hlength hapart).mp (hplace.trans (hfolded hi).symm)

theorem Recased.symm (h : Recased content content') : Recased content' content :=
  ⟨h.keys.symm, h.values.symm⟩

theorem Recased.casesApart (h : Recased content content') (hapart : CasesApart content) :
    CasesApart content' := by
  rw [CasesApart, h.keys]
  exact hapart

theorem spelledAt_of_idxOf? (h : content.keys.idxOf? "application/json" = some i) :
    SpelledAt content i := by
  obtain ⟨hlength, hkey, -⟩ := List.idxOf?_eq_some_iff.mp h
  rw [SpelledAt, List.getElem?_eq_getElem hlength, hkey]

theorem not_spelledAt_of_idxOf? (h : content.keys.idxOf? "application/json" = none) :
    ¬ SpelledAt content i :=
  fun hi => List.idxOf?_eq_none_iff.mp h (List.mem_of_getElem? hi)

/-- The exact spelling comes or goes only at the first entry of a JSON type. -/
def KeepsSpelling (content content' : Table α) : Prop :=
  ∀ i, (SpelledAt content i ↔ SpelledAt content' i) ∨ firstJson? content = some i

/-- Where the exact spelling goes, the pick is that of the first JSON type. -/
theorem jsonPlace?_eq_iff_of_lost (hapart : CasesApart content)
    (hrecased : Recased content content') (hi : SpelledAt content i)
    (hlost : content'.keys.idxOf? "application/json" = none) :
    firstJson? content = some i ↔ KeepsSpelling content content' := by
  constructor
  · intro hfirst j
    by_cases hj : SpelledAt content j
    · rw [place_of_spelled hapart hrecased hi (.inl hj)]
      exact .inr hfirst
    · exact .inl (iff_of_false hj (not_spelledAt_of_idxOf? hlost))
  · intro hkeeps
    exact (hkeeps i).resolve_left fun hiff => not_spelledAt_of_idxOf? hlost (hiff.mp hi)

theorem KeepsSpelling.symm (hrecased : Recased content content')
    (h : KeepsSpelling content content') : KeepsSpelling content' content := by
  intro i
  rw [hrecased.firstJson?_eq]
  exact (h i).imp_left Iff.symm

/-- **Another casing** keeps the pick exactly if the exact spelling comes or goes only
at the first entry of a JSON type. -/
theorem jsonPlace?_recased_iff (hapart : CasesApart content)
    (hrecased : Recased content content') :
    jsonPlace? content' = jsonPlace? content ↔ KeepsSpelling content content' := by
  rw [jsonPlace?_eq, jsonPlace?_eq, hrecased.firstJson?_eq]
  cases hold : content.keys.idxOf? "application/json" with
  | none =>
      cases hnew : content'.keys.idxOf? "application/json" with
      | none =>
          rw [Option.none_or]
          refine iff_of_true rfl fun i => .inl ?_
          exact iff_of_false (not_spelledAt_of_idxOf? hold) (not_spelledAt_of_idxOf? hnew)
      | some i =>
          rw [Option.some_or, Option.none_or, eq_comm, ← hrecased.firstJson?_eq,
            jsonPlace?_eq_iff_of_lost (hrecased.casesApart hapart) hrecased.symm
              (spelledAt_of_idxOf? hnew) hold]
          exact ⟨.symm hrecased.symm, .symm hrecased⟩
  | some i =>
      have hi := spelledAt_of_idxOf? hold
      cases hnew : content'.keys.idxOf? "application/json" with
      | none =>
          rw [Option.none_or, Option.some_or]
          exact jsonPlace?_eq_iff_of_lost hapart hrecased hi hnew
      | some j =>
          have hj := spelledAt_of_idxOf? hnew
          obtain rfl := place_of_spelled hapart hrecased hi (.inr hj)
          refine iff_of_true rfl fun k => .inl ?_
          constructor
          · intro hk
            rwa [place_of_spelled hapart hrecased hi (.inl hk)]
          · intro hk
            rwa [place_of_spelled hapart hrecased hi (.inr hk)]

/-! ## Entries of other types -/

/-- The content without the entries of other types. -/
def Table.jsonOnly (content : Table α) : Table α := ⟨content.entries.filter (isJsonType ·.1)⟩

theorem lookup_filter {key : String} (hkey : isJsonType key = true)
    (entries : List (String × α)) :
    (entries.filter (isJsonType ·.1)).lookup key = entries.lookup key := by
  induction entries with
  | nil => rfl
  | cons e rest ih =>
      by_cases he : isJsonType e.1 = true
      · rw [List.filter_cons_of_pos (by simpa using he), List.lookup_cons, List.lookup_cons, ih]
      · have hne : (key == e.1) = false := by
          apply beq_false_of_ne
          intro heq
          exact he (heq ▸ hkey)
        rw [List.filter_cons_of_neg (by simpa using he), List.lookup_cons, hne, ih]

/-- **Only entries of JSON types make a difference.** -/
theorem jsonContent?_jsonOnly (content : Table α) :
    jsonContent? content.jsonOnly = jsonContent? content := by
  have hexact : isJsonType "application/json" = true := by decide
  rw [jsonContent?, jsonContent?, Table.get?, Table.get?, Table.jsonOnly, lookup_filter hexact,
    List.find?_filter]
  simp only [and_self, Bool.decide_eq_true]

/-! ## Changes of a content -/

/-- **Which changes of a content keep the pick.**  The pick is the value at its place.
Under distinct keys, distinct in every casing, another casing of the keys keeps the
place, and so the pick, exactly if the exact spelling `application/json` comes or goes
only at the first entry of a JSON type.  Entries of other types can be added, removed
and moved: what stays in order are those of JSON types. -/
theorem jsonContent?_casing (content content' : Table α) :
    jsonContent? content = (jsonPlace? content).bind content.valueAt? ∧
    (CasesApart content → Recased content content' →
      (jsonPlace? content' = jsonPlace? content ↔ KeepsSpelling content content') ∧
      (KeepsSpelling content content' → jsonContent? content' = jsonContent? content)) ∧
    (content'.jsonOnly = content.jsonOnly → jsonContent? content' = jsonContent? content) := by
  refine ⟨jsonContent?_eq_valueAt? content, ?_, ?_⟩
  · intro hapart hrecased
    have hiff := jsonPlace?_recased_iff hapart hrecased
    refine ⟨hiff, fun hkeeps => ?_⟩
    have hvalue : content'.valueAt? = content.valueAt? := by
      funext i
      rw [Table.valueAt?, Table.valueAt?, ← List.getElem?_map, ← List.getElem?_map,
        hrecased.values]
    rw [jsonContent?_eq_valueAt?, jsonContent?_eq_valueAt?, hiff.mpr hkeeps, hvalue]
  · intro hsame
    rw [← jsonContent?_jsonOnly, hsame, jsonContent?_jsonOnly]

/-- A content with a JSON type in front of its other one. -/
def problemContent : Table Nat :=
  ⟨[("text/plain", 1), ("Application/JSON", 2), ("application/problem+json", 3)]⟩

/-- The same content in another casing. -/
def problemContentRecased : Table Nat :=
  ⟨[("TEXT/plain", 1), ("application/json", 2), ("application/Problem+JSON", 3)]⟩

/-- The same content with its other type elsewhere. -/
def problemContentMoved : Table Nat :=
  ⟨[("Application/JSON", 2), ("application/problem+json", 3), ("text/html", 1)]⟩

/-- The first JSON type is picked in each of them. -/
theorem jsonContent?_problem :
    CasesApart problemContent ∧ Recased problemContent problemContentRecased ∧
    KeepsSpelling problemContent problemContentRecased ∧
    jsonContent? problemContentRecased = jsonContent? problemContent ∧
    problemContentMoved.jsonOnly = problemContent.jsonOnly ∧
    jsonContent? problemContentMoved = jsonContent? problemContent := by
  have hapart : CasesApart problemContent := by
    unfold CasesApart
    decide
  have hrecased : Recased problemContent problemContentRecased := ⟨by decide, by decide⟩
  have hmoved : problemContentMoved.jsonOnly = problemContent.jsonOnly := rfl
  obtain ⟨-, hcasing, -⟩ := jsonContent?_casing problemContent problemContentRecased
  obtain ⟨-, -, hother⟩ := jsonContent?_casing problemContent problemContentMoved
  obtain ⟨hiff, hpick⟩ := hcasing hapart hrecased
  have hkeeps : KeepsSpelling problemContent problemContentRecased := hiff.mp (by decide)
  exact ⟨hapart, hrecased, hkeeps, hpick hkeeps, hmoved, hother hmoved⟩

/-- **Not every change of casing keeps the pick**: the exact key behind a vendor type
counts first, and spelled otherwise it does not. -/
theorem not_forall_recased_picked :
    ¬ ∀ content content' : Table Nat, CasesApart content → Recased content content' →
      jsonPlace? content' = jsonPlace? content := by
  intro h
  have hplace := h ⟨[("application/vnd.api+json", 1), ("application/json", 2)]⟩
    ⟨[("application/vnd.api+json", 1), ("Application/JSON", 2)]⟩
    (by unfold CasesApart; decide) ⟨by decide, by decide⟩
  exact absurd hplace (by decide)

end ApiMocks
