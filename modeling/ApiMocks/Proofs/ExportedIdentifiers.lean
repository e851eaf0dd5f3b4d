import ApiMocks.Proofs.ExportedNames
import ApiMocks.Proofs.IdentifierNames
import ApiMocks.Proofs.ResponseNames

/-!
# Exported names as identifiers

Two texts can be one name: an identifier may write its characters as escapes.  The
ids of operations come as they are, so an escape in an id stands in the names of
its declarations, and such a name can be that of another declaration although the
texts differ.

How far this goes is seen from what the names stand for.  A front without
backslashes stands for itself, so the handlers of either kind keep theirs, and the
last letter of a mock class keeps it from the table.  A mock class whose id has no
backslash in front begins with no small letter.  So names of two modules are one
only where an id begins with an escape and its mock class meets a handler; and
names of one module only where an id has an escape.

* `SameName`: texts that stand for one name;
* `Stands.getLast?`: a last letter that ends no escape stands for itself;
* `NamedAfter`: the operation that a declaration is named after;
* `homeModule_of_stands`: what an exported name stands for tells its module, but for
  mock classes that begin with an escape;
* `mayMeet_of_sameName`: when two exported names can be one;
* `exports_apart`: the exported names are distinct but for escapes in the ids.
-/

namespace ApiMocks.Identifier

open Text

variable {s t front rest cs ds text : List Char} {c d : Char}

/-- The texts stand for the same characters, with the escapes read. -/
def SameName (s t : String) : Prop := ∃ cs, Stands s.toList cs ∧ Stands t.toList cs

theorem SameName.symm {s t : String} (h : SameName s t) : SameName t s := by
  obtain ⟨cs, hs, ht⟩ := h
  exact ⟨cs, ht, hs⟩

/-- A text stands for one row of characters. -/
theorem Stands.unique (hs : Stands s cs) (hs' : Stands s ds) : cs = ds := by
  obtain ⟨es, rfl, hnil⟩ := hs.of_append (t := []) (by rwa [List.append_nil])
  rw [hnil.eq_nil_iff.mpr rfl, List.append_nil]

/-- Without backslashes, texts that stand for one name are equal. -/
theorem SameName.eq {s t : String} (h : SameName s t) (hs : '\\' ∉ s.toList)
    (ht : '\\' ∉ t.toList) : s = t := by
  obtain ⟨cs, hcs, hcs'⟩ := h
  have heq : s.toList = t.toList :=
    ((stands_self hs).unique hcs).trans ((stands_self ht).unique hcs').symm
  exact String.toList_inj.mp heq

/-! ## The last letter -/

/-- What an escape takes of a text ends in a hexadecimal digit or in a brace. -/
theorem escape?_eq_some (h : escape? text = some (c, rest)) :
    ∃ taken last, text = taken ++ last :: rest ∧
      (last = '\x7d' ∨ (JsonText.hexValue? last).isSome) := by
  unfold escape? at h
  split at h
  · rename_i digits
    split at h
    · cases h
    · rename_i last behind hdrop
      obtain ⟨_, _, heq⟩ := Option.map_eq_some_iff.mp h
      obtain ⟨rfl, rfl⟩ := Prod.mk.inj heq
      have hlast : last = '\x7d' := by
        have hhead := List.head?_dropWhile_not (· ≠ '\x7d') digits
        rw [hdrop] at hhead
        simpa using hhead
      refine ⟨'\x7b' :: digits.takeWhile (· ≠ '\x7d'), last, ?_, .inl hlast⟩
      rw [List.cons_append, ← hdrop, List.takeWhile_append_dropWhile]
  · rename_i p q r last behind _
    obtain ⟨_, hpoint, heq⟩ := Option.map_eq_some_iff.mp h
    obtain ⟨rfl, rfl⟩ := Prod.mk.inj heq
    refine ⟨[p, q, r], last, rfl, .inr ?_⟩
    cases hvalue : JsonText.hexValue? last with
    | some => rfl
    | none => simp [codePoint?, hvalue] at hpoint
  · cases h

/-- A last letter behind one more character, from the last letter of the rest. -/
theorem Stands.getLast?_cons {last : Char} (h : Stands rest cs)
    (hlast : (last :: rest).getLast? = some c) (hend : last = c → d = c)
    (ih : rest.getLast? = some c → cs.getLast? = some c) : (d :: cs).getLast? = some c := by
  cases rest with
  | nil =>
      rw [h.eq_nil_iff.mpr rfl, hend (Option.some.inj hlast)]
      rfl
  | cons first more =>
      rw [List.getLast?_cons_cons] at hlast
      cases cs with
      | nil => exact absurd (h.eq_nil_iff.mp rfl) (List.cons_ne_nil _ _)
      | cons e es =>
          rw [List.getLast?_cons_cons]
          exact ih hlast

/-- **A last letter** that can end no escape stands for itself. -/
theorem Stands.getLast? (h : Stands text cs) (hlast : text.getLast? = some c)
    (hbrace : c ≠ '\x7d') (hdigit : JsonText.hexValue? c = none) : cs.getLast? = some c := by
  induction h with
  | nil => cases hlast
  | plain _ hrest ih => exact hrest.getLast?_cons hlast id ih
  | escaped hescape hrest ih =>
      obtain ⟨taken, last, rfl, hend⟩ := escape?_eq_some hescape
      rw [← List.cons_append, ← List.cons_append, List.getLast?_append_cons] at hlast
      refine hrest.getLast?_cons hlast ?_ ih
      -- the escape ends in no such letter
      rintro rfl
      rcases hend with hend | hend
      · exact absurd hend hbrace
      · rw [hdigit] at hend
        cases hend

/-! ## Backslashes in names -/

/-- A case change brings no backslash in. -/
theorem backslash_mem_capitalize {id : String} (h : '\\' ∈ (capitalize id).toList) :
    '\\' ∈ id.toList := by
  unfold capitalize mapFirst at h
  split at h
  · cases h
  · rename_i c rest hid
    rw [hid, List.mem_cons]
    rw [String.toList_ofList] at h
    rcases List.mem_append.mp h with hfirst | hrest
    · refine .inl ?_
      by_contra hne
      exact not_backslash_mem_upperChars (Ne.symm hne) hfirst
    · exact .inr hrest

/-- An id begins with the backslash if its capital form does. -/
theorem head?_of_capitalize {id : String} (h : (capitalize id).toList.head? = some '\\') :
    id.toList.head? = some '\\' := by
  unfold capitalize mapFirst at h
  split at h
  · cases h
  · rename_i c rest hid
    obtain ⟨first, more, hupper, _⟩ := upperChars_eq_cons c
    have hmem : '\\' ∈ upperChars c := by
      rw [String.toList_ofList, hupper] at h
      rw [hupper, Option.some.inj h]
      exact List.mem_cons_self
    rw [hid]
    by_contra hne
    exact not_backslash_mem_upperChars (fun heq => hne (by rw [heq]; rfl)) hmem

end ApiMocks.Identifier

namespace ApiMocks.Emit

open Identifier Text

/-! ## Names and the operations behind them -/

/-- A module declares a name that is made from the id of an operation. -/
inductive NamedAfter (op : Operation) : String → String → Prop
  | handler : NamedAfter op "routes" (Naming.handler op.id)
  | errorHandler (s : Status) : NamedAfter op "routes" (Naming.errorHandler op.id s)
  | mockClass (s : Status) : NamedAfter op "builders" (Naming.mockClass op.id s)
  | workerHandler : NamedAfter op "msw" (Naming.workerHandler op.id)

/-- The name is made from an id with a backslash in it. -/
def Escaped (ops : List Operation) (m name : String) : Prop :=
  ∃ op ∈ ops, NamedAfter op m name ∧ '\\' ∈ op.id.toList

/-- The name is that of a mock class whose id begins with a backslash. -/
def EscapedFront (ops : List Operation) (m name : String) : Prop :=
  m = "builders" ∧ ∃ op ∈ ops, NamedAfter op m name ∧ op.id.toList.head? = some '\\'

variable {c : Config} {op : Operation} {ops : List Operation} {m name : String}

theorem EscapedFront.escaped (h : EscapedFront ops m name) : Escaped ops m name := by
  obtain ⟨_, op, hop, hnamed, hhead⟩ := h
  exact ⟨op, hop, hnamed, List.mem_of_head? hhead⟩

theorem word_error (s : Status) : Word ("Error" ++ toString s).toList := by
  have hdigits : ∀ d ∈ (toString s).toList, isAsciiPart d = true := by
    intro d hd
    rw [isAsciiPart, Naming.isDigit_of_mem_status hd, Bool.or_true]
  rw [String.toList_append]
  exact Word.append (by decide) hdigits

/-- The name of a mock class is the id with a capital and a plain suffix. -/
theorem exists_mockClass_eq (id : String) (s : Status) :
    ∃ kind, Word kind.toList ∧ Naming.mockClass id s = capitalize id ++ kind := by
  obtain ⟨kind, hkind, heq⟩ := mockClass_eq id s
  refine ⟨kind ++ "Mock", ?_, heq⟩
  rcases hkind with rfl | rfl
  · rw [String.empty_append]
    decide
  · have hmock : Word "Mock".toList := by decide
    rw [String.toList_append]
    exact (word_error s).append hmock.ascii

/-- Such a name is the capital form of the id between a front and a suffix without
backslashes. -/
theorem NamedAfter.exists_eq (h : NamedAfter op m name) :
    ∃ front kind, '\\' ∉ front.toList ∧ '\\' ∉ kind.toList ∧
      name = front ++ (capitalize op.id ++ kind) := by
  cases h with
  | handler =>
      exact ⟨"mock", "", by decide, by decide, by rw [String.append_empty]; rfl⟩
  | errorHandler s =>
      refine ⟨"mock", _, by decide, (word_error s).not_backslash_mem, ?_⟩
      rw [Naming.errorHandler_eq]
      exact congrArg ("mock" ++ ·) String.append_assoc
  | mockClass s =>
      obtain ⟨kind, hkind, heq⟩ := exists_mockClass_eq op.id s
      exact ⟨"", kind, by decide, hkind.not_backslash_mem, by rw [String.empty_append, heq]⟩
  | workerHandler =>
      exact ⟨"mswMock", "", by decide, by decide, by rw [String.append_empty]; rfl⟩

/-- So a backslash in it is one of the id. -/
theorem NamedAfter.backslash_mem (h : NamedAfter op m name) (hname : '\\' ∈ name.toList) :
    '\\' ∈ op.id.toList := by
  obtain ⟨front, kind, hfront, hkind, rfl⟩ := h.exists_eq
  rw [String.toList_append, String.toList_append, List.mem_append, List.mem_append] at hname
  rcases hname with hname | hname | hname
  · exact absurd hname hfront
  · exact backslash_mem_capitalize hname
  · exact absurd hname hkind

/-- Every exported name is one of the table, or made from an id. -/
theorem mem_exports {e : String × List String} (he : e ∈ (bundle c ops).value.exports)
    (hname : name ∈ e.2) :
    (e.1 = "fixtures" ∧ (name = "fixtures" ∨ name = "Fixtures")) ∨
      ∃ op ∈ ops, NamedAfter op e.1 name := by
  unfold Bundle.exports at he
  rcases List.mem_append.mp he with he | he
  · rcases List.mem_append.mp he with he | he
    · rcases List.mem_pair.mp he with rfl | rfl
      · exact .inl ⟨rfl, FixturesModule.mem_exports hname⟩
      · obtain ⟨handler, hhandler, rfl⟩ := List.mem_map.mp hname
        obtain ⟨op, hop, hasked⟩ := List.mem_flatMap.mp (mem_of_mem_firsts hhandler)
        refine .inr ⟨op, hop, ?_⟩
        rcases mem_routeCandidates.mp hasked with rfl | ⟨_, r, _, hcandidate⟩
        · exact .handler
        · obtain ⟨schema, _, rfl⟩ := errorCandidate?_eq_some hcandidate
          exact .errorHandler r.status
    · obtain ⟨classes, hclasses, rfl⟩ := Option.map_eq_some_iff.mp (Option.mem_toList.mp he)
      obtain ⟨_, rfl⟩ := mem_when.mp hclasses
      obtain ⟨k, hk, rfl⟩ := List.mem_map.mp hname
      obtain ⟨op, hop, hasked⟩ := List.mem_flatMap.mp (mem_of_mem_firsts hk)
      obtain ⟨r, _, rfl⟩ := List.mem_map.mp hasked
      exact .inr ⟨op, hop, .mockClass r.1.status⟩
  · obtain ⟨worker, hworker, rfl⟩ := Option.map_eq_some_iff.mp (Option.mem_toList.mp he)
    obtain ⟨_, rfl⟩ := mem_when.mp hworker
    obtain ⟨handler, hhandler, rfl⟩ := List.mem_map.mp hname
    obtain ⟨op, hop, hasked⟩ := List.mem_filterMap.mp (mem_of_mem_firsts hhandler)
    obtain ⟨r, _, rfl⟩ := Option.map_eq_some_iff.mp hasked
    exact .inr ⟨op, hop, .workerHandler⟩

/-! ## What the names stand for -/

theorem homeModule_eq_fixtures (h : homeModule name = "fixtures") :
    name = "fixtures" ∨ name = "Fixtures" := by
  unfold homeModule at h
  split at h
  · assumption
  · split at h
    · exact absurd h (by decide)
    · exact absurd h (by decide)
    · exact absurd h (by decide)

/-- Behind a front without backslashes, what a text stands for has the same front. -/
theorem ofList_of_stands_front (front : String) {rest : String} {cs : List Char}
    (hfront : '\\' ∉ front.toList) (h : Stands (front ++ rest).toList cs) :
    ∃ ds, String.ofList cs = front ++ String.ofList ds := by
  rw [String.toList_append] at h
  obtain ⟨ds, rfl, _⟩ := (stands_append_iff hfront).mp h
  exact ⟨ds, by rw [String.ofList_append, String.ofList_toList]⟩

/-- A mock class begins with a backslash only if its id does. -/
theorem head?_of_mockClass {id : String} {s : Status}
    (h : (Naming.mockClass id s).toList.head? = some '\\') : id.toList.head? = some '\\' := by
  obtain ⟨kind, hkind, heq⟩ := exists_mockClass_eq id s
  rw [heq, String.toList_append] at h
  cases hcapital : (capitalize id).toList with
  | nil =>
      rw [hcapital, List.nil_append] at h
      exact absurd (List.mem_of_head? h) hkind.not_backslash_mem
  | cons first rest =>
      apply head?_of_capitalize
      rw [hcapital] at h ⊢
      exact h

/-- **What a mock class stands for** is no name of the table, and it begins with a
small letter only if the id begins with a backslash. -/
theorem homeModule_of_stands_mockClass {id : String} {s : Status} {cs : List Char}
    (h : Stands (Naming.mockClass id s).toList cs) :
    homeModule (String.ofList cs) = "builders" ∨
      id.toList.head? = some '\\' ∧ homeModule (String.ofList cs) ≠ "fixtures" := by
  have hlast : (String.ofList cs).toList.getLast? = some 'k' := by
    rw [String.toList_ofList]
    exact h.getLast? (getLast?_mockClass id s) (by decide) (by decide)
  by_cases hfront : (Naming.mockClass id s).toList.head? = some '\\'
  · refine .inr ⟨head?_of_mockClass hfront, ?_⟩
    intro htable
    rcases homeModule_eq_fixtures htable with heq | heq
    · rw [heq] at hlast
      exact absurd hlast (by decide)
    · rw [heq] at hlast
      exact absurd hlast (by decide)
  · refine .inl (homeModule_of_ends ?_ hlast)
    intro d hd
    rw [String.toList_ofList] at hd
    -- a first letter that is no backslash stands for itself
    cases hchars : (Naming.mockClass id s).toList with
    | nil =>
        rw [hchars] at h
        rw [h.eq_nil_iff.mpr rfl] at hd
        cases hd
    | cons first rest =>
        rw [hchars] at h hfront
        obtain ⟨es, rfl, _⟩ := h.of_cons (fun heq => hfront (by rw [heq]; rfl))
        obtain rfl : first = d := Option.some.inj hd
        exact isLower_head_mockClass (by rw [hchars]; rfl)

/-- What an exported name stands for tells its module, but for mock classes that
begin with an escape. -/
theorem homeModule_of_stands {e : String × List String} {cs : List Char}
    (he : e ∈ (bundle c ops).value.exports) (hname : name ∈ e.2) (h : Stands name.toList cs) :
    homeModule (String.ofList cs) = e.1 ∨
      EscapedFront ops e.1 name ∧ homeModule (String.ofList cs) ≠ "fixtures" := by
  rcases mem_exports he hname with ⟨hm, htable⟩ | ⟨op, hop, hnamed⟩
  · rw [hm]
    have hplain : '\\' ∉ name.toList := by
      rcases htable with rfl | rfl
      · decide
      · decide
    rw [← (stands_self hplain).unique h, String.ofList_toList]
    exact .inl (if_pos htable)
  · generalize e.1 = m at hnamed ⊢
    cases hnamed with
    | handler =>
        obtain ⟨ds, heq⟩ := ofList_of_stands_front "mock" (by decide) h
        rw [heq]
        exact .inl (homeModule_mock _)
    | errorHandler s =>
        rw [Naming.errorHandler_eq] at h
        obtain ⟨ds, heq⟩ := ofList_of_stands_front "mock" (by decide) h
        rw [heq]
        exact .inl (homeModule_mock _)
    | mockClass s =>
        rcases homeModule_of_stands_mockClass h with hhome | ⟨hfront, hhome⟩
        · exact .inl hhome
        · exact .inr ⟨⟨rfl, op, hop, .mockClass s, hfront⟩, hhome⟩
    | workerHandler =>
        obtain ⟨ds, heq⟩ := ofList_of_stands_front "mswMock" (by decide) h
        rw [heq]
        exact .inl (homeModule_mswMock _)

/-! ## When exported names are one -/

/-- Through an escape, the name can be that of an export of the module `m'`: in its
own module if the id has an escape, and among the handlers if it is a mock class
whose id begins with one. -/
def MayMeet (ops : List Operation) (m name m' : String) : Prop :=
  (m = m' ∧ Escaped ops m name) ∨
    (EscapedFront ops m name ∧ (m' = "routes" ∨ m' = "msw"))

/-- A name of an export that has a backslash comes from an id that has one. -/
theorem escaped_of_mem {e : String × List String} (he : e ∈ (bundle c ops).value.exports)
    (hname : name ∈ e.2) (hmem : '\\' ∈ name.toList) : Escaped ops e.1 name := by
  rcases mem_exports he hname with ⟨_, rfl | rfl⟩ | ⟨op, hop, hnamed⟩
  · exact absurd hmem (by decide)
  · exact absurd hmem (by decide)
  · exact ⟨op, hop, hnamed, hnamed.backslash_mem hmem⟩

/-- A name that tells its module, and a mock class that may tell another, but not the
table. -/
theorem mayMeet_of_front {e : String × List String} (he : e ∈ (bundle c ops).value.exports)
    {t : String} (ht : t ∈ e.2) (hfront : EscapedFront ops m name) (htable : e.1 ≠ "fixtures") :
    MayMeet ops m name e.1 := by
  rcases mem_exports he ht with ⟨hm, _⟩ | ⟨op, _, hnamed⟩
  · exact absurd hm htable
  · generalize e.1 = m' at hnamed ⊢
    cases hnamed with
    | handler => exact .inr ⟨hfront, .inl rfl⟩
    | errorHandler _ => exact .inr ⟨hfront, .inl rfl⟩
    | mockClass _ => exact .inl ⟨hfront.1, hfront.escaped⟩
    | workerHandler => exact .inr ⟨hfront, .inr rfl⟩

/-- **Names that are one** have one text, or one of them has an escape from an id that
lets it meet the other. -/
theorem mayMeet_of_sameName {e f : String × List String} {s t : String}
    (he : e ∈ (bundle c ops).value.exports) (hs : s ∈ e.2)
    (hf : f ∈ (bundle c ops).value.exports) (ht : t ∈ f.2) (h : SameName s t) :
    s = t ∨ MayMeet ops e.1 s f.1 ∨ MayMeet ops f.1 t e.1 := by
  have htexts := h.eq
  obtain ⟨cs, hcs, hct⟩ := h
  have hone := homeModule_of_stands he hs hcs
  have hother := homeModule_of_stands hf ht hct
  rcases hone with hone | ⟨hfront, htable⟩
  · rcases hother with hother | ⟨hfront, htable⟩
    · -- both tell their modules, so the module is one
      have hm : e.1 = f.1 := hone.symm.trans hother
      by_cases hescape : '\\' ∈ s.toList
      · exact .inr (.inl (.inl ⟨hm, escaped_of_mem he hs hescape⟩))
      · by_cases hescape' : '\\' ∈ t.toList
        · exact .inr (.inr (.inl ⟨hm.symm, escaped_of_mem hf ht hescape'⟩))
        · exact .inl (htexts hescape hescape')
    · exact .inr (.inr (mayMeet_of_front he hs hfront (fun hm => htable (hone.trans hm))))
  · rcases hother with hother | hother
    · exact .inr (.inl (mayMeet_of_front hf ht hfront (fun hm => htable (hother.trans hm))))
    · refine .inr (.inl (.inl ⟨?_, hfront.escaped⟩))
      exact hfront.1.trans hother.1.1.symm

theorem MayMeet.exists_escaped {m' : String} (h : MayMeet ops m name m') :
    ∃ op ∈ ops, '\\' ∈ op.id.toList := by
  have hescaped : Escaped ops m name := by
    rcases h with ⟨_, h⟩ | ⟨h, _⟩
    · exact h
    · exact h.escaped
  obtain ⟨op, hop, _, hmem⟩ := hescaped
  exact ⟨op, hop, hmem⟩

theorem MayMeet.exists_front {m' : String} (h : MayMeet ops m name m') (hne : m ≠ m') :
    ∃ op ∈ ops, op.id.toList.head? = some '\\' := by
  rcases h with ⟨heq, _⟩ | ⟨⟨_, op, hop, _, hhead⟩, _⟩
  · exact absurd heq hne
  · exact ⟨op, hop, hhead⟩

/-- **The exported names are distinct** but for escapes in the ids.  As texts they are
distinct, within and across the modules.  Two of them that differ as texts are one
name only where an id has an escape: in one module, or between a mock class whose id
begins with an escape and a handler.  So no name is exported twice if no id has a
backslash, and the index is not ambiguous if none begins with one. -/
theorem exports_apart (c : Config) (ops : List Operation) :
    (bundle c ops).value.exports.map (·.1) = (bundle c ops).value.modules.map (·.1) ∧
    ((bundle c ops).value.exports.flatMap (·.2)).Nodup ∧
    (∀ e ∈ (bundle c ops).value.exports, ∀ s ∈ e.2,
      ∀ f ∈ (bundle c ops).value.exports, ∀ t ∈ f.2,
        SameName s t → s = t ∨ MayMeet ops e.1 s f.1 ∨ MayMeet ops f.1 t e.1) ∧
    ((∀ op ∈ ops, '\\' ∉ op.id.toList) →
      ((bundle c ops).value.exports.flatMap (·.2)).Pairwise fun s t => ¬ SameName s t) ∧
    ((∀ op ∈ ops, op.id.toList.head? ≠ some '\\') →
      (bundle c ops).value.exports.Pairwise fun e f =>
        ∀ s ∈ e.2, ∀ t ∈ f.2, ¬ SameName s t) := by
  obtain ⟨hmodules, hnodup⟩ := exports_nodup c ops
  refine ⟨hmodules, hnodup, fun e he s hs f hf t ht => mayMeet_of_sameName he hs hf ht, ?_, ?_⟩
  · intro hplain
    refine hnodup.imp_of_mem ?_
    intro s t hs ht hne hsame
    obtain ⟨e, he, hs⟩ := List.mem_flatMap.mp hs
    obtain ⟨f, hf, ht⟩ := List.mem_flatMap.mp ht
    obtain ⟨op, hop, hmem⟩ : ∃ op ∈ ops, '\\' ∈ op.id.toList := by
      rcases mayMeet_of_sameName he hs hf ht hsame with heq | h | h
      · exact absurd heq hne
      · exact h.exists_escaped
      · exact h.exists_escaped
    exact hplain op hop hmem
  · intro hplain
    have hnames := Bundle.nodup_modules (bundle c ops).value
    rw [← hmodules, List.Nodup, List.pairwise_map] at hnames
    refine (List.pairwise_and_iff.mpr ⟨hnames, (List.nodup_flatMap.mp hnodup).2⟩).imp_of_mem ?_
    intro e f he hf hne s hs t ht hsame
    obtain ⟨op, hop, hhead⟩ : ∃ op ∈ ops, op.id.toList.head? = some '\\' := by
      rcases mayMeet_of_sameName he hs hf ht hsame with heq | h | h
      · subst heq
        exact absurd ht (hne.2 hs)
      · exact h.exists_front hne.1
      · exact h.exists_front (Ne.symm hne.1)
    exact hplain op hop hhead

/-- An operation whose id begins with no backslash, with all that it exports. -/
theorem exports_apart_getPet :
    let c : Config := { generateMsw := true }
    let ops : List Operation := [{
      id := "getPet", method := .get, path := "/pets/{id}"
      responses := [{ status := 200, schemaName := some "Pet" },
        { status := 404, schemaName := some "Missing" }] }]
    (∀ op ∈ ops, '\\' ∉ op.id.toList) ∧
    (∀ op ∈ ops, op.id.toList.head? ≠ some '\\') ∧
    (bundle c ops).value.exports =
      [("fixtures", ["fixtures", "Fixtures"]), ("routes", ["mockGetPet", "mockGetPetError404"]),
       ("builders", ["GetPetMock", "GetPetError404Mock"]), ("msw", ["mswMockGetPet"])] ∧
    ((bundle c ops).value.exports.flatMap (·.2)).Pairwise (fun s t => ¬ SameName s t) ∧
    (bundle c ops).value.exports.Pairwise
      fun e f => ∀ s ∈ e.2, ∀ t ∈ f.2, ¬ SameName s t := by
  intro c ops
  have hplain : ∀ op ∈ ops, '\\' ∉ op.id.toList := by decide
  have hfront : ∀ op ∈ ops, op.id.toList.head? ≠ some '\\' := by decide
  obtain ⟨_, _, _, hwithin, hacross⟩ := exports_apart c ops
  exact ⟨hplain, hfront, by decide +kernel, hwithin hplain, hacross hfront⟩

/-! ## An index with an ambiguous name -/

/-- Two operations; the second id writes its first letter as an escape. -/
def escapedOperations : List Operation :=
  [{ id := "xMock", method := .get, path := "/x", responses := [] },
   { id := "\\u006dockX", method := .get, path := "/y",
     responses := [{ status := 200, schemaName := some "Pet" }] }]

/-- The handler of the first operation and the mock class of the second are one name. -/
theorem sameName_mockXMock : SameName "mockXMock" "\\u006dockXMock" := by
  refine ⟨"mockXMock".toList, stands_self (by decide), ?_⟩
  have hrest : Stands "ockXMock".toList "ockXMock".toList := stands_self (by decide)
  exact .escaped (c := 'm') (by rfl) hrest

/-- So the index is not free of ambiguous names for all operations. -/
theorem not_forall_index_unambiguous :
    ¬ ∀ (c : Config) (ops : List Operation),
      (bundle c ops).value.exports.Pairwise fun e f => ∀ s ∈ e.2, ∀ t ∈ f.2, ¬ SameName s t := by
  intro h
  have hexports : (bundle {} escapedOperations).value.exports =
      [("fixtures", ["fixtures", "Fixtures"]),
       ("routes", ["mockXMock", "mock\\u006dockX"]),
       ("builders", ["\\u006dockXMock"])] := by decide +kernel
  have hindex := h {} escapedOperations
  rw [hexports] at hindex
  have hroutes := (List.pairwise_cons.mp (List.pairwise_cons.mp hindex).2).1
  exact hroutes _ List.mem_cons_self _ List.mem_cons_self _ List.mem_cons_self
    sameName_mockXMock

end ApiMocks.Emit
