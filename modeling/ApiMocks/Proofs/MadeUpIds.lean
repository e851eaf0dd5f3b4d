import ApiMocks.Proofs.CapitalForms
import ApiMocks.Proofs.CollectedOperations
import ApiMocks.Proofs.SuccessAnswers
import Mathlib

/-!
# Ids that are made up

An operation without an id gets one from its method and its path.  No name of a
method begins another one, so such an id tells the method, and what it says of the
path is the spelling of the path: its segments with capitals, one after the other.
A spelling does not tell where a segment ends.  So two paths can be spelled alike,
as `/users/{id}` and `/users/byId` are, or `/users` and `/users/`, and then two
operations get one id.  Nothing else makes ids of a document meet.

Paths of small words are read back from their spellings: there a capital begins
every word, and `By` marks a placeholder.

* `Naming.spelling`, `Naming.operationId_eq_iff`: when two ids are the same;
* `Naming.PlainPath`, `Naming.spelling_inj`: paths that are told apart;
* `OpenApi.Document.SpellsAlike`: a document in which two operations get one id;
* `Emit.mainHandler_kept_or_reported`, `Emit.mainHandler_kept_of_nodup`: what becomes
  of the route handlers;
* `OpenApi.Document.madeUp_ids_nodup_iff`: the ids of a document without ids.
-/

namespace ApiMocks

/-- No name of a method begins another one. -/
theorem Method.eq_of_name_prefix {m m' : Method} (h : m.name.toList <+: m'.name.toList) :
    m = m' := by
  revert h
  cases m <;> cases m' <;> decide

/-- It begins with a small letter. -/
theorem Method.exists_name_eq_cons (m : Method) :
    ∃ first rest, m.name.toList = first :: rest ∧ first.isLower = true := by
  cases m <;> exact ⟨_, _, rfl, rfl⟩

namespace Naming

open Text

/-! ## What an id says -/

/-- What a path adds to an id that is made up: its segments, one after the other. -/
def spelling (path : String) : List Char :=
  (segments path).flatMap fun segment => (segmentName segment).toList

/-- A name to which a part is added for each segment. -/
theorem toList_foldl_append (part : List Char → String) (name : String)
    (segs : List (List Char)) :
    (segs.foldl (fun name segment => name ++ part segment) name).toList =
      name.toList ++ segs.flatMap fun segment => (part segment).toList := by
  induction segs generalizing name with
  | nil => simp
  | cons segment rest ih => rw [List.foldl_cons, ih, List.flatMap_cons, String.toList_append,
      List.append_assoc]

theorem toList_operationId (m : Method) (path : String) :
    (operationId m path).toList = m.name.toList ++ spelling path :=
  toList_foldl_append segmentName m.name (segments path)

theorem operationId_eq (m : Method) (path : String) :
    operationId m path = m.name ++ String.ofList (spelling path) := by
  rw [← String.toList_inj, toList_operationId, String.toList_append, String.toList_ofList]

variable {m m' : Method} {path path' : String}

/-- **Two ids are the same** exactly for one method and paths that are spelled alike. -/
theorem operationId_eq_iff :
    operationId m path = operationId m' path' ↔ m = m' ∧ spelling path = spelling path' := by
  rw [← String.toList_inj, toList_operationId, toList_operationId]
  constructor
  · intro h
    -- of two names that begin one text, one begins the other
    have hprefix : m.name.toList <+: m'.name.toList ++ spelling path' := ⟨_, h⟩
    have hsame : m = m' := by
      rcases List.prefix_or_prefix_of_prefix hprefix (List.prefix_append _ _) with hp | hp
      · exact Method.eq_of_name_prefix hp
      · exact (Method.eq_of_name_prefix hp).symm
    subst hsame
    exact ⟨rfl, List.append_cancel_left h⟩
  · intro h
    rw [h.1, h.2]

theorem toList_capitalize {s : String} {first : Char} {rest : List Char}
    (hs : s.toList = first :: rest) (hfirst : first.isLower = true) :
    (capitalize s).toList = first.toUpper :: rest := by
  have hascii : first.toNat < 128 := by
    have hcode := isLower_iff_toNat.mp hfirst
    omega
  simp [capitalize, mapFirst, hs, upperChars, hascii]

theorem toUpper_inj {a b : Char} (ha : a.isLower = true) (hb : b.isLower = true)
    (h : a.toUpper = b.toUpper) : a = b := by
  have hsmall : a.toLower = b.toLower := by
    rw [← Char.toLower_toUpper_eq_toLower a, h, Char.toLower_toUpper_eq_toLower]
  rwa [Char.toLower_eq_of_not_isUpper (Char.not_isUpper_of_isLower ha),
    Char.toLower_eq_of_not_isUpper (Char.not_isUpper_of_isLower hb)] at hsmall

/-- Texts that begin with small letters are told apart by their capital forms. -/
theorem capitalize_inj {s t : String} {a b : Char} {as bs : List Char}
    (hs : s.toList = a :: as) (ht : t.toList = b :: bs) (ha : a.isLower = true)
    (hb : b.isLower = true) (h : (capitalize s).toList = (capitalize t).toList) :
    s = t := by
  rw [toList_capitalize hs ha, toList_capitalize ht hb] at h
  obtain ⟨hfirst, hrest⟩ := List.cons.inj h
  rw [← String.toList_inj, hs, ht, toUpper_inj ha hb hfirst, hrest]

/-- So are ids that are made up. -/
theorem capitalize_operationId_inj
    (h : capitalize (operationId m path) = capitalize (operationId m' path')) :
    operationId m path = operationId m' path' := by
  obtain ⟨a, as, hm, ha⟩ := m.exists_name_eq_cons
  obtain ⟨b, bs, hm', hb⟩ := m'.exists_name_eq_cons
  have hid : (operationId m path).toList = a :: (as ++ spelling path) := by
    rw [toList_operationId, hm, List.cons_append]
  have hid' : (operationId m' path').toList = b :: (bs ++ spelling path') := by
    rw [toList_operationId, hm', List.cons_append]
  exact capitalize_inj hid hid' ha hb (congrArg String.toList h)

/-! ## Small words -/

/-- A word that begins with a small letter and has no capital behind it. -/
def SmallWord : List Char → Prop
  | [] => False
  | first :: rest => first.isLower = true ∧ ∀ c ∈ rest, c.isUpper = false

/-- A word that begins with a capital and has none behind it. -/
def CapitalWord : List Char → Prop
  | [] => False
  | first :: rest => first.isUpper = true ∧ ∀ c ∈ rest, c.isUpper = false

/-- A segment that is a small word, in braces or not, and is not taken for the mark
of a placeholder. -/
structure PlainSegment (segment : List Char) : Prop where
  small : SmallWord ((bracedName? segment).getD segment)
  unmarked : segment ≠ ['b', 'y']

/-- A path of such segments, each behind a slash. -/
structure PlainPath (path : String) : Prop where
  slashed : path.toList = '/' :: ['/'].intercalate (segments path)
  plain : ∀ segment ∈ segments path, PlainSegment segment

-- not by going through all characters
instance (word : List Char) : Decidable (SmallWord word) :=
  match word with
  | [] => .isFalse id
  | _ :: rest =>
    have := List.decidableBAll (fun c : Char => c.isUpper = false) rest
    instDecidableAnd

instance (segment : List Char) : Decidable (PlainSegment segment) :=
  decidable_of_iff (SmallWord ((bracedName? segment).getD segment) ∧ segment ≠ ['b', 'y'])
    ⟨fun h => ⟨h.1, h.2⟩, fun h => ⟨h.small, h.unmarked⟩⟩

instance (path : String) : Decidable (PlainPath path) :=
  decidable_of_iff (path.toList = '/' :: ['/'].intercalate (segments path) ∧
      ∀ segment ∈ segments path, PlainSegment segment)
    ⟨fun h => ⟨h.1, h.2⟩, fun h => ⟨h.slashed, h.plain⟩⟩

/-- A small word with a capital first letter. -/
def capitalWord (word : List Char) : List Char := (capitalize (String.ofList word)).toList

/-- The words that a segment adds to an id. -/
def segmentWords (segment : List Char) : List (List Char) :=
  match bracedName? segment with
  | some name => [['B', 'y'], capitalWord name]
  | none => [capitalWord segment]

variable {word word' segment segment' : List Char}

theorem flatten_segmentWords : (segmentWords segment).flatten = (segmentName segment).toList := by
  unfold segmentWords segmentName
  cases bracedName? segment <;> simp [capitalWord, String.toList_append]

theorem spelling_eq_flatten : spelling path = ((segments path).flatMap segmentWords).flatten := by
  unfold spelling
  rw [List.flatMap_def, List.flatMap_def, List.flatten_flatten, List.map_map]
  congr 1
  exact List.map_congr_left fun _ _ => flatten_segmentWords.symm

theorem SmallWord.capitalWord (h : SmallWord word) : CapitalWord (capitalWord word) := by
  obtain _ | ⟨first, _⟩ := word
  · exact h.elim
  · rw [Naming.capitalWord, toList_capitalize String.toList_ofList h.1]
    refine ⟨?_, h.2⟩
    rw [Char.isUpper_toUpper_eq_isAlpha, Char.isAlpha, h.1, Bool.or_true]

theorem SmallWord.inj (h : SmallWord word) (h' : SmallWord word')
    (heq : Naming.capitalWord word = Naming.capitalWord word') : word = word' := by
  obtain _ | ⟨first, rest⟩ := word
  · exact h.elim
  obtain _ | ⟨first', rest'⟩ := word'
  · exact h'.elim
  have hsame := capitalize_inj String.toList_ofList String.toList_ofList h.1 h'.1 heq
  simpa using congrArg String.toList hsame

/-- The next word begins with a capital, so a word ends where the next capital
stands. -/
theorem takeWhile_flatten {rest : List Char} {ws : List (List Char)}
    (hrest : ∀ c ∈ rest, c.isUpper = false) (hws : ∀ w ∈ ws, CapitalWord w) :
    (rest ++ ws.flatten).takeWhile (!·.isUpper) = rest := by
  have hend : ws.flatten.takeWhile (!·.isUpper) = [] := by
    obtain _ | ⟨w, ws⟩ := ws
    · rfl
    · have hw := hws w List.mem_cons_self
      obtain _ | ⟨first, more⟩ := w
      · exact hw.elim
      · exact List.takeWhile_cons_of_neg (by simp [hw.1])
  rw [List.takeWhile_append_of_pos fun c hc => by simp [hrest c hc], hend, List.append_nil]

/-- **Capitals tell the words apart** in what they spell together. -/
theorem flatten_inj {ws ws' : List (List Char)} (hws : ∀ w ∈ ws, CapitalWord w)
    (hws' : ∀ w ∈ ws', CapitalWord w) (h : ws.flatten = ws'.flatten) : ws = ws' := by
  induction ws generalizing ws' with
  | nil =>
      obtain _ | ⟨w', rest'⟩ := ws'
      · rfl
      · have hempty : w' = [] := List.flatten_eq_nil_iff.mp h.symm w' List.mem_cons_self
        exact (hempty ▸ hws' w' List.mem_cons_self).elim
  | cons w rest ih =>
      obtain ⟨hw, hrest⟩ := List.forall_mem_cons.mp hws
      obtain _ | ⟨first, more⟩ := w
      · exact hw.elim
      obtain _ | ⟨w', rest'⟩ := ws'
      · cases h
      obtain ⟨hw', hrest'⟩ := List.forall_mem_cons.mp hws'
      obtain _ | ⟨first', more'⟩ := w'
      · exact hw'.elim
      rw [List.flatten_cons, List.flatten_cons, List.cons_append, List.cons_append] at h
      obtain ⟨rfl, hbehind⟩ := List.cons.inj h
      have hmore : more = more' := by
        rw [← takeWhile_flatten hw.2 hrest, ← takeWhile_flatten hw'.2 hrest', hbehind]
      subst hmore
      rw [ih hrest hrest' (List.append_cancel_left hbehind)]

/-! ## Plain paths -/

theorem bracedName?_eq_some_iff {name : List Char} :
    bracedName? segment = some name ↔ segment = '\x7b' :: (name ++ ['\x7d']) := by
  constructor
  · intro h
    unfold bracedName? at h
    split at h
    · split at h
      · rename_i rest hlast
        obtain rfl := Option.some.inj h
        rw [List.dropLast_append_getLast? _ hlast]
      · cases h
    · cases h
  · intro h
    obtain rfl := h
    simp [bracedName?]

theorem smallWord_by : SmallWord ['b', 'y'] := by decide

/-- The mark of a placeholder is the capital form of a small word. -/
theorem capitalWord_by : capitalWord ['b', 'y'] = ['B', 'y'] := by
  rw [capitalWord, toList_capitalize String.toList_ofList (by decide)]
  rfl

/-- A plain segment adds a word, or a mark and a word. -/
theorem PlainSegment.cases (h : PlainSegment segment) :
    (∃ name, SmallWord name ∧ segment = '\x7b' :: (name ++ ['\x7d']) ∧
      segmentWords segment = [['B', 'y'], capitalWord name]) ∨
    SmallWord segment ∧ capitalWord segment ≠ ['B', 'y'] ∧
      segmentWords segment = [capitalWord segment] := by
  have hsmall := h.small
  unfold segmentWords
  cases hname : bracedName? segment with
  | some name =>
      rw [hname] at hsmall
      exact .inl ⟨name, hsmall, bracedName?_eq_some_iff.mp hname, rfl⟩
  | none =>
      rw [hname] at hsmall
      refine .inr ⟨hsmall, ?_, rfl⟩
      intro hmark
      exact h.unmarked (hsmall.inj smallWord_by (hmark.trans capitalWord_by.symm))

theorem PlainSegment.capitalWords (h : PlainSegment segment) :
    ∀ w ∈ segmentWords segment, CapitalWord w := by
  intro w hw
  rcases h.cases with ⟨name, hname, -, hwords⟩ | ⟨hsmall, -, hwords⟩
  · rw [hwords, ← capitalWord_by] at hw
    rcases List.mem_pair.mp hw with rfl | rfl
    · exact smallWord_by.capitalWord
    · exact hname.capitalWord
  · rw [hwords] at hw
    obtain rfl := List.mem_singleton.mp hw
    exact hsmall.capitalWord

/-- The segments are read back from their words. -/
theorem segmentWords_inj {segs segs' : List (List Char)} (hsegs : ∀ s ∈ segs, PlainSegment s)
    (hsegs' : ∀ s ∈ segs', PlainSegment s)
    (h : segs.flatMap segmentWords = segs'.flatMap segmentWords) : segs = segs' := by
  have hne : ∀ {s : List Char}, PlainSegment s → segmentWords s ≠ [] := by
    intro s hs
    rcases hs.cases with ⟨_, -, -, hwords⟩ | ⟨-, -, hwords⟩ <;> simp [hwords]
  induction segs generalizing segs' with
  | nil =>
      obtain _ | ⟨s', rest'⟩ := segs'
      · rfl
      · have hempty := List.flatMap_eq_nil_iff.mp h.symm s' List.mem_cons_self
        exact (hne (hsegs' s' List.mem_cons_self) hempty).elim
  | cons s rest ih =>
      obtain ⟨hs, hrest⟩ := List.forall_mem_cons.mp hsegs
      obtain _ | ⟨s', rest'⟩ := segs'
      · have hempty := List.flatMap_eq_nil_iff.mp h s List.mem_cons_self
        exact (hne hs hempty).elim
      obtain ⟨hs', hrest'⟩ := List.forall_mem_cons.mp hsegs'
      rw [List.flatMap_cons, List.flatMap_cons] at h
      -- the mark tells whether the first segment is a placeholder
      rcases hs.cases with ⟨name, hname, rfl, hwords⟩ | ⟨hsmall, hmark, hwords⟩
      · rcases hs'.cases with ⟨name', hname', rfl, hwords'⟩ | ⟨hsmall', hmark', hwords'⟩
        · rw [hwords, hwords'] at h
          obtain ⟨-, h⟩ := List.cons.inj h
          obtain ⟨hsame, h⟩ := List.cons.inj h
          rw [hname.inj hname' hsame, ih hrest hrest' h]
        · rw [hwords, hwords'] at h
          exact (hmark' (List.cons.inj h).1.symm).elim
      · rcases hs'.cases with ⟨name', hname', rfl, hwords'⟩ | ⟨hsmall', hmark', hwords'⟩
        · rw [hwords, hwords'] at h
          exact (hmark (List.cons.inj h).1).elim
        · rw [hwords, hwords'] at h
          obtain ⟨hsame, h⟩ := List.cons.inj h
          rw [hsmall.inj hsmall' hsame, ih hrest hrest' h]

/-- **Plain paths are told apart** by their spellings. -/
theorem spelling_inj (hpath : PlainPath path) (hpath' : PlainPath path')
    (h : spelling path = spelling path') : path = path' := by
  have hcapitals : ∀ {path : String}, PlainPath path →
      ∀ w ∈ (segments path).flatMap segmentWords, CapitalWord w := by
    intro path hpath w hw
    obtain ⟨s, hs, hw⟩ := List.mem_flatMap.mp hw
    exact (hpath.plain s hs).capitalWords w hw
  rw [spelling_eq_flatten, spelling_eq_flatten] at h
  have hwords := flatten_inj (hcapitals hpath) (hcapitals hpath') h
  have hsegments := segmentWords_inj hpath.plain hpath'.plain hwords
  rw [← String.toList_inj, hpath.slashed, hpath'.slashed, hsegments]

end Naming

/-! ## Route handlers -/

namespace Emit

open Text

variable {c : Config} {op : Operation} {ops : List Operation}

/-- No route handler is lost without a notice. -/
theorem mainHandler_kept_or_reported (hop : op ∈ ops) :
    mainHandler c op ∈ (routesModule c ops).value.handlers ∨
      .duplicate .routeHandler (Naming.handler op.id) ∈ (routesModule c ops).notices := by
  have hasked : mainHandler c op ∈ ops.flatMap (routeCandidates c) :=
    List.mem_flatMap.mpr ⟨op, hop, mem_routeCandidates.mpr (.inl rfl)⟩
  refine (mem_firsts_or_mem_repeats hasked).imp id ?_
  intro hrepeated
  exact List.mem_map.mpr ⟨mainHandler c op, hrepeated, rfl⟩

/-- With distinct ids it is lost only to the error of another operation. -/
theorem mainHandler_kept_of_nodup (hupper : (ops.map fun op => capitalize op.id).Nodup)
    (hop : op ∈ ops) :
    mainHandler c op ∈ (routesModule c ops).value.handlers ∨ HandlerTaken c ops op := by
  obtain ⟨earlier, later, hops⟩ := List.append_of_mem hop
  by_cases htaken : HandlerTaken c earlier op
  · obtain ⟨o, ho, herror⟩ := htaken
    exact .inr ⟨o, by rw [hops]; exact List.mem_append_left _ ho, herror⟩
  · have hfound := find?_mainHandler hops (ne_of_nodup_map hupper hops) htaken
    exact .inl (List.mem_of_find?_eq_some hfound)

end Emit

/-! ## Documents without ids -/

namespace OpenApi

open Emit Text

/-- No operation of the document has an id. -/
def Document.Unnamed (d : Document) : Prop := ∀ o ∈ d.present, o.2.2.operationId = none

/-- Two paths that are spelled alike declare one method. -/
def Document.SpellsAlike (d : Document) : Prop :=
  ∃ o ∈ d.present, ∃ o' ∈ d.present, o.2.1 = o'.2.1 ∧ o.1 ≠ o'.1 ∧
    Naming.spelling o.1 = Naming.spelling o'.1

variable {d : Document}

instance : Decidable d.Unnamed := inferInstanceAs (Decidable (∀ o ∈ d.present, _))

instance : Decidable d.SpellsAlike :=
  inferInstanceAs (Decidable (∃ o ∈ d.present, ∃ o' ∈ d.present, _))

theorem Document.Unnamed.id_eq (hunnamed : d.Unnamed) {op : Operation}
    (hop : op ∈ d.collect.value) : op.id = Naming.operationId op.method op.path := by
  rw [collect_value] at hop
  obtain ⟨o, ho, rfl⟩ := List.mem_map.mp hop
  change o.2.2.operationId.getD _ = _
  rw [hunnamed o ho]
  rfl

theorem Document.Unnamed.map_id_eq (hunnamed : d.Unnamed) :
    d.collect.value.map (·.id) = d.present.map fun o => Naming.operationId o.2.1 o.1 := by
  rw [List.map_congr_left fun op hop => hunnamed.id_eq hop, collect_value, List.map_map]
  rfl

/-- Ids are distinct exactly if no two paths are spelled alike. -/
theorem Document.Unnamed.nodup_id_iff (hunnamed : d.Unnamed) (hdistinct : d.paths.keys.Nodup) :
    (d.collect.value.map (·.id)).Nodup ↔ ¬ d.SpellsAlike := by
  rw [hunnamed.map_id_eq]
  constructor
  · intro hnodup halike
    obtain ⟨o, ho, o', ho', hmethod, hpath, hspelling⟩ := halike
    have hid := Naming.operationId_eq_iff.mpr ⟨hmethod, hspelling⟩
    exact hpath (congrArg Prod.fst (List.inj_on_of_nodup_map hnodup ho ho' hid))
  · intro hfree
    -- no pair of path and method is declared twice
    refine List.pairwise_map.mpr ((d.present_ordered hdistinct).imp_of_mem ?_)
    intro o o' ho ho' hlt hid
    obtain ⟨hmethod, hspelling⟩ := Naming.operationId_eq_iff.mp hid
    refine hfree ⟨o, ho, o', ho', hmethod, ?_, hspelling⟩
    intro hpath
    rw [hpath, hmethod, Prod.lex_iff] at hlt
    exact hlt.elim (Nat.lt_irrefl _) fun h => Nat.lt_irrefl _ h.2

theorem Document.not_spellsAlike_of_plain (hplain : ∀ path ∈ d.paths.keys, Naming.PlainPath path) :
    ¬ d.SpellsAlike := by
  intro halike
  obtain ⟨o, ho, o', ho', -, hpath, hspelling⟩ := halike
  have hkey : ∀ o ∈ d.present, o.1 ∈ d.paths.keys := by
    intro o ho
    obtain ⟨e, he, hoe⟩ := List.mem_flatMap.mp ho
    obtain ⟨_, -, rfl⟩ := List.mem_map.mp hoe
    exact List.mem_map_of_mem he
  exact hpath (Naming.spelling_inj (hplain _ (hkey o ho)) (hplain _ (hkey o' ho')) hspelling)

/-- Distinct ids that are made up differ also with capital first letters. -/
theorem Document.Unnamed.nodup_capitalize (hunnamed : d.Unnamed)
    (hids : (d.collect.value.map (·.id)).Nodup) :
    (d.collect.value.map fun op => capitalize op.id).Nodup := by
  have hcapital : ((d.collect.value.map (·.id)).map capitalize).Nodup := by
    refine hids.map_on ?_
    intro id hid id' hid' hsame
    obtain ⟨op, hop, rfl⟩ := List.mem_map.mp hid
    obtain ⟨op', hop', rfl⟩ := List.mem_map.mp hid'
    simp only [hunnamed.id_eq hop, hunnamed.id_eq hop'] at hsame ⊢
    exact Naming.capitalize_operationId_inj hsame
  rwa [List.map_map] at hcapital

/-- **Ids that are made up.**  In a document without ids, two operations have one id
exactly for one method and paths that are spelled alike; so ids are distinct exactly
if no two paths that are spelled alike declare one method, and they are among plain
paths.  Then an operation loses its route handler only to the error of another one,
and in any document it never loses it without a notice. -/
theorem Document.madeUp_ids_nodup_iff (d : Document) (hdistinct : d.paths.keys.Nodup)
    (hunnamed : d.Unnamed) :
    (∀ op ∈ d.collect.value, ∀ op' ∈ d.collect.value, op.id = op'.id ↔
      op.method = op'.method ∧ Naming.spelling op.path = Naming.spelling op'.path) ∧
    ((d.collect.value.map (·.id)).Nodup ↔ ¬ d.SpellsAlike) ∧
    ((∀ path ∈ d.paths.keys, Naming.PlainPath path) → ¬ d.SpellsAlike) ∧
    (¬ d.SpellsAlike → ∀ c, ∀ op ∈ d.collect.value,
      mainHandler c op ∈ (routesModule c d.collect.value).value.handlers ∨
        HandlerTaken c d.collect.value op) ∧
    (∀ c, ∀ op ∈ d.collect.value,
      mainHandler c op ∈ (routesModule c d.collect.value).value.handlers ∨
        .duplicate .routeHandler (Naming.handler op.id) ∈
          (routesModule c d.collect.value).notices) := by
  have hiff := hunnamed.nodup_id_iff hdistinct
  refine ⟨?_, hiff, Document.not_spellsAlike_of_plain, ?_, ?_⟩
  · intro op hop op' hop'
    rw [hunnamed.id_eq hop, hunnamed.id_eq hop']
    exact Naming.operationId_eq_iff
  · intro hfree c op hop
    exact mainHandler_kept_of_nodup (hunnamed.nodup_capitalize (hiff.mpr hfree)) hop
  · intro c op hop
    exact mainHandler_kept_or_reported hop

/-- A document without ids, whose paths are plain. -/
def usersAndPosts : Document where
  paths := ⟨[
    ("/users", ({} : PathItem).set .get (some {})),
    ("/users/\x7bid\x7d", (({} : PathItem).set .get (some {})).set .delete (some {})),
    ("/users/\x7bid\x7d/posts", ({} : PathItem).set .get (some {}))]⟩

/-- Its ids are distinct. -/
theorem nodup_ids_usersAndPosts :
    usersAndPosts.paths.keys.Nodup ∧ usersAndPosts.Unnamed ∧
      (∀ path ∈ usersAndPosts.paths.keys, Naming.PlainPath path) ∧
      (usersAndPosts.collect.value.map (·.id)).Nodup := by
  have hdistinct : usersAndPosts.paths.keys.Nodup := by decide +kernel
  have hunnamed : usersAndPosts.Unnamed := by decide +kernel
  have hplain : ∀ path ∈ usersAndPosts.paths.keys, Naming.PlainPath path := by decide +kernel
  obtain ⟨-, hiff, hfree, -, -⟩ :=
    Document.madeUp_ids_nodup_iff usersAndPosts hdistinct hunnamed
  exact ⟨hdistinct, hunnamed, hplain, hiff.mpr (hfree hplain)⟩

/-- A document without ids, two of whose paths are spelled alike. -/
def usersTwice : Document where
  paths := ⟨[
    ("/users/\x7bid\x7d", ({} : PathItem).set .get (some {})),
    ("/users/byId", ({} : PathItem).set .get (some {}))]⟩

/-- **Not all ids that are made up are distinct**: those of this document are one. -/
theorem not_forall_madeUp_ids_nodup :
    ¬ ∀ d : Document, d.paths.keys.Nodup → d.Unnamed →
      (d.collect.value.map (·.id)).Nodup := by
  intro h
  have hdistinct : usersTwice.paths.keys.Nodup := by decide +kernel
  have hunnamed : usersTwice.Unnamed := by decide +kernel
  have hnot : ¬ (usersTwice.collect.value.map (·.id)).Nodup := by decide +kernel
  exact hnot (h usersTwice hdistinct hunnamed)

end OpenApi

end ApiMocks
