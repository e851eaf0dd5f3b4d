import ApiMocks.Path.UrlRegex
import Mathlib.Data.List.Forall2
import Mathlib.Data.List.Infix

/-!
# What a search for a URL expression finds

The search works on match tables, one row for each piece of the expression.
Here a row is read as a function of the tail that it stands in front of, and
the search becomes the usual one: from the left, try the expression at each
tail in turn.

* `UrlRegex.match?`: the match at the start of a text, piece by piece;
* `UrlRegex.Cut`: the ways to cut a text into texts of the pieces;
* `find?_isSome_iff`: the search succeeds exactly if some tail can be cut;
* `find?_eq_some`: it yields the segments of the cut that starts first and,
  of those, is preferred by `Greedier`: earlier pieces are as long as possible.
-/

namespace ApiMocks.Path

/-! ## Rows as functions of tails -/

section Rows

variable {α β : Type}

/-- The longest run of `ok` characters at the start of a text behind which
`next` yields something, with what it yields. -/
def longestRun (ok : Char → Bool) (next : List Char → Option α) :
    List Char → Option (List Char × α)
  | [] => (next []).map ([], ·)
  | c :: cs =>
    let stay := (next (c :: cs)).map ([], ·)
    if ok c then ((longestRun ok next cs).map fun m => (c :: m.1, m.2)) <|> stay
    else stay

/-- What `f` makes of the first character and of what `next` yields behind it. -/
def afterFirst (f : Char → α → Option β) (next : List Char → Option α) :
    List Char → Option β
  | [] => none
  | c :: cs => (next cs).bind (f c)

/-- A row on all tails starts with its value on the whole text. -/
theorem headD_map_tails (g : List Char → Option α) (text : List Char) :
    (text.tails.map g).headD none = g text := by
  cases text <;> rfl

theorem Row.behind_tails (f : Char → α → Option β) (g : List Char → Option α)
    (text : List Char) :
    Row.behind f text (text.tails.map g) = text.tails.map (afterFirst f g) := by
  induction text with
  | nil => rfl
  | cons c cs ih =>
      rw [List.tails, List.map_cons, List.map_cons, Row.behind, ih, headD_map_tails]
      rfl

theorem Row.longest_tails (ok : Char → Bool) (g : List Char → Option α)
    (text : List Char) :
    Row.longest ok text (text.tails.map g) = text.tails.map (longestRun ok g) := by
  induction text with
  | nil => rfl
  | cons c cs ih =>
      rw [List.tails, List.map_cons, List.map_cons, Row.longest, ih, headD_map_tails]
      rfl

theorem Row.atEnd_tails (text : List Char) :
    (Row.atEnd text : Row (List α)) =
      text.tails.map fun t => if t.isEmpty then some [] else none := by
  induction text with
  | nil => rfl
  | cons c cs ih => rw [List.tails, List.map_cons, Row.atEnd, ih]; rfl

/-- `u` is the longest admitted front of `t` behind which `next` yields
something; it leaves `rest` and yields `a`. -/
structure LongestFront (admits : List Char → Prop) (next : List Char → Option α)
    (t u rest : List Char) (a : α) : Prop where
  text : t = u ++ rest
  admitted : admits u
  behind : next rest = some a
  longest : ∀ u' rest', t = u' ++ rest' → admits u' → (next rest').isSome →
    u'.length ≤ u.length

/-- Where some run of `ok` characters goes on, one is found. -/
theorem longestRun_isSome {ok : Char → Bool} {next : List Char → Option α}
    {u rest : List Char} (hu : ∀ c ∈ u, ok c) (hrest : (next rest).isSome) :
    (longestRun ok next (u ++ rest)).isSome := by
  induction u with
  | nil =>
      cases rest with
      | nil => simpa [longestRun] using hrest
      | cons c cs =>
          rw [List.nil_append, longestRun]
          split <;> simp [hrest]
  | cons c u ih =>
      have hc : ok c := hu c List.mem_cons_self
      have hlater := ih fun d hd => hu d (List.mem_cons_of_mem _ hd)
      rw [List.cons_append, longestRun, if_pos hc]
      simp [hlater]

/-- Staying in place is best where no run of `ok` characters goes on. -/
theorem LongestFront.stay {ok : Char → Bool} {next : List Char → Option α} {t : List Char}
    {a : α} (ha : next t = some a)
    (hshort : ∀ c cs, t = c :: cs → ok c → longestRun ok next cs = none) :
    LongestFront (fun u => ∀ c ∈ u, ok c) next t [] t a := by
  refine ⟨rfl, by simp, ha, ?_⟩
  intro u rest' htext hu hnext
  cases u with
  | nil => exact Nat.le_refl _
  | cons c u =>
      have hnone := hshort c (u ++ rest') htext (hu c List.mem_cons_self)
      have hsome := longestRun_isSome (fun d hd => hu d (List.mem_cons_of_mem _ hd)) hnext
      rw [hnone] at hsome
      cases hsome

/-- One more `ok` character in front makes the longest front longer by it. -/
theorem LongestFront.extend {ok : Char → Bool} {next : List Char → Option α} {c : Char}
    {cs u rest : List Char} {a : α} (hc : ok c)
    (h : LongestFront (fun u => ∀ c ∈ u, ok c) next cs u rest a) :
    LongestFront (fun u => ∀ c ∈ u, ok c) next (c :: cs) (c :: u) rest a := by
  refine ⟨by simp [h.text], List.forall_mem_cons.mpr ⟨hc, h.admitted⟩, h.behind, ?_⟩
  intro u' rest' htext hu' hnext
  cases u' with
  | nil => exact Nat.zero_le _
  | cons d u' =>
      have hcs := (List.cons.inj htext).2
      exact Nat.succ_le_succ (h.longest u' rest' hcs
        (fun d hd => hu' d (List.mem_cons_of_mem _ hd)) hnext)

/-- The run is the longest front of `ok` characters. -/
theorem longestRun_eq_some {ok : Char → Bool} {next : List Char → Option α}
    {t : List Char} {m : List Char × α} (h : longestRun ok next t = some m) :
    ∃ rest, LongestFront (fun u => ∀ c ∈ u, ok c) next t m.1 rest m.2 := by
  induction t generalizing m with
  | nil =>
      obtain ⟨a, ha, rfl⟩ := Option.map_eq_some_iff.mp h
      exact ⟨[], .stay ha fun c cs ht => absurd ht (by simp)⟩
  | cons c cs ih =>
      rw [longestRun] at h
      by_cases hc : ok c
      · rw [if_pos hc] at h
        cases hlater : longestRun ok next cs with
        | none =>
            have hstay : (next (c :: cs)).map ([], ·) = some m := by simpa [hlater] using h
            obtain ⟨a, ha, rfl⟩ := Option.map_eq_some_iff.mp hstay
            refine ⟨c :: cs, .stay ha ?_⟩
            intro d ds ht _
            rw [← (List.cons.inj ht).2, hlater]
        | some later =>
            obtain ⟨rest, hfront⟩ := ih hlater
            obtain rfl : (c :: later.1, later.2) = m := by simpa [hlater] using h
            exact ⟨rest, hfront.extend hc⟩
      · rw [if_neg hc] at h
        obtain ⟨a, ha, rfl⟩ := Option.map_eq_some_iff.mp h
        refine ⟨c :: cs, .stay ha ?_⟩
        intro d ds ht hd
        rw [← (List.cons.inj ht).1] at hd
        exact absurd hd hc

theorem afterFirst_eq_some {f : Char → α → Option β}
    {next : List Char → Option α} {t : List Char} {b : β} :
    afterFirst f next t = some b ↔
      ∃ c cs a, t = c :: cs ∧ next cs = some a ∧ f c a = some b := by
  cases t with
  | nil => simp [afterFirst]
  | cons c cs => simp [afterFirst, Option.bind_eq_some_iff]

theorem bne_iff_not_mem {stop : Char} {u : List Char} :
    (∀ c ∈ u, (c != stop) = true) ↔ stop ∉ u := by
  simp only [bne_iff_ne, ne_eq]
  exact ⟨fun h hm => h stop hm rfl, fun h c hc hco => h (hco ▸ hc)⟩

end Rows

/-! ## One piece -/

namespace Piece

/-- What a match yields for the text that a piece took: a segment is captured. -/
def captured : Piece → List Char → List (List Char)
  | segment, u => [u]
  | _, _ => []

/-- The match of a query that is there, with `next` behind it. -/
def asked (next : List Char → Option (List (List Char))) :
    List Char → Option (List (List Char)) :=
  afterFirst (fun d m => if d = '?' then some m.2 else none) (longestRun (· != '\n') next)

/-- The match of a piece at the start of a text, with `next` behind it. -/
def match? (next : List Char → Option (List (List Char))) :
    Piece → List Char → Option (List (List Char))
  | char c => afterFirst (fun d vs => if d = c then some vs else none) next
  | segment =>
    afterFirst (fun d m => if d = '/' then none else some ((d :: m.1) :: m.2))
      (longestRun (· != '/') next)
  | query => fun t => asked next t <|> next t

variable {next : List Char → Option (List (List Char))}

theorem extend_tails (p : Piece) (text : List Char) :
    UrlRegex.extend p text (text.tails.map next) = text.tails.map (p.match? next) := by
  cases p with
  | char c => exact Row.behind_tails _ next text
  | segment =>
      simp only [UrlRegex.extend, Row.longest_tails, Row.behind_tails, match?]
  | query =>
      simp only [UrlRegex.extend, Row.longest_tails, Row.behind_tails, match?, asked,
        List.zipWith_map, List.zipWith_self]

theorem asked_isSome {line rest : List Char} (hline : '\n' ∉ line)
    (hrest : (next rest).isSome) : (asked next ('?' :: (line ++ rest))).isSome := by
  have hrun := longestRun_isSome (bne_iff_not_mem.mpr hline) hrest
  obtain ⟨m, hm⟩ := Option.isSome_iff_exists.mp hrun
  simp [asked, afterFirst, hm]

/-- A query that is there is as long as possible. -/
theorem asked_eq_some {t : List Char} {vs : List (List Char)} (h : asked next t = some vs) :
    ∃ line rest, LongestFront query.Accepts next t ('?' :: line) rest vs := by
  obtain ⟨d, cs, m, rfl, hm, hd⟩ := afterFirst_eq_some.mp h
  obtain ⟨rfl, rfl⟩ : d = '?' ∧ m.2 = vs := by simpa using hd
  obtain ⟨rest, hrun⟩ := longestRun_eq_some hm
  have hline : '\n' ∉ m.1 := bne_iff_not_mem.mp hrun.admitted
  refine ⟨m.1, rest, by simp [hrun.text], .inr ⟨m.1, rfl, hline⟩, hrun.behind, ?_⟩
  intro u' rest' htext hu' hnext
  rcases hu' with rfl | ⟨line', rfl, hline'⟩
  · exact Nat.zero_le _
  · have hcs := (List.cons.inj htext).2
    exact Nat.succ_le_succ
      (hrun.longest line' rest' hcs (bne_iff_not_mem.mpr hline') hnext)

/-- A piece that can take a front and go on behind it matches. -/
theorem match?_isSome {p : Piece} {u rest : List Char} (hu : p.Accepts u)
    (hrest : (next rest).isSome) : (p.match? next (u ++ rest)).isSome := by
  cases p with
  | char c =>
      subst hu
      simp [match?, afterFirst, hrest]
  | segment =>
      obtain ⟨hne, hfree⟩ := hu
      obtain ⟨d, u, rfl⟩ := List.exists_cons_of_ne_nil hne
      obtain ⟨hd, hfree⟩ : d ≠ '/' ∧ '/' ∉ u := by simpa [eq_comm] using hfree
      have hrun := longestRun_isSome (bne_iff_not_mem.mpr hfree) hrest
      obtain ⟨m, hm⟩ := Option.isSome_iff_exists.mp hrun
      simp [match?, afterFirst, hm, hd]
  | query =>
      rcases hu with rfl | ⟨line, rfl, hline⟩
      · simp [match?, hrest]
      · simp [match?, asked_isSome hline hrest]

/-- A piece takes the longest of its texts behind which the match goes on. -/
theorem match?_eq_some {p : Piece} {t : List Char} {vs : List (List Char)}
    (h : p.match? next t = some vs) :
    ∃ u rest ws, LongestFront p.Accepts next t u rest ws ∧ vs = p.captured u ++ ws := by
  cases p with
  | char c =>
      obtain ⟨d, cs, ws, rfl, hws, hd⟩ := afterFirst_eq_some.mp h
      obtain ⟨rfl, rfl⟩ : d = c ∧ ws = vs := by simpa using hd
      refine ⟨[d], cs, ws, ⟨rfl, rfl, hws, ?_⟩, rfl⟩
      intro u' rest' _ hu' _
      rw [show u' = [d] from hu']
  | segment =>
      obtain ⟨d, cs, m, rfl, hm, hd⟩ := afterFirst_eq_some.mp h
      obtain ⟨hslash, rfl⟩ : d ≠ '/' ∧ (d :: m.1) :: m.2 = vs := by simpa using hd
      obtain ⟨rest, hrun⟩ := longestRun_eq_some hm
      have hfree : '/' ∉ m.1 := bne_iff_not_mem.mp hrun.admitted
      refine ⟨d :: m.1, rest, m.2, ⟨by simp [hrun.text], ?_, hrun.behind, ?_⟩, rfl⟩
      · exact ⟨List.cons_ne_nil _ _, by simp [hfree, hslash.symm]⟩
      · intro u' rest' htext hu' hnext
        obtain ⟨hne, hfree'⟩ := hu'
        obtain ⟨e, u', rfl⟩ := List.exists_cons_of_ne_nil hne
        have hcs := (List.cons.inj htext).2
        exact Nat.succ_le_succ (hrun.longest u' rest' hcs
          (bne_iff_not_mem.mpr fun hm => hfree' (List.mem_cons_of_mem _ hm)) hnext)
  | query =>
      cases hasked : asked next t with
      | some ws =>
          obtain rfl : ws = vs := by simpa [match?, hasked] using h
          obtain ⟨line, rest, hfront⟩ := asked_eq_some hasked
          exact ⟨'?' :: line, rest, ws, hfront, rfl⟩
      | none =>
          have hnext : next t = some vs := by simpa [match?, hasked] using h
          refine ⟨[], t, vs, ⟨rfl, .inl rfl, hnext, ?_⟩, rfl⟩
          intro u' rest' htext hu' hgo
          subst htext
          rcases hu' with rfl | ⟨line, rfl, hline⟩
          · exact Nat.le_refl _
          · have hsome := asked_isSome hline hgo
            rw [← List.cons_append, hasked] at hsome
            cases hsome

end Piece

/-! ## Whole expressions -/

namespace UrlRegex

/-- The match of an expression at the start of a text. -/
def match? : UrlRegex → List Char → Option (List (List Char))
  | [], t => if t.isEmpty then some [] else none
  | p :: ps, t => p.match? (match? ps) t

/-- The search tries one tail after the other. -/
theorem find?_eq_findSome? (r : UrlRegex) (text : List Char) :
    r.find? text = text.tails.findSome? r.match? := by
  have htable : r.table text = text.tails.map r.match? := by
    induction r with
    | nil => exact Row.atEnd_tails text
    | cons p ps ih => rw [table, ih, Piece.extend_tails]; rfl
  rw [find?, htable, List.findSome?_map]
  rfl

/-- `parts` are texts of the pieces, one for each, that make up the text. -/
def Cut (r : UrlRegex) (text : List Char) (parts : List (List Char)) : Prop :=
  List.Forall₂ Piece.Accepts r parts ∧ parts.flatten = text

theorem cut_nil {text : List Char} {parts : List (List Char)} :
    Cut [] text parts ↔ parts = [] ∧ text = [] := by
  simp only [Cut, List.forall₂_nil_left_iff]
  constructor
  · intro h
    obtain ⟨rfl, h⟩ := h
    exact ⟨rfl, h.symm⟩
  · intro h
    obtain ⟨rfl, rfl⟩ := h
    exact ⟨rfl, rfl⟩

theorem cut_cons {p : Piece} {r : UrlRegex} {text : List Char}
    {parts : List (List Char)} :
    Cut (p :: r) text parts ↔
      ∃ u rest parts', parts = u :: parts' ∧ text = u ++ rest ∧ p.Accepts u ∧
        Cut r rest parts' := by
  simp only [Cut, List.forall₂_cons_left_iff]
  constructor
  · intro h
    obtain ⟨⟨u, parts', hu, hr, rfl⟩, rfl⟩ := h
    exact ⟨u, parts'.flatten, parts', rfl, rfl, hu, hr, rfl⟩
  · intro h
    obtain ⟨u, rest, parts', rfl, rfl, hu, hr, rfl⟩ := h
    exact ⟨⟨u, parts', hu, hr, rfl⟩, rfl⟩

/-- What a match yields for a cut: the texts of the segments. -/
def captured (r : UrlRegex) (parts : List (List Char)) : List (List Char) :=
  (List.zipWith Piece.captured r parts).flatten

end UrlRegex

/-- `us` is preferred to `vs`: they are the same, or in the first place where
they differ `us` has the longer text. -/
def Greedier : List (List Char) → List (List Char) → Prop
  | [], [] => True
  | u :: us, v :: vs => v.length < u.length ∨ u = v ∧ Greedier us vs
  | _, _ => False

namespace UrlRegex

theorem match?_isSome_of_cut {r : UrlRegex} {t : List Char} {parts : List (List Char)}
    (h : Cut r t parts) : (r.match? t).isSome := by
  induction r generalizing t parts with
  | nil => simp [match?, (cut_nil.mp h).2]
  | cons p ps ih =>
      obtain ⟨u, rest, parts', rfl, rfl, hu, hrest⟩ := cut_cons.mp h
      exact Piece.match?_isSome hu (ih hrest)

/-- **The preferred cut.**  A match yields the segments of a cut of the text
that is preferred to every other one. -/
theorem match?_eq_some {r : UrlRegex} {t : List Char} {vs : List (List Char)}
    (h : r.match? t = some vs) :
    ∃ parts, Cut r t parts ∧ r.captured parts = vs ∧
      ∀ parts', Cut r t parts' → Greedier parts parts' := by
  induction r generalizing t vs with
  | nil =>
      obtain ⟨rfl, rfl⟩ : t = [] ∧ [] = vs := by simpa [match?] using h
      refine ⟨[], cut_nil.mpr ⟨rfl, rfl⟩, rfl, ?_⟩
      intro parts' hcut
      rw [(cut_nil.mp hcut).1]
      trivial
  | cons p ps ih =>
      obtain ⟨u, rest, ws, hfront, rfl⟩ := Piece.match?_eq_some h
      obtain ⟨parts, hcut, hws, hbest⟩ := ih hfront.behind
      refine ⟨u :: parts, cut_cons.mpr ⟨u, rest, parts, rfl, hfront.text, hfront.admitted, hcut⟩,
        by simp [captured, ← hws], ?_⟩
      intro all hall
      obtain ⟨u', rest', parts', rfl, htext, hu', hcut'⟩ := cut_cons.mp hall
      have hle : u'.length ≤ u.length :=
        hfront.longest u' rest' htext hu' (match?_isSome_of_cut hcut')
      rcases Nat.lt_or_eq_of_le hle with hlt | heq
      · exact .inl hlt
      · obtain ⟨rfl, rfl⟩ := List.append_inj (htext.symm.trans hfront.text) heq
        exact .inr ⟨rfl, hbest parts' hcut'⟩

theorem match?_isSome_iff {r : UrlRegex} {t : List Char} :
    (r.match? t).isSome ↔ ∃ parts, Cut r t parts := by
  constructor
  · intro h
    obtain ⟨vs, hvs⟩ := Option.isSome_iff_exists.mp h
    obtain ⟨parts, hcut, _⟩ := match?_eq_some hvs
    exact ⟨parts, hcut⟩
  · intro h
    obtain ⟨parts, hcut⟩ := h
    exact match?_isSome_of_cut hcut

end UrlRegex

/-! ## The leftmost match -/

/-- The first tail on which `f` yields something leaves the shortest front. -/
theorem findSome?_tails_eq_some {α : Type} {f : List Char → Option α} {text : List Char}
    {a : α} (h : text.tails.findSome? f = some a) :
    ∃ lead rest, text = lead ++ rest ∧ f rest = some a ∧
      ∀ lead' rest', text = lead' ++ rest' → (f rest').isSome →
        lead.length ≤ lead'.length := by
  induction text with
  | nil =>
      refine ⟨[], [], rfl, by simpa using h, ?_⟩
      intro lead' rest' _ _
      exact Nat.zero_le _
  | cons c cs ih =>
      cases hhere : f (c :: cs) with
      | some b =>
          obtain rfl : b = a := by simpa [hhere] using h
          exact ⟨[], c :: cs, rfl, hhere, fun _ _ _ _ => Nat.zero_le _⟩
      | none =>
          obtain ⟨lead, rest, htext, hrest, hfirst⟩ := ih (by simpa [hhere] using h)
          refine ⟨c :: lead, rest, by simp [htext], hrest, ?_⟩
          intro lead' rest' htext' hsome
          cases lead' with
          | nil =>
              obtain rfl : c :: cs = rest' := htext'
              simp [hhere] at hsome
          | cons d lead' =>
              exact Nat.succ_le_succ (hfirst lead' rest' (List.cons.inj htext').2 hsome)

namespace UrlRegex

/-- The search succeeds exactly if some tail of the text can be cut. -/
theorem find?_isSome_iff {r : UrlRegex} {text : List Char} :
    (r.find? text).isSome ↔ ∃ lead rest parts, text = lead ++ rest ∧ Cut r rest parts := by
  simp only [find?_eq_findSome?, List.findSome?_isSome_iff, List.mem_tails, match?_isSome_iff]
  constructor
  · intro h
    obtain ⟨rest, ⟨lead, rfl⟩, parts, hcut⟩ := h
    exact ⟨lead, rest, parts, rfl, hcut⟩
  · intro h
    obtain ⟨lead, rest, parts, rfl, hcut⟩ := h
    exact ⟨rest, ⟨lead, rfl⟩, parts, hcut⟩

/-- **Leftmost, then preferred.**  The search yields the segments of a cut
that starts as early as any, and is preferred to those that start with it. -/
theorem find?_eq_some {r : UrlRegex} {text : List Char} {vs : List (List Char)}
    (h : r.find? text = some vs) :
    ∃ lead rest parts, text = lead ++ rest ∧ Cut r rest parts ∧ r.captured parts = vs ∧
      ∀ lead' rest' parts', text = lead' ++ rest' → Cut r rest' parts' →
        lead.length < lead'.length ∨ lead = lead' ∧ Greedier parts parts' := by
  rw [find?_eq_findSome?] at h
  obtain ⟨lead, rest, htext, hmatch, hfirst⟩ := findSome?_tails_eq_some h
  obtain ⟨parts, hcut, hvs, hbest⟩ := match?_eq_some hmatch
  refine ⟨lead, rest, parts, htext, hcut, hvs, ?_⟩
  intro lead' rest' parts' htext' hcut'
  rcases Nat.lt_or_eq_of_le (hfirst lead' rest' htext' (match?_isSome_of_cut hcut'))
    with hlt | heq
  · exact .inl hlt
  · obtain ⟨rfl, rfl⟩ := List.append_inj (htext.symm.trans htext') heq
    exact .inr ⟨rfl, hbest parts' hcut'⟩

end UrlRegex

end ApiMocks.Path
