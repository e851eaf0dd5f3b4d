import ApiMocks.Path.Template
import Mathlib.Data.List.Chain
import Mathlib.Data.List.Infix

/-!
# The tokens of a template

A text is cut into literal text and placeholders in one way only, if literal
text is as long as possible and hides no placeholder.  The scanner finds this
cut.  It has one decision to make, at an opening brace: either a name and a
closing brace follow, and this is a placeholder, or the brace is a literal
character like any other.

* `IsParamName`, `Opens`: a placeholder's name, and a text that begins with one
  and a closing brace;
* `scan_placeholder`, `scan_brace`: the decision at an opening brace;
* `Canonical`: token lists that leave nothing to be cut otherwise;
* `eq_tokens_iff`: the tokens of a text are its only canonical cut.
-/

namespace ApiMocks.Path

/-! ## One opening brace -/

/-- A text that can stand between the braces of a placeholder. -/
structure IsParamName (name : List Char) : Prop where
  ne_nil : name ≠ []
  no_opening : '{' ∉ name
  no_closing : '}' ∉ name

instance (name : List Char) : Decidable (IsParamName name) :=
  decidable_of_iff (name ≠ [] ∧ '{' ∉ name ∧ '}' ∉ name)
    ⟨fun h => ⟨h.1, h.2.1, h.2.2⟩, fun h => ⟨h.ne_nil, h.no_opening, h.no_closing⟩⟩

/-- The text begins with the name of a placeholder and its closing brace. -/
def Opens (text : List Char) : Prop :=
  ∃ name rest, IsParamName name ∧ text = name ++ '}' :: rest

variable {lit name text rest : List Char} {c : Char} {ts : List Token}

theorem scan_char (hc : c ≠ '{') : scan lit none (c :: rest) = scan (c :: lit) none rest := by
  rw [scan]
  exact if_neg hc

/-- Text without an opening brace is literal. -/
theorem scan_append (htext : '{' ∉ text) :
    scan lit none (text ++ rest) = scan (text.reverse ++ lit) none rest := by
  induction text generalizing lit with
  | nil => rfl
  | cons c text ih =>
      simp only [List.mem_cons, not_or] at htext
      rw [List.cons_append, scan_char (Ne.symm htext.1), ih htext.2, List.reverse_cons,
        List.append_assoc, List.singleton_append]

/-- Behind an opening brace, characters that are no braces are held. -/
theorem scan_held {held : List Char} (hopening : '{' ∉ name) (hclosing : '}' ∉ name) :
    scan lit (some held) (name ++ rest) = scan lit (some (name.reverse ++ held)) rest := by
  induction name generalizing held with
  | nil => rfl
  | cons c name ih =>
      simp only [List.mem_cons, not_or] at hopening hclosing
      rw [List.cons_append, scan]
      simp only [if_neg (Ne.symm hopening.1), if_neg (Ne.symm hclosing.1)]
      rw [ih hopening.2 hclosing.2, List.reverse_cons, List.append_assoc, List.singleton_append]

/-- **A placeholder** ends the literal text in front of it. -/
theorem scan_placeholder (hname : IsParamName name) :
    scan lit none ('{' :: (name ++ '}' :: rest)) =
      literalOf lit ++ .param name :: scan [] none rest := by
  have hheld : scan lit (some []) (name ++ '}' :: rest) =
      scan lit (some name.reverse) ('}' :: rest) := by
    rw [scan_held hname.no_opening hname.no_closing, List.append_nil]
  have hfull : name.reverse.isEmpty = false := by simp [hname.ne_nil]
  calc scan lit none ('{' :: (name ++ '}' :: rest))
      = scan lit (some name.reverse) ('}' :: rest) := hheld
    _ = literalOf lit ++ .param name :: scan [] none rest := by simp [scan, hfull]

/-- A text without braces, or one that goes on at its first brace. -/
theorem exists_first_brace (text : List Char) :
    ('{' ∉ text ∧ '}' ∉ text) ∨
      ∃ name c rest, text = name ++ c :: rest ∧ '{' ∉ name ∧ '}' ∉ name ∧
        (c = '{' ∨ c = '}') := by
  induction text with
  | nil => exact .inl ⟨by simp, by simp⟩
  | cons d text ih =>
      by_cases hd : d = '{' ∨ d = '}'
      · exact .inr ⟨[], d, text, rfl, by simp, by simp, hd⟩
      · obtain ⟨hopening, hclosing⟩ : '{' ≠ d ∧ '}' ≠ d := by
          simpa [eq_comm] using hd
        rcases ih with ⟨ho, hc⟩ | ⟨name, c, rest, rfl, ho, hc, hbrace⟩
        · exact .inl ⟨by simp [hopening, ho], by simp [hclosing, hc]⟩
        · exact .inr ⟨d :: name, c, rest, rfl, by simp [hopening, ho],
            by simp [hclosing, hc], hbrace⟩

/-- A text is cut at its first character of a kind in one way only. -/
theorem append_cons_inj_of_first {kind : Char → Bool} {u u' v v' : List Char} {c c' : Char}
    (hu : ∀ d ∈ u, kind d = false) (hu' : ∀ d ∈ u', kind d = false) (hc : kind c = true)
    (hc' : kind c' = true) (h : u ++ c :: v = u' ++ c' :: v') : u = u' ∧ c = c' ∧ v = v' := by
  have hfront : ∀ {u v : List Char} {c : Char}, (∀ d ∈ u, kind d = false) → kind c = true →
      (u ++ c :: v).takeWhile (!kind ·) = u := by
    intro u v c hu hc
    rw [List.takeWhile_append_of_pos fun d hd => by simp [hu d hd],
      List.takeWhile_cons_of_neg (by simp [hc]), List.append_nil]
  obtain rfl : u = u' := by rw [← hfront hu hc, h, hfront hu' hc']
  exact ⟨rfl, List.cons.inj (List.append_cancel_left h)⟩

/-- The first brace decides whether a text begins with a name and a closing brace. -/
theorem opens_append_iff (hopening : '{' ∉ name) (hclosing : '}' ∉ name)
    (hc : c = '{' ∨ c = '}') : Opens (name ++ c :: rest) ↔ name ≠ [] ∧ c = '}' := by
  constructor
  · intro h
    obtain ⟨name', rest', hname', htext⟩ := h
    have hfree : ∀ {name : List Char}, '{' ∉ name → '}' ∉ name →
        ∀ d ∈ name, (d == '{' || d == '}') = false := by
      intro name ho hc d hd
      have hne : d ≠ '{' ∧ d ≠ '}' :=
        ⟨fun h => ho (h ▸ hd), fun h => hc (h ▸ hd)⟩
      simp [hne]
    obtain ⟨rfl, rfl, -⟩ := append_cons_inj_of_first (hfree hopening hclosing)
      (hfree hname'.no_opening hname'.no_closing) (by simpa using hc) rfl htext
    exact ⟨hname'.ne_nil, rfl⟩
  · intro h
    obtain ⟨hne, rfl⟩ := h
    exact ⟨name, rest, ⟨hne, hopening, hclosing⟩, rfl⟩

/-- **An opening brace that opens nothing** is a literal character. -/
theorem scan_brace (h : ¬ Opens rest) :
    scan lit none ('{' :: rest) = scan ('{' :: lit) none rest := by
  change scan lit (some []) rest = _
  rcases exists_first_brace rest with
    ⟨hopening, hclosing⟩ | ⟨name, c, more, rfl, hopening, hclosing, hc⟩
  · -- the text ends, and what was held is literal
    rw [← List.append_nil rest, scan_held hopening hclosing, scan_append hopening, scan, scan,
      List.append_nil]
  · rw [scan_held hopening hclosing, scan_append hopening]
    rcases hc with rfl | rfl
    · -- the next opening brace may be the one that opens
      simp [scan]
    · -- there is nothing between the braces
      have hempty : name = [] := by
        by_contra hne
        exact h ⟨name, more, ⟨hne, hopening, hclosing⟩, rfl⟩
      subst hempty
      simp [scan]

/-! ## Canonical token lists -/

/-- The text hides no placeholder. -/
def IsPlain (text : List Char) : Prop :=
  ∀ name, IsParamName name → ¬ (Token.param name).source <:+: text

/-- A literal text is not empty and hides no placeholder; a placeholder has a name. -/
def Token.Proper : Token → Prop
  | .literal text => text ≠ [] ∧ IsPlain text
  | .param name => IsParamName name

/-- Nothing in the tokens can be cut otherwise: each of them is proper, and no two
literal texts are adjacent. -/
structure Canonical (ts : List Token) : Prop where
  proper : ∀ t ∈ ts, t.Proper
  apart : ts.IsChain fun t t' => t.name?.isSome ∨ t'.name?.isSome

/-- The tokens do not begin with literal text. -/
def BeginsParam (ts : List Token) : Prop := ∀ t ∈ ts.head?, t.name?.isSome

theorem canonical_nil : Canonical [] where
  proper _ h := nomatch h
  apart := .nil

theorem canonical_param :
    Canonical (.param name :: ts) ↔ IsParamName name ∧ Canonical ts := by
  constructor
  · intro h
    obtain ⟨hname, hproper⟩ := List.forall_mem_cons.mp h.proper
    exact ⟨hname, hproper, (List.isChain_cons.mp h.apart).2⟩
  · intro h
    obtain ⟨hname, hproper, hapart⟩ := h
    exact ⟨List.forall_mem_cons.mpr ⟨hname, hproper⟩,
      List.isChain_cons.mpr ⟨fun _ _ => .inl rfl, hapart⟩⟩

theorem canonical_literal :
    Canonical (.literal text :: ts) ↔
      (text ≠ [] ∧ IsPlain text) ∧ BeginsParam ts ∧ Canonical ts := by
  constructor
  · intro h
    obtain ⟨htext, hproper⟩ := List.forall_mem_cons.mp h.proper
    obtain ⟨hnext, hapart⟩ := List.isChain_cons.mp h.apart
    exact ⟨htext, fun t ht => (hnext t ht).resolve_left (by simp [Token.name?]), hproper, hapart⟩
  · intro h
    obtain ⟨htext, hnext, hproper, hapart⟩ := h
    exact ⟨List.forall_mem_cons.mpr ⟨htext, hproper⟩,
      List.isChain_cons.mpr ⟨fun t ht => .inr (hnext t ht), hapart⟩⟩

theorem unread_cons (t : Token) (ts : List Token) : unread (t :: ts) = t.source ++ unread ts := rfl

theorem IsPlain.of_cons (h : IsPlain (c :: text)) : IsPlain text := by
  intro name hname hhidden
  exact h name hname (hhidden.trans (List.suffix_cons c text).isInfix)

/-- One character more hides no placeholder if none begins with it. -/
theorem IsPlain.cons (h : IsPlain text) (hopens : c = '{' → ¬ Opens (text ++ rest)) :
    IsPlain (c :: text) := by
  intro name hname hhidden
  rcases List.infix_cons_iff.mp hhidden with ⟨more, hbegins⟩ | hhidden
  · obtain ⟨rfl, htext⟩ := List.cons.inj hbegins
    exact hopens rfl ⟨name, more ++ rest, hname, by simp [← htext]⟩
  · exact h name hname hhidden

/-! ## The scanner finds the canonical cut -/

/-- A brace in a text that hides no placeholder opens none, whatever comes behind
the text, if that begins with a brace of its own. -/
theorem IsPlain.not_opens (h : IsPlain ('{' :: text)) (hrest : ∀ c ∈ rest.head?, c = '{') :
    ¬ Opens (text ++ rest) := by
  intro hopens
  obtain ⟨name, more, hname, htext⟩ := hopens
  rcases List.append_eq_append_iff.mp htext with ⟨ahead, rfl, hbehind⟩ | ⟨left, rfl, hbehind⟩
  · -- the name would go on behind the text, with its first brace
    subst hbehind
    cases ahead with
    | nil => simpa using hrest '}' rfl
    | cons c ahead =>
        obtain rfl := hrest c rfl
        exact hname.no_opening (by simp)
  · cases left with
    | nil =>
        obtain rfl : '}' :: more = rest := hbehind
        simpa using hrest '}' rfl
    | cons c left =>
        obtain ⟨rfl, -⟩ := List.cons.inj hbehind
        exact h name hname ⟨[], left, by simp [Token.source]⟩

/-- A text that hides no placeholder is literal. -/
theorem scan_plain (h : IsPlain text) (hrest : ∀ c ∈ rest.head?, c = '{') :
    scan lit none (text ++ rest) = scan (text.reverse ++ lit) none rest := by
  induction text generalizing lit with
  | nil => rfl
  | cons c text ih =>
      have hstep : scan lit none (c :: (text ++ rest)) = scan (c :: lit) none (text ++ rest) := by
        by_cases hc : c = '{'
        · subst hc
          exact scan_brace (h.not_opens hrest)
        · exact scan_char hc
      rw [List.cons_append, hstep, ih h.of_cons, List.reverse_cons, List.append_assoc,
        List.singleton_append]

theorem BeginsParam.head?_unread (h : BeginsParam ts) : ∀ c ∈ (unread ts).head?, c = '{' := by
  cases ts with
  | nil => simp [unread]
  | cons t ts =>
      cases t with
      | literal text => simpa [Token.name?] using h _ rfl
      | param name => simp [unread_cons, Token.source]

/-- A canonical cut is found again, behind literal text too if it begins with a
placeholder. -/
theorem scan_unread (h : Canonical ts) (hlit : lit = [] ∨ BeginsParam ts) :
    scan lit none (unread ts) = literalOf lit ++ ts := by
  induction ts generalizing lit with
  | nil => simp [unread, scan]
  | cons t ts ih =>
      cases t with
      | literal text =>
          obtain ⟨⟨hne, hplain⟩, hnext, hts⟩ := canonical_literal.mp h
          have hempty : lit = [] := by
            rcases hlit with hempty | hbegins
            · exact hempty
            · simpa [Token.name?] using hbegins _ rfl
          subst hempty
          calc scan [] none (text ++ unread ts)
              = scan text.reverse none (unread ts) := by
                rw [scan_plain hplain hnext.head?_unread, List.append_nil]
            _ = literalOf text.reverse ++ ts := ih hts (.inr hnext)
            _ = literalOf [] ++ .literal text :: ts := by simp [literalOf, hne]
      | param name =>
          obtain ⟨hname, hts⟩ := canonical_param.mp h
          have hsource : unread (.param name :: ts) = '{' :: (name ++ '}' :: unread ts) := by
            simp [unread_cons, Token.source]
          rw [hsource, scan_placeholder hname, ih hts (.inl rfl)]
          rfl

/-- **The tokens of a canonical cut** are the cut. -/
theorem tokens_unread (h : Canonical ts) : tokens (unread ts) = ts := scan_unread h (.inl rfl)

/-- Canonical tokens begin with a literal text, or with one that is empty. -/
theorem Canonical.exists_front (h : Canonical ts) :
    ∃ text ts', unread ts = text ++ unread ts' ∧ IsPlain text ∧ BeginsParam ts' ∧
      Canonical ts' := by
  have hplain : IsPlain [] := by
    intro name _ hhidden
    simp [Token.source] at hhidden
  cases ts with
  | nil => exact ⟨[], [], rfl, hplain, nofun, h⟩
  | cons t ts =>
      cases t with
      | literal text =>
          obtain ⟨⟨-, htext⟩, hnext, hts⟩ := canonical_literal.mp h
          exact ⟨text, ts, rfl, htext, hnext, hts⟩
      | param name => exact ⟨[], _, rfl, hplain, by simp [BeginsParam, Token.name?], h⟩

/-- **Every text has a canonical cut.** -/
theorem exists_canonical (path : List Char) : ∃ ts, Canonical ts ∧ unread ts = path := by
  by_cases hparam : ∃ rest, path = '{' :: rest ∧ Opens rest
  · obtain ⟨_, rfl, name, rest, hname, rfl⟩ := hparam
    obtain ⟨ts, hts, hsource⟩ := exists_canonical rest
    exact ⟨.param name :: ts, canonical_param.mpr ⟨hname, hts⟩,
      by simp [unread_cons, Token.source, hsource]⟩
  · cases path with
    | nil => exact ⟨[], canonical_nil, rfl⟩
    | cons c rest =>
        -- one character more for the literal text in front
        obtain ⟨ts, hts, rfl⟩ := exists_canonical rest
        obtain ⟨text, ts', hfront, hplain, hnext, hts'⟩ := hts.exists_front
        have hopens : c = '{' → ¬ Opens (text ++ unread ts') := by
          rintro rfl hopens
          exact hparam ⟨_, rfl, hfront ▸ hopens⟩
        refine ⟨.literal (c :: text) :: ts', canonical_literal.mpr ⟨⟨?_, ?_⟩, hnext, hts'⟩, ?_⟩
        · exact List.cons_ne_nil c text
        · exact hplain.cons hopens
        · rw [hfront]
          rfl
termination_by path.length

theorem canonical_tokens (path : List Char) : Canonical (tokens path) := by
  obtain ⟨ts, hts, rfl⟩ := exists_canonical path
  rwa [tokens_unread hts]

theorem unread_tokens (path : List Char) : unread (tokens path) = path := by
  obtain ⟨ts, hts, rfl⟩ := exists_canonical path
  rw [tokens_unread hts]

/-- **The tokens of a text are its only canonical cut.** -/
theorem eq_tokens_iff {path : List Char} :
    ts = tokens path ↔ unread ts = path ∧ Canonical ts := by
  constructor
  · intro h
    obtain rfl := h
    exact ⟨unread_tokens path, canonical_tokens path⟩
  · intro h
    obtain ⟨rfl, hts⟩ := h
    exact (tokens_unread hts).symm

end ApiMocks.Path
