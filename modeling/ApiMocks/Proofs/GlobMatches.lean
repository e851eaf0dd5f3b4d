import ApiMocks.Proofs.PathBindings
import ApiMocks.Proofs.PathWildcards
import ApiMocks.Proofs.QueryTolerance
import ApiMocks.Proofs.TemplateTokens
import Mathlib.Data.List.Chain

/-!
# What a glob matches

A host matches a glob against whole URLs.  It takes runs of stars as a whole: a
star that stands alone is some text within a segment, and a longer run is any
text.  So stars of the base, of placeholders and of literal text can meet and
become one run, which only ever admits more.  Every URL that the expression of a
template finds is therefore matched by the glob: each star takes what stands in
its place.  The converse needs that no star meets another one and that every star
is a placeholder; then the pieces of the glob are those of the expression.

* `GlobMatches`: the reading of a glob;
* `Glob.accepts_addStar`: one more star takes one more text, whatever run it joins;
* `globMatches_of_reads`: a URL that ends in the filled-in template is matched;
* `Spaced`, `pieces_glob`: templates whose stars stay apart;
* `glob_covers_regex`: the glob admits what the expression finds, and for spaced
  templates nothing else.
-/

namespace ApiMocks.Path

namespace Glob

/-- A piece of a glob. -/
inductive Piece
  /-- a character that stands for itself -/
  | char (c : Char)
  /-- a star that stands alone -/
  | star
  /-- a run of two or more stars -/
  | stars
  deriving DecidableEq, Repr

/-- Pieces with one more star in front; it belongs to the run that may be there. -/
def addStar : List Piece → List Piece
  | .star :: more | .stars :: more => .stars :: more
  | more => .star :: more

/-- The pieces of a glob: its characters, and its runs of stars as a whole. -/
def pieces : List Char → List Piece
  | [] => []
  | c :: rest => if c = '*' then addStar (pieces rest) else .char c :: pieces rest

/-- The texts that a piece stands for.  Hosts differ in whether a star can stand for
nothing. -/
def Piece.Accepts (emptyStar : Bool) : Piece → List Char → Prop
  | char c, text => text = [c]
  | star, text => '/' ∉ text ∧ (emptyStar = false → text ≠ [])
  | stars, _ => True

/-- The texts that pieces stand for: a text for each piece, one after the other. -/
def Accepts (emptyStar : Bool) : List Piece → List Char → Prop
  | [], text => text = []
  | p :: ps, text => ∃ u v, text = u ++ v ∧ p.Accepts emptyStar u ∧ Accepts emptyStar ps v

variable {emptyStar : Bool} {p : Piece} {ps qs : List Piece} {text u v : List Char}

/-- The end of the text of a piece can be tried place by place. -/
theorem exists_take_iff :
    (∃ i ∈ List.range (text.length + 1),
      p.Accepts emptyStar (text.take i) ∧ Accepts emptyStar ps (text.drop i)) ↔
        Accepts emptyStar (p :: ps) text := by
  constructor
  · intro h
    obtain ⟨i, _, hu, hv⟩ := h
    exact ⟨_, _, (List.take_append_drop i text).symm, hu, hv⟩
  · intro h
    obtain ⟨u, v, rfl, hu, hv⟩ := h
    refine ⟨u.length, List.mem_range.mpr ?_, ?_, ?_⟩
    · rw [List.length_append]
      omega
    · rwa [List.take_left]
    · rwa [List.drop_left]

instance (emptyStar : Bool) : (p : Piece) → (text : List Char) →
    Decidable (p.Accepts emptyStar text)
  | .char c, text => inferInstanceAs (Decidable (text = [c]))
  | .star, text => inferInstanceAs (Decidable ('/' ∉ text ∧ (emptyStar = false → text ≠ [])))
  | .stars, _ => .isTrue trivial

instance decidableAccepts (emptyStar : Bool) : (ps : List Piece) → (text : List Char) →
    Decidable (Accepts emptyStar ps text)
  | [], text => inferInstanceAs (Decidable (text = []))
  | _ :: ps, _ =>
    have := decidableAccepts emptyStar ps
    decidable_of_iff _ exists_take_iff

/-! ## Runs of stars -/

/-- **One more star** takes one more text within a segment, whether it stands alone or
joins a run. -/
theorem accepts_addStar (hne : u ≠ []) (hu : '/' ∉ u) (hv : Accepts emptyStar ps v) :
    Accepts emptyStar (addStar ps) (u ++ v) := by
  unfold addStar
  split
  · obtain ⟨_, w, rfl, _, hw⟩ := hv
    exact ⟨_, w, (List.append_assoc _ _ _).symm, trivial, hw⟩
  · obtain ⟨_, w, rfl, _, hw⟩ := hv
    exact ⟨_, w, (List.append_assoc _ _ _).symm, trivial, hw⟩
  · exact ⟨u, v, rfl, ⟨hu, fun _ => hne⟩, hv⟩

/-- Two stars more take any text. -/
theorem accepts_addStar_addStar (hv : Accepts emptyStar ps v) (lead : List Char) :
    Accepts emptyStar (addStar (addStar ps)) (lead ++ v) := by
  have hrun : ∃ more w w', addStar (addStar ps) = .stars :: more ∧ v = w ++ w' ∧
      Accepts emptyStar more w' := by
    cases ps with
    | nil => exact ⟨[], [], v, rfl, rfl, hv⟩
    | cons p ps =>
        cases p with
        | char c => exact ⟨_, [], v, rfl, rfl, hv⟩
        | star =>
            obtain ⟨w, w', rfl, _, hw'⟩ := hv
            exact ⟨ps, w, w', rfl, rfl, hw'⟩
        | stars =>
            obtain ⟨w, w', rfl, _, hw'⟩ := hv
            exact ⟨ps, w, w', rfl, rfl, hw'⟩
  obtain ⟨more, w, w', hpieces, rfl, hw'⟩ := hrun
  rw [hpieces]
  exact ⟨lead ++ w, w', (List.append_assoc _ _ _).symm, trivial, hw'⟩

/-- A literal text is matched by itself, also where it has stars. -/
theorem accepts_literal {glob : List Char} (text : List Char)
    (hv : Accepts emptyStar (pieces glob) v) :
    Accepts emptyStar (pieces (text ++ glob)) (text ++ v) := by
  induction text with
  | nil => exact hv
  | cons c text ih =>
      rw [List.cons_append, pieces]
      split
      · rename_i hstar
        subst hstar
        exact accepts_addStar (u := ['*']) (by simp) (by simp) ih
      · exact ⟨[c], text ++ v, rfl, rfl, ih⟩

/-- A template with values is matched by its characters and wildcards. -/
theorem accepts_fill {ts : List Token} {values : List (List Char)} (h : Fits ts values) :
    Accepts emptyStar (pieces (ts.flatMap Token.glob)) (fill ts values) := by
  induction ts generalizing values with
  | nil => rfl
  | cons t ts ih =>
      cases t with
      | literal text => exact accepts_literal text (ih (fits_literal.mp h))
      | param name =>
          obtain ⟨v, values, rfl, ⟨hne, hslash⟩, hfits⟩ := fits_param.mp h
          exact accepts_addStar hne hslash (ih hfits)

end Glob

/-- The glob matches the whole URL; `emptyStar` says whether a star can stand for
nothing. -/
structure GlobMatches (emptyStar : Bool) (glob url : String) : Prop where
  accepts : Glob.Accepts emptyStar (Glob.pieces glob.toList) url.toList

instance (emptyStar : Bool) (glob url : String) : Decidable (GlobMatches emptyStar glob url) :=
  decidable_of_iff (Glob.Accepts emptyStar (Glob.pieces glob.toList) url.toList)
    ⟨.mk, GlobMatches.accepts⟩

variable {path url : String} {emptyStar : Bool}

theorem pieces_glob_anywhere :
    Glob.pieces (glob path "**").toList =
      Glob.addStar (Glob.addStar (Glob.pieces ((tokens path.toList).flatMap Token.glob))) := by
  rw [toList_glob]
  rfl

/-- **A URL that ends in the filled-in template is matched**: the base takes what
is in front. -/
theorem globMatches_of_reads {lead : List Char} {values : List (List Char)}
    (h : Reads path url lead values) : GlobMatches emptyStar (glob path "**") url := by
  constructor
  rw [pieces_glob_anywhere, h.text]
  exact Glob.accepts_addStar_addStar (Glob.accepts_fill h.fits) lead

/-- So is every URL in which the expression of the template is found. -/
theorem globMatches_of_find? (h : ((regex path).find? url.toList).isSome) :
    GlobMatches emptyStar (glob path "**") url := by
  obtain ⟨lead, values, hreads⟩ := exists_reads_iff.mpr (UrlRegex.find?_isSome_iff.mp h)
  exact globMatches_of_reads hreads

/-! ## Stars that stay apart -/

/-- The stars of the glob stay apart: the template begins with no placeholder, no
placeholder follows another one, and no star is in literal text. -/
structure Spaced (path : String) : Prop where
  start : (tokens path.toList).head?.bind Token.name? = none
  apart : (tokens path.toList).IsChain fun t t' => t.name? = none ∨ t'.name? = none
  plain : '*' ∉ literalText path

/-- No literal token is empty. -/
theorem ne_nil_of_literal_mem_tokens {path text : List Char}
    (h : Token.literal text ∈ tokens path) : text ≠ [] :=
  ((canonical_tokens path).proper _ h).1

namespace Glob

/-- The pieces of a token whose star stands alone. -/
def tokenPieces : Token → List Piece
  | .literal text => text.map .char
  | .param _ => [.star]

/-- Behind a star that stands alone there is the end, or a character. -/
theorem addStar_of_char {ps : List Piece} (h : ∀ p ∈ ps.head?, ∃ c, p = .char c) :
    addStar ps = .star :: ps := by
  unfold addStar
  split
  · obtain ⟨c, hc⟩ := h _ rfl
    cases hc
  · obtain ⟨c, hc⟩ := h _ rfl
    cases hc
  · rfl

theorem pieces_literal {text glob : List Char} (h : '*' ∉ text) :
    pieces (text ++ glob) = text.map .char ++ pieces glob := by
  induction text with
  | nil => rfl
  | cons c text ih =>
      obtain ⟨hc, htext⟩ : '*' ≠ c ∧ '*' ∉ text := by simpa using h
      rw [List.cons_append, pieces, if_neg (Ne.symm hc), ih htext]
      rfl

/-- Tokens that begin with no placeholder begin with a character. -/
theorem head?_tokenPieces {ts : List Token} (hne : ∀ text, Token.literal text ∈ ts → text ≠ [])
    (hstart : ts.head?.bind Token.name? = none) :
    ∀ p ∈ (ts.flatMap tokenPieces).head?, ∃ c, p = .char c := by
  cases ts with
  | nil => simp
  | cons t ts =>
      cases t with
      | param name => cases hstart
      | literal text =>
          obtain ⟨c, text, rfl⟩ := List.exists_cons_of_ne_nil (hne text List.mem_cons_self)
          intro p hp
          exact ⟨c, (Option.some.inj hp).symm⟩

/-- Stars that stay apart stand alone. -/
theorem pieces_tokens {ts : List Token} (hne : ∀ text, Token.literal text ∈ ts → text ≠ [])
    (hapart : ts.IsChain fun t t' => t.name? = none ∨ t'.name? = none)
    (hplain : '*' ∉ ts.flatMap Token.plain) :
    pieces (ts.flatMap Token.glob) = ts.flatMap tokenPieces := by
  induction ts with
  | nil => rfl
  | cons t ts ih =>
      rw [List.flatMap_cons, List.mem_append, not_or] at hplain
      have hne' : ∀ text, Token.literal text ∈ ts → text ≠ [] :=
        fun text ht => hne text (List.mem_cons_of_mem _ ht)
      obtain ⟨hnext, hapart⟩ := List.isChain_cons.mp hapart
      have htail := ih hne' hapart hplain.2
      rw [List.flatMap_cons, List.flatMap_cons]
      cases t with
      | literal text =>
          have htext : '*' ∉ text := hplain.1
          rw [Token.glob, pieces_literal htext, htail]
          rfl
      | param name =>
          have hstart : ts.head?.bind Token.name? = none := by
            rw [Option.bind_eq_none_iff]
            intro t' ht'
            simpa [Token.name?] using hnext t' ht'
          change addStar (pieces (ts.flatMap Token.glob)) = _
          rw [htail, addStar_of_char (head?_tokenPieces hne' hstart)]
          rfl

/-- What characters stand for. -/
theorem accepts_chars {emptyStar : Bool} {text t : List Char} {ps : List Piece} :
    Accepts emptyStar (text.map .char ++ ps) t ↔
      ∃ rest, t = text ++ rest ∧ Accepts emptyStar ps rest := by
  induction text generalizing t with
  | nil => simp
  | cons c text ih =>
      simp only [List.map_cons, List.cons_append, Accepts, Piece.Accepts, ih]
      constructor
      · intro h
        obtain ⟨_, _, rfl, rfl, rest, rfl, hrest⟩ := h
        exact ⟨rest, rfl, hrest⟩
      · intro h
        obtain ⟨rest, rfl, hrest⟩ := h
        exact ⟨[c], _, rfl, rfl, rest, rfl, hrest⟩

/-- Where no star can stand for nothing, the texts of the pieces of tokens are the
tokens with values. -/
theorem exists_fill_of_accepts {ts : List Token} {t : List Char}
    (h : Accepts false (ts.flatMap tokenPieces) t) :
    ∃ values, Fits ts values ∧ t = fill ts values := by
  induction ts generalizing t with
  | nil => exact ⟨[], fits_nil.mpr rfl, h⟩
  | cons token ts ih =>
      cases token with
      | literal text =>
          obtain ⟨rest, rfl, hrest⟩ := accepts_chars.mp h
          obtain ⟨values, hfits, rfl⟩ := ih hrest
          exact ⟨values, fits_literal.mpr hfits, rfl⟩
      | param name =>
          obtain ⟨v, rest, rfl, ⟨hslash, hne⟩, hrest⟩ := h
          obtain ⟨values, hfits, rfl⟩ := ih hrest
          exact ⟨v :: values, fits_param.mpr ⟨v, values, rfl, ⟨hne rfl, hslash⟩, hfits⟩, rfl⟩

end Glob

/-- **The pieces of the glob of a spaced template**: the base is the only run. -/
theorem Spaced.pieces_glob (h : Spaced path) :
    Glob.pieces (glob path "**").toList =
      .stars :: (tokens path.toList).flatMap Glob.tokenPieces := by
  have hne : ∀ text, Token.literal text ∈ tokens path.toList → text ≠ [] :=
    fun _ => ne_nil_of_literal_mem_tokens
  rw [pieces_glob_anywhere, Glob.pieces_tokens hne h.apart h.plain,
    Glob.addStar_of_char (Glob.head?_tokenPieces hne h.start)]
  rfl

/-- **Glob and expression.**  Let a run of two or more stars be any text, and a star
alone any text within a segment that is not empty.  Then the glob of a template
matches every URL in which the expression of the template is found.  If no star of
the glob meets another one, and each behind the base is a placeholder, it matches
no other URL. -/
theorem glob_covers_regex (path url : String) :
    (matchesUrl (regexSource path) url = true → GlobMatches false (glob path "**") url) ∧
    (Spaced path → GlobMatches false (glob path "**") url →
      matchesUrl (regexSource path) url = true) := by
  rw [matchesUrl_regexSource]
  refine ⟨globMatches_of_find?, ?_⟩
  intro hspaced hglob
  obtain ⟨haccepts⟩ := hglob
  rw [hspaced.pieces_glob] at haccepts
  obtain ⟨lead, rest, htext, _, hrest⟩ := haccepts
  obtain ⟨values, hfits, rfl⟩ := Glob.exists_fill_of_accepts hrest
  exact UrlRegex.find?_isSome_iff.mpr (exists_reads_iff.mp ⟨lead, values, hfits, htext⟩)

/-- The values of a file name: both say where it is one. -/
theorem glob_covers_regex_file :
    Spaced "/files/{name}.{ext}" ∧
    matchesUrl (regexSource "/files/{name}.{ext}") "h/files/a.b.c" = true ∧
    GlobMatches false (glob "/files/{name}.{ext}" "**") "h/files/a.b.c" ∧
    ¬ GlobMatches false (glob "/files/{name}.{ext}" "**") "h/files/a." := by
  have hspaced : Spaced "/files/{name}.{ext}" := ⟨by decide, by decide, by decide⟩
  have hfound : matchesUrl (regexSource "/files/{name}.{ext}") "h/files/a.b.c" = true := by decide
  have hglob := (glob_covers_regex "/files/{name}.{ext}" "h/files/a.b.c").1 hfound
  refine ⟨hspaced, hfound, hglob, ?_⟩
  intro hother
  have hmatch := (glob_covers_regex "/files/{name}.{ext}" "h/files/a.").2 hspaced hother
  exact absurd hmatch (by decide)

/-- A template that begins with a placeholder: its star joins the base, and the glob
admits every URL. -/
example : GlobMatches false (glob "{id}" "**") "h/" ∧
    matchesUrl (regexSource "{id}") "h/" = false := by decide

end ApiMocks.Path
