import ApiMocks.Proofs.TemplateTokens
import ApiMocks.Proofs.UrlNotation

/-!
# Templates with one expression

The shape of a template is what is left of its tokens without the names of the
placeholders.  Glob and expression are made from the shape alone, so templates of
one shape match the same URLs.  The expression, and even its notation, gives the
shape back: a piece that is a group was a placeholder, whatever literal text
looks like, and a run of characters between groups was one literal text, since
no two of them are adjacent and none is empty.

* `Token.shape`, `shape`: tokens without names;
* `regex_eq_of_shape`, `glob_eq_of_shape`: what the shape determines;
* `shape_head_eq_of_pieces`, `shape_eq_of_pieces`: pieces of canonical tokens
  determine the first shape, and then all of them;
* `shape_renamed`: placeholders with other names leave the shape as it is;
* `regexSource_eq_iff_shape`: templates with one expression.
-/

namespace ApiMocks.Path

/-! ## Shapes -/

/-- A token without the name of its placeholder. -/
def Token.shape : Token → Option (List Char)
  | .literal text => some text
  | .param _ => none

/-- The tokens of a template, up to the names of its placeholders. -/
def shape (path : String) : List (Option (List Char)) := (tokens path.toList).map Token.shape

/-- The token with another name for its placeholder. -/
def Token.rename (other : List Char → List Char) : Token → Token
  | .literal text => .literal text
  | .param name => .param (other name)

/-- The template with other names for its placeholders. -/
def renamed (other : List Char → List Char) (path : String) : String :=
  String.ofList (unread ((tokens path.toList).map (Token.rename other)))

variable {P Q : String} {text : List Char} {ts ts' : List Token} {other : List Char → List Char}

/-- What is made from each token without its name is made from the shapes. -/
theorem flatMap_eq_of_shape {α : Type} {part : Token → List α}
    (hpart : ∀ t t' : Token, t.shape = t'.shape → part t = part t')
    (h : ts.map Token.shape = ts'.map Token.shape) : ts.flatMap part = ts'.flatMap part := by
  induction ts generalizing ts' with
  | nil =>
      obtain rfl : ts' = [] := List.map_eq_nil_iff.mp h.symm
      rfl
  | cons t ts ih =>
      cases ts' with
      | nil => cases h
      | cons t' ts' =>
          obtain ⟨ht, hts⟩ := List.cons.inj h
          rw [List.flatMap_cons, List.flatMap_cons, hpart t t' ht, ih hts]

/-- Templates of one shape have one expression. -/
theorem regex_eq_of_shape (h : shape P = shape Q) : regex P = regex Q := by
  apply flatMap_eq_of_shape ?_ h
  intro t t' ht
  cases t <;> cases t' <;> cases ht <;> rfl

/-- Templates of one shape have one glob under every base. -/
theorem glob_eq_of_shape (h : shape P = shape Q) (base : String) : glob P base = glob Q base := by
  have hparts : (tokens P.toList).flatMap Token.glob = (tokens Q.toList).flatMap Token.glob := by
    apply flatMap_eq_of_shape ?_ h
    intro t t' ht
    cases t <;> cases t' <;> cases ht <;> rfl
  rw [glob, glob, hparts]

/-! ## From the pieces back to the shape -/

/-- Literal text in front of a placeholder, or at the end, is the run of characters
up to the first group. -/
theorem takeWhile_pieces (h : BeginsParam ts) :
    (text.map Piece.char ++ ts.flatMap Token.pieces).takeWhile (!·.isGroup) =
      text.map Piece.char := by
  have hchars : ∀ p ∈ text.map Piece.char, (!p.isGroup) = true := by
    intro p hp
    obtain ⟨c, _, rfl⟩ := List.mem_map.mp hp
    rfl
  rw [List.takeWhile_append_of_pos hchars]
  cases ts with
  | nil => simp
  | cons t ts =>
      cases t with
      | literal text => simpa [Token.name?] using h _ rfl
      | param name => exact List.append_nil _

/-- No proper token is without pieces. -/
theorem Token.Proper.pieces_ne_nil {t : Token} (h : t.Proper) : t.pieces ≠ [] := by
  cases t with
  | literal text => exact fun hnil => h.1 (List.map_eq_nil_iff.mp hnil)
  | param name => exact List.cons_ne_nil _ _

/-- A literal text begins with no group. -/
theorem pieces_literal_ne_param {name : List Char} (htext : text ≠ []) :
    (Token.literal text :: ts).flatMap Token.pieces ≠
      (Token.param name :: ts').flatMap Token.pieces := by
  intro h
  cases text with
  | nil => exact htext rfl
  | cons c text => cases (List.cons.inj h).1

theorem Canonical.tail {t : Token} (h : Canonical (t :: ts)) : Canonical ts := by
  cases t with
  | literal text => exact (canonical_literal.mp h).2.2
  | param name => exact (canonical_param.mp h).2

/-- Canonical tokens with the same pieces begin with tokens of one shape: a literal
text ends at the first group. -/
theorem shape_head_eq_of_pieces {t t' : Token} (hts : Canonical (t :: ts))
    (hts' : Canonical (t' :: ts'))
    (h : (t :: ts).flatMap Token.pieces = (t' :: ts').flatMap Token.pieces) :
    t.shape = t'.shape ∧ ts.flatMap Token.pieces = ts'.flatMap Token.pieces := by
  cases t with
  | literal text =>
      obtain ⟨⟨hne, _⟩, hnext, _⟩ := canonical_literal.mp hts
      cases t' with
      | literal text' =>
          obtain ⟨_, hnext', _⟩ := canonical_literal.mp hts'
          rw [List.flatMap_cons, List.flatMap_cons, Token.pieces, Token.pieces] at h
          have hfront : text.map Piece.char = text'.map Piece.char := by
            rw [← takeWhile_pieces hnext, h, takeWhile_pieces hnext']
          obtain rfl : text = text' :=
            (List.map_inj_right fun _ _ hc => Piece.char.inj hc).mp hfront
          exact ⟨rfl, List.append_cancel_left h⟩
      | param name => exact absurd h (pieces_literal_ne_param hne)
  | param name =>
      cases t' with
      | literal text' =>
          obtain ⟨⟨hne, _⟩, _⟩ := canonical_literal.mp hts'
          exact absurd h.symm (pieces_literal_ne_param hne)
      | param name' => exact ⟨rfl, (List.cons.inj h).2⟩

/-- **The pieces of canonical tokens determine their shape.** -/
theorem shape_eq_of_pieces (hts : Canonical ts) (hts' : Canonical ts')
    (h : ts.flatMap Token.pieces = ts'.flatMap Token.pieces) :
    ts.map Token.shape = ts'.map Token.shape := by
  induction ts generalizing ts' with
  | nil =>
      cases ts' with
      | nil => rfl
      | cons t' ts' =>
          have hproper := hts'.proper t' List.mem_cons_self
          exact absurd (List.append_eq_nil_iff.mp h.symm).1 hproper.pieces_ne_nil
  | cons t ts ih =>
      cases ts' with
      | nil =>
          have hproper := hts.proper t List.mem_cons_self
          exact absurd (List.append_eq_nil_iff.mp h).1 hproper.pieces_ne_nil
      | cons t' ts' =>
          obtain ⟨hhead, htail⟩ := shape_head_eq_of_pieces hts hts' h
          rw [List.map_cons, List.map_cons, hhead, ih hts.tail hts'.tail htail]

/-- The notation of a template's expression determines the expression. -/
theorem regex_eq_of_regexSource (h : regexSource P = regexSource Q) : regex P = regex Q := by
  have hread := read?_regexSource P
  rw [h, read?_regexSource Q] at hread
  exact (Option.some.inj hread).symm

/-! ## Other names -/

theorem Token.shape_rename (t : Token) : (t.rename other).shape = t.shape := by
  cases t <;> rfl

theorem Token.isSome_name?_rename (t : Token) :
    (t.rename other).name?.isSome = t.name?.isSome := by
  cases t <;> rfl

/-- Names in place of names leave nothing to be cut otherwise. -/
theorem Canonical.rename (hother : ∀ name, IsParamName name → IsParamName (other name))
    (h : Canonical ts) : Canonical (ts.map (Token.rename other)) where
  proper := by
    intro t ht
    obtain ⟨u, hu, rfl⟩ := List.mem_map.mp ht
    have hproper := h.proper u hu
    cases u with
    | literal text => exact hproper
    | param name => exact hother name hproper
  apart := by
    rw [List.isChain_map]
    simp only [Token.isSome_name?_rename]
    exact h.apart

/-- **Renaming** keeps the shape. -/
theorem shape_renamed (hother : ∀ name, IsParamName name → IsParamName (other name)) :
    shape (renamed other P) = shape P := by
  have htokens : tokens (renamed other P).toList =
      (tokens P.toList).map (Token.rename other) := by
    rw [renamed, String.toList_ofList]
    exact tokens_unread ((canonical_tokens P.toList).rename hother)
  rw [shape, htokens, List.map_map, shape]
  exact List.map_congr_left fun t _ => t.shape_rename

/-! ## Templates with one expression -/

/-- **Two templates have one expression exactly if they have one shape**, that is,
the same tokens up to the names of placeholders; and then they have one glob under
every base.  So other names for the placeholders change nothing, and nothing that
literal text can say is read as a group, as the end, or as another text. -/
theorem regexSource_eq_iff_shape (P Q : String) :
    (regexSource P = regexSource Q ↔ shape P = shape Q) ∧
    (regexSource P = regexSource Q → ∀ base, glob P base = glob Q base) ∧
    (∀ other, (∀ name, IsParamName name → IsParamName (other name)) →
      regexSource (renamed other P) = regexSource P) := by
  have hsource : ∀ {P Q : String}, shape P = shape Q → regexSource P = regexSource Q := by
    intro P Q h
    rw [regexSource, regexSource, regex_eq_of_shape h]
  have hshape : regexSource P = regexSource Q → shape P = shape Q := by
    intro h
    exact shape_eq_of_pieces (canonical_tokens P.toList) (canonical_tokens Q.toList)
      (regex_eq_of_regexSource h)
  refine ⟨⟨hshape, hsource⟩, fun h base => glob_eq_of_shape (hshape h) base, ?_⟩
  intro other hother
  exact hsource (shape_renamed hother)

/-- Two templates that differ in a name, beside literal text that spells out a group. -/
theorem regexSource_eq_two_names :
    let P := "/([^/]+)$/{id}"
    let Q := "/([^/]+)$/{name}"
    regexSource P = regexSource Q ∧
    shape P = [some "/([^/]+)$/".toList, none] ∧ shape P = shape Q ∧
    glob P "**" = glob Q "**" ∧
    IsParamName "other".toList ∧
    regexSource (renamed (fun _ => "other".toList) P) = regexSource P := by
  intro P Q
  have hname : IsParamName "other".toList := by decide
  have hsource : regexSource P = regexSource Q := by decide +kernel
  obtain ⟨hiff, hglob, hrenamed⟩ := regexSource_eq_iff_shape P Q
  exact ⟨hsource, by decide +kernel, hiff.mp hsource, hglob hsource "**", hname,
    hrenamed (fun _ => "other".toList) fun _ _ => hname⟩

end ApiMocks.Path
