import ApiMocks.Proofs.UrlNotation
import ApiMocks.Proofs.UrlSearch

/-!
# The bindings of a URL

A template with values filled in and a cut of a text by the template's
expression are the same thing: the literal text is cut into its characters,
and each placeholder takes its value.  So the bindings that a pattern yields
are those values, and the search decides which ones when there are several.

* `Fits`, `Reads`: values for a template, and a URL that ends in it;
* `exists_cut_iff`: cuts are fillings;
* `bindings?_leftmost_greedy`: a pattern binds a URL exactly if the URL ends
  in the filled-in template, and it chooses the leftmost and then the
  greediest of these readings.
-/

namespace ApiMocks.Path

/-! ## Values for a template -/

/-- One value for each placeholder, none of them empty or with a slash. -/
def Fits (ts : List Token) (values : List (List Char)) : Prop :=
  values.length = (ts.filterMap Token.name?).length ∧ ∀ v ∈ values, v ≠ [] ∧ '/' ∉ v

theorem fits_nil {values : List (List Char)} : Fits [] values ↔ values = [] := by
  constructor
  · intro h
    exact List.length_eq_zero_iff.mp h.1
  · intro h
    obtain rfl := h
    exact ⟨rfl, by simp⟩

theorem fits_literal {text : List Char} {ts : List Token} {values : List (List Char)} :
    Fits (.literal text :: ts) values ↔ Fits ts values := by
  rw [Fits, List.filterMap_cons_none rfl, Fits]

theorem fits_param {name : List Char} {ts : List Token} {values : List (List Char)} :
    Fits (.param name :: ts) values ↔
      ∃ v values', values = v :: values' ∧ (v ≠ [] ∧ '/' ∉ v) ∧ Fits ts values' := by
  cases values with
  | nil => simp [Fits, Token.name?]
  | cons v values =>
      simp only [Fits, Token.name?, List.filterMap_cons, List.length_cons,
        Nat.add_right_cancel_iff, List.forall_mem_cons, List.cons.injEq]
      constructor
      · intro h
        obtain ⟨hlen, hv, hvs⟩ := h
        exact ⟨v, values, ⟨rfl, rfl⟩, hv, hlen, hvs⟩
      · intro h
        obtain ⟨_, _, ⟨rfl, rfl⟩, hv, hlen, hvs⟩ := h
        exact ⟨hlen, hv, hvs⟩

/-- The URL is `lead` and then the template with the values filled in. -/
structure Reads (path url : String) (lead : List Char) (values : List (List Char)) :
    Prop where
  fits : Fits (tokens path.toList) values
  text : url.toList = lead ++ fill (tokens path.toList) values

/-! ## Cuts are fillings -/

namespace UrlRegex

/-- A literal text is cut into its characters. -/
theorem cut_literal {text : List Char} {r : UrlRegex} {t : List Char}
    {parts : List (List Char)} :
    Cut (text.map .char ++ r) t parts ↔
      ∃ rest parts', parts = text.map ([·]) ++ parts' ∧ t = text ++ rest ∧
        Cut r rest parts' := by
  induction text generalizing t parts with
  | nil => simp
  | cons c text ih =>
      simp only [List.map_cons, List.cons_append, cut_cons, ih, Piece.Accepts]
      constructor
      · intro h
        obtain ⟨u, _, _, rfl, rfl, rfl, rest, parts', rfl, rfl, hcut⟩ := h
        exact ⟨rest, parts', rfl, rfl, hcut⟩
      · intro h
        obtain ⟨rest, parts', rfl, rfl, hcut⟩ := h
        exact ⟨[c], text ++ rest, _, rfl, rfl, rfl, rest, parts', rfl, rfl, hcut⟩

theorem captured_cons (p : Piece) (r : UrlRegex) (u : List Char)
    (parts : List (List Char)) :
    captured (p :: r) (u :: parts) = p.captured u ++ captured r parts := rfl

/-- The characters of a literal text capture nothing. -/
theorem captured_literal (text : List Char) (r : UrlRegex) (parts : List (List Char)) :
    captured (text.map .char ++ r) (text.map ([·]) ++ parts) = captured r parts := by
  induction text with
  | nil => rfl
  | cons c text ih =>
      rw [List.map_cons, List.map_cons, List.cons_append, List.cons_append,
        captured_cons, ih]
      rfl

end UrlRegex

open UrlRegex in
/-- **Cuts are fillings.**  A text can be cut with these captured values
exactly if they fit the template and the text is the template with them. -/
theorem exists_cut_iff {ts : List Token} {t : List Char} {values : List (List Char)} :
    (∃ parts, Cut (ts.flatMap Token.pieces) t parts ∧
        captured (ts.flatMap Token.pieces) parts = values) ↔
      Fits ts values ∧ t = fill ts values := by
  -- by tokens: each takes its part off the text, and a placeholder its value
  induction ts generalizing t values with
  | nil =>
      simp only [List.flatMap_nil, cut_nil, fits_nil]
      constructor
      · intro h
        obtain ⟨_, ⟨rfl, rfl⟩, rfl⟩ := h
        exact ⟨rfl, rfl⟩
      · intro h
        obtain ⟨rfl, rfl⟩ := h
        exact ⟨[], ⟨rfl, rfl⟩, rfl⟩
  | cons token ts ih =>
      cases token with
      | literal text =>
          simp only [List.flatMap_cons, Token.pieces, cut_literal, fits_literal, fill]
          constructor
          · intro h
            obtain ⟨_, ⟨rest, parts, rfl, rfl, hcut⟩, hvalues⟩ := h
            rw [captured_literal] at hvalues
            obtain ⟨hfits, rfl⟩ := ih.mp ⟨parts, hcut, hvalues⟩
            exact ⟨hfits, rfl⟩
          · intro h
            obtain ⟨hfits, rfl⟩ := h
            obtain ⟨parts, hcut, hvalues⟩ := ih.mpr ⟨hfits, rfl⟩
            exact ⟨_, ⟨_, parts, rfl, rfl, hcut⟩, by rw [captured_literal, hvalues]⟩
      | param name =>
          simp only [List.flatMap_cons, Token.pieces, List.singleton_append, cut_cons,
            fits_param, Piece.Accepts]
          constructor
          · intro h
            obtain ⟨_, ⟨v, rest, parts, rfl, rfl, hv, hcut⟩, rfl⟩ := h
            obtain ⟨hfits, rfl⟩ := ih.mp ⟨parts, hcut, rfl⟩
            exact ⟨⟨v, _, rfl, hv, hfits⟩, rfl⟩
          · intro h
            obtain ⟨⟨v, values, rfl, hv, hfits⟩, rfl⟩ := h
            obtain ⟨parts, hcut, rfl⟩ := ih.mpr ⟨hfits, rfl⟩
            exact ⟨v :: parts, ⟨v, _, parts, rfl, rfl, hv, hcut⟩, rfl⟩

/-- The expression of a template asks for no query. -/
theorem query_not_mem_pieces (ts : List Token) : Piece.query ∉ ts.flatMap Token.pieces := by
  intro h
  obtain ⟨t, _, hquery⟩ := List.mem_flatMap.mp h
  cases t <;> simp [Token.pieces] at hquery

/-- Without queries only the segments can be longer or shorter, so the
preferred cut has the preferred values. -/
theorem Greedier.captured {r : UrlRegex} (hquery : Piece.query ∉ r) {t t' : List Char}
    {parts parts' : List (List Char)} (hcut : r.Cut t parts) (hcut' : r.Cut t' parts')
    (h : Greedier parts parts') : Greedier (r.captured parts) (r.captured parts') := by
  induction r generalizing t t' parts parts' with
  | nil => trivial
  | cons p r ih =>
      obtain ⟨u, rest, parts, rfl, _, hu, hcut⟩ := UrlRegex.cut_cons.mp hcut
      obtain ⟨u', rest', parts', rfl, _, hu', hcut'⟩ := UrlRegex.cut_cons.mp hcut'
      have htail := ih (fun hm => hquery (List.mem_cons_of_mem _ hm)) hcut hcut'
      rw [UrlRegex.captured_cons, UrlRegex.captured_cons]
      cases p with
      | char c =>
          -- a character has one text only, so the cuts cannot differ here
          rw [show u = [c] from hu, show u' = [c] from hu'] at h
          rcases h with hlt | ⟨_, h⟩
          · exact absurd hlt (Nat.lt_irrefl _)
          · exact htail h
      | segment =>
          rcases h with hlt | ⟨rfl, h⟩
          · exact .inl hlt
          · exact .inr ⟨rfl, htail h⟩
      | query => exact absurd List.mem_cons_self hquery

/-! ## The bindings -/

theorem bindings?_eq_some {path base url : String} {bs : List (String × String)}
    (h : (Pattern.ofPath path base).bindings? url = some bs) :
    ∃ values, (regex path).find? url.toList = some values ∧
      bs = (params path).zip (values.map String.ofList) := by
  obtain ⟨values, hvalues, rfl⟩ := Option.map_eq_some_iff.mp h
  exact ⟨values, hvalues, rfl⟩

/-- A URL reads by a template exactly if the expression can cut some tail of it. -/
theorem exists_reads_iff {path url : String} :
    (∃ lead values, Reads path url lead values) ↔
      ∃ lead rest parts, url.toList = lead ++ rest ∧ (regex path).Cut rest parts := by
  constructor
  · intro h
    obtain ⟨lead, values, hfits, htext⟩ := h
    obtain ⟨parts, hcut, _⟩ := exists_cut_iff.mpr ⟨hfits, rfl⟩
    exact ⟨lead, _, parts, htext, hcut⟩
  · intro h
    obtain ⟨lead, rest, parts, htext, hcut⟩ := h
    obtain ⟨hfits, rfl⟩ := exists_cut_iff.mp ⟨parts, hcut, rfl⟩
    exact ⟨lead, _, hfits, htext⟩

/-- **Bindings are the leftmost, greediest reading.**  The expression is what
its notation says.  A URL has bindings exactly if it ends in the template with
values filled in.  The bindings then pair every placeholder, in order, with the
values of the reading that leaves the shortest text in front and, of those,
gives the first placeholder the longest value, then the second, and so on. -/
theorem bindings?_leftmost_greedy (path base url : String) :
    UrlRegex.read? (regexSource path).toList = some (Pattern.ofPath path base).regex ∧
    (((Pattern.ofPath path base).bindings? url).isSome ↔
      ∃ lead values, Reads path url lead values) ∧
    ∀ bs, (Pattern.ofPath path base).bindings? url = some bs →
      bs.map (·.1) = params path ∧
      ∃ lead, Reads path url lead (bs.map (·.2.toList)) ∧
        ∀ lead' values', Reads path url lead' values' →
          lead.length < lead'.length ∨
            lead = lead' ∧ Greedier (bs.map (·.2.toList)) values' := by
  refine ⟨read?_regexSource path, ?_, ?_⟩
  · rw [exists_reads_iff, ← UrlRegex.find?_isSome_iff, Pattern.bindings?, Option.isSome_map]
    rfl
  · intro bs hbs
    obtain ⟨values, hfind, rfl⟩ := bindings?_eq_some hbs
    obtain ⟨lead, rest, parts, htext, hcut, hvalues, hbest⟩ := UrlRegex.find?_eq_some hfind
    obtain ⟨hfits, rfl⟩ := exists_cut_iff.mp ⟨parts, hcut, hvalues⟩
    have hlength : (params path).length = (values.map String.ofList).length := by
      rw [length_params, List.length_map, hfits.1]
    have hsnd : ((params path).zip (values.map String.ofList)).map (·.2.toList) = values :=
      calc ((params path).zip (values.map String.ofList)).map (·.2.toList)
          = (((params path).zip (values.map String.ofList)).map Prod.snd).map String.toList := by
            rw [List.map_map]; rfl
        _ = (values.map String.ofList).map String.toList := by
            rw [List.map_snd_zip (Nat.le_of_eq hlength.symm)]
        _ = values := by simp
    refine ⟨List.map_fst_zip (Nat.le_of_eq hlength), lead, ?_⟩
    rw [hsnd]
    refine ⟨⟨hfits, htext⟩, ?_⟩
    intro lead' values' hreads
    obtain ⟨parts', hcut', rfl⟩ := exists_cut_iff.mpr ⟨hreads.fits, rfl⟩
    rcases hbest lead' _ parts' hreads.text hcut' with hlt | ⟨rfl, hgreedier⟩
    · exact .inl hlt
    · exact .inr ⟨rfl, hvalues ▸ hgreedier.captured (query_not_mem_pieces _) hcut hcut'⟩

/-- Of the two ways to share `xyz` between adjacent placeholders the first one
gets the longer value. -/
theorem bindings?_adjacent_placeholders :
    (Pattern.ofPath "/{a}{b}" "**").bindings? "h/xyz" = some [("a", "xy"), ("b", "z")] ∧
    ∃ lead, Reads "/{a}{b}" "h/xyz" lead [['x', 'y'], ['z']] ∧
      ∀ lead' values', Reads "/{a}{b}" "h/xyz" lead' values' →
        lead.length < lead'.length ∨ lead = lead' ∧ Greedier [['x', 'y'], ['z']] values' := by
  have hbound : (Pattern.ofPath "/{a}{b}" "**").bindings? "h/xyz" =
      some [("a", "xy"), ("b", "z")] := by decide
  have hspec := (bindings?_leftmost_greedy "/{a}{b}" "**" "h/xyz").2.2 _ hbound
  exact ⟨hbound, hspec.2⟩

end ApiMocks.Path
