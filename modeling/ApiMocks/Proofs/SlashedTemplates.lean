import ApiMocks.Proofs.PathBindings
import ApiMocks.Proofs.PathWildcards
import ApiMocks.Proofs.TemplateTokens

/-!
# Templates that are read in one way

Where placeholders are adjacent, or the template begins with one, a URL can often
be read by the template in several ways, and the search has to choose.  Slashes
take the choice away.  No value has a slash, so a filled-in template has those of
its literal text, and if it begins with one, it can start at one place in the URL
only.  And where a slash stands before the next placeholder, it shows where a value
ends.  So such a template gives back the values that were filled in, whatever is in
front of it, be it a copy of the path.

* `SlashFirst`, `Slashed`: templates that are held apart by slashes;
* `count_slash_fill`: the slashes of a filled-in template;
* `fill_inj`: where slashes stand between values, the values can be read back;
* `Slashed.reads_unique`: a URL is read in one way;
* `bindings?_fill`: filling in and binding is a round trip.
-/

namespace ApiMocks.Path

variable {ts : List Token} {text : List Char} {name : List Char}

/-! ## Slashes between placeholders -/

/-- A slash comes before the next placeholder, if there is one. -/
def SlashFirst (ts : List Token) : Prop :=
  ∀ between b after, ts = between ++ .param b :: after → '/' ∈ between.flatMap Token.plain

/-- Behind every placeholder, a slash comes before the next one. -/
def SlashBetween (ts : List Token) : Prop :=
  ∀ before a after, ts = before ++ .param a :: after → SlashFirst after

/-- The template begins with a slash, and there is a slash in the literal text between
any two of its placeholders. -/
structure Slashed (path : String) : Prop where
  rooted : path.toList.head? = some '/'
  apart : SlashBetween (tokens path.toList)

theorem slashFirst_nil : SlashFirst [] := by
  intro between b after h
  simp at h

theorem slashFirst_literal :
    SlashFirst (.literal text :: ts) ↔ '/' ∈ text ∨ SlashFirst ts := by
  constructor
  · intro h
    by_cases htext : '/' ∈ text
    · exact .inl htext
    · right
      intro between b after hts
      have hmem := h (.literal text :: between) b after (by rw [hts]; rfl)
      simpa [Token.plain, htext] using hmem
  · intro h between b after hts
    cases between with
    | nil => cases hts
    | cons t between =>
        obtain ⟨rfl, hrest⟩ := List.cons.inj hts
        rw [List.flatMap_cons, List.mem_append]
        exact h.imp id fun hnext => hnext between b after hrest

theorem not_slashFirst_param : ¬ SlashFirst (.param name :: ts) := by
  intro h
  simpa using h [] name ts rfl

theorem slashBetween_literal : SlashBetween (.literal text :: ts) ↔ SlashBetween ts := by
  constructor
  · intro h before a after hts
    exact h (.literal text :: before) a after (by rw [hts]; rfl)
  · intro h before a after hts
    cases before with
    | nil => cases hts
    | cons t before => exact h before a after (List.cons.inj hts).2

theorem slashBetween_param :
    SlashBetween (.param name :: ts) ↔ SlashFirst ts ∧ SlashBetween ts := by
  constructor
  · intro h
    refine ⟨h [] name ts rfl, ?_⟩
    intro before a after hts
    exact h (.param name :: before) a after (by rw [hts]; rfl)
  · intro h before a after hts
    cases before with
    | nil =>
        obtain ⟨-, rfl⟩ := List.cons.inj hts
        exact h.1
    | cons t before => exact h.2 before a after (List.cons.inj hts).2

instance decidableSlashFirst : (ts : List Token) → Decidable (SlashFirst ts)
  | [] => .isTrue slashFirst_nil
  | .literal _ :: ts =>
    have := decidableSlashFirst ts
    decidable_of_iff _ slashFirst_literal.symm
  | .param _ :: _ => .isFalse not_slashFirst_param

instance decidableSlashBetween : (ts : List Token) → Decidable (SlashBetween ts)
  | [] => .isTrue fun before a after h => by simp at h
  | .literal _ :: ts =>
    have := decidableSlashBetween ts
    decidable_of_iff _ slashBetween_literal.symm
  | .param _ :: ts =>
    have := decidableSlashBetween ts
    decidable_of_iff _ slashBetween_param.symm

instance (path : String) : Decidable (Slashed path) :=
  decidable_of_iff (path.toList.head? = some '/' ∧ SlashBetween (tokens path.toList))
    ⟨fun h => ⟨h.1, h.2⟩, fun h => ⟨h.rooted, h.apart⟩⟩

/-! ## Values are read back -/

variable {values values' : List (List Char)}

theorem append_slash_inj {u u' rest rest' : List Char} (hu : '/' ∉ u) (hu' : '/' ∉ u')
    (h : u ++ '/' :: rest = u' ++ '/' :: rest') : u = u' ∧ rest = rest' := by
  have hfree : ∀ {u : List Char}, '/' ∉ u → ∀ c ∈ u, (c == '/') = false := by
    intro u hu c hc
    simpa using fun heq : c = '/' => hu (heq ▸ hc)
  obtain ⟨hfront, -, hrest⟩ := append_cons_inj_of_first (hfree hu) (hfree hu') rfl rfl h
  exact ⟨hfront, hrest⟩

/-- **Slashes tell the values apart.**  Behind a value, literal text goes on to the
slash that ends it. -/
theorem fill_inj (hapart : SlashBetween ts) (hfits : Fits ts values) (hfits' : Fits ts values') :
    (fill ts values = fill ts values' → values = values') ∧
    (SlashFirst ts → ∀ u u' : List Char, '/' ∉ u → '/' ∉ u' →
      u ++ fill ts values = u' ++ fill ts values' → u = u' ∧ values = values') := by
  -- by tokens; `u` is the value in front of the tokens and the literal text behind it
  induction ts generalizing values values' with
  | nil =>
      obtain rfl := fits_nil.mp hfits
      obtain rfl := fits_nil.mp hfits'
      refine ⟨fun _ => rfl, fun _ u u' _ _ h => ?_⟩
      exact ⟨by simpa [fill] using h, rfl⟩
  | cons t ts ih =>
      cases t with
      | literal text =>
          obtain ⟨hsame, hbehind⟩ := ih (slashBetween_literal.mp hapart)
            (fits_literal.mp hfits) (fits_literal.mp hfits')
          refine ⟨fun h => hsame (List.append_cancel_left h), ?_⟩
          intro hfirst u u' hu hu' h
          by_cases htext : '/' ∈ text
          · obtain ⟨front, rest, rfl, hfront⟩ := List.eq_append_cons_of_mem htext
            simp only [fill, List.append_assoc, List.cons_append] at h
            rw [← List.append_assoc, ← List.append_assoc u'] at h
            obtain ⟨hufront, hrest⟩ := append_slash_inj (by simp [hu, hfront])
              (by simp [hu', hfront]) h
            exact ⟨List.append_cancel_right hufront, hsame (List.append_cancel_left hrest)⟩
          · have hts := (slashFirst_literal.mp hfirst).resolve_left htext
            obtain ⟨hutext, hvalues⟩ := hbehind hts (u ++ text) (u' ++ text)
              (by simp [hu, htext]) (by simp [hu', htext])
              (by simpa [fill, List.append_assoc] using h)
            exact ⟨List.append_cancel_right hutext, hvalues⟩
      | param name =>
          obtain ⟨v, values, rfl, ⟨-, hv⟩, hfits⟩ := fits_param.mp hfits
          obtain ⟨v', values', rfl, ⟨-, hv'⟩, hfits'⟩ := fits_param.mp hfits'
          obtain ⟨hfirst, hapart⟩ := slashBetween_param.mp hapart
          refine ⟨?_, fun hnext => absurd hnext not_slashFirst_param⟩
          intro h
          obtain ⟨rfl, rfl⟩ := (ih hapart hfits hfits').2 hfirst v v' hv hv' h
          rfl

/-- A filled-in template has the slashes of its literal text. -/
theorem count_slash_fill (h : Fits ts values) :
    (fill ts values).count '/' = (ts.flatMap Token.plain).count '/' := by
  induction ts generalizing values with
  | nil => rfl
  | cons t ts ih =>
      cases t with
      | literal text =>
          rw [fill, List.count_append, ih (fits_literal.mp h), List.flatMap_cons, Token.plain,
            List.count_append]
      | param name =>
          obtain ⟨v, values, rfl, ⟨-, hv⟩, hfits⟩ := fits_param.mp h
          rw [fill, List.count_append, ih hfits, List.count_eq_zero.mpr hv, Nat.zero_add]
          rfl

/-- Of two ends of a text that begin with slashes, the longer one has more slashes. -/
theorem tails_eq_of_count {lead lead' u u' : List Char} (hu : u.head? = some '/')
    (hu' : u'.head? = some '/') (hcount : u.count '/' = u'.count '/')
    (h : lead ++ u = lead' ++ u') : lead = lead' ∧ u = u' := by
  have hlonger : ∀ {v v' more : List Char}, v.head? = some '/' → v.count '/' = v'.count '/' →
      v = more ++ v' → more = [] := by
    intro v v' more hv hsame hmore
    cases more with
    | nil => rfl
    | cons c more =>
        subst hmore
        obtain rfl : c = '/' := by simpa using hv
        rw [List.cons_append, List.count_cons_self, List.count_append] at hsame
        omega
  rcases List.append_eq_append_iff.mp h with ⟨more, rfl, hmore⟩ | ⟨more, rfl, hmore⟩
  · obtain rfl := hlonger hu hcount hmore
    exact ⟨by simp, hmore⟩
  · obtain rfl := hlonger hu' hcount.symm hmore
    exact ⟨by simp, hmore.symm⟩

/-! ## URLs are read in one way -/

variable {path url : String} {lead lead' : List Char}

/-- With values filled in, the template begins with a slash too. -/
theorem Slashed.head?_fill (h : Slashed path) (values : List (List Char)) :
    (fill (tokens path.toList) values).head? = some '/' := by
  have hproper := (canonical_tokens path.toList).proper
  have hhead : (unread (tokens path.toList)).head? = some '/' := by
    rw [unread_tokens]
    exact h.rooted
  cases hts : tokens path.toList with
  | nil => simp [hts, unread] at hhead
  | cons t ts =>
      rw [hts] at hproper hhead
      cases t with
      | literal text =>
          obtain ⟨c, text, rfl⟩ := List.exists_cons_of_ne_nil (hproper _ List.mem_cons_self).1
          exact hhead
      | param name => simp [unread_cons, Token.source] at hhead

/-- **A URL is read in one way.** -/
theorem Slashed.reads_unique (h : Slashed path) (hreads : Reads path url lead values)
    (hreads' : Reads path url lead' values') : lead = lead' ∧ values = values' := by
  have hcount := (count_slash_fill hreads.fits).trans (count_slash_fill hreads'.fits).symm
  obtain ⟨hlead, hfill⟩ := tails_eq_of_count (h.head?_fill values) (h.head?_fill values') hcount
    (hreads.text.symm.trans hreads'.text)
  exact ⟨hlead, (fill_inj h.apart hreads.fits hreads'.fits).1 hfill⟩

/-- What a search yields is a reading of the URL. -/
theorem exists_reads_of_find? (h : (regex path).find? url.toList = some values) :
    ∃ lead, Reads path url lead values := by
  obtain ⟨lead, rest, parts, htext, hcut, hvalues, -⟩ := UrlRegex.find?_eq_some h
  obtain ⟨hfits, rfl⟩ := exists_cut_iff.mp ⟨parts, hcut, hvalues⟩
  exact ⟨lead, hfits, htext⟩

/-- **Round trip.**  If a template begins with a slash and has slashes between its
placeholders, the bindings of a URL that ends in the filled-in template are the values
that were filled in. -/
theorem bindings?_fill {path : String} (hpath : Slashed path) (base lead : String)
    {values : List (List Char)} (hvalues : Fits (tokens path.toList) values) :
    (Pattern.ofPath path base).bindings?
        (lead ++ String.ofList (fill (tokens path.toList) values)) =
      some ((params path).zip (values.map String.ofList)) := by
  have hreads : Reads path (lead ++ String.ofList (fill (tokens path.toList) values))
      lead.toList values := ⟨hvalues, by simp⟩
  obtain ⟨found, hfound⟩ : ∃ found, (regex path).find?
      (lead ++ String.ofList (fill (tokens path.toList) values)).toList = some found :=
    Option.isSome_iff_exists.mp
      (UrlRegex.find?_isSome_iff.mpr (exists_reads_iff.mp ⟨_, _, hreads⟩))
  obtain ⟨lead', hreads'⟩ := exists_reads_of_find? hfound
  obtain ⟨-, rfl⟩ := hpath.reads_unique hreads' hreads
  rw [Pattern.bindings?]
  exact Option.map_eq_some_iff.mpr ⟨_, hfound, rfl⟩

/-- A copy of the path in front of it is no part of the reading. -/
theorem bindings?_fill_twice :
    Slashed "/users/{id}/files/{file}.json" ∧
    Fits (tokens "/users/{id}/files/{file}.json".toList) ["7".toList, "a.json".toList] ∧
    (Pattern.ofPath "/users/{id}/files/{file}.json" "**").bindings?
        "h/users/1/files/b.json/users/7/files/a.json.json" =
      some [("id", "7"), ("file", "a.json")] := by
  have hpath : Slashed "/users/{id}/files/{file}.json" := by decide
  have hvalues : Fits (tokens "/users/{id}/files/{file}.json".toList)
      ["7".toList, "a.json".toList] := ⟨by decide, by decide⟩
  have hurl : "h/users/1/files/b.json" ++ String.ofList (fill
      (tokens "/users/{id}/files/{file}.json".toList) ["7".toList, "a.json".toList]) =
        "h/users/1/files/b.json/users/7/files/a.json.json" := by decide
  have hbound := bindings?_fill hpath "**" "h/users/1/files/b.json" hvalues
  rw [hurl] at hbound
  exact ⟨hpath, hvalues, hbound.trans (by decide)⟩

end ApiMocks.Path
