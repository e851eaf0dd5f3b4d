import ApiMocks.Proofs.UrlNotation
import ApiMocks.Proofs.UrlSearch

/-!
# Requests with a query

The expression that tolerates a query is the expression of the template with
one more piece, the optional query.  A search for it can leave the query to
that piece, so a request that is found without a query is found with every one.
But nothing keeps the template itself out of the query: the search starts
anywhere, and a placeholder takes question marks like other characters.  So
there is one other way to find a request with a query, and it is exact.

* `read?_queryTolerant`: tolerating a query means one piece more;
* `find?_query_isSome_iff`: what this piece adds to a search;
* `EndsInQuery`: the template ends within the query;
* `matchesUrl_query_iff`: a request with a query is found if it is found
  without one, or if the template ends within the query.
-/

namespace ApiMocks.Path

namespace UrlRegex

/-! ## One piece more -/

/-- A text can be cut for two expressions in turn exactly if a front of it can
be cut for the first one and the rest for the second one. -/
theorem exists_cut_append {r s : UrlRegex} {text : List Char} :
    (∃ parts, Cut (r ++ s) text parts) ↔
      ∃ front rest, text = front ++ rest ∧ (∃ parts, Cut r front parts) ∧
        ∃ parts, Cut s rest parts := by
  constructor
  · intro h
    induction r generalizing text with
    | nil => exact ⟨[], text, rfl, ⟨[], cut_nil.mpr ⟨rfl, rfl⟩⟩, h⟩
    | cons p r ih =>
        obtain ⟨parts, hcut⟩ := h
        obtain ⟨u, behind, parts', rfl, rfl, hu, hbehind⟩ := cut_cons.mp hcut
        obtain ⟨front, rest, rfl, ⟨inner, hfront⟩, hrest⟩ := ih ⟨parts', hbehind⟩
        refine ⟨u ++ front, rest, (List.append_assoc u front rest).symm, ?_, hrest⟩
        exact ⟨u :: inner, cut_cons.mpr ⟨u, front, inner, rfl, rfl, hu, hfront⟩⟩
  · intro h
    obtain ⟨front, rest, rfl, ⟨left, hleft⟩, right, hright⟩ := h
    refine ⟨left ++ right, List.rel_append hleft.1 hright.1, ?_⟩
    rw [List.flatten_append, hleft.2, hright.2]

/-- With an optional query at its end, an expression is found in the texts that
have a query, or nothing, behind a front in which it is found. -/
theorem find?_query_isSome_iff {r : UrlRegex} {text : List Char} :
    (find? (r ++ [.query]) text).isSome ↔
      ∃ front rest, text = front ++ rest ∧ Piece.query.Accepts rest ∧
        (r.find? front).isSome := by
  have hquery : ∀ rest, (∃ parts, Cut [.query] rest parts) ↔ Piece.query.Accepts rest := by
    intro rest
    simp only [cut_cons, cut_nil]
    constructor
    · intro h
      obtain ⟨_, u, _, _, rfl, rfl, hu, rfl, rfl⟩ := h
      rwa [List.append_nil]
    · intro h
      exact ⟨[rest], rest, [], [], rfl, (List.append_nil rest).symm, h, rfl, rfl⟩
  simp only [find?_isSome_iff]
  constructor
  · intro h
    obtain ⟨lead, tail, parts, rfl, hcut⟩ := h
    obtain ⟨front, rest, rfl, ⟨inner, hfront⟩, hrest⟩ := exists_cut_append.mp ⟨parts, hcut⟩
    refine ⟨lead ++ front, rest, (List.append_assoc lead front rest).symm, ?_, ?_⟩
    · exact (hquery rest).mp hrest
    · exact ⟨lead, front, inner, rfl, hfront⟩
  · intro h
    obtain ⟨_, rest, rfl, hrest, lead, front, inner, rfl, hfront⟩ := h
    obtain ⟨parts, hcut⟩ :=
      exists_cut_append.mpr ⟨front, rest, rfl, ⟨inner, hfront⟩, (hquery rest).mpr hrest⟩
    exact ⟨lead, front ++ rest, parts, List.append_assoc lead front rest, hcut⟩

end UrlRegex

/-- The end anchor gives way to the query group and a new one. -/
theorem queryTolerant_anchored (body : List Char) :
    queryTolerant (String.ofList (body ++ ['$'])) =
      String.ofList (body ++ Piece.query.source ++ ['$']) := by
  rw [queryTolerant, String.toList_ofList, List.getLast?_concat, List.dropLast_concat]
  rfl

/-- The notation of a template, made tolerant of a query, is read as the
expression of the template and a query. -/
theorem read?_queryTolerant (path : String) :
    UrlRegex.read? (queryTolerant (regexSource path)).toList = some (regex path ++ [.query]) := by
  have hsource : (queryTolerant (regexSource path)).toList =
      UrlRegex.source (regex path ++ [.query]) := by
    rw [regexSource, UrlRegex.source, queryTolerant_anchored, String.toList_ofList,
      UrlRegex.source, List.flatMap_append, List.flatMap_singleton]
  rw [hsource]
  exact UrlRegex.read?_source _

theorem matchesUrl_regexSource {path url : String} :
    matchesUrl (regexSource path) url = true ↔ ((regex path).find? url.toList).isSome := by
  rw [matchesUrl, read?_regexSource, Option.bind_some]

theorem matchesUrl_queryTolerant {path url : String} :
    matchesUrl (queryTolerant (regexSource path)) url = true ↔
      ∃ front rest, url.toList = front ++ rest ∧ Piece.query.Accepts rest ∧
        ((regex path).find? front).isSome := by
  rw [matchesUrl, read?_queryTolerant, Option.bind_some]
  exact UrlRegex.find?_query_isSome_iff

/-! ## With and without a query -/

/-- The template ends within the query: behind a front of the query that is the
whole query or has a question mark behind it. -/
def EndsInQuery (path url query : String) : Prop :=
  ∃ front rest, query = front ++ rest ∧ (rest = "" ∨ ∃ more, rest = "?" ++ more) ∧
    matchesUrl (regexSource path) (url ++ "?" ++ front) = true

/-- A URL without a question mark has no query to leave aside. -/
theorem matchesUrl_queryTolerant_of_not_mem {path url : String} (hurl : '?' ∉ url.toList) :
    matchesUrl (queryTolerant (regexSource path)) url = true ↔
      ((regex path).find? url.toList).isSome := by
  rw [matchesUrl_queryTolerant]
  constructor
  · intro h
    obtain ⟨front, rest, hsplit, hrest, hfound⟩ := h
    rcases hrest with rfl | ⟨line, rfl, _⟩
    · rw [hsplit, List.append_nil]
      exact hfound
    · have hmem : '?' ∈ url.toList := by
        rw [hsplit]
        exact List.mem_append_right front List.mem_cons_self
      exact absurd hmem hurl
  · intro hfound
    exact ⟨url.toList, [], (List.append_nil _).symm, .inl rfl, hfound⟩

theorem toList_with_query (url query : String) :
    (url ++ "?" ++ query).toList = url.toList ++ '?' :: query.toList := by
  rw [String.toList_append, String.toList_append, List.append_assoc]
  rfl

/-- A front with a query behind it ends with the URL or within the query. -/
theorem front_of_query {url query front rest : List Char} (hurl : '?' ∉ url)
    (hrest : Piece.query.Accepts rest) (hsplit : url ++ '?' :: query = front ++ rest) :
    front = url ∨ ∃ ahead, front = url ++ '?' :: ahead ∧ query = ahead ++ rest := by
  rcases List.append_eq_append_iff.mp hsplit with ⟨ahead, hahead, hbehind⟩ | ⟨left, hleft, hbehind⟩
  · cases ahead with
    | nil =>
        rw [List.append_nil] at hahead
        exact .inl hahead
    | cons c ahead =>
        obtain ⟨rfl, hquery⟩ := List.cons.inj hbehind
        exact .inr ⟨ahead, hahead, hquery⟩
  · cases left with
    | nil =>
        rw [List.append_nil] at hleft
        exact .inl hleft.symm
    | cons c left =>
        -- the query would begin within the URL
        have hc : c = '?' := by
          rcases hrest with hnil | ⟨line, hline, _⟩
          · rw [hnil] at hbehind
            cases hbehind
          · rw [hline] at hbehind
            exact (List.cons.inj hbehind).1.symm
        have hmem : '?' ∈ url := by
          rw [hleft, hc]
          exact List.mem_append_right front List.mem_cons_self
        exact absurd hmem hurl

/-- **When a query makes a difference.**  A request with a query is found
exactly if it is found without the query, or if the template ends within the
query.  So a query never hides a request, and it lets one through that would
not be found otherwise only if the query itself completes the template. -/
theorem matchesUrl_query_iff (path url query : String) (hurl : '?' ∉ url.toList)
    (hquery : '\n' ∉ query.toList) :
    matchesUrl (queryTolerant (regexSource path)) (url ++ "?" ++ query) = true ↔
      matchesUrl (queryTolerant (regexSource path)) url = true ∨
        EndsInQuery path url query := by
  rw [matchesUrl_queryTolerant_of_not_mem hurl, matchesUrl_queryTolerant, toList_with_query]
  constructor
  · intro h
    obtain ⟨front, rest, hsplit, hrest, hfound⟩ := h
    rcases front_of_query hurl hrest hsplit with rfl | ⟨ahead, rfl, hquerySplit⟩
    · exact .inl hfound
    · refine .inr ⟨String.ofList ahead, String.ofList rest, ?_, ?_, ?_⟩
      · rw [← String.ofList_append, ← hquerySplit, String.ofList_toList]
      · rcases hrest with rfl | ⟨line, rfl, _⟩
        · exact .inl rfl
        · exact .inr ⟨String.ofList line, by rw [← String.ofList_append]; rfl⟩
      · rw [matchesUrl_regexSource, toList_with_query, String.toList_ofList]
        exact hfound
  · intro h
    rcases h with hfound | ⟨front, rest, rfl, hrest, hfound⟩
    · exact ⟨url.toList, '?' :: query.toList, rfl, .inr ⟨_, rfl, hquery⟩, hfound⟩
    · rw [matchesUrl_regexSource, toList_with_query] at hfound
      rw [String.toList_append] at hquery ⊢
      refine ⟨url.toList ++ '?' :: front.toList, rest.toList, by simp, ?_, hfound⟩
      rcases hrest with rfl | ⟨more, rfl⟩
      · exact .inl rfl
      · refine .inr ⟨more.toList, String.toList_append, ?_⟩
        intro hmem
        rw [String.toList_append] at hquery
        exact hquery (List.mem_append_right _ (List.mem_append_right _ hmem))

/-- A list that ends in a slash is taken for one of its items, for the query is
taken for the value. -/
theorem matchesUrl_query_as_value :
    '?' ∉ "h/users/".toList ∧ '\n' ∉ "page=2".toList ∧
    matchesUrl (queryTolerant (regexSource "/users/{id}")) "h/users/" = false ∧
    matchesUrl (queryTolerant (regexSource "/users/{id}")) ("h/users/" ++ "?" ++ "page=2") =
      true := by
  have hurl : '?' ∉ "h/users/".toList := by decide
  have hquery : '\n' ∉ "page=2".toList := by decide
  have hends : EndsInQuery "/users/{id}" "h/users/" "page=2" :=
    ⟨"page=2", "", by decide, .inl rfl, by decide⟩
  refine ⟨hurl, hquery, by decide, ?_⟩
  exact (matchesUrl_query_iff "/users/{id}" "h/users/" "page=2" hurl hquery).mpr (.inr hends)

/-- A query can make a difference: one that ends in a path is found by the
template of that path, at whatever page it is asked for. -/
theorem not_forall_query_neutral :
    ¬ ∀ path url query : String, '?' ∉ url.toList → '\n' ∉ query.toList →
      (matchesUrl (queryTolerant (regexSource path)) (url ++ "?" ++ query) = true ↔
        matchesUrl (queryTolerant (regexSource path)) url = true) := by
  intro h
  have hsame := h "/users" "https://h/login" "next=/users" (by decide) (by decide)
  have hwith : matchesUrl (queryTolerant (regexSource "/users"))
      ("https://h/login" ++ "?" ++ "next=/users") = true := by decide
  have hwithout : matchesUrl (queryTolerant (regexSource "/users")) "https://h/login" = false := by
    decide
  rw [hsame.mp hwith] at hwithout
  cases hwithout

end ApiMocks.Path
