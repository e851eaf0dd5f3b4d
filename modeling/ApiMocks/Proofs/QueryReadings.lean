import ApiMocks.Proofs.PathBindings
import ApiMocks.Proofs.QueryTolerance

/-!
# What a query-tolerant expression finds

An expression is made tolerant of a query by an edit of its notation: the end anchor
gives way to the optional query group and a new end anchor.  The notation of a template
ends in its end anchor, whatever its literal text ends in, for a dollar sign, a question
mark or a backslash of the literal text has a backslash in front of it.  So the edit
means what it says.

* `queryTolerant_regexSource`: the edit of the notation;
* `matchesUrl_iff_reads`: an expression finds the URLs that end in the filled-in template;
* `finds_with_query_iff`: made tolerant, it finds those that go on with a query, too.
-/

namespace ApiMocks.Path

variable {path url : String}

/-- The edit of the notation of a template. -/
theorem queryTolerant_regexSource (path : String) :
    ∃ body, regexSource path = body ++ "$" ∧
      queryTolerant (regexSource path) = body ++ "(\\?.*)?$" := by
  refine ⟨String.ofList ((regex path).flatMap Piece.source), ?_, ?_⟩
  · rw [regexSource, UrlRegex.source, String.ofList_append]
  · rw [regexSource, UrlRegex.source, queryTolerant_anchored, List.append_assoc,
      String.ofList_append]
    rfl

/-- A URL in which the expression is found ends in the filled-in template. -/
theorem matchesUrl_iff_reads :
    matchesUrl (regexSource path) url = true ↔ ∃ lead values, Reads path url lead values := by
  rw [matchesUrl_regexSource, UrlRegex.find?_isSome_iff, exists_reads_iff]

/-- Nothing, or a question mark and text of the same line. -/
def IsQuery (rest : String) : Prop := rest = "" ∨ ∃ line, rest = "?" ++ line ∧ '\n' ∉ line.toList

theorem query_accepts_iff {rest : String} : Piece.query.Accepts rest.toList ↔ IsQuery rest := by
  constructor
  · intro h
    rcases h with hnone | ⟨line, hline, hfree⟩
    · exact .inl (by simpa using hnone)
    · refine .inr ⟨String.ofList line, ?_, by rwa [String.toList_ofList]⟩
      rw [← String.toList_inj, hline]
      simp
  · intro h
    rcases h with rfl | ⟨line, rfl, hfree⟩
    · exact .inl rfl
    · exact .inr ⟨line.toList, by simp, hfree⟩

theorem matchesUrl_queryTolerant_iff :
    matchesUrl (queryTolerant (regexSource path)) url = true ↔
      ∃ front rest, url = front ++ rest ∧ matchesUrl (regexSource path) front = true ∧
        IsQuery rest := by
  simp only [matchesUrl_queryTolerant, ← query_accepts_iff, matchesUrl_regexSource]
  constructor
  · intro h
    obtain ⟨front, rest, htext, hrest, hfront⟩ := h
    refine ⟨String.ofList front, String.ofList rest, ?_, ?_, ?_⟩
    · rw [← String.ofList_append, ← htext, String.ofList_toList]
    · rwa [String.toList_ofList]
    · rwa [String.toList_ofList]
  · intro h
    obtain ⟨front, rest, rfl, hfront, hrest⟩ := h
    exact ⟨front.toList, rest.toList, String.toList_append, hrest, hfront⟩

/-- **What the tolerant expression finds.**  Its notation is that of the template with
the end anchor edited, and is read as the expression of the template and a query.  It
is found exactly in the URLs that have a query, or nothing, behind a front in which the
expression of the template is found, which is to say behind a front that ends in the
filled-in template; in particular in every URL in which that expression is found. -/
theorem finds_with_query_iff (path : String) :
    (∃ body, regexSource path = body ++ "$" ∧
      queryTolerant (regexSource path) = body ++ "(\\?.*)?$") ∧
    UrlRegex.read? (regexSource path).toList = some (regex path) ∧
    UrlRegex.read? (queryTolerant (regexSource path)).toList = some (regex path ++ [.query]) ∧
    ∀ url : String,
      (matchesUrl (queryTolerant (regexSource path)) url = true ↔
        ∃ front rest, url = front ++ rest ∧ matchesUrl (regexSource path) front = true ∧
          IsQuery rest) ∧
      (matchesUrl (queryTolerant (regexSource path)) url = true ↔
        ∃ front rest lead values, url = front ++ rest ∧ Reads path front lead values ∧
          IsQuery rest) ∧
      (matchesUrl (regexSource path) url = true →
        matchesUrl (queryTolerant (regexSource path)) url = true) := by
  refine ⟨queryTolerant_regexSource path, read?_regexSource path, read?_queryTolerant path, ?_⟩
  intro url
  refine ⟨matchesUrl_queryTolerant_iff, ?_, ?_⟩
  · simp only [matchesUrl_queryTolerant_iff, matchesUrl_iff_reads]
    constructor
    · intro h
      obtain ⟨front, rest, htext, ⟨lead, values, hreads⟩, hrest⟩ := h
      exact ⟨front, rest, lead, values, htext, hreads, hrest⟩
    · intro h
      obtain ⟨front, rest, lead, values, htext, hreads, hrest⟩ := h
      exact ⟨front, rest, htext, ⟨lead, values, hreads⟩, hrest⟩
  · intro hurl
    exact matchesUrl_queryTolerant_iff.mpr ⟨url, "", String.append_empty.symm, hurl, .inl rfl⟩

/-- The literal text may end in a character that the edit is about. -/
example : matchesUrl (queryTolerant (regexSource "/a$")) "h/a$?b" = true ∧
    matchesUrl (queryTolerant (regexSource "/a?")) "h/a??b" = true ∧
    matchesUrl (queryTolerant (regexSource "/a\\")) "h/a\\?b" = true := by decide

end ApiMocks.Path
