import ApiMocks.Proofs.FixtureUses
import ApiMocks.Proofs.GlobMatches

/-!
# Globs and requests with a query

A mock class has a glob and an expression, and the expression tolerates a query.
The glob of the class, which is also that of the route handlers, is never made to:
it has to match the whole URL.  So it matches every request that the expression
finds, but perhaps only without its query.  The query is matched too where the end
of the glob goes on with it, as a run of stars does with any text and a star alone
with text that has no slash.

* `unslashed_escapeSlashes`: what the literal of an expression stands for;
* `MockClass.finds`: whether the expression of a mock class finds a URL;
* `Glob.accepts_append`: a glob goes on with a text if its last piece does;
* `TakesQuery`: no query, or an end of the glob that goes on with it;
* `glob_covers_pattern`: the requests that the expression finds are matched by the
  glob, with their queries or without.
-/

namespace ApiMocks.Path

namespace Glob

variable {emptyStar : Bool} {p : Piece} {ps : List Piece} {text more : List Char}

/-- **Pieces go on with a text** if the last one does. -/
theorem accepts_append (hlast : ps.getLast? = some p)
    (hmore : ∀ u, p.Accepts emptyStar u → p.Accepts emptyStar (u ++ more))
    (h : Accepts emptyStar ps text) : Accepts emptyStar ps (text ++ more) := by
  induction ps generalizing text with
  | nil => cases hlast
  | cons q qs ih =>
      obtain ⟨u, v, rfl, hu, hv⟩ := h
      cases qs with
      | nil =>
          obtain rfl : q = p := by simpa using hlast
          obtain rfl : v = [] := hv
          rw [List.append_nil]
          exact ⟨u ++ more, [], (List.append_nil _).symm, hmore u hu, rfl⟩
      | cons q' qs =>
          rw [List.getLast?_cons_cons] at hlast
          exact ⟨u, v ++ more, List.append_assoc _ _ _, hu, ih hlast hv⟩

/-- A run of stars goes on with any text. -/
theorem accepts_append_stars (hlast : ps.getLast? = some .stars)
    (h : Accepts emptyStar ps text) : Accepts emptyStar ps (text ++ more) :=
  accepts_append hlast (fun _ _ => trivial) h

/-- A star alone goes on with a text that has no slash. -/
theorem accepts_append_star (hlast : ps.getLast? = some .star) (hmore : '/' ∉ more)
    (h : Accepts emptyStar ps text) : Accepts emptyStar ps (text ++ more) := by
  apply accepts_append hlast ?_ h
  intro u hu
  obtain ⟨hslash, hne⟩ := hu
  refine ⟨?_, fun hstar => ?_⟩
  · rw [List.mem_append, not_or]
    exact ⟨hslash, hmore⟩
  · exact List.append_ne_nil_of_left_ne_nil (hne hstar) more

end Glob

/-- The URL has no query, or the end of the glob goes on with it: it is a run of
stars, or a star alone and no slash comes behind a question mark. -/
def TakesQuery (glob url : String) : Prop :=
  '?' ∉ url.toList ∨
  (Glob.pieces glob.toList).getLast? = some .stars ∨
  (Glob.pieces glob.toList).getLast? = some .star ∧
    ∀ front line, url.toList = front ++ '?' :: line → '/' ∉ line

/-- A glob that matches the URL without its query matches the URL, if it takes the
query. -/
theorem TakesQuery.globMatches {emptyStar : Bool} {glob front rest : String}
    (htakes : TakesQuery glob (front ++ rest)) (hrest : Piece.query.Accepts rest.toList)
    (h : GlobMatches emptyStar glob front) : GlobMatches emptyStar glob (front ++ rest) := by
  obtain ⟨haccepts⟩ := h
  constructor
  rw [String.toList_append]
  rcases hrest with hnone | ⟨line, hline, _⟩
  · rw [hnone, List.append_nil]
    exact haccepts
  · have htext : (front ++ rest).toList = front.toList ++ '?' :: line := by
      rw [String.toList_append, hline]
    rcases htakes with hmark | hstars | ⟨hstar, hslash⟩
    · rw [htext] at hmark
      exact absurd (List.mem_append_right _ List.mem_cons_self) hmark
    · exact Glob.accepts_append_stars hstars haccepts
    · rw [hline]
      refine Glob.accepts_append_star hstar ?_ haccepts
      simpa using hslash _ _ htext

end ApiMocks.Path

namespace ApiMocks.Emit

open ApiMocks.Path

/-! ## The expression of a mock class -/

/-- The characters of an expression whose slashes are escaped. -/
def unslashedChars : List Char → List Char
  | '\\' :: '/' :: rest => '/' :: unslashedChars rest
  | c :: rest => c :: unslashedChars rest
  | [] => []

/-- The expression that stands between the slashes of a literal. -/
def unslashed (body : String) : String := String.ofList (unslashedChars body.toList)

/-- A character that no slash follows stands for itself. -/
theorem unslashedChars_cons {c : Char} {rest : List Char} (h : rest.head? ≠ some '/') :
    unslashedChars (c :: rest) = c :: unslashedChars rest := by
  rw [unslashedChars.eq_def]
  split
  · rename_i heq
    obtain ⟨_, rfl⟩ := List.cons.inj heq
    exact absurd rfl h
  · rename_i heq
    obtain ⟨rfl, rfl⟩ := List.cons.inj heq
    rfl
  · rename_i heq
    cases heq

/-- With its slashes escaped, no text begins with a slash. -/
theorem head?_slashed (text : List Char) : (text.flatMap slashedChar).head? ≠ some '/' := by
  cases text with
  | nil => simp
  | cons c text =>
      unfold slashedChar
      by_cases hc : c = '/'
      · simp [hc]
      · simp [hc]

/-- **What a literal stands for**: escaping slashes is undone. -/
theorem unslashed_escapeSlashes (s : String) : unslashed (escapeSlashes s) = s := by
  have hchars : ∀ text : List Char, unslashedChars (text.flatMap slashedChar) = text := by
    intro text
    induction text with
    | nil => rfl
    | cons c text ih =>
        rw [List.flatMap_cons, slashedChar]
        split
        · rename_i hc
          rw [hc]
          exact congrArg ('/' :: ·) ih
        · rw [List.singleton_append, unslashedChars_cons (head?_slashed text), ih]
  rw [unslashed, escapeSlashes, String.toList_ofList, hchars, String.ofList_toList]

/-- Whether the expression of a mock class is found in a URL. -/
def MockClass.finds (m : MockClass) (url : String) : Bool := matchesUrl (unslashed m.pattern) url

variable {c : Config} {op : Operation} {m : MockClass}

/-- The expression of a mock class is that of the path, made tolerant of a query. -/
theorem finds_eq (hm : m ∈ classCandidates c op) (url : String) :
    m.finds url = matchesUrl (queryTolerant (regexSource op.path)) url := by
  obtain ⟨_, _, rfl⟩ := List.mem_map.mp hm
  rw [MockClass.finds, regexBody, unslashed_escapeSlashes]

/-- Route handlers and mock classes of an operation have one glob. -/
theorem glob_eq_of_route {h : Handler} (hh : h ∈ routeCandidates c op)
    (hm : m ∈ classCandidates c op) : h.glob = m.glob := by
  obtain ⟨_, _, rfl⟩ := List.mem_map.mp hm
  rcases mem_routeCandidates.mp hh with rfl | ⟨_, r, _, hcandidate⟩
  · rfl
  · obtain ⟨_, _, rfl⟩ := errorCandidate?_eq_some hcandidate
    rfl

/-- **What a mock class intercepts.**  Let globs begin with `**`, and let a star stand
for any text within a segment, also for none.  Every mock class comes from an
operation, and its glob is that of the route handlers of the operation.  It matches
every request that the expression of the class finds, with its query or without;
and with its query if there is none, or if the end of the glob goes on with it. -/
theorem glob_covers_pattern (c : Config) (hbase : c.baseUrlPattern = "**")
    (ops : List Operation) (m : MockClass) (hm : m ∈ (mockClassesModule c ops).value.classes) :
    ∃ op ∈ ops, m ∈ classCandidates c op ∧ (∀ h ∈ routeCandidates c op, h.glob = m.glob) ∧
      ∀ url, m.finds url = true →
        (∃ front rest, url = front ++ rest ∧ Piece.query.Accepts rest.toList ∧
          GlobMatches true m.glob front) ∧
        (TakesQuery m.glob url → GlobMatches true m.glob url) := by
  obtain ⟨op, hop, hclass⟩ := List.mem_flatMap.mp (mem_of_mem_firsts hm)
  refine ⟨op, hop, hclass, fun h hh => glob_eq_of_route hh hclass, ?_⟩
  intro url hfinds
  have hglob : m.glob = glob op.path "**" := by
    obtain ⟨_, _, rfl⟩ := List.mem_map.mp hclass
    rw [hbase]
  rw [finds_eq hclass, matchesUrl_queryTolerant] at hfinds
  obtain ⟨front, rest, htext, hrest, hfound⟩ := hfinds
  obtain rfl : url = String.ofList front ++ String.ofList rest := by
    rw [← String.ofList_append, ← htext, String.ofList_toList]
  have hquery : Piece.query.Accepts (String.ofList rest).toList := by
    rwa [String.toList_ofList]
  have hmatches : GlobMatches true m.glob (String.ofList front) := by
    rw [hglob]
    exact globMatches_of_find? (by rwa [String.toList_ofList])
  exact ⟨⟨_, _, rfl, hquery, hmatches⟩, fun htakes => htakes.globMatches hquery hmatches⟩

/-- An operation on a path that ends in literal text. -/
def listUsers : Operation where
  id := "listUsers"
  method := .get
  path := "/users"
  responses := [{ status := 200, schemaName := "Users" }]

/-- Its mock class. -/
def listUsersMock : MockClass where
  name := "ListUsersMock"
  method := .get
  glob := "**/users"
  pattern := "\\/users(\\?.*)?$"
  status := 200
  schema := "Users"
  fixture := "listUsersResponse"

/-- A page of the list is found, and matched without its query. -/
theorem glob_covers_users :
    listUsersMock ∈ (mockClassesModule { baseUrlPattern := "**" } [listUsers]).value.classes ∧
    listUsersMock.finds "h/users" = true ∧ TakesQuery listUsersMock.glob "h/users" ∧
    GlobMatches true listUsersMock.glob "h/users" := by
  have hclass : listUsersMock ∈
      (mockClassesModule { baseUrlPattern := "**" } [listUsers]).value.classes := by decide
  have hfound : listUsersMock.finds "h/users" = true := by decide
  have htakes : TakesQuery listUsersMock.glob "h/users" := .inl (by decide)
  obtain ⟨_, _, _, _, hcovers⟩ := glob_covers_pattern _ rfl _ _ hclass
  exact ⟨hclass, hfound, htakes, (hcovers _ hfound).2 htakes⟩

/-- But with its query it is not matched: the glob can miss a request that the
expression finds. -/
theorem not_glob_covers_query :
    ¬ ∀ (c : Config) (ops : List Operation) (m : MockClass) (url : String),
      c.baseUrlPattern = "**" → m ∈ (mockClassesModule c ops).value.classes →
        m.finds url = true → GlobMatches true m.glob url := by
  intro h
  have hmatches := h { baseUrlPattern := "**" } [listUsers] listUsersMock
    "https://h/users?page=2" rfl (by decide) (by decide)
  exact absurd hmatches (by decide)

end ApiMocks.Emit
