import ApiMocks.Path.Pattern

/-!
# The notation of URL expressions

An expression and its notation determine each other: whatever characters a
literal text has, its notation is read back as these characters, never as a
group or as the end of the URL.

* `UrlRegex.read?_source`: reading the notation gives back the expression;
* `read?_regexSource`: in particular for the expression of a template;
* `groups_regex`: it has one capturing group for each placeholder.
-/

namespace ApiMocks.Path

namespace UrlRegex

/-- The notation of an expression starts with that of its first piece. -/
theorem source_cons (p : Piece) (r : UrlRegex) : source (p :: r) = p.source ++ r.source := by
  simp [source]

theorem source_char (c : Char) :
    (Piece.char c).source = if c ∈ metacharacters then ['\\', c] else [c] := rfl

theorem read?_escaped {c : Char} (hc : c ∈ metacharacters) (rest : List Char) :
    read? ('\\' :: c :: rest) = (read? rest).map (.char c :: ·) := by
  rw [read?.eq_def]
  simp [hc]

/-- A character that needs no backslash starts no group and is no end anchor. -/
theorem read?_plain {c : Char} (hc : c ∉ metacharacters) (rest : List Char) :
    read? (c :: rest) = (read? rest).map (.char c :: ·) := by
  rw [read?.eq_def]
  split <;> simp_all [metacharacters]

/-- Reading the notation of a piece leaves what is behind it to be read. -/
theorem read?_piece (p : Piece) (rest : List Char) :
    read? (p.source ++ rest) = (read? rest).map (p :: ·) := by
  cases p with
  | char c =>
      by_cases hc : c ∈ metacharacters
      · rw [source_char, if_pos hc, List.cons_append, List.singleton_append]
        exact read?_escaped hc rest
      · rw [source_char, if_neg hc, List.singleton_append]
        exact read?_plain hc rest
  | segment => rfl
  | query => rfl

/-- **Round trip.**  Reading the notation gives back the expression. -/
theorem read?_source (r : UrlRegex) : read? r.source = some r := by
  induction r with
  | nil => rfl
  | cons p r ih => rw [source_cons, read?_piece, ih]; rfl

theorem groups_append (r s : UrlRegex) : groups (r ++ s) = r.groups + s.groups :=
  List.countP_append

end UrlRegex

/-- The notation of a template is read as its expression. -/
theorem read?_regexSource (path : String) :
    UrlRegex.read? (regexSource path).toList = some (regex path) := by
  rw [regexSource, String.toList_ofList]
  exact UrlRegex.read?_source (regex path)

/-! ## Placeholders and groups -/

theorem length_params (path : String) :
    (params path).length = ((tokens path.toList).filterMap Token.name?).length := by
  rw [params, ← List.length_map String.ofList, List.map_filterMap]

/-- A literal text adds no name, and a placeholder adds one. -/
theorem length_names_cons (t : Token) (ts : List Token) :
    ((t :: ts).filterMap Token.name?).length =
      t.name?.toList.length + (ts.filterMap Token.name?).length := by
  cases t with
  | literal text => exact (Nat.zero_add _).symm
  | param name => exact Nat.add_comm _ 1

/-- A literal text has no group, and a placeholder has one. -/
theorem groups_pieces (t : Token) : UrlRegex.groups t.pieces = t.name?.toList.length := by
  cases t with
  | literal text =>
      rw [Token.pieces, UrlRegex.groups, List.countP_map]
      exact List.countP_eq_zero.mpr fun c _ => by simp [Piece.isGroup]
  | param name => rfl

/-- **One group for each placeholder.** -/
theorem groups_regex (path : String) : (regex path).groups = (params path).length := by
  rw [regex, length_params]
  induction tokens path.toList with
  | nil => rfl
  | cons t ts ih =>
      rw [List.flatMap_cons, UrlRegex.groups_append, groups_pieces, ih, length_names_cons]

end ApiMocks.Path
