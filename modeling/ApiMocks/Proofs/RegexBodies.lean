import ApiMocks.Proofs.EscapedTexts
import ApiMocks.Proofs.GlobQueries
import Mathlib.Algebra.Ring.Parity
import Mathlib.Data.List.DropRight

/-!
# What stands between the slashes

The expression of a path is written twice over: its literal characters get backslashes
for the notation of expressions, and then every slash gets one for the literal.  The
two do not disturb each other.  The first writes backslashes in pairs wherever the path
has one, so a slash finds an even run of them in front of it, and the second makes the
run odd.  Odd runs are the ones that escape.

* `backslashRun`: the backslashes at the end of a text;
* `dangling_mem_iff_odd`: a text leaves a backslash over exactly if they are odd;
* `Piece.marks`, `readMarks_regexBody`: what the characters of a literal mean;
* `unslashed_eq_replaceText`: escaping slashes is undone by replacing;
* `regexBody_delimited`: a literal ends at its own closing slash.
-/

namespace ApiMocks.Emit

open ApiMocks.Path

/-! ## Runs of backslashes -/

/-- How many backslashes a text ends in. -/
def backslashRun (text : List Char) : Nat := (text.rtakeWhile (· = '\\')).length

variable {c : Char} {text front rest : List Char}

/-- A backslash is left over if it is the last character and none was before. -/
theorem dangling_mem_concat_iff :
    Mark.dangling ∈ readMarks (text ++ [c]) ↔ c = '\\' ∧ Mark.dangling ∉ readMarks text := by
  fun_induction readMarks text with
  | case1 =>
      by_cases hc : c = '\\'
      · simp [hc, readMarks]
      · simp [hc, readMarks]
  | case2 =>
      rw [List.singleton_append, readMarks_escape]
      simp [readMarks]
  | case3 d text ih =>
      rw [List.cons_append, List.cons_append, readMarks_escape]
      simp [ih]
  | case4 d text hd ih =>
      rw [List.cons_append, readMarks_cons hd]
      simp [ih]

theorem backslashRun_concat :
    backslashRun (text ++ [c]) = if c = '\\' then backslashRun text + 1 else 0 := by
  unfold backslashRun
  by_cases hc : c = '\\'
  · rw [if_pos hc, List.rtakeWhile_concat_pos, List.length_append, List.length_singleton]
    exact decide_eq_true hc
  · rw [if_neg hc, List.rtakeWhile_concat_neg, List.length_nil]
    simpa using hc

/-- **Parity.**  A backslash is left over exactly if the text ends in an odd run. -/
theorem dangling_mem_iff_odd : Mark.dangling ∈ readMarks text ↔ Odd (backslashRun text) := by
  induction text using List.reverseRecOn with
  | nil => decide
  | append_singleton text c ih =>
      rw [dangling_mem_concat_iff, ih, backslashRun_concat]
      by_cases hc : c = '\\'
      · rw [if_pos hc, Nat.odd_add_one]
        exact and_iff_right hc
      · rw [if_neg hc]
        simp [hc]

/-- So a character that is never plain always has an odd run in front of it. -/
theorem odd_backslashRun (hc : c ≠ '\\') (hplain : .plain c ∉ readMarks text)
    (htext : text = front ++ c :: rest) : Odd (backslashRun front) := by
  rw [← dangling_mem_iff_odd]
  by_contra hdangling
  rw [htext, readMarks_append hdangling, readMarks_cons hc] at hplain
  exact hplain (List.mem_append_right _ List.mem_cons_self)

/-! ## What the characters of a literal mean -/

/-- What the characters of a piece mean in a literal. -/
def pieceMarks : Piece → List Mark
  | .char c => if c ∈ metacharacters ∨ c = '/' then [.escaped c] else [.plain c]
  | .segment =>
    [.plain '(', .plain '[', .plain '^', .escaped '/', .plain ']', .plain '+', .plain ')']
  | .query => [.plain '(', .escaped '?', .plain '.', .plain '*', .plain ')', .plain '?']

variable {m : Mark} {p : Piece} {path : String}

theorem pieceMarks_char (c : Char) :
    pieceMarks (.char c) = if c ∈ metacharacters ∨ c = '/' then [.escaped c] else [.plain c] :=
  rfl

theorem readMarks_piece (p : Piece) :
    readMarks (p.source.flatMap slashedChar) = pieceMarks p := by
  cases p with
  | segment =>
      have hsource : Piece.segment.source = ['(', '[', '^', '/', ']', '+', ')'] := rfl
      simp [hsource, pieceMarks, slashedChar, readMarks]
  | query =>
      have hsource : Piece.query.source = ['(', '\\', '?', '.', '*', ')', '?'] := rfl
      simp [hsource, pieceMarks, slashedChar, readMarks]
  | char c =>
      rw [UrlRegex.source_char, pieceMarks_char]
      by_cases hmeta : c ∈ metacharacters
      · have hslash : c ≠ '/' := fun heq => absurd (heq ▸ hmeta) (by decide)
        rw [if_pos hmeta, if_pos (.inl hmeta)]
        simp [slashedChar, hslash, readMarks]
      · rw [if_neg hmeta]
        by_cases hslash : c = '/'
        · rw [if_pos (.inr hslash), hslash]
          decide
        · have hback : c ≠ '\\' := fun heq => hmeta (heq ▸ by decide)
          rw [if_neg (not_or.mpr ⟨hmeta, hslash⟩)]
          simp [slashedChar, hslash, readMarks_cons hback, readMarks]

/-- The slash is never plain, and no piece leaves a backslash over. -/
theorem ne_of_mem_pieceMarks (hm : m ∈ pieceMarks p) : m ≠ .plain '/' ∧ m ≠ .dangling := by
  cases p with
  | segment =>
      have hall : ∀ m ∈ pieceMarks .segment, m ≠ .plain '/' ∧ m ≠ .dangling := by decide
      exact hall m hm
  | query =>
      have hall : ∀ m ∈ pieceMarks .query, m ≠ .plain '/' ∧ m ≠ .dangling := by decide
      exact hall m hm
  | char c =>
      rw [pieceMarks_char] at hm
      split at hm
      · obtain rfl := List.mem_singleton.mp hm
        exact ⟨nofun, nofun⟩
      · rename_i hplain
        obtain rfl := List.mem_singleton.mp hm
        exact ⟨fun heq => hplain (.inr (Mark.plain.inj heq)), nofun⟩

/-- The notation of an expression is read piece by piece. -/
theorem readMarks_source (r : UrlRegex) :
    readMarks (r.source.flatMap slashedChar) = r.flatMap pieceMarks ++ [.plain '$'] := by
  induction r with
  | nil => decide
  | cons p r ih =>
      have hdangling : Mark.dangling ∉ readMarks (p.source.flatMap slashedChar) := by
        rw [readMarks_piece]
        exact fun hm => (ne_of_mem_pieceMarks hm).2 rfl
      rw [UrlRegex.source_cons, List.flatMap_append, readMarks_append hdangling,
        readMarks_piece, ih, List.flatMap_cons, List.append_assoc]

theorem toList_queryTolerant (path : String) :
    (queryTolerant (regexSource path)).toList = UrlRegex.source (regex path ++ [Piece.query]) := by
  rw [regexSource, UrlRegex.source, queryTolerant_anchored, String.toList_ofList,
    UrlRegex.source, List.flatMap_append, List.flatMap_singleton]

theorem toList_regexBody (path : String) :
    (regexBody path).toList =
      (UrlRegex.source (regex path ++ [Piece.query])).flatMap slashedChar := by
  rw [regexBody, escapeSlashes, String.toList_ofList, toList_queryTolerant]

/-- **The characters of a literal.** -/
theorem readMarks_regexBody (path : String) :
    readMarks (regexBody path).toList =
      (regex path ++ [Piece.query]).flatMap pieceMarks ++ [.plain '$'] := by
  rw [toList_regexBody, readMarks_source]

theorem ne_of_mem_regexBody (hm : m ∈ readMarks (regexBody path).toList) :
    m ≠ .plain '/' ∧ m ≠ .dangling := by
  rw [readMarks_regexBody] at hm
  rcases List.mem_append.mp hm with hpieces | hend
  · obtain ⟨p, -, hm⟩ := List.mem_flatMap.mp hpieces
    exact ne_of_mem_pieceMarks hm
  · obtain rfl := List.mem_singleton.mp hend
    decide

/-- A piece begins with a backslash, or with a character that needs none. -/
theorem exists_source_eq_cons (p : Piece) :
    ∃ c rest, p.source.flatMap slashedChar = c :: rest ∧ c ≠ '*' ∧ c ≠ '/' := by
  cases p with
  | segment => exact ⟨'(', _, rfl, by decide⟩
  | query => exact ⟨'(', _, rfl, by decide⟩
  | char c =>
      rw [UrlRegex.source_char]
      by_cases hmeta : c ∈ metacharacters
      · rw [if_pos hmeta]
        exact ⟨'\\', _, rfl, by decide⟩
      · rw [if_neg hmeta, List.flatMap_singleton, slashedChar]
        by_cases hslash : c = '/'
        · rw [if_pos hslash]
          exact ⟨'\\', _, rfl, by decide⟩
        · rw [if_neg hslash]
          exact ⟨c, [], rfl, fun heq => hmeta (heq ▸ by decide), hslash⟩

/-- A literal is not empty, and begins no comment. -/
theorem exists_regexBody_eq_cons (path : String) :
    ∃ c rest, (regexBody path).toList = c :: rest ∧ c ≠ '*' ∧ c ≠ '/' := by
  obtain ⟨p, ps, hpieces⟩ := List.exists_cons_of_ne_nil
    (List.append_ne_nil_of_right_ne_nil (regex path) (List.cons_ne_nil Piece.query []))
  obtain ⟨c, rest, hp, hc⟩ := exists_source_eq_cons p
  rw [toList_regexBody, hpieces, UrlRegex.source_cons, List.flatMap_append, hp,
    List.cons_append]
  exact ⟨c, _, rfl, hc⟩

/-! ## Escaping slashes is undone -/

/-- What a literal stands for has `/` for every `\/`, replaced from left to right. -/
theorem unslashed_eq_replaceText (body : String) :
    unslashed body = replaceText "\\/" "/" body := by
  have hchars : ∀ text : List Char,
      unslashedChars text = replaceChars ['\\', '/'] ['/'] text := by
    intro text
    fun_induction unslashedChars text with
    | case1 rest ih =>
        have hprefix : ['\\', '/'].isPrefixOf ('\\' :: '/' :: rest) = true := rfl
        rw [replaceChars_cons, if_pos hprefix, ih]
        rfl
    | case2 c rest hc ih =>
        have hother : ¬ ['\\', '/'].isPrefixOf (c :: rest) = true := by
          intro hprefix
          obtain ⟨tail, htail⟩ := List.isPrefixOf_iff_prefix.mp hprefix
          obtain ⟨rfl, rfl⟩ := List.cons.inj htail
          exact hc _ rfl rfl
        rw [replaceChars_cons, if_neg hother, ih]
    | case3 => rw [replaceChars]
  rw [unslashed, replaceText, hchars]
  rfl

/-- **A literal ends at its own closing slash.**  Whatever the path, every slash between
the delimiters has an odd run of backslashes in front of it, so read from left to right
it is escaped, and the slash that is put behind is where the literal ends.  With `/` for
every `\/` it is the expression of the path, made tolerant of a query.  It is not empty,
and with its opening slash it begins no comment. -/
theorem regexBody_delimited (path : String) :
    (∀ front rest, (regexBody path).toList = front ++ '/' :: rest → Odd (backslashRun front)) ∧
    (∀ rest, readTo '/' ((regexBody path).toList ++ '/' :: rest) =
      some ((regexBody path).toList, rest)) ∧
    replaceText "\\/" "/" (regexBody path) = queryTolerant (regexSource path) ∧
    ∃ c rest, (regexBody path).toList = c :: rest ∧ c ≠ '*' ∧ c ≠ '/' := by
  have hplain : Mark.plain '/' ∉ readMarks (regexBody path).toList :=
    fun hm => (ne_of_mem_regexBody hm).1 rfl
  have hdangling : Mark.dangling ∉ readMarks (regexBody path).toList :=
    fun hm => (ne_of_mem_regexBody hm).2 rfl
  refine ⟨?_, ?_, ?_, exists_regexBody_eq_cons path⟩
  · intro front rest hsplit
    exact odd_backslashRun (by decide) hplain hsplit
  · intro rest
    exact readTo_delimiter (by decide) hplain hdangling
  · rw [← unslashed_eq_replaceText, regexBody, unslashed_escapeSlashes]

/-- A backslash in front of a slash: two for the backslash, one for the slash. -/
theorem odd_backslashRun_slash :
    (regexBody "a\\/").toList = "a\\\\\\".toList ++ '/' :: "(\\?.*)?$".toList ∧
    backslashRun "a\\\\\\".toList = 3 ∧ Odd (backslashRun "a\\\\\\".toList) := by
  have hsplit : (regexBody "a\\/").toList =
      "a\\\\\\".toList ++ '/' :: "(\\?.*)?$".toList := by decide
  exact ⟨hsplit, by decide, (regexBody_delimited "a\\/").1 _ _ hsplit⟩

end ApiMocks.Emit
