import ApiMocks.Proofs.PathWildcards
import ApiMocks.Proofs.RegexBodies

/-!
# Literals on one line

A literal of the generated code is one token if its delimiters and backslashes are in
order and no line ends within it.  The first half is what escaping takes care of, and
always does.  The second half nothing takes care of: line ends have no escaped form
here, so they come into a literal wherever the text has them.

* `LiteralKind`, `Literal`: string literals and literals of expressions;
* `Literal.OneLine`, `Literal.IsToken`: no line ends within it, and it is one token;
* `isToken_ofText_iff`, `isToken_ofPath_iff`: line ends are all that can be wrong;
* `oneLine_ofText_iff`, `oneLine_ofPath_iff`, `oneLine_glob_iff`: where they come from.
-/

namespace ApiMocks.Emit

open ApiMocks.Path

/-! ## Literals -/

/-- The kinds of literals that have escaped text in them. -/
inductive LiteralKind
  /-- between single quotes -/
  | string
  /-- between slashes -/
  | regex
  deriving DecidableEq, Repr

namespace LiteralKind

/-- What stands in front of a literal and behind it. -/
def delimiter : LiteralKind → Char
  | string => '\''
  | regex => '/'

/-- The characters that end a line of this kind of literal.  A string may have the line
and paragraph separators U+2028 and U+2029 in it. -/
def lineEnds : LiteralKind → List Char
  | string => ['\n', '\r']
  | regex => ['\n', '\r', '\u2028', '\u2029']

end LiteralKind

/-- The text has none of these characters. -/
def Without (chars text : List Char) : Prop := ∀ c ∈ text, c ∉ chars

instance (chars text : List Char) : Decidable (Without chars text) :=
  List.decidableBAll _ text

/-- A literal, with what stands between its delimiters. -/
structure Literal where
  kind : LiteralKind
  body : String
  deriving DecidableEq, Repr

/-- What is in order with a character that is read: a backslash escapes something, and
no letter or digit, for these have meanings of their own behind it. -/
def Mark.IsSound : Mark → Prop
  | plain _ => True
  | escaped c => c.isAlphanum = false
  | dangling => False

/-- Whether an expression has no plain slash but in its classes, and its classes are
closed. -/
def closesClasses (inClass : Bool) : List Mark → Bool
  | [] => !inClass
  | m :: ms =>
    if m = .plain '[' then closesClasses true ms
    else if m = .plain ']' then closesClasses false ms
    else (inClass || m ≠ .plain '/') && closesClasses inClass ms

namespace Literal

/-- The string literal with this value. -/
def ofText (s : String) : Literal := ⟨.string, escapeQuoted s⟩

/-- The literal of the expression of a path. -/
def ofPath (path : String) : Literal := ⟨.regex, regexBody path⟩

/-- The literal with its delimiters. -/
def text (l : Literal) : String :=
  match l.kind with
  | .string => "'" ++ l.body ++ "'"
  | .regex => "/" ++ l.body ++ "/"

/-- No line ends within the literal. -/
def OneLine (l : Literal) : Prop := Without l.kind.lineEnds l.body.toList

instance (l : Literal) : Decidable l.OneLine :=
  inferInstanceAs (Decidable (Without l.kind.lineEnds l.body.toList))

/-- The literal ends at its second delimiter, and no comment begins at its first one. -/
def IsDelimited (l : Literal) : Prop :=
  match l.kind with
  | .string => .plain '\'' ∉ readMarks l.body.toList
  | .regex => closesClasses false (readMarks l.body.toList) = true ∧
      ∃ c rest, l.body.toList = c :: rest ∧ c ≠ '*' ∧ c ≠ '/'

/-- The literal is one token. -/
structure IsToken (l : Literal) : Prop where
  delimited : l.IsDelimited
  sound : ∀ m ∈ readMarks l.body.toList, m.IsSound
  oneLine : l.OneLine

end Literal

variable {c : Char} {s path base : String} {m : Mark} {ms : List Mark}

/-! ## Delimiters and backslashes are in order -/

theorem isSound_quotedMark (c : Char) : (quotedMark c).IsSound := by
  unfold quotedMark
  split
  · rename_i hspecial
    rcases hspecial with rfl | rfl <;> rfl
  · trivial

/-- A string literal is one token exactly if no line ends in it. -/
theorem isToken_ofText_iff (s : String) :
    (Literal.ofText s).IsToken ↔ (Literal.ofText s).OneLine := by
  refine ⟨fun h => h.oneLine, fun h => ⟨plain_quote_not_mem s, ?_, h⟩⟩
  intro m hm
  rw [Literal.ofText, readMarks_escapeQuoted] at hm
  obtain ⟨c, -, rfl⟩ := List.mem_map.mp hm
  exact isSound_quotedMark c

/-- Of the characters of an expression only those that need no backslash are plain. -/
theorem isSound_of_mem_pieceMarks {p : Piece} (hm : m ∈ pieceMarks p) : m.IsSound := by
  have hmeta : ∀ c ∈ metacharacters, c.isAlphanum = false := by simp [metacharacters]
  cases p with
  | segment =>
      simp only [pieceMarks, List.mem_cons, List.not_mem_nil, or_false] at hm
      rcases hm with rfl | rfl | rfl | rfl | rfl | rfl | rfl <;> simp [Mark.IsSound]
  | query =>
      simp only [pieceMarks, List.mem_cons, List.not_mem_nil, or_false] at hm
      rcases hm with rfl | rfl | rfl | rfl | rfl | rfl <;> simp [Mark.IsSound]
  | char c =>
      rw [pieceMarks_char] at hm
      split at hm
      · rename_i hspecial
        obtain rfl := List.mem_singleton.mp hm
        rcases hspecial with hspecial | rfl
        · exact hmeta c hspecial
        · rfl
      · obtain rfl := List.mem_singleton.mp hm
        trivial

/-- The class of a segment is closed, and no other piece has a plain bracket. -/
theorem closesClasses_pieceMarks (p : Piece) (ms : List Mark) :
    closesClasses false (pieceMarks p ++ ms) = closesClasses false ms := by
  cases p with
  | segment => simp [pieceMarks, closesClasses]
  | query => simp [pieceMarks, closesClasses]
  | char c =>
      rw [pieceMarks_char]
      split
      · simp [closesClasses]
      · rename_i hplain
        have hopening : c ≠ '[' := fun heq => hplain (.inl (heq ▸ by decide))
        have hclosing : c ≠ ']' := fun heq => hplain (.inl (heq ▸ by decide))
        have hslash : c ≠ '/' := fun heq => hplain (.inr heq)
        simp [closesClasses, hopening, hclosing, hslash]

theorem closesClasses_flatMap (r : UrlRegex) (ms : List Mark) :
    closesClasses false (r.flatMap pieceMarks ++ ms) = closesClasses false ms := by
  induction r with
  | nil => rfl
  | cons p r ih => rw [List.flatMap_cons, List.append_assoc, closesClasses_pieceMarks, ih]

/-- The literal of an expression is one token exactly if no line ends in it. -/
theorem isToken_ofPath_iff (path : String) :
    (Literal.ofPath path).IsToken ↔ (Literal.ofPath path).OneLine := by
  refine ⟨fun h => h.oneLine, fun h => ⟨⟨?_, exists_regexBody_eq_cons path⟩, ?_, h⟩⟩
  · rw [Literal.ofPath, readMarks_regexBody, closesClasses_flatMap]
    rfl
  · intro m hm
    rw [Literal.ofPath, readMarks_regexBody] at hm
    rcases List.mem_append.mp hm with hpieces | hend
    · obtain ⟨p, -, hm⟩ := List.mem_flatMap.mp hpieces
      exact isSound_of_mem_pieceMarks hm
    · obtain rfl := List.mem_singleton.mp hend
      trivial

/-! ## Where line ends come from -/

/-- Two texts with the same of these characters are both without them or neither. -/
theorem without_congr {chars text text' : List Char}
    (h : ∀ c ∈ chars, c ∈ text ↔ c ∈ text') : Without chars text ↔ Without chars text' := by
  constructor
  · intro hwithout c hc hend
    exact hwithout c ((h c hend).mpr hc) hend
  · intro hwithout c hc hend
    exact hwithout c ((h c hend).mp hc) hend

theorem without_append_iff {chars text text' : List Char} :
    Without chars (text ++ text') ↔ Without chars text ∧ Without chars text' :=
  List.forall_mem_append

/-- A character that escaping does not put there comes from the text. -/
theorem mem_escapeQuoted_iff (hc : c ≠ '\\') : c ∈ (escapeQuoted s).toList ↔ c ∈ s.toList := by
  rw [escapeQuoted, String.toList_ofList, List.mem_flatMap]
  constructor
  · intro h
    obtain ⟨d, hd, hmem⟩ := h
    unfold quotedChar at hmem
    split at hmem
    · rcases List.mem_pair.mp hmem with heq | rfl
      · exact absurd heq hc
      · exact hd
    · obtain rfl := List.mem_singleton.mp hmem
      exact hd
  · intro h
    refine ⟨c, h, ?_⟩
    unfold quotedChar
    split <;> simp

theorem oneLine_ofText_iff :
    (Literal.ofText s).OneLine ↔ Without LiteralKind.string.lineEnds s.toList := by
  apply without_congr
  intro c hend
  have hback : '\\' ∉ LiteralKind.string.lineEnds := by decide
  exact mem_escapeQuoted_iff fun heq => hback (heq ▸ hend)

/-- The characters of a glob are those of the base and of the literal text, and stars. -/
theorem mem_glob_iff (hc : c ≠ '*') :
    c ∈ (glob path base).toList ↔ c ∈ base.toList ++ literalText path := by
  have htoken : ∀ t : Token, c ∈ t.glob ↔ c ∈ t.plain := by
    intro t
    cases t with
    | literal text => exact Iff.rfl
    | param name => simp [Token.glob, Token.plain, hc]
  rw [toList_glob, List.mem_append, List.mem_append, literalText, List.mem_flatMap,
    List.mem_flatMap]
  simp only [htoken]

/-- **The literal of a glob** has line ends where the base or the literal text does. -/
theorem oneLine_glob_iff :
    (Literal.ofText (glob path base)).OneLine ↔
      Without LiteralKind.string.lineEnds base.toList ∧
        Without LiteralKind.string.lineEnds (literalText path) := by
  rw [oneLine_ofText_iff, ← without_append_iff]
  apply without_congr
  intro c hend
  have hstar : '*' ∉ LiteralKind.string.lineEnds := by decide
  exact mem_glob_iff fun heq => hstar (heq ▸ hend)

/-- What the notation of an expression has beside the characters of the literal text. -/
def notationChars : List Char := ['\\', '(', '[', '^', '/', ']', '+', ')', '?', '.', '*', '$']

theorem mem_pieceSource_iff {p : Piece} (hc : c ∉ notationChars) :
    c ∈ p.source ↔ p = .char c := by
  cases p with
  | segment =>
      have hall : Piece.segment.source ⊆ notationChars := by decide
      exact iff_of_false (fun hmem => hc (hall hmem)) nofun
  | query =>
      have hall : Piece.query.source ⊆ notationChars := by decide
      exact iff_of_false (fun hmem => hc (hall hmem)) nofun
  | char d =>
      have hback : c ≠ '\\' := fun heq => hc (heq ▸ by decide)
      rw [UrlRegex.source_char]
      split <;> simp [hback, eq_comm]

theorem mem_source_iff {r : UrlRegex} (hc : c ∉ notationChars) :
    c ∈ r.source.flatMap slashedChar ↔ .char c ∈ r := by
  have hback : c ≠ '\\' := fun heq => hc (heq ▸ by decide)
  have hdollar : c ≠ '$' := fun heq => hc (heq ▸ by decide)
  have hslashed : ∀ d, c ∈ slashedChar d ↔ d = c := by
    intro d
    unfold slashedChar
    split
    · rename_i hd
      simp [hd, hback, eq_comm]
    · simp [eq_comm]
  have hpiece : ∀ p : Piece, c ∈ p.source ↔ p = .char c := fun _ => mem_pieceSource_iff hc
  calc c ∈ r.source.flatMap slashedChar
      ↔ c ∈ r.source := by simp [List.mem_flatMap, hslashed]
    _ ↔ c ∈ r.flatMap Piece.source := by simp [UrlRegex.source, hdollar]
    _ ↔ .char c ∈ r := by simp [List.mem_flatMap, hpiece]

theorem char_mem_regex_iff : Piece.char c ∈ regex path ↔ c ∈ literalText path := by
  have htoken : ∀ t : Token, Piece.char c ∈ t.pieces ↔ c ∈ t.plain := by
    intro t
    cases t with
    | literal text => simp [Token.pieces, Token.plain]
    | param name => simp [Token.pieces, Token.plain]
  rw [regex, literalText, List.mem_flatMap, List.mem_flatMap]
  simp only [htoken]

/-- **The literal of an expression** has line ends where the literal text of the path
does. -/
theorem oneLine_ofPath_iff :
    (Literal.ofPath path).OneLine ↔
      Without LiteralKind.regex.lineEnds (literalText path) := by
  apply without_congr
  intro c hend
  have hchars : Without notationChars LiteralKind.regex.lineEnds := by decide
  change c ∈ (regexBody path).toList ↔ _
  rw [toList_regexBody, mem_source_iff (hchars c hend), List.mem_append, char_mem_regex_iff]
  simp

end ApiMocks.Emit
