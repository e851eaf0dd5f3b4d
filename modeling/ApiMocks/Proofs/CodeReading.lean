import ApiMocks.Proofs.LiteralTokens

/-!
# Reading generated code for its literals

A reader of code goes from character to character.  In plain code a quote begins a
string, and a slash begins a comment or, if neither a star nor a slash is behind it, an
expression.  Then the literal is read up to its second delimiter.  So what the literals
of a text are depends on all that stands between them, and a quote or a slash in the
wrong place would change every literal behind it.

Generated code is made of three things: code of the templates, whose comments are
complete and which has no quotes of its own, names, and literals of escaped text.  If
the names have no delimiters, reading finds these literals and no others.

* `CodeState`, `literalsIn`: the reader;
* `CodeState.after?`: what the reader makes of code without literals;
* `Made`: texts made of code, names and literals;
* `Made.literalsIn_append`: reading them finds their literals;
* `Made.exists_append`, `Made.isToken_iff`: each literal stands in its text, and is one
  token if no line ends in it.
-/

namespace ApiMocks.Emit

/-! ## The reader -/

/-- Where a reader of code is. -/
inductive CodeState
  | code
  /-- behind a slash that begins a comment or an expression -/
  | slash
  /-- within a comment that goes on to a star and a slash -/
  | block
  /-- behind a star in such a comment -/
  | star
  /-- within a comment that goes on to the end of the line -/
  | line
  deriving DecidableEq, Repr

namespace CodeState

/-- Where the reader is behind a character that begins no literal. -/
def next : CodeState → Char → CodeState
  | code, c => if c = '/' then slash else code
  | slash, c => if c = '*' then block else if c = '/' then line else code
  | block, c => if c = '*' then star else block
  | star, c => if c = '/' then code else if c = '*' then star else block
  | line, c => if c = '\n' then code else line

/-- The kind of a literal that begins here: a string at its quote, an expression at the
character behind its slash. -/
def opens? : CodeState → Char → Option LiteralKind
  | code, c => if c = '\'' then some .string else none
  | slash, c => if c = '*' ∨ c = '/' then none else some .regex
  | _, _ => none

/-- The other delimiters that code could have, and generated code has not. -/
def isForeign : CodeState → Char → Bool
  | code, c => c = '"' || c = '\x60'
  | _, _ => false

/-- Where the reader is behind a text that begins no literal and has no foreign
delimiters. -/
def after? (s : CodeState) : List Char → Option CodeState
  | [] => some s
  | c :: rest =>
    if s.opens? c = none && !s.isForeign c then (s.next c).after? rest else none

end CodeState

/-- The text of a literal from its first character on. -/
def LiteralKind.within : LiteralKind → Char → List Char → List Char
  | string, _, rest => rest
  | regex, c, rest => c :: rest

theorem length_of_readTo {delimiter : Char} {text body behind : List Char}
    (h : readTo delimiter text = some (body, behind)) : behind.length < text.length := by
  fun_induction readTo delimiter text generalizing body behind with
  | case1 => cases h
  | case2 c rest ih =>
      obtain ⟨parts, hparts, heq⟩ := Option.map_eq_some_iff.mp h
      obtain ⟨rfl, rfl⟩ := Prod.ext_iff.mp heq
      have hshorter := ih hparts
      simp only [List.length_cons]
      omega
  | case3 rest =>
      obtain ⟨rfl, rfl⟩ := Prod.ext_iff.mp (Option.some.inj h)
      exact Nat.lt_succ_self _
  | case4 c rest _ _ ih =>
      obtain ⟨parts, hparts, heq⟩ := Option.map_eq_some_iff.mp h
      obtain ⟨rfl, rfl⟩ := Prod.ext_iff.mp heq
      exact Nat.lt_succ_of_lt (ih hparts)

/-- The literals of a text, read from left to right; reading stops at one that has no
end. -/
def literalsIn (s : CodeState) : List Char → List Literal
  | [] => []
  | c :: rest =>
    match s.opens? c with
    | none => literalsIn (s.next c) rest
    | some kind =>
      match _h : readTo kind.delimiter (kind.within c rest) with
      | none => []
      | some (body, behind) => ⟨kind, String.ofList body⟩ :: literalsIn .code behind
termination_by text => text.length
decreasing_by
  · simp
  · have hshorter := length_of_readTo _h
    have hwithin : (kind.within c rest).length ≤ (c :: rest).length := by
      cases kind <;> simp [LiteralKind.within]
    omega

variable {s t u : CodeState} {text : String} {rest body : List Char} {c : Char}

theorem literalsIn_next (h : s.opens? c = none) :
    literalsIn s (c :: rest) = literalsIn (s.next c) rest := by
  rw [literalsIn, h]

theorem literalsIn_literal {kind : LiteralKind} {behind : List Char}
    (hopens : s.opens? c = some kind)
    (hread : readTo kind.delimiter (kind.within c rest) = some (body, behind)) :
    literalsIn s (c :: rest) = ⟨kind, String.ofList body⟩ :: literalsIn .code behind := by
  rw [literalsIn, hopens]
  simp only
  split
  · rename_i hnone
    rw [hread] at hnone
    cases hnone
  · rename_i hsome
    rw [hread] at hsome
    cases hsome
    rfl

/-- Code without literals is read over. -/
theorem literalsIn_of_after? {text : List Char} (h : s.after? text = some t) :
    literalsIn s (text ++ rest) = literalsIn t rest := by
  induction text generalizing s with
  | nil =>
      obtain rfl := Option.some.inj h
      rfl
  | cons c text ih =>
      rw [CodeState.after?] at h
      split at h
      · rename_i hplain
        have hopens : s.opens? c = none := by simpa using (Bool.and_eq_true_iff.mp hplain).1
        rw [List.cons_append, literalsIn_next hopens, ih h]
      · cases h

/-- A string literal is read as one. -/
theorem literalsIn_quote (value : String) (rest : List Char) :
    literalsIn .code ((quote value).toList ++ rest) =
      .ofText value :: literalsIn .code rest := by
  have hchars : (quote value).toList ++ rest =
      '\'' :: ((escapeQuoted value).toList ++ '\'' :: rest) := by
    simp [quote, String.toList_append]
  have hopens : CodeState.opens? .code '\'' = some .string := rfl
  rw [hchars, literalsIn_literal hopens (readTo_escapeQuoted value rest), String.ofList_toList]
  rfl

/-- The literal of an expression is read as one, and not as a comment. -/
theorem literalsIn_regex (path : String) (rest : List Char) :
    literalsIn .code (("/" ++ regexBody path ++ "/").toList ++ rest) =
      .ofPath path :: literalsIn .code rest := by
  have hread : readTo '/' ((regexBody path).toList ++ '/' :: rest) =
      some ((regexBody path).toList, rest) :=
    readTo_delimiter (by decide) (fun hm => (ne_of_mem_regexBody hm).1 rfl)
      fun hm => (ne_of_mem_regexBody hm).2 rfl
  obtain ⟨c, inner, hbody, hstar, hslash⟩ := exists_regexBody_eq_cons path
  have hchars : ("/" ++ regexBody path ++ "/").toList ++ rest =
      '/' :: c :: (inner ++ '/' :: rest) := by
    simp [String.toList_append, hbody]
  have hopens : CodeState.opens? .slash c = some .regex := by
    simp [CodeState.opens?, hstar, hslash]
  rw [hbody, List.cons_append] at hread
  rw [hchars, literalsIn_next rfl]
  change literalsIn .slash _ = _
  rw [literalsIn_literal hopens hread, ← hbody, String.ofList_toList]
  rfl

/-! ## Texts made of code, names and literals -/

/-- The delimiters of strings, of expressions and of comments. -/
def delimiters : List Char := ['\'', '"', '\x60', '/']

/-- The text takes a reader from one state to another.  It is made of code without
literals, of names, and of literals of texts and paths, which are these in order. -/
inductive Made (names : List String) : CodeState → String → List Literal → CodeState → Prop
  | code {s t : CodeState} {text : String} (h : s.after? text.toList = some t) :
      Made names s text [] t
  | name {n : String} (h : n ∈ names) : Made names .code n [] .code
  | text (value : String) : Made names .code (quote value) [.ofText value] .code
  | path (p : String) : Made names .code ("/" ++ regexBody p ++ "/") [.ofPath p] .code
  | append {s t u : CodeState} {a b : String} {ls ms : List Literal}
      (ha : Made names s a ls t) (hb : Made names t b ms u) :
      Made names s (a ++ b) (ls ++ ms) u

theorem after?_of_without {text : List Char} (h : Without delimiters text) :
    CodeState.after? .code text = some .code := by
  induction text with
  | nil => rfl
  | cons c text ih =>
      have hc : c ∉ delimiters := h c List.mem_cons_self
      simp only [delimiters, List.mem_cons, List.not_mem_nil, or_false, not_or] at hc
      obtain ⟨hquote, hdouble, hback, hslash⟩ := hc
      have hnext : CodeState.next .code c = .code := if_neg hslash
      rw [CodeState.after?, hnext, ih fun d hd => h d (List.mem_cons_of_mem _ hd)]
      simp [CodeState.opens?, CodeState.isForeign, hquote, hdouble, hback]

variable {names : List String} {ls : List Literal} {l : Literal}

/-- **Reading finds the literals** of a text, if the names have no delimiters. -/
theorem Made.literalsIn_append (h : Made names s text ls t)
    (hnames : ∀ n ∈ names, Without delimiters n.toList) (rest : List Char) :
    literalsIn s (text.toList ++ rest) = ls ++ literalsIn t rest := by
  -- a part is followed by the other parts, so the text behind it stays open
  induction h generalizing rest with
  | code hcode => exact literalsIn_of_after? hcode
  | name hn => exact literalsIn_of_after? (after?_of_without (hnames _ hn))
  | text value => exact literalsIn_quote value rest
  | path p => exact literalsIn_regex p rest
  | append ha hb iha ihb =>
      rw [String.toList_append, List.append_assoc, iha, ihb, List.append_assoc]

/-- **Each literal stands in the text**, whatever the names are. -/
theorem Made.exists_append (h : Made names s text ls t) (hl : l ∈ ls) :
    ∃ front back, text = front ++ l.text ++ back := by
  induction h with
  | code | name => cases hl
  | text value =>
      obtain rfl := List.mem_singleton.mp hl
      exact ⟨"", "", by rw [String.empty_append, String.append_empty]; rfl⟩
  | path p =>
      obtain rfl := List.mem_singleton.mp hl
      exact ⟨"", "", by rw [String.empty_append, String.append_empty]; rfl⟩
  | @append _ _ _ a b _ _ _ _ iha ihb =>
      rcases List.mem_append.mp hl with hl | hl
      · obtain ⟨front, back, rfl⟩ := iha hl
        exact ⟨front, back ++ b, by simp only [String.append_assoc]⟩
      · obtain ⟨front, back, rfl⟩ := ihb hl
        exact ⟨a ++ front, back, by simp only [String.append_assoc]⟩

/-- **Line ends are all that can be wrong** with a literal of the text. -/
theorem Made.isToken_iff (h : Made names s text ls t) (hl : l ∈ ls) :
    l.IsToken ↔ l.OneLine := by
  induction h with
  | code | name => cases hl
  | text value =>
      obtain rfl := List.mem_singleton.mp hl
      exact isToken_ofText_iff value
  | path p =>
      obtain rfl := List.mem_singleton.mp hl
      exact isToken_ofPath_iff p
  | append _ _ iha ihb => exact (List.mem_append.mp hl).elim iha ihb

end ApiMocks.Emit
