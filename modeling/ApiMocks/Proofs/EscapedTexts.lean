import ApiMocks.Emit.Literal
import Mathlib.Data.String.Basic

/-!
# Texts with escapes

Within a literal of the generated code a backslash escapes the next character.  So a
text is read from left to right, and what a character means depends on the backslashes
in front of it: it is plain, or it is escaped, or it is a backslash with nothing behind
it to escape.  A text without plain delimiters that leaves no backslash over can be put
between two delimiters, and the second one is where a reader finds the end.

* `Mark`, `readMarks`: what the characters of a text mean;
* `readTo`: the text up to the first plain delimiter;
* `replaceText`: every occurrence of a part replaced;
* `readMarks_append`, `readTo_delimiter`: texts that leave no backslash over;
* `readMarks_quoted`: the characters of an escaped text;
* `escapeQuoted_reads_back`: what escaping puts between quotes is read back.
-/

namespace ApiMocks.Emit

/-! ## Reading -/

/-- What a character of a text with escapes means. -/
inductive Mark
  | plain (c : Char)
  /-- a character with an escaping backslash in front of it -/
  | escaped (c : Char)
  /-- a backslash at the end, which escapes nothing -/
  | dangling
  deriving DecidableEq, Repr

/-- The characters that stay when the escaping backslashes are dropped. -/
def Mark.chars : Mark → List Char
  | plain c | escaped c => [c]
  | dangling => []

/-- Reads a text from left to right; a backslash escapes the next character. -/
def readMarks : List Char → List Mark
  | [] => []
  | c :: rest =>
    if c = '\\' then
      match rest with
      | [] => [.dangling]
      | d :: rest => .escaped d :: readMarks rest
    else .plain c :: readMarks rest

/-- The text without its escaping backslashes. -/
def unescaped (text : String) : String :=
  String.ofList ((readMarks text.toList).flatMap Mark.chars)

/-- The text in front of the first plain delimiter, and the text behind it. -/
def readTo (delimiter : Char) : List Char → Option (List Char × List Char)
  | [] => none
  | '\\' :: c :: rest =>
    (readTo delimiter rest).map fun parts => ('\\' :: c :: parts.1, parts.2)
  | c :: rest =>
    if c = delimiter then some ([], rest)
    else (readTo delimiter rest).map fun parts => (c :: parts.1, parts.2)

/-- The characters with every occurrence of a part, which must not be empty, replaced
from left to right. -/
def replaceChars (part put : List Char) : List Char → List Char
  | [] => []
  | c :: rest =>
    if part.isPrefixOf (c :: rest) then put ++ replaceChars part put (rest.drop (part.length - 1))
    else c :: replaceChars part put rest
termination_by text => text.length

/-- The text with every occurrence of a part replaced. -/
def replaceText (part put text : String) : String :=
  String.ofList (replaceChars part.toList put.toList text.toList)

variable {c delimiter : Char} {text front rest : List Char}

theorem readMarks_escape (c : Char) (rest : List Char) :
    readMarks ('\\' :: c :: rest) = .escaped c :: readMarks rest := rfl

theorem readMarks_cons (hc : c ≠ '\\') : readMarks (c :: rest) = .plain c :: readMarks rest := by
  rw [readMarks.eq_def]
  exact if_neg hc

/-- A text that leaves no backslash over is read whatever comes behind it. -/
theorem readMarks_append (h : .dangling ∉ readMarks front) :
    readMarks (front ++ rest) = readMarks front ++ readMarks rest := by
  fun_induction readMarks front with
  | case1 => rfl
  | case2 => exact absurd (List.mem_singleton.mpr rfl) h
  | case3 d front ih =>
      rw [List.cons_append, List.cons_append, readMarks_escape,
        ih fun hmem => h (List.mem_cons_of_mem _ hmem), List.cons_append]
  | case4 c front hc ih =>
      rw [List.cons_append, readMarks_cons hc, ih fun hmem => h (List.mem_cons_of_mem _ hmem),
        List.cons_append]

theorem readTo_cons (hc : c ≠ '\\') (hne : c ≠ delimiter) :
    readTo delimiter (c :: rest) =
      (readTo delimiter rest).map fun parts => (c :: parts.1, parts.2) := by
  rw [readTo, if_neg hne]
  intro d rest hslash
  exact absurd hslash hc

/-- **The end of a literal** is the first delimiter behind a text that has no plain one
and leaves no backslash over. -/
theorem readTo_delimiter (hdelimiter : delimiter ≠ '\\')
    (hplain : .plain delimiter ∉ readMarks text) (hdangling : .dangling ∉ readMarks text) :
    readTo delimiter (text ++ delimiter :: rest) = some (text, rest) := by
  fun_induction readMarks text with
  | case1 =>
      rw [List.nil_append, readTo, if_pos rfl]
      intro d rest hslash
      exact absurd hslash hdelimiter
  | case2 => exact absurd (List.mem_singleton.mpr rfl) hdangling
  | case3 d text ih =>
      rw [List.cons_append, List.cons_append, readTo,
        ih (fun hmem => hplain (List.mem_cons_of_mem _ hmem))
          fun hmem => hdangling (List.mem_cons_of_mem _ hmem)]
      rfl
  | case4 c text hc ih =>
      have hne : c ≠ delimiter := fun heq => hplain (heq ▸ List.mem_cons_self)
      rw [List.cons_append, readTo_cons hc hne,
        ih (fun hmem => hplain (List.mem_cons_of_mem _ hmem))
          fun hmem => hdangling (List.mem_cons_of_mem _ hmem)]
      rfl

/-! ## Replacing -/

theorem replaceChars_cons (part put : List Char) (c : Char) (rest : List Char) :
    replaceChars part put (c :: rest) =
      if part.isPrefixOf (c :: rest) then
        put ++ replaceChars part put (rest.drop (part.length - 1))
      else c :: replaceChars part put rest := by
  rw [replaceChars]

/-- A part of one character is replaced character by character. -/
theorem replaceChars_singleton (p : Char) (put text : List Char) :
    replaceChars [p] put text = text.flatMap fun c => if c = p then put else [c] := by
  induction text with
  | nil => rw [replaceChars, List.flatMap_nil]
  | cons c text ih =>
      rw [replaceChars_cons, List.flatMap_cons, ← ih]
      by_cases hc : c = p
      · simp [List.isPrefixOf, hc]
      · simp [List.isPrefixOf, hc, Ne.symm hc]

/-! ## Quoted text -/

/-- Escaping for quotes replaces first the backslashes and then the single quotes. -/
theorem escapeQuoted_eq_replaceText (s : String) :
    escapeQuoted s = replaceText "'" "\\'" (replaceText "\\" "\\\\" s) := by
  have hslashes : (replaceText "\\" "\\\\" s).toList =
      s.toList.flatMap fun c => if c = '\\' then ['\\', '\\'] else [c] := by
    rw [replaceText, String.toList_ofList]
    exact replaceChars_singleton _ _ _
  rw [escapeQuoted, replaceText, hslashes]
  change _ = String.ofList (replaceChars ['\''] ['\\', '\''] _)
  rw [replaceChars_singleton, List.flatMap_assoc]
  congr 2
  funext c
  unfold quotedChar
  by_cases hslash : c = '\\'
  · simp [hslash]
  · by_cases hquote : c = '\''
    · simp [hquote]
    · simp [hslash, hquote]

/-- What a character means once it is escaped for quotes. -/
def quotedMark (c : Char) : Mark := if c = '\\' ∨ c = '\'' then .escaped c else .plain c

/-- **Escaped text** is read as the characters that were escaped. -/
theorem readMarks_quoted (text : List Char) :
    readMarks (text.flatMap quotedChar) = text.map quotedMark := by
  induction text with
  | nil => rfl
  | cons c text ih =>
      rw [List.flatMap_cons, List.map_cons, ← ih, quotedChar, quotedMark]
      by_cases hc : c = '\\' ∨ c = '\''
      · rw [if_pos hc, if_pos (by simpa using hc), List.cons_append, List.singleton_append,
          readMarks_escape]
      · rw [if_neg hc, if_neg (by simpa using hc), List.singleton_append,
          readMarks_cons fun heq => hc (.inl heq)]

theorem readMarks_escapeQuoted (s : String) :
    readMarks (escapeQuoted s).toList = s.toList.map quotedMark := by
  rw [escapeQuoted, String.toList_ofList, readMarks_quoted]

theorem plain_quote_not_mem (s : String) :
    Mark.plain '\'' ∉ readMarks (escapeQuoted s).toList := by
  rw [readMarks_escapeQuoted]
  intro hmem
  obtain ⟨c, -, hc⟩ := List.mem_map.mp hmem
  unfold quotedMark at hc
  split at hc
  · cases hc
  · rename_i hspecial
    exact hspecial (.inr (Mark.plain.inj hc))

theorem dangling_not_mem (s : String) : Mark.dangling ∉ readMarks (escapeQuoted s).toList := by
  rw [readMarks_escapeQuoted]
  intro hmem
  obtain ⟨c, -, hc⟩ := List.mem_map.mp hmem
  unfold quotedMark at hc
  split at hc <;> cases hc

theorem unescaped_escapeQuoted (s : String) : unescaped (escapeQuoted s) = s := by
  have hchars : ∀ c : Char, (quotedMark c).chars = [c] := by
    intro c
    unfold quotedMark
    split <;> rfl
  rw [unescaped, readMarks_escapeQuoted, List.flatMap_map]
  simp only [hchars, List.flatMap_singleton', String.ofList_toList]

/-- A literal ends at its own closing quote. -/
theorem readTo_escapeQuoted (s : String) (rest : List Char) :
    readTo '\'' ((escapeQuoted s).toList ++ '\'' :: rest) =
      some ((escapeQuoted s).toList, rest) :=
  readTo_delimiter (by decide) (plain_quote_not_mem s) (dangling_not_mem s)

/-- Literals tell their values. -/
theorem quote_inj {s t : String} : quote s = quote t ↔ s = t := by
  constructor
  · intro h
    have hread : readTo '\'' ((escapeQuoted s).toList ++ ['\'']) =
        readTo '\'' ((escapeQuoted t).toList ++ ['\'']) := by
      have hchars := congrArg (List.tail ∘ String.toList) h
      simpa [quote, String.toList_append] using congrArg (readTo '\'') hchars
    rw [readTo_escapeQuoted, readTo_escapeQuoted, Option.some_inj, Prod.ext_iff] at hread
    rw [← unescaped_escapeQuoted s, ← unescaped_escapeQuoted t,
      String.toList_inj.mp hread.1]
  · intro h
    rw [h]

/-- **What escaping puts between quotes is read back.**  Escaping replaces backslashes and
then single quotes.  Read from left to right, the escaped text has no plain quote, leaves
no backslash over, and is the text itself once the escaping backslashes are dropped.  So
whatever the text, its literal ends at the closing quote that was put behind it, and no
two texts have one literal. -/
theorem escapeQuoted_reads_back (s : String) :
    escapeQuoted s = replaceText "'" "\\'" (replaceText "\\" "\\\\" s) ∧
    Mark.plain '\'' ∉ readMarks (escapeQuoted s).toList ∧
    Mark.dangling ∉ readMarks (escapeQuoted s).toList ∧
    unescaped (escapeQuoted s) = s ∧
    (∀ rest, readTo '\'' ((escapeQuoted s).toList ++ '\'' :: rest) =
      some ((escapeQuoted s).toList, rest)) ∧
    ∀ t, quote s = quote t ↔ s = t :=
  ⟨escapeQuoted_eq_replaceText s, plain_quote_not_mem s, dangling_not_mem s,
    unescaped_escapeQuoted s, readTo_escapeQuoted s, fun _ => quote_inj⟩

/-- A backslash in front of a quote is a character of its own. -/
example : (quote "a\\'b").toList = ['\'', 'a', '\\', '\\', '\\', '\'', 'b', '\''] := by decide

end ApiMocks.Emit
