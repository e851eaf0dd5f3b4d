import ApiMocks.Json.Token
import ApiMocks.Proofs.CapitalForms
import Mathlib

/-!
# Names of identifiers

An identifier of the generated code is a name of ECMAScript: a start character, and
then characters that continue it; each can be written as an escape, four hexadecimal
digits behind `\u`, or any number of them in braces.  ASCII is settled here, and beyond it an
alphabet says which characters begin a name and which only continue one.

What a front of a text stands for does not depend on what follows, unless an escape
is cut.  So a name stays one with a suffix that can follow, and a text without cut
escapes is a name if it is one with such a suffix.  Changing the case of the first
letter cuts no escape, for no letter but the backslash is moved onto it.

* `Alphabet.IsName`, `Alphabet.Continues`: names, and what can follow in one;
* `Stands.append`, `Stands.of_append`: what texts stand for, taken together and
  apart;
* `Alphabet.isName_append_iff`, `Alphabet.isName_word_append`: names with a suffix
  and with a front;
* `wellFormed_lowerFirst`: the first letter in either case;
* `Alphabet.Word`: plain names, which are so in either case.
-/

namespace ApiMocks.Identifier

open Text

/-- Which characters beyond ASCII begin a name, and which others continue one. -/
structure Alphabet where
  starts : Char → Bool
  continues : Char → Bool

/-- The characters of ASCII that begin a name. -/
def isAsciiStart (c : Char) : Bool := c.isAlpha || c = '$' || c = '_'

/-- Whether a character begins a name. -/
def Alphabet.isStart (a : Alphabet) (c : Char) : Bool :=
  if c.toNat < 128 then isAsciiStart c else a.starts c

/-- Whether a character continues a name: one that begins names does, and so do
digits and the two joiners of zero width. -/
def Alphabet.isPart (a : Alphabet) (c : Char) : Bool :=
  a.isStart c ||
    if c.toNat < 128 then c.isDigit else a.continues c || c = '\u200c' || c = '\u200d'

/-! ## Escapes -/

/-- The character with a number in hexadecimal digits. -/
def codePoint? (digits : List Char) : Option Char := do
  let n ← digits.foldlM (fun n d => (JsonText.hexValue? d).map (16 * n + ·)) 0
  if !digits.isEmpty && n.isValidChar then some (Char.ofNat n) else none

/-- The character of an escape, and the text behind: four digits, or any number of
them in braces. -/
def escape? : List Char → Option (Char × List Char)
  | '\x7b' :: rest =>
    match rest.dropWhile (· ≠ '\x7d') with
    | [] => none
    | _ :: behind => (codePoint? (rest.takeWhile (· ≠ '\x7d'))).map (·, behind)
  | p :: q :: r :: s :: behind => (codePoint? [p, q, r, s]).map (·, behind)
  | _ => none

/-- A text stands for characters, some of them written as escapes. -/
inductive Stands : List Char → List Char → Prop
  | nil : Stands [] []
  | plain {c : Char} {rest cs : List Char} (hc : c ≠ '\\') (hrest : Stands rest cs) :
      Stands (c :: rest) (c :: cs)
  | escaped {c : Char} {text rest cs : List Char} (hc : escape? text = some (c, rest))
      (hrest : Stands rest cs) : Stands ('\\' :: 'u' :: text) (c :: cs)

/-- No escape of the text is cut or broken. -/
def WellFormed (text : List Char) : Prop := ∃ cs, Stands text cs

/-- The text can follow in a name. -/
def Alphabet.Continues (a : Alphabet) (text : List Char) : Prop :=
  ∃ cs, Stands text cs ∧ ∀ c ∈ cs, a.isPart c = true

/-- The text is a name. -/
def Alphabet.IsName (a : Alphabet) (text : List Char) : Prop :=
  ∃ first cs, Stands text (first :: cs) ∧ a.isStart first = true ∧ ∀ c ∈ cs, a.isPart c = true

variable {a : Alphabet} {s t text front rest cs ds : List Char} {c : Char}

/-- An escape is read alike whatever follows. -/
theorem escape?_append (h : escape? s = some (c, rest)) :
    escape? (s ++ t) = some (c, rest ++ t) := by
  unfold escape? at h
  split at h
  · rename_i digits
    split at h
    · cases h
    · rename_i last behind hdrop
      obtain ⟨_, hpoint, heq⟩ := Option.map_eq_some_iff.mp h
      obtain ⟨rfl, rfl⟩ := Prod.mk.inj heq
      -- the brace is found before the text ends
      have hbrace : (digits.takeWhile (· ≠ '\x7d')).length ≠ digits.length := by
        have hsplit := List.takeWhile_append_dropWhile (p := (· ≠ '\x7d')) (l := digits)
        have hlength := congrArg List.length hsplit
        rw [List.length_append, hdrop, List.length_cons] at hlength
        omega
      rw [List.cons_append, escape?, List.dropWhile_append, List.takeWhile_append, hdrop,
        if_neg hbrace]
      change (codePoint? _).map _ = _
      rw [hpoint]
      rfl
  · rename_i p q r d behind _
    obtain ⟨_, hpoint, heq⟩ := Option.map_eq_some_iff.mp h
    obtain ⟨rfl, rfl⟩ := Prod.mk.inj heq
    simp only [List.cons_append]
    rw [escape?, hpoint]
    · rfl
    · assumption
  · cases h

theorem Stands.append (hs : Stands s cs) (ht : Stands t ds) : Stands (s ++ t) (cs ++ ds) := by
  induction hs with
  | nil => exact ht
  | plain hc _ ih => exact .plain hc ih
  | escaped hc _ ih => exact .escaped (escape?_append hc) ih

theorem Stands.of_cons (hc : c ≠ '\\') (h : Stands (c :: rest) ds) :
    ∃ es, ds = c :: es ∧ Stands rest es := by
  cases h with
  | plain _ hrest => exact ⟨_, rfl, hrest⟩
  | escaped => exact absurd rfl hc

theorem Stands.of_escape (hc : escape? s = some (c, rest)) (h : Stands ('\\' :: 'u' :: s) ds) :
    ∃ es, ds = c :: es ∧ Stands rest es := by
  cases h with
  | plain hne => exact absurd rfl hne
  | escaped hc' hrest =>
      rw [hc] at hc'
      obtain ⟨rfl, rfl⟩ := Prod.mk.inj (Option.some.inj hc')
      exact ⟨_, rfl, hrest⟩

/-- **What a front stands for** does not depend on what follows. -/
theorem Stands.of_append (hs : Stands s cs) (h : Stands (s ++ t) ds) :
    ∃ es, ds = cs ++ es ∧ Stands t es := by
  induction hs generalizing ds with
  | nil => exact ⟨ds, rfl, h⟩
  | plain hc _ ih =>
      obtain ⟨more, rfl, hmore⟩ := Stands.of_cons hc h
      obtain ⟨es, rfl, ht⟩ := ih hmore
      exact ⟨es, rfl, ht⟩
  | escaped hc _ ih =>
      obtain ⟨more, rfl, hmore⟩ := Stands.of_escape (escape?_append hc) h
      obtain ⟨es, rfl, ht⟩ := ih hmore
      exact ⟨es, rfl, ht⟩

theorem Stands.eq_nil_iff (h : Stands s cs) : cs = [] ↔ s = [] := by
  cases h <;> simp

/-- Without backslashes a text stands for itself. -/
theorem stands_self (h : '\\' ∉ s) : Stands s s := by
  induction s with
  | nil => exact .nil
  | cons c rest ih =>
      rw [List.mem_cons, not_or] at h
      exact .plain (Ne.symm h.1) (ih h.2)

theorem stands_append_iff (h : '\\' ∉ front) :
    Stands (front ++ rest) cs ↔ ∃ ds, cs = front ++ ds ∧ Stands rest ds := by
  constructor
  · exact (stands_self h).of_append
  · intro hrest
    obtain ⟨ds, rfl, hds⟩ := hrest
    exact (stands_self h).append hds

/-- So a front without backslashes cuts no escape. -/
theorem wellFormed_append_iff (h : '\\' ∉ front) : WellFormed (front ++ rest) ↔ WellFormed rest := by
  constructor
  · intro hall
    obtain ⟨cs, hcs⟩ := hall
    obtain ⟨ds, _, hds⟩ := (stands_append_iff h).mp hcs
    exact ⟨ds, hds⟩
  · intro hrest
    obtain ⟨ds, hds⟩ := hrest
    exact ⟨_, (stands_self h).append hds⟩

/-! ## Names -/

theorem Alphabet.isPart_of_isStart (h : a.isStart c = true) : a.isPart c = true := by
  rw [isPart, h, Bool.true_or]

theorem Alphabet.IsName.continues (h : a.IsName s) : a.Continues s := by
  obtain ⟨first, cs, hs, hfirst, hcs⟩ := h
  exact ⟨first :: cs, hs, List.forall_mem_cons.mpr ⟨isPart_of_isStart hfirst, hcs⟩⟩

theorem Alphabet.Continues.wellFormed (h : a.Continues s) : WellFormed s := by
  obtain ⟨cs, hs, -⟩ := h
  exact ⟨cs, hs⟩

theorem Alphabet.Continues.append (hs : a.Continues s) (ht : a.Continues t) :
    a.Continues (s ++ t) := by
  obtain ⟨cs, hcs, hparts⟩ := hs
  obtain ⟨ds, hds, hparts'⟩ := ht
  exact ⟨cs ++ ds, hcs.append hds, List.forall_mem_append.mpr ⟨hparts, hparts'⟩⟩

theorem Alphabet.IsName.append (hs : a.IsName s) (ht : a.Continues t) : a.IsName (s ++ t) := by
  obtain ⟨first, cs, hcs, hfirst, hparts⟩ := hs
  obtain ⟨ds, hds, hparts'⟩ := ht
  exact ⟨first, cs ++ ds, hcs.append hds, hfirst, List.forall_mem_append.mpr ⟨hparts, hparts'⟩⟩

/-- **A name with a suffix**: if no escape of the front is cut, and the suffix is a
name by itself, then the front is empty or a name. -/
theorem Alphabet.isName_append_iff (hs : WellFormed s) (ht : a.IsName t) :
    a.IsName (s ++ t) ↔ s = [] ∨ a.IsName s := by
  constructor
  · intro hall
    obtain ⟨first, es, hes, hfirst, hparts⟩ := hall
    obtain ⟨cs, hcs⟩ := hs
    obtain ⟨ds, heq, _⟩ := hcs.of_append hes
    cases cs with
    | nil => exact .inl (hcs.eq_nil_iff.mp rfl)
    | cons d cs =>
        obtain ⟨rfl, rfl⟩ := List.cons.inj heq
        exact .inr ⟨first, cs, hcs, hfirst, (List.forall_mem_append.mp hparts).1⟩
  · intro hcases
    rcases hcases with rfl | hname
    · exact ht
    · exact hname.append ht.continues

/-! ## Plain names -/

/-- A character of ASCII that can stand in a name. -/
def isAsciiPart (c : Char) : Bool := isAsciiStart c || c.isDigit

/-- A name of ASCII characters without escapes. -/
def Word : List Char → Prop
  | [] => False
  | first :: rest => isAsciiStart first = true ∧ ∀ c ∈ rest, isAsciiPart c = true

instance (text : List Char) : Decidable (Word text) :=
  match text with
  | [] => .isFalse id
  | _ :: rest =>
    have := List.decidableBAll (fun c : Char => isAsciiPart c = true) rest
    instDecidableAnd

theorem toNat_of_isAsciiPart (h : isAsciiPart c = true) : c.toNat < 128 := by
  simp only [isAsciiPart, isAsciiStart, Char.isAlpha, Bool.or_eq_true, decide_eq_true_eq] at h
  rcases h with (((hupper | hlower) | rfl) | rfl) | hdigit
  · simp [Char.isUpper, UInt32.le_iff_toNat_le] at hupper
    omega
  · have hcode := isLower_iff_toNat.mp hlower
    omega
  · decide
  · decide
  · simp [Char.isDigit, UInt32.le_iff_toNat_le] at hdigit
    omega

theorem ne_backslash_of_isAsciiPart (h : isAsciiPart c = true) : c ≠ '\\' := by
  rintro rfl
  exact absurd h (by decide)

theorem isAsciiPart_of_isAsciiStart (h : isAsciiStart c = true) : isAsciiPart c = true := by
  rw [isAsciiPart, h, Bool.true_or]

theorem Alphabet.isStart_of_ascii (h : isAsciiStart c = true) : a.isStart c = true := by
  rw [isStart, if_pos (toNat_of_isAsciiPart (isAsciiPart_of_isAsciiStart h)), h]

theorem Alphabet.isPart_of_ascii (h : isAsciiPart c = true) : a.isPart c = true := by
  have hcode := toNat_of_isAsciiPart h
  rw [isPart, isStart, if_pos hcode, if_pos hcode]
  exact h

theorem Alphabet.continues_of_ascii (h : ∀ c ∈ s, isAsciiPart c = true) : a.Continues s := by
  refine ⟨s, stands_self ?_, fun c hc => isPart_of_ascii (h c hc)⟩
  intro hmem
  exact ne_backslash_of_isAsciiPart (h _ hmem) rfl

theorem Word.ascii (h : Word s) : ∀ c ∈ s, isAsciiPart c = true := by
  obtain _ | ⟨first, rest⟩ := s
  · exact h.elim
  · exact List.forall_mem_cons.mpr ⟨isAsciiPart_of_isAsciiStart h.1, h.2⟩

theorem Word.not_backslash_mem (h : Word s) : '\\' ∉ s :=
  fun hmem => ne_backslash_of_isAsciiPart (h.ascii _ hmem) rfl

theorem Word.append (hs : Word s) (ht : ∀ c ∈ t, isAsciiPart c = true) : Word (s ++ t) := by
  obtain _ | ⟨first, rest⟩ := s
  · exact hs.elim
  · exact ⟨hs.1, List.forall_mem_append.mpr ⟨hs.2, ht⟩⟩

/-- Without escapes, a name has no other characters of ASCII. -/
theorem Alphabet.IsName.isAsciiPart (h : a.IsName s) (hs : '\\' ∉ s) (hc : c ∈ s)
    (hascii : c.toNat < 128) : isAsciiPart c = true := by
  obtain ⟨cs, hcs, hparts⟩ := h.continues
  obtain ⟨ds, rfl, -⟩ := (stands_self hs).of_append (by rwa [List.append_nil])
  have hpart := hparts c (List.mem_append_left _ hc)
  rwa [isPart, isStart, if_pos hascii, if_pos hascii] at hpart

theorem Word.isName (h : Word s) : a.IsName s := by
  have hself := stands_self h.not_backslash_mem
  obtain _ | ⟨first, rest⟩ := s
  · exact h.elim
  · exact ⟨first, rest, hself, Alphabet.isStart_of_ascii h.1,
      fun c hc => Alphabet.isPart_of_ascii (h.2 c hc)⟩

theorem Alphabet.continues_word_append (h : Word front) :
    a.Continues (front ++ rest) ↔ a.Continues rest := by
  constructor
  · intro hall
    obtain ⟨cs, hcs, hparts⟩ := hall
    obtain ⟨ds, rfl, hds⟩ := (stands_append_iff h.not_backslash_mem).mp hcs
    exact ⟨ds, hds, (List.forall_mem_append.mp hparts).2⟩
  · exact (continues_of_ascii h.ascii).append

/-- **A name with a plain front**: the rest only needs to follow. -/
theorem Alphabet.isName_word_append (h : Word front) :
    a.IsName (front ++ rest) ↔ a.Continues rest := by
  constructor
  · exact fun hname => (continues_word_append h).mp hname.continues
  · exact h.isName.append

/-! ## The first letter in either case -/

theorem upperRuns_avoid_backslash : ∀ r ∈ upperRuns, r.Avoids 92 92 := by decide +kernel

theorem lowerRuns_avoid_backslash : ∀ r ∈ lowerRuns, r.Avoids 92 92 := by decide +kernel

theorem upperExpansions_avoid_backslash :
    ∀ e ∈ upperExpansions, '\\' ∉ e.2.map Char.ofNat := by decide +kernel

theorem lowerExpansions_avoid_backslash :
    ∀ e ∈ lowerExpansions, '\\' ∉ e.2.map Char.ofNat := by decide +kernel

/-- Tables that avoid the backslash give it to no other character. -/
theorem not_backslash_mem_mapCase {runs : List CaseRun} {expansions : List (Nat × List Nat)}
    (hruns : ∀ r ∈ runs, r.Avoids 92 92)
    (hexpansions : ∀ e ∈ expansions, '\\' ∉ e.2.map Char.ofNat) (hc : c ≠ '\\')
    (hbeyond : 128 ≤ c.toNat) : '\\' ∉ mapCase runs expansions c := by
  unfold mapCase
  split
  · rename_i codes hlookup
    obtain ⟨before, after, hlist, _⟩ := List.lookup_eq_some_iff.mp hlookup
    exact hexpansions (c.toNat, codes) (by rw [hlist]; simp)
  · split
    · rename_i r hrun
      have hcontains : r.contains c.toNat = true :=
        List.find?_some (p := fun r : CaseRun => r.contains c.toNat) hrun
      have havoids := hruns r (List.mem_of_find?_eq_some hrun)
      intro hmem
      have hcode : (Char.ofNat (c.toNat + r.shift).toNat).toNat = 92 :=
        congrArg Char.toNat (List.mem_singleton.mp hmem).symm
      rw [Char.toNat_ofNat] at hcode
      apply havoids.not_mem_range (by omega) hcontains hbeyond
      split at hcode
      · exact ⟨hcode.ge, hcode.le⟩
      · cases hcode
    · simpa using hc.symm

theorem not_backslash_mem_upperChars (hc : c ≠ '\\') : '\\' ∉ upperChars c := by
  unfold upperChars
  split
  · intro hmem
    have hupper : c.toUpper = '\\' := (List.mem_singleton.mp hmem).symm
    by_cases hlower : c.isLower = true
    · have hcapital : c.toUpper.isUpper = true := by
        rw [Char.isUpper_toUpper_eq_isAlpha, Char.isAlpha, hlower, Bool.or_true]
      rw [hupper] at hcapital
      exact absurd hcapital (by decide)
    · exact hc (by rw [← hupper, Char.toUpper_eq_of_not_isLower hlower])
  · rename_i hbeyond
    exact not_backslash_mem_mapCase upperRuns_avoid_backslash upperExpansions_avoid_backslash
      hc (Nat.not_lt.mp hbeyond)

theorem not_backslash_mem_lowerChars (hc : c ≠ '\\') : '\\' ∉ lowerChars c := by
  unfold lowerChars
  split
  · intro hmem
    have hsmall : c.toLower = '\\' := (List.mem_singleton.mp hmem).symm
    by_cases hupper : c.isUpper = true
    · have hlower : c.toLower.isLower = true := by
        rw [Char.isLower_toLower_eq_isAlpha, Char.isAlpha, hupper, Bool.true_or]
      rw [hsmall] at hlower
      exact absurd hlower (by decide)
    · exact hc (by rw [← hsmall, Char.toLower_eq_of_not_isUpper hupper])
  · rename_i hbeyond
    exact not_backslash_mem_mapCase lowerRuns_avoid_backslash lowerExpansions_avoid_backslash
      hc (Nat.not_lt.mp hbeyond)

/-- Only the first letter changes its case. -/
theorem toList_mapFirst_append {f : Char → List Char} {id : String} (hid : id.toList ≠ [])
    (more : String) : (mapFirst f (id ++ more)).toList = (mapFirst f id).toList ++ more.toList := by
  obtain ⟨c, rest, hchars⟩ := List.exists_cons_of_ne_nil hid
  simp [mapFirst, String.toList_append, hchars]

/-- **The case of the first letter** cuts no escape. -/
theorem wellFormed_lowerFirst_iff (id : String) :
    WellFormed (lowerFirst id).toList ↔ WellFormed (capitalize id).toList := by
  unfold lowerFirst capitalize mapFirst
  cases hid : id.toList with
  | nil => rfl
  | cons c rest =>
      simp only [String.toList_ofList]
      by_cases hc : c = '\\'
      · rw [hc]
        rfl
      · rw [wellFormed_append_iff (not_backslash_mem_lowerChars hc),
          wellFormed_append_iff (not_backslash_mem_upperChars hc)]

theorem isAsciiStart_toUpper (h : isAsciiStart c = true) : isAsciiStart c.toUpper = true := by
  simp only [isAsciiStart, Bool.or_eq_true, decide_eq_true_eq,
    Char.isAlpha_toUpper_eq_isAlpha] at h ⊢
  rcases h with (halpha | rfl) | rfl
  · exact .inl (.inl halpha)
  · exact .inl (.inr rfl)
  · exact .inr rfl

theorem isAsciiStart_toLower (h : isAsciiStart c = true) : isAsciiStart c.toLower = true := by
  simp only [isAsciiStart, Bool.or_eq_true, decide_eq_true_eq,
    Char.isAlpha_toLower_eq_isAlpha] at h ⊢
  rcases h with (halpha | rfl) | rfl
  · exact .inl (.inl halpha)
  · exact .inl (.inr rfl)
  · exact .inr rfl

/-- A plain name is one in either case. -/
theorem Word.mapFirst {f : Char → List Char} {g : Char → Char} {id : String}
    (hf : ∀ c, c.toNat < 128 → f c = [g c])
    (hg : ∀ c, isAsciiStart c = true → isAsciiStart (g c) = true) (h : Word id.toList) :
    Word (mapFirst f id).toList := by
  unfold Text.mapFirst
  cases hid : id.toList with
  | nil => exact (hid ▸ h).elim
  | cons c rest =>
      rw [hid] at h
      have hcode := toNat_of_isAsciiPart (isAsciiPart_of_isAsciiStart h.1)
      simp only [String.toList_ofList, hf c hcode]
      exact ⟨hg c h.1, h.2⟩

theorem Word.capitalize {id : String} (h : Word id.toList) : Word (capitalize id).toList :=
  h.mapFirst (fun _ hc => if_pos hc) fun _ hc => isAsciiStart_toUpper hc

theorem Word.lowerFirst {id : String} (h : Word id.toList) : Word (lowerFirst id).toList :=
  h.mapFirst (fun _ hc => if_pos hc) fun _ hc => isAsciiStart_toLower hc

end ApiMocks.Identifier
