import ApiMocks.Http.Status
import Mathlib.Logic.Basic

/-!
# Which keys name a status

The digits of a key are read into a word of 16 bits, one after the other, while a key
may have any number of them.  A product or a sum of words wraps around when it is too
large, so each is taken only if it is exact.  What makes this enough is that a value
never gets smaller when more digits follow: where reading stops early, the value of the
whole key does not fit a word either.  Zeros in front leave the word at zero, so they
change nothing, however many there are.

* `IsNumeral`, `decimalValue`: runs of ASCII digits, and their value as a number
  without bounds;
* `mul?_eq_some_iff`, `add?_eq_some_iff`: words that do not wrap around;
* `push?_eq_some_iff`, `readDigits?_eq_some_iff`: one digit, and a whole run of them;
* `isNumeral_and_value_iff`: runs of digits and the usual notation of numbers;
* `ofKey?_eq_some_iff`: the statuses that keys name.
-/

namespace ApiMocks.Status

/-- A run of one or more ASCII digits. -/
structure IsNumeral (key : String) : Prop where
  ne_empty : key ≠ ""
  digits : ∀ c ∈ key.toList, '0' ≤ c ∧ c ≤ '9'

/-- The value of a run of digits in base ten, as a number without bounds. -/
def decimalValue (key : String) : Nat := Nat.ofDigitChars 10 key.toList 0

variable {a b n m : UInt16} {d : Char} {ds : List Char} {key : String} {s : Status}

/-! ## Words -/

theorem toNat_le_limit (n : UInt16) : n.toNat ≤ limit := Nat.le_of_lt_succ n.toNat_lt

theorem toNat_ofNat_of_le {k : Nat} (h : k ≤ limit) : (UInt16.ofNat k).toNat = k :=
  UInt16.toNat_ofNat_of_lt' (Nat.lt_succ_of_le h)

/-- A word that is taken only while a number is within the limit, and then is this
number. -/
theorem checked_iff {k : Nat} (hword : k ≤ limit → a.toNat = k) :
    (if k ≤ limit then some a else none) = some n ↔ n.toNat = k := by
  rw [Option.ite_none_right_eq_some, Option.some_inj, ← UInt16.toNat_inj]
  constructor
  · intro h
    obtain ⟨hfits, heq⟩ := h
    rw [← heq, hword hfits]
  · intro h
    have hfits : k ≤ limit := h ▸ toNat_le_limit n
    exact ⟨hfits, (hword hfits).trans h.symm⟩

/-- A product is taken exactly if it is a word. -/
theorem mul?_eq_some_iff : mul? a b = some n ↔ n.toNat = a.toNat * b.toNat := by
  refine checked_iff fun hfits => ?_
  exact (UInt16.toNat_mul a b).trans (Nat.mod_eq_of_lt (Nat.lt_succ_of_le hfits))

/-- A sum is taken exactly if it is a word. -/
theorem add?_eq_some_iff : add? a b = some n ↔ n.toNat = a.toNat + b.toNat := by
  refine checked_iff fun hfits => ?_
  exact (UInt16.toNat_add a b).trans (Nat.mod_eq_of_lt (Nat.lt_succ_of_le hfits))

/-! ## Digits -/

theorem isDigit_iff : d.isDigit = true ↔ '0' ≤ d ∧ d ≤ '9' := Char.isDigit_iff_toNat

theorem digit_lt_ten (h : d.isDigit) : d.toNat - '0'.toNat < 10 := by
  have hrange := Char.isDigit_iff_toNat.mp h
  have hzero : '0'.toNat = 48 := rfl
  have hnine : '9'.toNat = 57 := rfl
  omega

theorem toNat_digit (h : d.isDigit) : (digit d).toNat = d.toNat - '0'.toNat :=
  UInt16.toNat_ofNat_of_lt' (Nat.lt_trans (digit_lt_ten h) (by decide))

theorem digitChar_digit (h : d.isDigit) : Nat.digitChar (d.toNat - '0'.toNat) = d := by
  have hrange := Char.isDigit_iff_toNat.mp h
  have hzero : '0'.toNat = 48 := rfl
  rw [← Char.toNat_inj, Nat.toNat_digitChar_of_lt_ten (digit_lt_ten h)]
  omega

/-- **One digit** is taken exactly if ten times the word and the digit are a word. -/
theorem push?_eq_some_iff (hd : d.isDigit) :
    push? n d = some m ↔ m.toNat = 10 * n.toNat + (d.toNat - '0'.toNat) := by
  simp only [push?, Option.bind_eq_bind, Option.bind_eq_some_iff, mul?_eq_some_iff,
    add?_eq_some_iff, toNat_digit hd]
  constructor
  · intro h
    obtain ⟨tens, htens, hm⟩ := h
    rw [hm, htens, Nat.mul_comm]
    rfl
  · intro h
    have hfits : n.toNat * 10 ≤ limit := by
      have hm := toNat_le_limit m
      omega
    have htens := toNat_ofNat_of_le hfits
    exact ⟨_, htens, by rw [htens, h, Nat.mul_comm]⟩

/-- A value does not get smaller when more digits follow. -/
theorem le_ofDigitChars (ds : List Char) (n : Nat) : n ≤ Nat.ofDigitChars 10 ds n := by
  rw [Nat.ofDigitChars_eq_ofDigitChars_zero]
  exact Nat.le_add_right_of_le (Nat.le_mul_of_pos_left n (Nat.pow_pos (by decide)))

/-- **A run of digits** behind those of a word is read exactly if all of them together
are a word, and then it is this word. -/
theorem readDigits?_eq_some_iff (hds : ∀ d ∈ ds, d.isDigit) :
    readDigits? n ds = some m ↔ m.toNat = Nat.ofDigitChars 10 ds n.toNat := by
  induction ds generalizing n with
  | nil => rw [readDigits?, Option.some_inj, Nat.ofDigitChars_nil, UInt16.toNat_inj, eq_comm]
  | cons d rest ih =>
      obtain ⟨hd, hrest⟩ := List.forall_mem_cons.mp hds
      simp only [readDigits?, Option.bind_eq_bind, Option.bind_eq_some_iff, ih hrest,
        push?_eq_some_iff hd, Nat.ofDigitChars_cons]
      constructor
      · intro h
        obtain ⟨next, hnext, hm⟩ := h
        rw [hm, hnext]
      · intro h
        -- the word in between is no larger than the one at the end
        have hfits : 10 * n.toNat + (d.toNat - '0'.toNat) ≤ limit :=
          Nat.le_trans (le_ofDigitChars rest _) (h ▸ toNat_le_limit m)
        have hnext := toNat_ofNat_of_le hfits
        exact ⟨_, hnext, by rw [hnext, h]⟩

/-! ## Numerals -/

/-- A numeral, character by character. -/
theorem isNumeral_iff :
    IsNumeral key ↔ key.toList ≠ [] ∧ ∀ c ∈ key.toList, c.isDigit := by
  simp only [isDigit_iff, ne_eq, String.toList_eq_nil_iff]
  exact ⟨fun h => ⟨h.ne_empty, h.digits⟩, fun h => ⟨h.1, h.2⟩⟩

/-- A text has a value exactly if it is a numeral that fits a word. -/
theorem digitsValue?_eq_some_iff :
    digitsValue? key.toList = some m ↔ IsNumeral key ∧ m.toNat = decimalValue key := by
  have hguard : ¬ (key.toList.isEmpty || !key.toList.all Char.isDigit) = true ↔ IsNumeral key := by
    simp [isNumeral_iff]
  rw [digitsValue?, Option.ite_none_left_eq_some, hguard]
  exact and_congr_right fun hkey => readDigits?_eq_some_iff (isNumeral_iff.mp hkey).2

/-- Digits behind the notation of a number above zero are the notation of their value. -/
theorem toDigits_ofDigitChars {k : Nat} (hk : 0 < k) (hds : ∀ d ∈ ds, d.isDigit) :
    Nat.toDigits 10 (Nat.ofDigitChars 10 ds k) = Nat.toDigits 10 k ++ ds := by
  induction ds generalizing k with
  | nil => rw [Nat.ofDigitChars_nil, List.append_nil]
  | cons d rest ih =>
      obtain ⟨hd, hrest⟩ := List.forall_mem_cons.mp hds
      have hlt := digit_lt_ten hd
      calc Nat.toDigits 10 (Nat.ofDigitChars 10 (d :: rest) k)
          = Nat.toDigits 10 (10 * k + (d.toNat - '0'.toNat)) ++ rest := by
            rw [Nat.ofDigitChars_cons, ih (by omega) hrest]
        _ = Nat.toDigits 10 k ++ Nat.toDigits 10 (d.toNat - '0'.toNat) ++ rest := by
            rw [Nat.toDigits_append_toDigits (by decide) hk hlt]
        _ = Nat.toDigits 10 k ++ d :: rest := by
            rw [Nat.toDigits_of_lt_base hlt, digitChar_digit hd, List.append_assoc,
              List.singleton_append]

/-- A run of digits is the notation of its value, with zeros in front. -/
theorem exists_zeros (hne : ds ≠ []) (hds : ∀ d ∈ ds, d.isDigit) :
    ∃ zeros, ds = List.replicate zeros '0' ++ Nat.toDigits 10 (Nat.ofDigitChars 10 ds 0) := by
  induction ds with
  | nil => exact absurd rfl hne
  | cons d rest ih =>
      obtain ⟨hd, hrest⟩ := List.forall_mem_cons.mp hds
      rw [Nat.ofDigitChars_cons, Nat.mul_zero, Nat.zero_add]
      by_cases hzero : d = '0'
      · subst hzero
        rw [Nat.sub_self]
        cases rest with
        | nil => exact ⟨0, rfl⟩
        | cons e rest =>
            obtain ⟨zeros, heq⟩ := ih (List.cons_ne_nil _ _) hrest
            exact ⟨zeros + 1, by rw [List.replicate_succ, List.cons_append, ← heq]⟩
      · have hpos : 0 < d.toNat - '0'.toNat := by
          refine Nat.pos_of_ne_zero fun h => hzero ?_
          rw [← digitChar_digit hd, h]
          rfl
        refine ⟨0, ?_⟩
        rw [toDigits_ofDigitChars hpos hrest, Nat.toDigits_of_lt_base (digit_lt_ten hd),
          digitChar_digit hd]
        rfl

/-- **Numerals with a value** are its usual notation, with any number of zeros in
front. -/
theorem isNumeral_and_value_iff {k : Nat} :
    IsNumeral key ∧ decimalValue key = k ↔
      ∃ zeros, key = String.ofList (List.replicate zeros '0') ++ toString k := by
  have htext : ∀ zeros, key = String.ofList (List.replicate zeros '0') ++ toString k ↔
      key.toList = List.replicate zeros '0' ++ Nat.toDigits 10 k := by
    intro zeros
    rw [Nat.toString_eq_ofList_toDigits, ← String.toList_inj, String.toList_append,
      String.toList_ofList, String.toList_ofList]
  simp only [htext, isNumeral_iff]
  constructor
  · intro h
    obtain ⟨⟨hne, hdigits⟩, rfl⟩ := h
    exact exists_zeros hne hdigits
  · intro h
    obtain ⟨zeros, heq⟩ := h
    refine ⟨⟨?_, ?_⟩, ?_⟩
    · rw [heq]
      exact List.append_ne_nil_of_right_ne_nil _ Nat.toDigits_ne_nil
    · intro c hc
      rw [heq, List.mem_append] at hc
      rcases hc with hzero | hdigit
      · rw [List.eq_of_mem_replicate hzero]
        rfl
      · exact Nat.isDigit_of_mem_toDigits (by decide) (by decide) hdigit
    · rw [decimalValue, heq, Nat.ofDigitChars_append, Nat.ofDigitChars_replicate_zero, Nat.mul_zero,
        Nat.ofDigitChars_ten_toDigits]

/-! ## Keys -/

/-- A text is no numeral if it is empty or has any character that is no ASCII digit. -/
theorem not_isNumeral_iff :
    ¬ IsNumeral key ↔ key = "" ∨ ∃ c ∈ key.toList, ¬ ('0' ≤ c ∧ c ≤ '9') := by
  simp only [isNumeral_iff, isDigit_iff, ne_eq, String.toList_eq_nil_iff, not_and_or, not_not,
    not_forall, exists_prop]

theorem not_isNumeral_defaultKey : ¬ IsNumeral defaultKey :=
  not_isNumeral_iff.mpr (.inr ⟨'d', by decide, by decide⟩)

/-- A key other than `default` names a status exactly if it is a numeral whose value is
this status and within the limit. -/
theorem ofKey?_of_ne_defaultKey (h : key ≠ defaultKey) :
    ofKey? key = some s ↔ IsNumeral key ∧ decimalValue key = s ∧ s ≤ limit := by
  simp only [ofKey?, if_neg h, Option.map_eq_some_iff, digitsValue?_eq_some_iff]
  constructor
  · intro h
    obtain ⟨m, ⟨hkey, hvalue⟩, rfl⟩ := h
    exact ⟨hkey, hvalue.symm, toNat_le_limit m⟩
  · intro h
    obtain ⟨hkey, rfl, hfits⟩ := h
    have hword := toNat_ofNat_of_le hfits
    exact ⟨_, ⟨hkey, hword⟩, hword⟩

/-- A key other than `default` names no status exactly if it is no numeral or has a
value beyond the limit. -/
theorem ofKey?_eq_none_of_ne_defaultKey (h : key ≠ defaultKey) :
    ofKey? key = none ↔ ¬ IsNumeral key ∨ limit < decimalValue key := by
  rw [Option.eq_none_iff_forall_ne_some]
  simp only [ne_eq, ofKey?_of_ne_defaultKey h]
  constructor
  · intro hnone
    by_cases hkey : IsNumeral key
    · exact .inr (Nat.lt_of_not_le fun hfits => hnone _ ⟨hkey, rfl, hfits⟩)
    · exact .inl hkey
  · intro hout s hs
    obtain ⟨hkey, rfl, hfits⟩ := hs
    rcases hout with hno | hlarge
    · exact hno hkey
    · exact Nat.not_le_of_lt hlarge hfits

/-- **The statuses that keys name.**  The key `default` names 200.  Every other key
names a status exactly if it is a run of ASCII digits whose value is this status and
no larger than 65535.  So a key names none if it is empty, has any other character, or
has a larger value, however it is written.  The runs of digits with a value are its
usual notation with any number of zeros in front. -/
theorem ofKey?_eq_some_iff (key : String) :
    (∀ s, ofKey? key = some s ↔
      key = "default" ∧ s = 200 ∨ IsNumeral key ∧ decimalValue key = s ∧ s ≤ 65535) ∧
    (ofKey? key = none ↔ key ≠ "default" ∧
      (key = "" ∨ (∃ c ∈ key.toList, ¬ ('0' ≤ c ∧ c ≤ '9')) ∨ 65535 < decimalValue key)) ∧
    (∀ k, IsNumeral key ∧ decimalValue key = k ↔
      ∃ zeros, key = String.ofList (List.replicate zeros '0') ++ toString k) := by
  rw [show "default" = defaultKey from rfl, show 65535 = limit from rfl]
  refine ⟨?_, ?_, fun k => isNumeral_and_value_iff⟩
  · intro s
    by_cases hkey : key = defaultKey
    · subst hkey
      simp [ofKey?, not_isNumeral_defaultKey, eq_comm]
    · simp [ofKey?_of_ne_defaultKey hkey, hkey]
  · by_cases hkey : key = defaultKey
    · simp [ofKey?, hkey]
    · rw [ofKey?_eq_none_of_ne_defaultKey hkey, not_isNumeral_iff, or_assoc]
      exact ⟨fun h => ⟨hkey, h⟩, And.right⟩

/-- Cut to 16 bits, the value of the last key would be 200. -/
example : ofKey? "0000000200" = some 200 ∧ ofKey? "065535" = some 65535 ∧
    ofKey? "65536" = none ∧ ofKey? "65736" = none := by
  decide

end ApiMocks.Status
