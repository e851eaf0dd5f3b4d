import ApiMocks.Naming
import Mathlib.Data.List.DropRight

/-!
# The names of responses

The fixture and the mock class of a response are named after its operation and
its slot: all successes of an operation share one slot, and every other status
has one of its own.  Nothing but the digits at the end tells the statuses apart,
and ids may end in digits or in `Error` themselves; but the digits of a status
always stand behind a letter, so they can be taken off again.

* `slot`: what a name keeps of a status;
* `withoutDigits_error`: the digits of a status can be taken off a name;
* `fixture_eq_fixture`: a fixture name determines the first-letter-small id and
  the slot;
* `mockClass_eq_success`, `mockClass_eq_iff_slot`: when mock classes share a name;
* `errorHandler_inj`, `handler_eq_errorHandler`: when route handlers do.
-/

namespace ApiMocks.Naming

open Text

/-- What the names of a response keep of its status: nothing of a success. -/
def slot (s : Status) : Option Status := if s.isSuccess then none else some s

variable {a b : String} {s t : Status}

theorem slot_of_success (h : s.isSuccess = true) : slot s = none := if_pos h

theorem slot_of_not_success (h : s.isSuccess = false) : slot s = some s :=
  if_neg (by simp [h])

theorem slot_eq_none_iff : slot s = none ↔ s.isSuccess = true := by
  cases h : s.isSuccess <;> simp [slot, h]

/-- All successes share a slot. -/
theorem slot_eq_of_success (hs : s.isSuccess = true) (ht : t.isSuccess = true) :
    slot s = slot t := by
  rw [slot_of_success hs, slot_of_success ht]

/-- The slot of a status that is no success is that of no other status. -/
theorem eq_of_slot_eq (h : slot s = slot t) (hs : s.isSuccess = false) : s = t := by
  rw [slot_of_not_success hs] at h
  cases ht : t.isSuccess with
  | true => rw [slot_of_success ht] at h; cases h
  | false => rw [slot_of_not_success ht] at h; exact Option.some.inj h

/-- Different statuses share a slot only if both are successes. -/
theorem slot_eq_iff : slot s = slot t ↔ s = t ∨ s.isSuccess = true ∧ t.isSuccess = true := by
  constructor
  · intro h
    cases hs : s.isSuccess with
    | false => exact .inl (eq_of_slot_eq h hs)
    | true =>
        rw [slot_of_success hs, eq_comm, slot_eq_none_iff] at h
        exact .inr ⟨rfl, h⟩
  · intro h
    rcases h with rfl | ⟨hs, ht⟩
    · rfl
    · exact slot_eq_of_success hs ht

/-! ## Digits at the end -/

/-- A text without the digits at its end. -/
def withoutDigits (text : List Char) : List Char := text.rdropWhile Char.isDigit

/-- Behind a character that is no digit, digits can be taken off. -/
theorem withoutDigits_append {text digits : List Char} {last : Char}
    (hlast : last.isDigit = false) (hdigits : ∀ c ∈ digits, c.isDigit = true) :
    withoutDigits (text ++ [last] ++ digits) = text ++ [last] := by
  have hreverse : (text ++ [last] ++ digits).reverse =
      digits.reverse ++ last :: text.reverse := by simp
  have hdrop : (digits.reverse ++ last :: text.reverse).dropWhile Char.isDigit =
      last :: text.reverse := by
    rw [List.dropWhile_append_of_pos fun c hc => hdigits c (List.mem_reverse.mp hc)]
    exact List.dropWhile_cons_of_neg (by simp [hlast])
  rw [withoutDigits, List.rdropWhile, hreverse, hdrop]
  simp

theorem toList_toString_status (s : Status) : (toString s).toList = Nat.toDigits 10 s :=
  Nat.toList_repr

/-- A status is written with digits. -/
theorem isDigit_of_mem_status {c : Char} (h : c ∈ (toString s).toList) : c.isDigit = true := by
  rw [toList_toString_status] at h
  exact Nat.isDigit_of_mem_toDigits (by decide) (by decide) h

/-- Its digits determine it. -/
theorem toString_status_inj (h : toString s = toString t) : s = t := by
  have hdigits : Nat.toDigits 10 s = Nat.toDigits 10 t := by
    have hchars := congrArg String.toList h
    rwa [toList_toString_status, toList_toString_status] at hchars
  calc s = Nat.ofDigitChars 10 (Nat.toDigits 10 s) 0 := Nat.ofDigitChars_ten_toDigits.symm
    _ = Nat.ofDigitChars 10 (Nat.toDigits 10 t) 0 := by rw [hdigits]
    _ = t := Nat.ofDigitChars_ten_toDigits

theorem withoutDigits_error (a : String) (s : Status) :
    withoutDigits (a ++ ("Error" ++ toString s)).toList = (a ++ "Error").toList := by
  have hchars : (a ++ ("Error" ++ toString s)).toList =
      (a.toList ++ ['E', 'r', 'r', 'o']) ++ ['r'] ++ (toString s).toList := by
    simp [String.toList_append]
  have hletters : (a ++ "Error").toList = (a.toList ++ ['E', 'r', 'r', 'o']) ++ ['r'] := by
    simp [String.toList_append]
  rw [hchars, hletters]
  exact withoutDigits_append (by decide) fun c hc => isDigit_of_mem_status hc

theorem withoutDigits_response (a : String) :
    withoutDigits (a ++ "Response").toList = (a ++ "Response").toList := by
  have hletters : (a ++ "Response").toList =
      (a.toList ++ ['R', 'e', 's', 'p', 'o', 'n', 's']) ++ ['e'] ++ [] := by
    simp [String.toList_append]
  rw [hletters, withoutDigits_append (by decide) (by simp), List.append_nil]

/-- A status behind `Error` can be read back. -/
theorem append_error_inj (h : a ++ ("Error" ++ toString s) = b ++ ("Error" ++ toString t)) :
    a = b ∧ s = t := by
  have hstripped := congrArg (withoutDigits ∘ String.toList) h
  simp only [Function.comp_apply, withoutDigits_error, String.toList_inj] at hstripped
  have hbase : a = b := (String.append_left_inj _).mp hstripped
  subst hbase
  have hstatus : toString s = toString t := by
    rwa [String.append_right_inj, String.append_right_inj] at h
  exact ⟨rfl, toString_status_inj hstatus⟩

/-- The name of a success is no name of an error. -/
theorem append_response_ne_append_error :
    a ++ "Response" ≠ b ++ ("Error" ++ toString t) := by
  intro h
  have hstripped := congrArg (withoutDigits ∘ String.toList) h
  simp only [Function.comp_apply, withoutDigits_error, withoutDigits_response] at hstripped
  have hlast := congrArg List.getLast? hstripped
  simp [String.toList_append] at hlast

/-! ## Fixtures and mock classes -/

theorem fixture_of_success (h : s.isSuccess = true) :
    fixture a s = lowerFirst a ++ "Response" := if_pos h

theorem fixture_of_not_success (h : s.isSuccess = false) :
    fixture a s = lowerFirst a ++ ("Error" ++ toString s) := by
  rw [fixture, if_neg (by simp [h]), String.append_assoc]

/-- **A fixture name determines** the id, but for the case of its first letter,
and the slot. -/
theorem fixture_eq_fixture (h : fixture a s = fixture b t) :
    lowerFirst a = lowerFirst b ∧ slot s = slot t := by
  cases hs : s.isSuccess with
  | true =>
      rw [fixture_of_success hs] at h
      cases ht : t.isSuccess with
      | true =>
          rw [fixture_of_success ht, String.append_left_inj] at h
          exact ⟨h, by rw [slot_of_success hs, slot_of_success ht]⟩
      | false =>
          rw [fixture_of_not_success ht] at h
          exact absurd h append_response_ne_append_error
  | false =>
      rw [fixture_of_not_success hs] at h
      cases ht : t.isSuccess with
      | true =>
          rw [fixture_of_success ht] at h
          exact absurd h.symm append_response_ne_append_error
      | false =>
          rw [fixture_of_not_success ht] at h
          obtain ⟨hbase, rfl⟩ := append_error_inj h
          exact ⟨hbase, rfl⟩

/-- The name of a fixture depends on the slot only. -/
theorem fixture_congr (hslot : slot s = slot t) : fixture a s = fixture a t := by
  cases hs : s.isSuccess with
  | true =>
      rw [slot_of_success hs, eq_comm, slot_eq_none_iff] at hslot
      rw [fixture_of_success hs, fixture_of_success hslot]
  | false => rw [eq_of_slot_eq hslot hs]

/-- So does the name of a mock class, and of the id it keeps the capital form. -/
theorem mockClass_congr (hid : capitalize a = capitalize b) (hslot : slot s = slot t) :
    mockClass a s = mockClass b t := by
  cases hs : s.isSuccess with
  | true =>
      rw [slot_of_success hs, eq_comm, slot_eq_none_iff] at hslot
      rw [mockClass, mockClass, if_pos hs, if_pos hslot, hid]
  | false =>
      obtain rfl := eq_of_slot_eq hslot hs
      rw [mockClass, mockClass, hid]

/-- The mock class of a success can share its name with that of another response
only if that is a success too, or if the one id is the other with the error
behind it. -/
theorem mockClass_eq_success (ht : t.isSuccess = true) (h : mockClass a s = mockClass b t) :
    s.isSuccess = true ∧ capitalize a = capitalize b ∨
      s.isSuccess = false ∧ capitalize b = capitalize a ++ "Error" ++ toString s := by
  rw [mockClass, mockClass, if_pos ht] at h
  cases hs : s.isSuccess with
  | true =>
      rw [if_pos hs, String.append_left_inj] at h
      exact .inl ⟨rfl, h⟩
  | false =>
      rw [if_neg (by simp [hs]), String.append_left_inj] at h
      exact .inr ⟨rfl, h.symm⟩

/-- In the second case the names are the same. -/
theorem mockClass_eq_of_error (hs : s.isSuccess = false) (ht : t.isSuccess = true)
    (h : capitalize b = capitalize a ++ "Error" ++ toString s) :
    mockClass a s = mockClass b t := by
  rw [mockClass, mockClass, if_neg (by simp [hs]), if_pos ht, h]

/-- Two responses that are no successes share the name of a mock class only for
one capital id and one status. -/
theorem mockClass_eq_not_success (hs : s.isSuccess = false) (ht : t.isSuccess = false)
    (h : mockClass a s = mockClass b t) : capitalize a = capitalize b ∧ s = t := by
  rw [mockClass, mockClass, if_neg (by simp [hs]), if_neg (by simp [ht]),
    String.append_left_inj, String.append_assoc, String.append_assoc] at h
  exact append_error_inj h

/-- No text is longer than itself. -/
theorem ne_append_error (a : String) (s : Status) : a ≠ a ++ "Error" ++ toString s := by
  intro h
  have hlength := congrArg String.length h
  have hletters : "Error".length = 5 := rfl
  simp only [String.length_append] at hlength
  omega

/-- The mock classes of one id share a name exactly if they share a slot. -/
theorem mockClass_eq_iff_slot : mockClass a s = mockClass a t ↔ slot s = slot t := by
  constructor
  · intro h
    cases ht : t.isSuccess with
    | true =>
        rcases mockClass_eq_success ht h with ⟨hs, _⟩ | ⟨_, hid⟩
        · exact slot_eq_of_success hs ht
        · exact absurd hid (ne_append_error _ _)
    | false =>
        cases hs : s.isSuccess with
        | true =>
            rcases mockClass_eq_success hs h.symm with ⟨ht', _⟩ | ⟨_, hid⟩
            · exact slot_eq_of_success hs ht'
            · exact absurd hid (ne_append_error _ _)
        | false => rw [(mockClass_eq_not_success hs ht h).2]
  · exact mockClass_congr rfl

/-- So the names of one id are different, but for successes. -/
theorem mockClass_eq_iff :
    mockClass a s = mockClass a t ↔ s = t ∨ s.isSuccess = true ∧ t.isSuccess = true := by
  rw [mockClass_eq_iff_slot, slot_eq_iff]

/-! ## Route handlers -/

theorem handler_inj (h : handler a = handler b) : capitalize a = capitalize b :=
  (String.append_right_inj "mock").mp h

theorem errorHandler_eq (a : String) (s : Status) :
    errorHandler a s = "mock" ++ (capitalize a ++ "Error" ++ toString s) := by
  simp only [errorHandler, String.append_assoc]

/-- The route handler of an error determines the capital id and the status. -/
theorem errorHandler_inj (h : errorHandler a s = errorHandler b t) :
    capitalize a = capitalize b ∧ s = t := by
  rw [errorHandler_eq, errorHandler_eq, String.append_right_inj, String.append_assoc,
    String.append_assoc] at h
  exact append_error_inj h

/-- An operation has the handler name of an error if it is named like the error. -/
theorem handler_eq_errorHandler :
    handler a = errorHandler b t ↔ capitalize a = capitalize b ++ "Error" ++ toString t := by
  rw [errorHandler_eq]
  exact String.append_right_inj "mock"

end ApiMocks.Naming
