import ApiMocks.Text.Casing
import Mathlib

/-!
# Capital forms

The capital form of a character never begins with a small ASCII letter.  ASCII is
capitalized directly, and beyond it the tables are read: no expansion begins with
such a letter, and no run of letters is moved onto one.

* `CaseRun.Avoids`: a run whose letters beyond ASCII are not moved onto some
  range of characters;
* `upperChars_eq_cons`: no capital form begins with a small letter;
* `isLower_head_capitalize`: so no capitalized text does.
-/

namespace ApiMocks.Text

theorem isLower_iff_toNat {c : Char} : c.isLower = true ↔ 97 ≤ c.toNat ∧ c.toNat ≤ 122 := by
  simp [Char.isLower, UInt32.le_iff_toNat_le, ← Char.toNat_val]

/-- A number that stands for a small letter is its code. -/
theorem isLower_ofNat {n : Nat} (h : (Char.ofNat n).isLower = true) : 97 ≤ n ∧ n ≤ 122 := by
  rw [isLower_iff_toNat, Char.toNat_ofNat] at h
  -- what is no code stands for the character 0
  split at h <;> omega

/-! ## The tables -/

/-- No character beyond ASCII is moved by the run onto the codes from `low` to
`high`. -/
def CaseRun.Avoids (r : CaseRun) (low high : Nat) : Prop :=
  r.last < 128 ∨ r.last + r.shift < low ∨ high < max r.first 128 + r.shift

instance (r : CaseRun) (low high : Nat) : Decidable (r.Avoids low high) :=
  inferInstanceAs (Decidable (_ ∨ _ ∨ _))

theorem upperRuns_avoid_small : ∀ r ∈ upperRuns, r.Avoids 97 122 := by decide +kernel

/-- An expansion begins with a character that is no small letter. -/
theorem upperExpansions_head :
    ∀ e ∈ upperExpansions, e.2 ≠ [] ∧ ∀ n ∈ e.2.head?, (Char.ofNat n).isLower = false := by
  decide +kernel

/-- A run that avoids a range moves no character beyond ASCII into it. -/
theorem CaseRun.Avoids.not_mem_range {r : CaseRun} {n low high : Nat} (h : r.Avoids low high)
    (hlow : 0 < low) (hcontains : r.contains n = true) (hbeyond : 128 ≤ n) :
    ¬ (low ≤ (n + r.shift).toNat ∧ (n + r.shift).toNat ≤ high) := by
  simp only [CaseRun.contains, Bool.and_eq_true, decide_eq_true_eq] at hcontains
  unfold CaseRun.Avoids at h
  omega

/-- A run that avoids the small letters moves no character onto one. -/
theorem CaseRun.Avoids.isLower_shift {r : CaseRun} {n : Nat} (h : r.Avoids 97 122)
    (hcontains : r.contains n = true) (hbeyond : 128 ≤ n) :
    (Char.ofNat (n + r.shift).toNat).isLower = false := by
  cases hlower : (Char.ofNat (n + r.shift).toNat).isLower with
  | false => rfl
  | true => exact absurd (isLower_ofNat hlower) (h.not_mem_range (by omega) hcontains hbeyond)

/-! ## Capitalizing -/

/-- **A capital form begins with a character that is no small letter** of ASCII. -/
theorem upperChars_eq_cons (c : Char) :
    ∃ d rest, upperChars c = d :: rest ∧ d.isLower = false := by
  unfold upperChars
  split
  · exact ⟨c.toUpper, [], rfl, Char.isLower_toUpper_eq_false c⟩
  · rename_i hbeyond
    rw [Nat.not_lt] at hbeyond
    unfold mapCase
    split
    · rename_i codes hlookup
      obtain ⟨before, after, hlist, _⟩ := List.lookup_eq_some_iff.mp hlookup
      have hmem : (c.toNat, codes) ∈ upperExpansions := by rw [hlist]; simp
      obtain ⟨hne, hhead⟩ := upperExpansions_head _ hmem
      obtain ⟨n, rest, rfl⟩ := List.exists_cons_of_ne_nil hne
      exact ⟨Char.ofNat n, rest.map Char.ofNat, rfl, hhead n rfl⟩
    · split
      · rename_i r hrun
        have hcontains : r.contains c.toNat = true :=
          List.find?_some (p := fun r : CaseRun => r.contains c.toNat) hrun
        have hrun := upperRuns_avoid_small r (List.mem_of_find?_eq_some hrun)
        exact ⟨_, [], rfl, hrun.isLower_shift hcontains hbeyond⟩
      · refine ⟨c, [], rfl, ?_⟩
        rw [← Bool.not_eq_true, isLower_iff_toNat]
        omega

/-- So no capitalized text begins with a small letter. -/
theorem isLower_head_capitalize {s : String} {d : Char}
    (h : (capitalize s).toList.head? = some d) : d.isLower = false := by
  unfold capitalize mapFirst at h
  split at h
  · cases h
  · rename_i c rest _
    obtain ⟨first, more, hupper, hfirst⟩ := upperChars_eq_cons c
    rw [hupper, String.toList_ofList] at h
    obtain rfl := Option.some.inj h
    exact hfirst

end ApiMocks.Text
