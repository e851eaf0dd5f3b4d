import ApiMocks.Proofs.FixtureUses
import ApiMocks.Proofs.ResponseNames
import Mathlib.Order.Interval.Set.Defs

/-!
# Which responses share a fixture

The key of a fixture is an id with a small first letter and a word for the slot,
without anything between them.  Ids may end in such words themselves, in
`Response`, in `Error` or in digits; but the last letter of a key tells a success
from another status, and in front of the digits of a status stands a letter.  So a
key can be taken apart, and the table puts responses under one key only if they
belong to one operation name and one slot.

* `SameSlot`, `slot_eq_iff_sameSlot`: one slot for all successes, one for each
  other status;
* `fixture_eq_iff_slot`: keys and what they are made of;
* `fixture_eq_iff_sameSlot`: when two responses share a key, and the entry.
-/

namespace ApiMocks.Emit

open Text

/-- Both statuses are successes, or both are the same other status. -/
def SameSlot (s t : Status) : Prop :=
  s ∈ Set.Icc 200 299 ∧ t ∈ Set.Icc 200 299 ∨
    s ∉ Set.Icc 200 299 ∧ t ∉ Set.Icc 200 299 ∧ s = t

theorem isSuccess_iff_mem_Icc {s : Status} : s.isSuccess = true ↔ s ∈ Set.Icc 200 299 := by
  simp only [Status.isSuccess, Bool.and_eq_true, decide_eq_true_eq, Set.mem_Icc]
  exact and_congr_right fun _ => Nat.lt_succ_iff

theorem slot_eq_iff_sameSlot {s t : Status} : Naming.slot s = Naming.slot t ↔ SameSlot s t := by
  rw [Naming.slot_eq_iff, isSuccess_iff_mem_Icc, isSuccess_iff_mem_Icc, SameSlot]
  constructor
  · intro h
    rcases h with rfl | hboth
    · by_cases hs : s ∈ Set.Icc 200 299
      · exact .inl ⟨hs, hs⟩
      · exact .inr ⟨hs, hs, rfl⟩
    · exact .inl hboth
  · intro h
    rcases h with hboth | ⟨_, _, heq⟩
    · exact .inr hboth
    · exact .inl heq

/-- A key and what it is made of determine each other. -/
theorem fixture_eq_iff_slot {a b : String} {s t : Status} :
    Naming.fixture a s = Naming.fixture b t ↔
      lowerFirst a = lowerFirst b ∧ Naming.slot s = Naming.slot t := by
  constructor
  · exact Naming.fixture_eq_fixture
  · intro h
    obtain ⟨hid, hslot⟩ := h
    calc Naming.fixture a s = Naming.fixture a t := Naming.fixture_congr hslot
      _ = Naming.fixture b t := by rw [Naming.fixture, Naming.fixture, hid]

/-- A mocked response has an entry in the table. -/
theorem exists_entry {c : Config} {ops : List Operation} {op : Operation}
    {m : Response × String} (hop : op ∈ ops) (hm : m ∈ mockedResponses c op) :
    ∃ f ∈ (fixturesModule c ops).value.fixtures, f.name = Naming.fixture op.id m.1.status := by
  have hasked : ⟨Naming.fixture op.id m.1.status, m.2⟩ ∈ askedFixtures c op :=
    List.mem_map.mpr ⟨m, hm, rfl⟩
  exact List.mem_map.mp (mem_keys_of_mem_askedFixtures hop hasked)

/-- **Two responses share a key exactly if** they belong to ids that agree with a
small first letter, and both are successes or both have the same other status.
So each mocked response has an entry in the table, and it shares this entry with
the mocked responses of its operation name and its slot, and with no others. -/
theorem fixture_eq_iff_sameSlot (a b : String) (s t : Status) (c : Config)
    (ops : List Operation) :
    (Naming.fixture a s = Naming.fixture b t ↔ lowerFirst a = lowerFirst b ∧ SameSlot s t) ∧
    (∀ op ∈ ops, ∀ m ∈ mockedResponses c op,
      ∃ f ∈ (fixturesModule c ops).value.fixtures, f.name = Naming.fixture op.id m.1.status ∧
        ∀ o ∈ ops, ∀ n ∈ mockedResponses c o,
          (f.name = Naming.fixture o.id n.1.status ↔
            lowerFirst op.id = lowerFirst o.id ∧ SameSlot m.1.status n.1.status)) := by
  have hkey : ∀ {a b : String} {s t : Status}, Naming.fixture a s = Naming.fixture b t ↔
      lowerFirst a = lowerFirst b ∧ SameSlot s t := by
    intro a b s t
    rw [fixture_eq_iff_slot, slot_eq_iff_sameSlot]
  refine ⟨hkey, ?_⟩
  intro op hop m hm
  obtain ⟨f, hf, hname⟩ := exists_entry hop hm
  refine ⟨f, hf, hname, ?_⟩
  intro o _ n _
  rw [hname]
  exact hkey

/-- One operation name in two spellings, and an id that ends like a key. -/
def sharingPets : List Operation := [
  { id := "getPet", method := .get, path := "/pets/{id}"
    responses := [
      { status := 200, schemaName := "Pet" },
      { status := 404, schemaName := "Gone" }] },
  { id := "GetPet", method := .get, path := "/animals/{id}"
    responses := [{ status := 206, schemaName := "Part" }] },
  { id := "getPetError40", method := .get, path := "/errors"
    responses := [{ status := 4, schemaName := "Other" }] }]

/-- Its partial success is under the key of the first success. -/
theorem fixture_sharingPets :
    let c : Config := {}
    let op := sharingPets[1]
    let m : Response × String := ({ status := 206, schemaName := "Part" }, "Part")
    op ∈ sharingPets ∧ m ∈ mockedResponses c op ∧
    ∃ f ∈ (fixturesModule c sharingPets).value.fixtures, f.name = "getPetResponse" ∧
      (f.name = Naming.fixture "getPet" 200 ↔
        lowerFirst "GetPet" = lowerFirst "getPet" ∧ SameSlot 206 200) := by
  intro c op m
  have hop : op ∈ sharingPets := List.getElem_mem _
  have hm : m ∈ mockedResponses c op := List.mem_singleton.mpr rfl
  obtain ⟨f, hf, hname, hshared⟩ :=
    (fixture_eq_iff_sameSlot "getPet" "getPetError40" 200 4 c sharingPets).2 op hop m hm
  have hkey : Naming.fixture op.id m.1.status = "getPetResponse" := by decide +kernel
  have hfirst : sharingPets[0] ∈ sharingPets := List.getElem_mem _
  exact ⟨hop, hm, f, hf, hname.trans hkey,
    hshared sharingPets[0] hfirst ({ status := 200, schemaName := "Pet" }, "Pet")
      List.mem_cons_self⟩

end ApiMocks.Emit
