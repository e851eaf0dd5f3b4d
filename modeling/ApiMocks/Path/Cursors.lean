import ApiMocks.Path.Template

/-!
# Reading a template by byte offsets

The tokens of a template can be found by searching its UTF-8 text.  Two byte offsets move through
the text: where the literal text so far starts, and where the search for the next opening brace
goes on.  Tokens are cut out at offsets.  An offset beyond the end of a text or within a character
cuts nothing, and then the whole reading fails.

* `behind?`, `front?`, `between?`, `byteAt?` — parts of a text at byte offsets;
* `offsetOf?` — where a character of a kind stands;
* `Cursors`, `search?` — the two offsets, and what one search makes of them;
* `readTokens?` — the reading of a template.
-/

namespace ApiMocks.Path

/-! ## Texts at byte offsets -/

/-- The text behind a byte offset. -/
def behind? (text : String) (offset : Nat) : Option String :=
  (text.pos? ⟨offset⟩).map fun p => (text.sliceFrom p).copy

/-- The text in front of a byte offset. -/
def front? (text : String) (offset : Nat) : Option String :=
  (text.pos? ⟨offset⟩).map fun p => (text.sliceTo p).copy

/-- The text between two byte offsets, which must not be out of order. -/
def between? (text : String) (start stop : Nat) : Option String :=
  if start ≤ stop then (behind? text start).bind (front? · (stop - start)) else none

/-- The byte at an offset. -/
def byteAt? (text : String) (offset : Nat) : Option UInt8 := text.toByteArray.data[offset]?

/-- The byte offset of the first character of a kind. -/
def offsetOf? (kind : Char → Bool) (text : String) : Option Nat :=
  (text.find? kind).map (·.offset.byteIdx)

theorem pos?_eq_some_iff {text : String} {offset : Nat} {p : text.Pos} :
    text.pos? ⟨offset⟩ = some p ↔ p.offset.byteIdx = offset := by
  rw [String.pos?, Option.map_eq_some_iff]
  constructor
  · intro h
    obtain ⟨q, hq, rfl⟩ := h
    rw [String.Slice.pos?] at hq
    split at hq
    · obtain rfl := Option.some.inj hq
      rfl
    · cases hq
  · intro h
    obtain rfl := h
    have hvalid := String.Pos.Raw.isValidForSlice_eq_true_iff.mpr p.toSlice.isValidForSlice
    exact ⟨p.toSlice, dif_pos hvalid, p.ofToSlice_toSlice⟩

/-- The offsets that cut a text are the sizes of its fronts. -/
theorem behind?_eq_some_iff {text rest : String} {offset : Nat} :
    behind? text offset = some rest ↔
      ∃ front, text = front ++ rest ∧ front.utf8ByteSize = offset := by
  simp only [behind?, Option.map_eq_some_iff, pos?_eq_some_iff,
    String.copy_sliceFrom_eq_iff_exists_splits]
  constructor
  · intro h
    obtain ⟨p, rfl, front, htext, hoffset⟩ := h
    exact ⟨front, htext, by rw [hoffset]; rfl⟩
  · intro h
    obtain ⟨front, rfl, rfl⟩ := h
    exact ⟨_, rfl, front, String.Pos.splits_ofEqAppend rfl⟩

-- the second character has two bytes
example : behind? "né" 1 = some "é" ∧ behind? "né" 2 = none ∧ behind? "né" 4 = none := by decide

/-! ## The search for placeholders -/

/-- The two offsets, and the tokens that were found in front of them. -/
structure Cursors where
  /-- where the literal text so far starts -/
  start : Nat := 0
  /-- where the search goes on -/
  position : Nat := 0
  found : List Token := []

/-- What a search comes to: it goes on, or all tokens are found. -/
inductive Search
  | next (cursors : Cursors)
  | done (tokens : List Token)

/-- Whether a character is a brace. -/
def isBrace (c : Char) : Bool := c == '{' || c == '}'

/-- The literal token between two offsets, and none if there is no text between them. -/
def literalBetween? (path : String) (start stop : Nat) : Option (List Token) :=
  if start < stop then (between? path start stop).map fun text => [.literal text.toList]
  else some []

/-- Whether the first brace behind an opening one closes a placeholder: it stands at the offset
`stop`, so the name has as many bytes. -/
def closes? (behind : String) (stop : Nat) : Option Bool :=
  if stop = 0 then some false else (byteAt? behind stop).map (· == '}'.toUInt8)

/-- Searches for the next opening brace, and for the first brace behind it.  Either a placeholder
ends there, and both offsets move behind it, or the opening brace is literal text. -/
def search? (path : String) (c : Cursors) : Option Search := do
  let ahead ← behind? path c.position
  match offsetOf? (· == '{') ahead with
  | none =>
    let literal ← literalBetween? path c.start path.utf8ByteSize
    return .done (c.found ++ literal)
  | some offset =>
    let opening := c.position + offset
    let behind ← behind? path (opening + 1)
    match offsetOf? isBrace behind with
    | none => return .next { c with position := opening + 1 }
    | some stop =>
      if ← closes? behind stop then
        let literal ← literalBetween? path c.start opening
        let name ← front? behind stop
        let found := c.found ++ literal ++ [.param name.toList]
        return .next { start := opening + stop + 2, position := opening + stop + 2, found }
      else return .next { c with position := opening + 1 }

/-- A search that goes on has passed an opening brace. -/
theorem search?_passes {path : String} {c c' : Cursors} (h : search? path c = some (.next c')) :
    ∃ offset behind, behind? path (c.position + offset + 1) = some behind ∧
      c.position + offset + 1 ≤ c'.position := by
  rw [search?] at h
  obtain ⟨ahead, -, h⟩ := Option.bind_eq_some_iff.mp h
  split at h
  · obtain ⟨_, -, h⟩ := Option.bind_eq_some_iff.mp h
    cases h
  · rename_i offset _
    obtain ⟨behind, hbehind, h⟩ := Option.bind_eq_some_iff.mp h
    refine ⟨offset, behind, hbehind, ?_⟩
    split at h
    · obtain rfl := Search.next.inj (Option.some.inj h)
      exact Nat.le_refl _
    · obtain ⟨closed, -, h⟩ := Option.bind_eq_some_iff.mp h
      split at h
      · -- a placeholder ends at least two bytes behind the brace
        obtain ⟨_, -, h⟩ := Option.bind_eq_some_iff.mp h
        obtain ⟨_, -, h⟩ := Option.bind_eq_some_iff.mp h
        obtain rfl := Search.next.inj (Option.some.inj h)
        simp only
        omega
      · obtain rfl := Search.next.inj (Option.some.inj h)
        exact Nat.le_refl _

/-- So it has moved on within the text. -/
theorem search?_advances {path : String} {c c' : Cursors}
    (h : search? path c = some (.next c')) :
    c.position < c'.position ∧ c.position < path.utf8ByteSize := by
  obtain ⟨offset, behind, hbehind, hpassed⟩ := search?_passes h
  obtain ⟨front, rfl, hfront⟩ := behind?_eq_some_iff.mp hbehind
  rw [String.utf8ByteSize_append]
  omega

/-- Searches until all tokens are found. -/
def searchFrom? (path : String) (c : Cursors) : Option (List Token) :=
  match _h : search? path c with
  | none => none
  | some (.done tokens) => some tokens
  | some (.next c') => searchFrom? path c'
termination_by path.utf8ByteSize - c.position
decreasing_by
  have hadvance := search?_advances _h
  omega

/-- The tokens of a template, found by byte offsets. -/
def readTokens? (path : String) : Option (List Token) := searchFrom? path {}

end ApiMocks.Path
