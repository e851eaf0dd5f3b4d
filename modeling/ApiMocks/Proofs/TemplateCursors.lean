import ApiMocks.Path.Cursors
import ApiMocks.Proofs.TemplateTokens

/-!
# The search for tokens by byte offsets

The search reads a template without going through its characters.  It never cuts
a text beyond its end or within a character, for every offset that it comes to is
the size of a front of the text: an opening brace is one byte, and so is the brace
behind it.  What links the two offsets to the scanner is the literal text between
them: the scanner, with this text as the literal text so far, has still to find
what the search has not found.

* `offsetOf?_eq_some`, `byteAt?_brace`: what is read at an offset;
* `Reached`: the invariant of the two offsets;
* `Reached.search?_cases`: what one search makes of it;
* `readTokens?_eq_some_iff`: the search finds the tokens of the template.
-/

namespace ApiMocks.Path

/-! ## Texts at byte offsets -/

theorem behind?_append (front rest : String) :
    behind? (front ++ rest) front.utf8ByteSize = some rest :=
  behind?_eq_some_iff.mpr ⟨front, rfl, rfl⟩

theorem front?_append (front rest : String) :
    front? (front ++ rest) front.utf8ByteSize = some front := by
  simp only [front?, Option.map_eq_some_iff, pos?_eq_some_iff,
    String.copy_sliceTo_eq_iff_exists_splits]
  exact ⟨_, rfl, rest, String.Pos.splits_ofEqAppend rfl⟩

theorem between?_append (front text rest : String) :
    between? (front ++ (text ++ rest)) front.utf8ByteSize
      (front.utf8ByteSize + text.utf8ByteSize) = some text := by
  rw [between?, if_pos (Nat.le_add_right _ _), behind?_append, Option.bind_some,
    Nat.add_sub_cancel_left, front?_append]

theorem literalBetween?_append (front text rest : String) :
    literalBetween? (front ++ (text ++ rest)) front.utf8ByteSize
      (front.utf8ByteSize + text.utf8ByteSize) = some (literalOf text.toList.reverse) := by
  rw [literalBetween?, between?_append]
  by_cases hempty : text = ""
  · subst hempty
    simp [literalOf]
  · have hsize : 0 < text.utf8ByteSize :=
      Nat.pos_of_ne_zero (mt String.utf8ByteSize_eq_zero_iff.mp hempty)
    rw [if_pos (by omega)]
    simp [literalOf, hempty]

variable {kind : Char → Bool} {text : String}

theorem offsetOf?_eq_none_iff :
    offsetOf? kind text = none ↔ ∀ c ∈ text.toList, kind c = false := by
  rw [offsetOf?, Option.map_eq_none_iff, String.find?_eq_find?_toSlice, Option.map_eq_none_iff,
    String.Slice.find?_eq_none_iff, String.Slice.contains_bool_eq]
  simp

/-- The offset of a character is the size of the text in front of it. -/
theorem offsetOf?_eq_some {offset : Nat} (h : offsetOf? kind text = some offset) :
    ∃ front c rest, text = front ++ (String.singleton c ++ rest) ∧ kind c = true ∧
      (∀ d ∈ front.toList, kind d = false) ∧ offset = front.utf8ByteSize := by
  obtain ⟨p, hp, rfl⟩ := Option.map_eq_some_iff.mp h
  obtain ⟨front, c, rest, hsplits, hc, hfront⟩ := String.find?_bool_eq_some_iff_splits.mp hp
  exact ⟨front, c, rest, hsplits.eq_append, hc, hfront, by rw [hsplits.offset_eq_rawEndPos]; rfl⟩

/-- A brace is one byte. -/
theorem byteAt?_brace {c : Char} (hc : isBrace c = true) (front rest : String) :
    byteAt? (front ++ (String.singleton c ++ rest)) front.utf8ByteSize = some c.toUInt8 := by
  have hbyte : (String.singleton c).toByteArray.data = #[c.toUInt8] := by
    obtain rfl | rfl : c = '{' ∨ c = '}' := by simpa [isBrace] using hc
    all_goals decide
  rw [byteAt?, String.toByteArray_append, String.toByteArray_append, ByteArray.data_append,
    ByteArray.data_append, hbyte]
  have hsize : front.toByteArray.data.size = front.utf8ByteSize := rfl
  rw [Array.getElem?_append_right (Nat.le_of_eq hsize), hsize, Nat.sub_self,
    Array.getElem?_append_left (by simp)]
  rfl

/-- The first brace closes a placeholder if it is a closing one and there is a name
in front of it. -/
theorem closes?_brace {c : Char} (hc : isBrace c = true) (name rest : String) :
    closes? (name ++ (String.singleton c ++ rest)) name.utf8ByteSize =
      some (decide (name ≠ "" ∧ c = '}')) := by
  rw [closes?]
  by_cases hempty : name = ""
  · subst hempty
    rfl
  · rw [if_neg (mt String.utf8ByteSize_eq_zero_iff.mp hempty), byteAt?_brace hc]
    obtain rfl | rfl : c = '{' ∨ c = '}' := by simpa [isBrace] using hc
    · have hbyte : '{'.toUInt8 ≠ '}'.toUInt8 := by decide
      simp [hbyte]
    · simp [hempty]

/-! ## One search -/

/-- The search has reached an offset: in front of the text `ahead` there is literal
text that belongs to no token yet, and the scanner finds the remaining tokens. -/
structure Reached (path : String) (c : Cursors) (front literal ahead : String) : Prop where
  text : path = front ++ (literal ++ ahead)
  start : c.start = front.utf8ByteSize
  position : c.position = front.utf8ByteSize + literal.utf8ByteSize
  agrees : tokens path.toList = c.found ++ scan literal.toList.reverse none ahead.toList

variable {path front literal ahead : String} {c : Cursors}

theorem reached_start (path : String) : Reached path {} "" "" path where
  text := by simp
  start := rfl
  position := rfl
  agrees := rfl

theorem Reached.behind?_eq (h : Reached path c front literal ahead) :
    behind? path c.position = some ahead :=
  behind?_eq_some_iff.mpr ⟨front ++ literal, by rw [h.text, String.append_assoc],
    by rw [h.position, String.utf8ByteSize_append]⟩

theorem Reached.literalBetween?_eq (h : Reached path c front literal ahead) :
    literalBetween? path c.start c.position = some (literalOf literal.toList.reverse) := by
  rw [h.text, h.start, h.position]
  exact literalBetween?_append front literal ahead

/-- An opening brace is one byte. -/
theorem Reached.behind?_brace
    (h : Reached path c front literal (String.singleton '{' ++ ahead)) :
    behind? path (c.position + 1) = some ahead := by
  refine behind?_eq_some_iff.mpr ⟨front ++ literal ++ String.singleton '{', ?_, ?_⟩
  · rw [h.text]
    simp [String.append_assoc]
  · rw [String.utf8ByteSize_append, String.utf8ByteSize_append, ← h.position]
    rfl

/-- Text without an opening brace is passed over. -/
theorem Reached.skip {skipped : String} (h : Reached path c front literal (skipped ++ ahead))
    (hskipped : '{' ∉ skipped.toList) :
    Reached path { c with position := c.position + skipped.utf8ByteSize } front
      (literal ++ skipped) ahead where
  text := by rw [h.text, String.append_assoc]
  start := h.start
  position := by rw [h.position, String.utf8ByteSize_append, Nat.add_assoc]
  agrees := by
    rw [h.agrees, String.toList_append, scan_append hskipped, String.toList_append,
      List.reverse_append]

/-- An opening brace that opens nothing is passed over. -/
theorem Reached.brace (h : Reached path c front literal (String.singleton '{' ++ ahead))
    (hopens : ¬ Opens ahead.toList) :
    Reached path { c with position := c.position + 1 } front
      (literal ++ String.singleton '{') ahead where
  text := by rw [h.text, String.append_assoc]
  start := h.start
  position := by rw [h.position, String.utf8ByteSize_append, Nat.add_assoc]; rfl
  agrees := by
    rw [h.agrees]
    simp [scan_brace hopens]

/-- A placeholder ends the literal text, and the search goes on behind it. -/
theorem Reached.placeholder {name : String}
    (h : Reached path c front literal
      (String.singleton '{' ++ (name ++ (String.singleton '}' ++ ahead))))
    (hname : IsParamName name.toList) :
    Reached path
      { start := c.position + name.utf8ByteSize + 2
        position := c.position + name.utf8ByteSize + 2
        found := c.found ++ literalOf literal.toList.reverse ++ [.param name.toList] }
      (front ++ literal ++ String.singleton '{' ++ name ++ String.singleton '}') "" ahead := by
  have hsize : (front ++ literal ++ String.singleton '{' ++ name ++
      String.singleton '}').utf8ByteSize = c.position + name.utf8ByteSize + 2 := by
    have hbrace : (String.singleton '{').utf8ByteSize = 1 ∧
        (String.singleton '}').utf8ByteSize = 1 := by decide
    simp only [String.utf8ByteSize_append, hbrace, h.position]
    omega
  refine ⟨?_, hsize.symm, hsize.symm, ?_⟩
  · rw [h.text]
    simp [String.append_assoc]
  · rw [h.agrees]
    simp [scan_placeholder hname]

/-- **One search.**  Either all tokens are found, or the search has reached the
next offset. -/
theorem Reached.search?_cases (h : Reached path c front literal ahead) :
    search? path c = some (.done (tokens path.toList)) ∨
      ∃ c' front' literal' ahead', search? path c = some (.next c') ∧
        Reached path c' front' literal' ahead' := by
  rw [search?, h.behind?_eq]
  cases hoffset : offsetOf? (· == '{') ahead with
  | none =>
      -- the rest of the text is literal
      have hrest : '{' ∉ ahead.toList := by
        intro hmem
        simpa using offsetOf?_eq_none_iff.mp hoffset _ hmem
      have hall : Reached path c front literal (ahead ++ "") := by rwa [String.append_empty]
      have hend := hall.skip hrest
      have hsize : path.utf8ByteSize = c.position + ahead.utf8ByteSize := by
        rw [h.text, h.position, String.utf8ByteSize_append, String.utf8ByteSize_append,
          Nat.add_assoc]
      have hliteral := hend.literalBetween?_eq
      left
      rw [hend.agrees, hsize]
      simp [hoffset, hliteral, scan]
  | some offset =>
      obtain ⟨skipped, opening, rest, rfl, hopening, hskipped, rfl⟩ := offsetOf?_eq_some hoffset
      obtain rfl : opening = '{' := by simpa using hopening
      have hskip := h.skip fun hmem => by simpa using hskipped _ hmem
      right
      simp only [Option.bind_eq_bind, Option.bind_some, hoffset, hskip.behind?_brace]
      cases hstop : offsetOf? isBrace rest with
      | none =>
          have hopens : ¬ Opens rest.toList := by
            intro hopens
            obtain ⟨name, more, -, htext⟩ := hopens
            simpa [htext, isBrace] using offsetOf?_eq_none_iff.mp hstop '}'
          exact ⟨_, _, _, _, rfl, hskip.brace hopens⟩
      | some stop =>
          obtain ⟨name, closing, more, rfl, hclosing, hname, rfl⟩ := offsetOf?_eq_some hstop
          have hfree : '{' ∉ name.toList ∧ '}' ∉ name.toList :=
            ⟨fun h => by simpa [isBrace] using hname _ h,
              fun h => by simpa [isBrace] using hname _ h⟩
          have hopens : Opens (name ++ (String.singleton closing ++ more)).toList ↔
              name ≠ "" ∧ closing = '}' := by
            have hbrace : closing = '{' ∨ closing = '}' := by simpa [isBrace] using hclosing
            simpa using @opens_append_iff _ more.toList _ hfree.1 hfree.2 hbrace
          simp only [closes?_brace hclosing, Option.bind_some, decide_eq_true_eq]
          by_cases hcloses : name ≠ "" ∧ closing = '}'
          · obtain ⟨hne, rfl⟩ := hcloses
            have hparam : IsParamName name.toList := ⟨by simpa using hne, hfree.1, hfree.2⟩
            refine ⟨_, _, _, _, ?_, hskip.placeholder hparam⟩
            simp [hne, hskip.literalBetween?_eq, front?_append]
          · rw [if_neg hcloses]
            exact ⟨_, _, _, _, rfl, hskip.brace (mt hopens.mp hcloses)⟩

/-- From every offset that the search reaches, it finds the tokens. -/
theorem Reached.searchFrom?_eq (h : Reached path c front literal ahead) :
    searchFrom? path c = some (tokens path.toList) := by
  fun_induction searchFrom? path c generalizing front literal ahead with
  | case1 c hnone => simpa [hnone] using h.search?_cases
  | case2 c ts hdone => simpa [hdone] using h.search?_cases
  | case3 c c' hnext ih =>
      obtain ⟨front', literal', ahead', hreached⟩ :
          ∃ front' literal' ahead', Reached path c' front' literal' ahead' := by
        simpa [hnext] using h.search?_cases
      exact ih hreached

/-- **The search finds the tokens**: it always ends, it cuts at offsets between
characters only, and what it finds is the only canonical cut of the template. -/
theorem readTokens?_eq_some_iff (path : String) :
    readTokens? path = some (tokens path.toList) ∧
    ∀ ts, readTokens? path = some ts ↔ unread ts = path.toList ∧ Canonical ts := by
  have hread : readTokens? path = some (tokens path.toList) := (reached_start path).searchFrom?_eq
  refine ⟨hread, ?_⟩
  intro ts
  rw [hread, Option.some_inj, eq_comm, eq_tokens_iff]

end ApiMocks.Path
