import ApiMocks.Proofs.MadeUpIds
import ApiMocks.Proofs.TemplateTokens

/-!
# Placeholders in made-up ids

An id that is made up marks the segments that stand in braces, whatever is between
the braces.  The scanner of templates asks for more: it takes a segment for one
placeholder only if a name stands between them, so not if there is nothing, as in
`{}`, or another brace, as in `{a}{b}`.  Such a segment is literal text, or several
placeholders, in the patterns of the path, and yet it is marked in the id.  There is
no other difference, and the first such segment shows in the id: the id has a mark
where it should have a brace.

* `tokens_eq_param_iff`: the segments that are read as one placeholder;
* `readName`: what a segment should add to an id;
* `segmentName_eq_readName_iff`: which segments add it;
* `operationId_eq_readId_iff`: which ids are made up of what the scanner reads.
-/

namespace ApiMocks.Naming

open Text ApiMocks.Path

variable {segment inner name : List Char}

/-! ## Segments in braces -/

/-- A segment is marked if it stands in braces, and read as one placeholder if what
stands in them is a name. -/
theorem tokens_eq_param_iff :
    tokens segment = [.param name] ↔
      segment = '{' :: (name ++ ['}']) ∧ IsParamName name := by
  rw [eq_comm, eq_tokens_iff, canonical_param]
  constructor
  · intro h
    obtain ⟨rfl, hname, -⟩ := h
    exact ⟨by simp [unread, Token.source], hname⟩
  · intro h
    obtain ⟨rfl, hname⟩ := h
    exact ⟨by simp [unread, Token.source], hname, canonical_nil⟩

/-- The segment stands in braces, but is not one placeholder. -/
def Misbraced (segment : List Char) : Prop :=
  ∃ inner, segment = '{' :: (inner ++ ['}']) ∧ ¬ IsParamName inner

/-- What a segment should add to an id: a mark and the name of a placeholder if it is
read as one, and itself if not. -/
def readName (segment : List Char) : String :=
  match tokens segment with
  | [.param name] => "By" ++ capitalize (String.ofList name)
  | _ => capitalize (String.ofList segment)

theorem readName_of_param (h : tokens segment = [.param name]) :
    readName segment = "By" ++ capitalize (String.ofList name) := by
  rw [readName, h]

theorem readName_of_not_param (h : ∀ name, tokens segment ≠ [.param name]) :
    readName segment = capitalize (String.ofList segment) := by
  rw [readName]
  split
  · rename_i name hname
    exact absurd hname (h name)
  · rfl

/-- A segment that stands in braces as it should, or in none, adds what it should. -/
theorem segmentName_eq_readName (h : ¬ Misbraced segment) :
    segmentName segment = readName segment := by
  rw [segmentName]
  cases hbraced : bracedName? segment with
  | some inner =>
      have hsegment := bracedName?_eq_some_iff.mp hbraced
      have hinner : IsParamName inner := by
        by_contra hinner
        exact h ⟨inner, hsegment, hinner⟩
      rw [readName_of_param (tokens_eq_param_iff.mpr ⟨hsegment, hinner⟩)]
  | none =>
      rw [readName_of_not_param]
      intro name hname
      rw [bracedName?_eq_some_iff.mpr (tokens_eq_param_iff.mp hname).1] at hbraced
      cases hbraced

/-- **A wrong mark** stands where there should be a brace. -/
theorem Misbraced.heads (h : Misbraced segment) :
    (segmentName segment).toList.head? = some 'B' ∧
      (readName segment).toList.head? = some '{' := by
  obtain ⟨inner, hsegment, hinner⟩ := h
  constructor
  · rw [segmentName, bracedName?_eq_some_iff.mpr hsegment]
    simp [String.toList_append]
  · rw [readName_of_not_param]
    · have hbrace : upperChars '{' = ['{'] := by decide
      simp [hsegment, capitalize, mapFirst, hbrace]
    · intro name hname
      obtain ⟨hsame, hparam⟩ := tokens_eq_param_iff.mp hname
      rw [← bracedName?_eq_some_iff, bracedName?_eq_some_iff.mpr hsegment] at hsame
      obtain rfl := Option.some.inj hsame
      exact hinner hparam

theorem segmentName_eq_readName_iff :
    segmentName segment = readName segment ↔ ¬ Misbraced segment := by
  constructor
  · intro h hwrong
    have hheads := hwrong.heads
    rw [h, hheads.2] at hheads
    simp at hheads
  · exact segmentName_eq_readName

/-! ## Whole ids -/

/-- The id that is made up of what the scanner reads. -/
def readId (m : Method) (path : String) : String :=
  (segments path).foldl (fun name segment => name ++ readName segment) m.name

/-- Segments are marked as the scanner reads them: exactly those that are read as one
placeholder, with its name, and the others add themselves. -/
def MarksAsRead (path : String) : Prop :=
  ∀ segment ∈ segments path,
    (∀ name, bracedName? segment = some name ↔ tokens segment = [.param name]) ∧
    segmentName segment = readName segment

/-- The first segment with a wrong mark shows. -/
theorem flatMap_segmentName_eq_iff {segs : List (List Char)} :
    (segs.flatMap fun segment => (segmentName segment).toList) =
        (segs.flatMap fun segment => (readName segment).toList) ↔
      ∀ segment ∈ segs, ¬ Misbraced segment := by
  induction segs with
  | nil => simp
  | cons segment rest ih =>
      rw [List.flatMap_cons, List.flatMap_cons, List.forall_mem_cons]
      by_cases hwrong : Misbraced segment
      · -- a capital letter and a brace cannot stand at the same place
        refine iff_of_false ?_ fun h => h.1 hwrong
        intro h
        have hheads := congrArg List.head? h
        rw [List.head?_append, List.head?_append, hwrong.heads.1, hwrong.heads.2] at hheads
        simp at hheads
      · rw [segmentName_eq_readName hwrong, List.append_cancel_left_eq, ih]
        exact (and_iff_right hwrong).symm

/-- **Where the two notions agree.**  The scanner reads a segment as one placeholder
exactly if the segment is marked with what is a name.  So segments are marked as they
are read, and the id is made up of what the scanner reads, exactly if no segment stands
in braces with nothing or another brace between them. -/
theorem operationId_eq_readId_iff (m : Method) (path : String) :
    (∀ segment ∈ segments path, ∀ name, tokens segment = [.param name] ↔
      bracedName? segment = some name ∧ IsParamName name) ∧
    (MarksAsRead path ↔ ∀ segment ∈ segments path, ¬ Misbraced segment) ∧
    (operationId m path = readId m path ↔ ∀ segment ∈ segments path, ¬ Misbraced segment) := by
  have hparam : ∀ segment name, tokens segment = [.param name] ↔
      bracedName? segment = some name ∧ IsParamName name := by
    intro segment name
    rw [bracedName?_eq_some_iff]
    exact tokens_eq_param_iff
  refine ⟨fun segment _ => hparam segment, ?_, ?_⟩
  · refine forall₂_congr fun segment _ => ?_
    rw [segmentName_eq_readName_iff]
    refine and_iff_right_of_imp fun hright name => ?_
    rw [hparam, iff_self_and, bracedName?_eq_some_iff]
    intro hsegment
    by_contra hname
    exact hright ⟨name, hsegment, hname⟩
  · rw [← String.toList_inj, toList_operationId, readId, toList_foldl_append,
      List.append_cancel_left_eq]
    exact flatMap_segmentName_eq_iff

/-- A segment of two braces is marked, and so is one of two placeholders, but the
scanner reads the one as literal text and the other as what it is. -/
theorem not_marksAsRead_empty_braces :
    ¬ MarksAsRead "/a/\x7b\x7d" ∧ operationId .get "/a/\x7b\x7d" = "getABy" ∧
    ¬ MarksAsRead "/{a}{b}" ∧ operationId .get "/{a}{b}" = "getByA\x7d\x7bb" := by
  refine ⟨?_, by decide, ?_, by decide⟩
  · intro h
    have hsegment := (h ['{', '}'] (by decide)).1 []
    exact absurd (hsegment.mp (by decide)) (by decide)
  · intro h
    have hsegment := (h "{a}{b}".toList (by decide)).1 "a\x7d\x7bb".toList
    exact absurd (hsegment.mp (by decide)) (by decide)

end ApiMocks.Naming
