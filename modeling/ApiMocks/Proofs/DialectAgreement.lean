import ApiMocks.Operation.Collect
import Mathlib.Data.List.Forall2

/-!
# Both kinds of documents collect alike

An OpenAPI document can be written out as an operation list: one entry for each
operation of each path, in the order of collection, with the schema of its JSON
content directly on each response.  Neither the casing of the methods nor the
media types on the responses matter.  Both documents bring each operation into
the same declared form, so everything behind that form agrees, notices included.

* `Method.Spelled`: a method's name in any casing;
* `Restates`: what the operation list has to say, for responses, operations and
  documents;
* `collect_eq_of_restates`: the two documents have the same operations.
-/

namespace ApiMocks

/-! ## Methods in any casing -/

/-- The text is the name of the method, each letter small or capital. -/
def Method.Spelled (m : Method) (text : String) : Prop :=
  List.Forall₂ (fun written letter => written = letter ∨ written = letter.toUpper)
    text.toList m.name.toList

/-- Folding makes every letter small, however it is written. -/
theorem map_toLower_of_spelled {text letters : List Char}
    (hletters : ∀ c ∈ letters, c.toLower = c ∧ c.toUpper.toLower = c)
    (h : List.Forall₂ (fun written letter => written = letter ∨ written = letter.toUpper)
      text letters) :
    text.map Char.toLower = letters := by
  induction h with
  | nil => rfl
  | cons hwritten _ ih =>
      obtain ⟨hsmall, hcapital⟩ := hletters _ List.mem_cons_self
      rw [List.map_cons, ih fun d hd => hletters d (List.mem_cons_of_mem _ hd)]
      rcases hwritten with rfl | rfl
      · rw [hsmall]
      · rw [hcapital]

theorem Method.Spelled.foldCase {m : Method} {text : String} (h : m.Spelled text) :
    Method.foldCase text = m.name.toList := by
  refine map_toLower_of_spelled ?_ h
  have hall : m.name.toList.all (fun c => c.toLower == c && c.toUpper.toLower == c) := by
    cases m <;> decide
  intro c hc
  have hletter := List.all_eq_true.mp hall c hc
  simpa using hletter

theorem Method.Spelled.ofName? {m : Method} {text : String} (h : m.Spelled text) :
    Method.ofName? text = some m := by
  unfold Method.ofName?
  rw [h.foldCase]
  cases m <;> decide

theorem Method.spelled_name (m : Method) : m.Spelled m.name :=
  List.forall₂_same.mpr fun _ _ => .inl rfl

/-! ## Operation lists that restate a document -/

/-- Lists that agree place by place have the same images. -/
theorem map_eq_map_of_forall₂ {α β γ : Type} {f : α → γ} {g : β → γ} {left : List α}
    {right : List β} (h : List.Forall₂ (fun a b => f a = g b) left right) :
    left.map f = right.map g := by
  rw [← List.forall₂_eq_eq_eq, List.forall₂_map_left_iff, List.forall₂_map_right_iff]
  exact h

/-- The operations that a document has, with path and method, in the order of
collection. -/
def OpenApi.Document.present (d : OpenApi.Document) :
    List (String × Method × OpenApi.OperationObject) :=
  d.paths.entries.flatMap fun e => e.2.operations.map fun o => (e.1, o.1, o.2)

namespace OperationList

/-- The entry describes the response alike and has the schema of its JSON
content.  Its media type can be anything. -/
structure ResponseEntry.Restates (e : ResponseEntry) (r : OpenApi.ResponseObject) :
    Prop where
  description : e.description = r.description
  schema : e.schema = (jsonContent? r.content).bind (·.schema)

/-- The entry says the same of an operation: its method in any casing, and under
the same keys, in the same order, the same responses or none. -/
structure Entry.Restates (e : Entry) (path : String) (method : Method)
    (o : OpenApi.OperationObject) : Prop where
  method : method.Spelled e.method
  path : e.path = path
  operationId : e.operationId = o.operationId
  summary : e.summary = o.summary
  description : e.description = o.description
  tags : e.tags = o.tags
  responses : List.Forall₂
    (fun mine theirs => mine.1 = theirs.1 ∧
      Option.Rel ResponseEntry.Restates mine.2 theirs.2)
    e.responses.entries o.responses.entries

/-- The list has one entry for each operation of the document, in the order of
collection, and the same schemas. -/
structure Document.Restates (l : Document) (d : OpenApi.Document) : Prop where
  operations : List.Forall₂ (fun e o => e.Restates o.1 o.2.1 o.2.2)
    l.operations d.present
  schemas : l.schemas = d.schemas

/-! ## What they have in common -/

/-- A restated response has the same body. -/
theorem ResponseEntry.map_body_eq {mine : Option ResponseEntry}
    {theirs : Option OpenApi.ResponseObject}
    (h : Option.Rel ResponseEntry.Restates mine theirs) :
    mine.map ResponseEntry.body = theirs.map OpenApi.ResponseObject.body := by
  cases h with
  | none => rfl
  | some h =>
      simp only [Option.map_some, ResponseEntry.body, OpenApi.ResponseObject.body,
        h.description, h.schema]

/-- A restated operation has the same declared form. -/
theorem Entry.Restates.declared_eq {e : Entry} {path : String} {method : Method}
    {o : OpenApi.OperationObject} (h : e.Restates path method o) :
    e.declared method = o.declared method path := by
  have hresponses : (e.responses.entries.map fun r => (r.1, r.2.map ResponseEntry.body)) =
      o.responses.entries.map fun r => (r.1, r.2.map OpenApi.ResponseObject.body) := by
    refine map_eq_map_of_forall₂ (h.responses.imp ?_)
    intro mine theirs hrestates
    rw [hrestates.1, ResponseEntry.map_body_eq hrestates.2]
  simp only [Entry.declared, OpenApi.OperationObject.declared, h.path, h.operationId,
    h.summary, h.description, h.tags, hresponses]

/-- So it has the same operation, and none is left out. -/
theorem Entry.Restates.operation_eq {e : Entry} {path : String} {method : Method}
    {o : OpenApi.OperationObject} (h : e.Restates path method o) (schemas : Table Json) :
    e.operation schemas =
      { value := some ((o.declared method path).operation schemas).value
        notices := ((o.declared method path).operation schemas).notices } := by
  simp only [Entry.operation, h.method.ofName?, h.declared_eq]

theorem Document.Restates.operations_eq {l : Document} {d : OpenApi.Document}
    (h : l.Restates d) :
    l.operations.map (·.operation l.schemas) =
      d.declared.map fun declared =>
        { value := some (declared.operation d.schemas).value
          notices := (declared.operation d.schemas).notices } := by
  have hdeclared : d.declared = d.present.map fun o => o.2.2.declared o.2.1 o.1 := by
    simp only [OpenApi.Document.declared, OpenApi.Document.present, List.map_flatMap,
      List.map_map]
    rfl
  rw [hdeclared, List.map_map, h.schemas]
  refine map_eq_map_of_forall₂ (h.operations.imp ?_)
  intro e o hrestates
  exact hrestates.operation_eq d.schemas

/-! ## Writing a document out -/

/-- The response entry of a response. -/
def ResponseEntry.ofResponse (r : OpenApi.ResponseObject) : ResponseEntry where
  description := r.description
  schema := (jsonContent? r.content).bind (·.schema)

/-- The entry of an operation. -/
def Entry.ofOperation (path : String) (method : Method) (o : OpenApi.OperationObject) :
    Entry where
  method := method.name
  path
  operationId := o.operationId
  summary := o.summary
  description := o.description
  tags := o.tags
  responses := ⟨o.responses.entries.map fun r => (r.1, r.2.map ResponseEntry.ofResponse)⟩

/-- The operation list that a document amounts to. -/
def Document.ofOpenApi (d : OpenApi.Document) : Document where
  operations := d.present.map fun o => Entry.ofOperation o.1 o.2.1 o.2.2
  schemas := d.schemas

theorem Entry.restates_ofOperation (path : String) (method : Method)
    (o : OpenApi.OperationObject) :
    (Entry.ofOperation path method o).Restates path method o := by
  refine ⟨method.spelled_name, rfl, rfl, rfl, rfl, rfl, ?_⟩
  refine List.forall₂_map_left_iff.mpr (List.forall₂_same.mpr ?_)
  intro r _
  refine ⟨rfl, ?_⟩
  cases r.2 with
  | none => exact .none
  | some response => exact .some ⟨rfl, rfl⟩

/-- Every document can be restated. -/
theorem Document.restates_ofOpenApi (d : OpenApi.Document) :
    (Document.ofOpenApi d).Restates d := by
  refine ⟨?_, rfl⟩
  refine List.forall₂_map_left_iff.mpr (List.forall₂_same.mpr ?_)
  intro o _
  exact Entry.restates_ofOperation o.1 o.2.1 o.2.2

end OperationList

/-- **Both kinds of documents collect alike.**  A document can be restated as an
operation list, and every operation list that restates it has the same
operations and the same notices. -/
theorem collect_eq_of_restates (d : OpenApi.Document) :
    (∃ l : OperationList.Document, l.Restates d) ∧
    ∀ l : OperationList.Document, l.Restates d →
      (SourceDocument.openApi d).collect = (SourceDocument.operationList l).collect := by
  refine ⟨⟨_, OperationList.Document.restates_ofOpenApi d⟩, ?_⟩
  intro l h
  simp only [SourceDocument.collect, OpenApi.Document.collect, OperationList.Document.collect,
    Logged.all, h.operations_eq, List.map_map, List.flatMap_map, List.filterMap_map]
  rw [← List.filterMap_eq_map]
  rfl

/-- A method in mixed case, a null response and a foreign media type make no
difference. -/
theorem collect_eq_mixed_case :
    (SourceDocument.openApi
      { paths := ⟨[("/a", ({} : OpenApi.PathItem).set .get (some
          { responses := ⟨[
            ("200", some { content := ⟨[("application/json", { schema := some .null })]⟩ }),
            ("404", none)]⟩ }))]⟩ }).collect =
    (SourceDocument.operationList
      { operations := [
          { method := "GeT", path := "/a"
            responses := ⟨[("200", some { mediaType := some "text/csv", schema := some .null }),
              ("404", none)]⟩ }] }).collect := by
  refine (collect_eq_of_restates _).2 _ ⟨.cons ?_ .nil, rfl⟩
  have hspelled : Method.get.Spelled "GeT" :=
    .cons (.inr rfl) (.cons (.inl rfl) (.cons (.inr rfl) .nil))
  exact ⟨hspelled, rfl, rfl, rfl, rfl, rfl, .cons ⟨rfl, .some ⟨rfl, rfl⟩⟩ (.cons ⟨rfl, .none⟩ .nil)⟩

end ApiMocks
