import ApiMocks.Operation.Collect
import ApiMocks.Proofs.DocumentParts
import ApiMocks.Proofs.IdleInsertions
import ApiMocks.Proofs.ParsedDocuments
import ApiMocks.Proofs.ResponseChoice
import Mathlib.Logic.Relation

/-!
# Members that a document may get

A description may hold more than the generator reads.  Three insertions into a
JSON text are idle, wherever they are made: a member that the record it stands
in does not know, a null for a field that may be missing, and a null response
under a code of its own.

Each record of the two dialects has a relation `Insertion` between two trees: an
insertion into the object itself, or into the part that one of its keys holds.
Reading the larger tree gives the same record, null responses apart; they are
what `withoutNull` takes away, and the collected operations do not depend on
them.  A record cites the lemma of the records inside it, so the proofs follow
the nesting of the formats.

* `OpenApi.Document.idle`, `OperationList.Document.idle`: one insertion into a
  document;
* `OpenApi.Document.collect_withoutNull`, `OperationList.Document.collect_withoutNull`:
  null responses are not collected;
* `SourceDocument.ReadsFrom.insertion`, `SourceDocument.ReadsFrom.insertions`: one
  insertion and any number of them;
* `SourceDocument.collect_of_enlarges`: the texts.
-/

namespace ApiMocks

open JsonText Reading

/-! ## Where a document may get members -/

namespace OpenApi

/-- An insertion into a media type. -/
def MediaType.Insertion : Tree → Tree → Prop :=
  RecordInsertion MediaType.fields fun _ _ _ => False

/-- An insertion into a response. -/
def ResponseObject.Insertion : Tree → Tree → Prop :=
  RecordInsertion ResponseObject.fields fun key t t' =>
    key = "content" ∧ ValueInsertion MediaType.Insertion t t'

/-- An insertion into an operation. -/
def OperationObject.Insertion : Tree → Tree → Prop :=
  RecordInsertion OperationObject.fields fun key t t' =>
    key = "responses" ∧ (ValueInsertion ResponseObject.Insertion t t' ∨ NullEntry t t')

/-- An insertion into a path item. -/
def PathItem.Insertion : Tree → Tree → Prop :=
  RecordInsertion PathItem.fields fun key t t' =>
    ∃ method : Method, key = method.name ∧ OperationObject.Insertion t t'

/-- An insertion into the info object. -/
def Info.Insertion : Tree → Tree → Prop := RecordInsertion Info.fields fun _ _ _ => False

/-- An insertion into the components. -/
def Components.Insertion : Tree → Tree → Prop :=
  RecordInsertion Components.fields fun _ _ _ => False

/-- An insertion into a document. -/
def Document.Insertion : Tree → Tree → Prop :=
  RecordInsertion Document.fields fun key t t' =>
    (key = "info" ∧ Info.Insertion t t') ∨
    (key = "paths" ∧ ValueInsertion PathItem.Insertion t t') ∨
    (key = "components" ∧ Components.Insertion t t')

/-! ## What is left of it -/

/-- The operation without the responses that are null. -/
def OperationObject.withoutNull (o : OperationObject) : OperationObject :=
  { o with responses := o.responses.present }

/-- The path item without the responses that are null. -/
def PathItem.withoutNull (item : PathItem) : PathItem where
  operation method := (item.operation method).map OperationObject.withoutNull

/-- The document without the responses that are null. -/
def Document.withoutNull (d : Document) : Document :=
  { d with paths := d.paths.map PathItem.withoutNull }

theorem MediaType.idle : Idle MediaType.read id MediaType.Insertion := by
  refine idle_record MediaType.divided ?_ (partsIdle_nowhere _ _)
  intro p hp hpresence room
  obtain rfl := List.mem_singleton.mp hp
  exact ⟨none, rfl, rfl⟩

theorem ResponseObject.idle : Idle ResponseObject.read id ResponseObject.Insertion := by
  have hcontent : PartsIdle ResponseObject.divided id fun key t t' =>
      key = "content" ∧ ValueInsertion MediaType.Insertion t t' :=
    partsIdle_part _ (List.mem_of_getElem? (i := 1) rfl) rfl (idle_table_same MediaType.idle)
      fun v v' r hsame => by
        cases hsame
        rfl
  refine idle_record ResponseObject.divided ?_ hcontent
  intro p hp hpresence room
  simp only [ResponseObject.divided, List.mem_cons, List.not_mem_nil, or_false] at hp
  rcases hp with rfl | rfl
  · exact ⟨none, rfl, rfl⟩
  · cases hpresence

theorem OperationObject.idle :
    Idle OperationObject.read OperationObject.withoutNull OperationObject.Insertion := by
  have hvalues : Idle (table (optional ResponseObject.read)) Table.present
      (ValueInsertion ResponseObject.Insertion) :=
    (idle_table_same (idle_optional_same ResponseObject.idle)).of_same
  have hresponses : PartsIdle OperationObject.divided OperationObject.withoutNull fun key t t' =>
      key = "responses" ∧ (ValueInsertion ResponseObject.Insertion t t' ∨ NullEntry t t') :=
    partsIdle_part _ (List.mem_of_getElem? (i := 4) rfl) rfl (hvalues.or idle_nullEntry)
      fun v v' o hsame => by
        rw [OperationObject.withoutNull, OperationObject.withoutNull]
        exact congrArg (fun v => { o with responses := v }) hsame
  refine idle_record OperationObject.divided ?_ hresponses
  intro p hp hpresence room
  simp only [OperationObject.divided, List.mem_cons, List.not_mem_nil, or_false] at hp
  rcases hp with rfl | rfl | rfl | rfl | rfl
  case inr.inr.inr.inr => cases hpresence
  all_goals exact ⟨none, rfl, rfl⟩

theorem PathItem.withoutNull_set {method : Method} {op op' : Option OperationObject}
    (h : op'.map OperationObject.withoutNull = op.map OperationObject.withoutNull)
    (item : PathItem) : (item.set method op').withoutNull = (item.set method op).withoutNull := by
  simp only [PathItem.withoutNull, PathItem.set, PathItem.mk.injEq]
  funext other
  by_cases hother : other = method
  · simpa [hother] using h
  · simp [hother]

theorem PathItem.idle : Idle PathItem.read PathItem.withoutNull PathItem.Insertion := by
  have hoperation : ∀ method : Method, PartsIdle PathItem.divided PathItem.withoutNull
      fun key t t' => key = method.name ∧ OperationObject.Insertion t t' := fun method =>
    partsIdle_part _ (List.mem_map_of_mem (by cases method <;> decide)) rfl
      (idle_optional OperationObject.idle) fun v v' item hsame => withoutNull_set hsame item
  refine idle_record PathItem.divided ?_ (.of_exists hoperation)
  intro p hp hpresence room
  obtain ⟨method, -, rfl⟩ := List.mem_map.mp hp
  refine ⟨none, rfl, ?_⟩
  simp [PathItem.set]

theorem Info.idle : Idle Info.read id Info.Insertion := by
  refine idle_record Info.divided ?_ (partsIdle_nowhere _ _)
  intro p hp hpresence room
  simp only [Info.divided, List.mem_cons, List.not_mem_nil, or_false] at hp
  rcases hp with rfl | rfl | rfl
  case inr.inl => exact ⟨none, rfl, rfl⟩
  all_goals cases hpresence

theorem Components.idle : Idle Components.read id Components.Insertion := by
  refine idle_record Components.divided ?_ (partsIdle_nowhere _ _)
  intro p hp hpresence room
  obtain rfl := List.mem_singleton.mp hp
  cases hpresence

theorem Document.idle : Idle Document.read Document.withoutNull Document.Insertion := by
  have hinfo : PartsIdle Document.divided Document.withoutNull fun key t t' =>
      key = "info" ∧ Info.Insertion t t' :=
    partsIdle_part _ (List.mem_of_getElem? (i := 1) rfl) rfl (idle_optional_same Info.idle)
      fun v v' d hsame => by
        cases hsame
        rfl
  have hpaths : PartsIdle Document.divided Document.withoutNull fun key t t' =>
      key = "paths" ∧ ValueInsertion PathItem.Insertion t t' :=
    partsIdle_part _ (List.mem_of_getElem? (i := 2) rfl) rfl (idle_table PathItem.idle)
      fun v v' d hsame => by
        rw [Document.withoutNull, Document.withoutNull]
        exact congrArg (fun v => { d with paths := v }) hsame
  have hcomponents : PartsIdle Document.divided Document.withoutNull fun key t t' =>
      key = "components" ∧ Components.Insertion t t' :=
    partsIdle_part _ (List.mem_of_getElem? (i := 3) rfl) rfl (idle_optional_same Components.idle)
      fun v v' d hsame => by
        cases hsame
        rfl
  refine idle_record Document.divided ?_ (hinfo.or (hpaths.or hcomponents))
  intro p hp hpresence room
  simp only [Document.divided, List.mem_cons, List.not_mem_nil, or_false] at hp
  rcases hp with rfl | rfl | rfl | rfl
  case inl | inr.inr.inl => cases hpresence
  all_goals exact ⟨none, rfl, rfl⟩

end OpenApi

namespace OperationList

/-- An insertion into a response. -/
def ResponseEntry.Insertion : Tree → Tree → Prop :=
  RecordInsertion ResponseEntry.fields fun _ _ _ => False

/-- An insertion into an operation. -/
def Entry.Insertion : Tree → Tree → Prop :=
  RecordInsertion Entry.fields fun key t t' =>
    key = "responses" ∧ (ValueInsertion ResponseEntry.Insertion t t' ∨ NullEntry t t')

/-- An insertion into a document. -/
def Document.Insertion : Tree → Tree → Prop :=
  RecordInsertion Document.fields fun key t t' =>
    key = "operations" ∧ ItemInsertion Entry.Insertion t t'

/-- The operation without the responses that are null. -/
def Entry.withoutNull (e : Entry) : Entry := { e with responses := e.responses.present }

/-- The document without the responses that are null. -/
def Document.withoutNull (d : Document) : Document :=
  { d with operations := d.operations.map Entry.withoutNull }

theorem ResponseEntry.idle : Idle ResponseEntry.read id ResponseEntry.Insertion := by
  refine idle_record ResponseEntry.divided ?_ (partsIdle_nowhere _ _)
  intro p hp hpresence room
  simp only [ResponseEntry.divided, List.mem_cons, List.not_mem_nil, or_false] at hp
  rcases hp with rfl | rfl | rfl
  all_goals exact ⟨none, rfl, rfl⟩

theorem Entry.idle : Idle Entry.read Entry.withoutNull Entry.Insertion := by
  have hvalues : Idle (table (optional ResponseEntry.read)) Table.present
      (ValueInsertion ResponseEntry.Insertion) :=
    (idle_table_same (idle_optional_same ResponseEntry.idle)).of_same
  have hresponses : PartsIdle Entry.divided Entry.withoutNull fun key t t' =>
      key = "responses" ∧ (ValueInsertion ResponseEntry.Insertion t t' ∨ NullEntry t t') :=
    partsIdle_part _ (List.mem_of_getElem? (i := 6) rfl) rfl (hvalues.or idle_nullEntry)
      fun v v' e hsame => by
        rw [Entry.withoutNull, Entry.withoutNull]
        exact congrArg (fun v => { e with responses := v }) hsame
  refine idle_record Entry.divided ?_ hresponses
  intro p hp hpresence room
  simp only [Entry.divided, List.mem_cons, List.not_mem_nil, or_false] at hp
  rcases hp with rfl | rfl | rfl | rfl | rfl | rfl | rfl
  case inl | inr.inl | inr.inr.inr.inr.inr.inr => cases hpresence
  all_goals exact ⟨none, rfl, rfl⟩

theorem Document.idle : Idle Document.read Document.withoutNull Document.Insertion := by
  have hoperations : PartsIdle Document.divided Document.withoutNull fun key t t' =>
      key = "operations" ∧ ItemInsertion Entry.Insertion t t' :=
    partsIdle_part _ (List.mem_of_getElem? (i := 0) rfl) rfl (idle_list Entry.idle)
      fun v v' d hsame => by
        rw [Document.withoutNull, Document.withoutNull]
        exact congrArg (fun v => { d with operations := v }) hsame
  refine idle_record Document.divided ?_ hoperations
  intro p hp hpresence room
  simp only [Document.divided, List.mem_cons, List.not_mem_nil, or_false] at hp
  rcases hp with rfl | rfl
  all_goals cases hpresence

end OperationList

/-! ## Null responses are not collected -/

/-- Entries without a body leave no trace in the responses. -/
theorem normalizeResponses_present {α : Type} (body : α → ResponseBody)
    (t : Table (Option α)) (schemas : Table Json) :
    (normalizeResponses (t.present.entries.map fun e => (e.1, e.2.map body)) schemas).value =
      (normalizeResponses (t.entries.map fun e => (e.1, e.2.map body)) schemas).value := by
  refine normalizeResponses_congr fun isDefault s => ?_
  rw [bodies, bodies, List.filterMap_map, List.filterMap_map, Table.present,
    List.filterMap_filter]
  congr 1
  funext e
  obtain ⟨key, found⟩ := e
  cases found with
  | none => simp
  | some a => simp

namespace OpenApi

theorem OperationObject.operation_withoutNull (o : OperationObject) (method : Method)
    (path : String) (schemas : Table Json) :
    ((o.withoutNull.declared method path).operation schemas).value =
      ((o.declared method path).operation schemas).value := by
  have hresponses := normalizeResponses_present ResponseObject.body o.responses schemas
  simp only [Declared.operation, OperationObject.declared, OperationObject.withoutNull, hresponses]

theorem PathItem.operations_withoutNull (item : PathItem) :
    item.withoutNull.operations =
      item.operations.map fun o => (o.1, o.2.withoutNull) := by
  rw [PathItem.operations, PathItem.operations, List.map_filterMap]
  congr 1
  funext method
  simp only [PathItem.withoutNull, Option.map_map]
  rfl

theorem Document.collect_withoutNull (d : Document) :
    d.withoutNull.collect.value = d.collect.value := by
  simp only [Document.collect, Logged.all, Document.declared, List.map_flatMap, List.map_map,
    Document.withoutNull, Table.map, List.flatMap_map, PathItem.operations_withoutNull]
  refine List.flatMap_congr fun e _ => List.map_congr_left fun o _ => ?_
  exact OperationObject.operation_withoutNull o.2 o.1 e.1 d.schemas

end OpenApi

namespace OperationList

theorem Entry.operation_withoutNull (e : Entry) (schemas : Table Json) :
    (e.withoutNull.operation schemas).value = (e.operation schemas).value := by
  have hresponses := normalizeResponses_present ResponseEntry.body e.responses schemas
  have hmethod : e.withoutNull.method = e.method := rfl
  rw [Entry.operation, Entry.operation, hmethod]
  cases Method.ofName? e.method with
  | none => rfl
  | some method =>
      simp only [Declared.operation, Entry.declared, Entry.withoutNull, hresponses]

theorem Document.collect_withoutNull (d : Document) :
    d.withoutNull.collect.value = d.collect.value := by
  simp only [Document.collect, Logged.all, Document.withoutNull, List.map_map]
  congr 1
  refine List.map_congr_left fun e _ => ?_
  exact Entry.operation_withoutNull e d.schemas

end OperationList

/-! ## Whole documents -/

namespace SourceDocument

/-- An insertion into a document. -/
def Insertion : Dialect → Tree → Tree → Prop
  | .openApi => OpenApi.Document.Insertion
  | .operationList => OperationList.Document.Insertion

/-- The document is read from the tree. -/
inductive ReadsFrom : Dialect → Tree → SourceDocument → Prop
  | openApi {t : Tree} {d : OpenApi.Document}
      (hread : OpenApi.Document.read (⟨mostLevels, t⟩ : Site) = .ok d)
      (hversion : checkVersion d = .ok d) : ReadsFrom .openApi t (.openApi d)
  | operationList {t : Tree} {d : OperationList.Document}
      (hread : OperationList.Document.read (⟨mostLevels, t⟩ : Site) = .ok d) :
      ReadsFrom .operationList t (.operationList d)

theorem readWith_json_eq_ok {α : Type} {fromYaml : Yaml.Site → Yaml.Read α}
    {fromJson : Site → Except Fault α} {text : String} {v : α} :
    readWith .json fromYaml fromJson text = .ok v ↔
      fromJson ⟨mostLevels, (JsonText.parse text).root⟩ = .ok v ∧
        (JsonText.parse text).trailing = false := by
  have hread : readWith .json fromYaml fromJson text = .ok v ↔
      readDocument fromJson text = .ok v := mapError_eq_ok
  rw [hread]
  constructor
  · intro h
    obtain ⟨u, hu, hend⟩ := except_bind_eq_ok.mp h
    split_ifs at hend with htrailing
    cases hend
    exact ⟨hu, Bool.eq_false_iff.mpr htrailing⟩
  · intro h
    refine except_bind_eq_ok.mpr ⟨v, h.1, ?_⟩
    rw [h.2]
    rfl

/-- A JSON text is a document if its tree is read as one and nothing follows. -/
theorem parse_json_eq_ok {dialect : Dialect} {text : String} {doc : SourceDocument} :
    SourceDocument.parse dialect .json text = .ok doc ↔
      ReadsFrom dialect (JsonText.parse text).root doc ∧
        (JsonText.parse text).trailing = false := by
  constructor
  · intro h
    cases dialect with
    | openApi =>
        obtain ⟨d, hread, hrest⟩ := except_bind_eq_ok.mp h
        obtain ⟨d', hversion, hdoc⟩ := except_bind_eq_ok.mp hrest
        obtain ⟨-, rfl⟩ := checkVersion_eq_ok.mp hversion
        cases hdoc
        obtain ⟨hread, hend⟩ := readWith_json_eq_ok.mp hread
        exact ⟨.openApi hread hversion, hend⟩
    | operationList =>
        obtain ⟨d, hread, hdoc⟩ := except_bind_eq_ok.mp h
        cases hdoc
        obtain ⟨hread, hend⟩ := readWith_json_eq_ok.mp hread
        exact ⟨.operationList hread, hend⟩
  · intro h
    obtain ⟨hreads, hend⟩ := h
    cases hreads with
    | openApi hread hversion =>
        exact except_bind_eq_ok.mpr ⟨_, readWith_json_eq_ok.mpr ⟨hread, hend⟩,
          except_bind_eq_ok.mpr ⟨_, hversion, rfl⟩⟩
    | operationList hread =>
        exact except_bind_eq_ok.mpr ⟨_, readWith_json_eq_ok.mpr ⟨hread, hend⟩, rfl⟩

/-- **One insertion.**  The tree is read again, and the operations are the same. -/
theorem ReadsFrom.insertion {dialect : Dialect} {t t' : Tree} {doc : SourceDocument}
    (h : ReadsFrom dialect t doc) (hinsert : Insertion dialect t t') :
    ∃ doc', ReadsFrom dialect t' doc' ∧ doc'.collect.value = doc.collect.value := by
  cases h with
  | @openApi _ d hread hversion =>
      obtain ⟨d', hread', hsame⟩ := OpenApi.Document.idle.reads hinsert hread
      have hopenapi : d'.withoutNull.openapi = d.withoutNull.openapi := by rw [hsame]
      have hversion' : checkVersion d' = .ok d' := by
        obtain ⟨hthree, -⟩ := checkVersion_eq_ok.mp hversion
        exact checkVersion_eq_ok.mpr ⟨hopenapi ▸ hthree, rfl⟩
      refine ⟨.openApi d', .openApi hread' hversion', ?_⟩
      calc d'.collect.value = d'.withoutNull.collect.value := d'.collect_withoutNull.symm
        _ = d.withoutNull.collect.value := by rw [hsame]
        _ = d.collect.value := d.collect_withoutNull
  | @operationList _ d hread =>
      obtain ⟨d', hread', hsame⟩ := OperationList.Document.idle.reads hinsert hread
      refine ⟨.operationList d', .operationList hread', ?_⟩
      calc d'.collect.value = d'.withoutNull.collect.value := d'.collect_withoutNull.symm
        _ = d.withoutNull.collect.value := by rw [hsame]
        _ = d.collect.value := d.collect_withoutNull

/-- Any number of insertions. -/
theorem ReadsFrom.insertions {dialect : Dialect} {t t' : Tree} {doc : SourceDocument}
    (h : ReadsFrom dialect t doc) (hinsert : Relation.ReflTransGen (Insertion dialect) t t') :
    ∃ doc', ReadsFrom dialect t' doc' ∧ doc'.collect.value = doc.collect.value := by
  induction hinsert with
  | refl => exact ⟨doc, h, rfl⟩
  | tail _ hstep ih =>
      obtain ⟨middle, hmiddle, hsame⟩ := ih
      obtain ⟨doc', hdoc', hsame'⟩ := hmiddle.insertion hstep
      exact ⟨doc', hdoc', hsame'.trans hsame⟩

/-- The second text says what the first one says, with any number of insertions. -/
structure Enlarges (dialect : Dialect) (text text' : String) : Prop where
  insertions : Relation.ReflTransGen (Insertion dialect)
    (JsonText.parse text).root (JsonText.parse text').root
  ends : (JsonText.parse text').trailing = false

/-- **Insertions are idle.**  A JSON text that is a document still is one after
any number of insertions, and has the same operations. -/
theorem collect_of_enlarges (dialect : Dialect) (text text' : String) (doc : SourceDocument)
    (hparse : SourceDocument.parse dialect .json text = .ok doc)
    (hinsert : Enlarges dialect text text') :
    ∃ doc', SourceDocument.parse dialect .json text' = .ok doc' ∧
      doc'.collect.value = doc.collect.value := by
  obtain ⟨hreads, -⟩ := parse_json_eq_ok.mp hparse
  obtain ⟨doc', hreads', hsame⟩ := hreads.insertions hinsert.insertions
  exact ⟨doc', parse_json_eq_ok.mpr ⟨hreads', hinsert.ends⟩, hsame⟩

/-- A document with one operation. -/
def plainText : String :=
  "\x7b\"openapi\":\"3.1\",\"paths\":\x7b\"/a\":\x7b" ++
    "\"get\":\x7b\"responses\":\x7b\"default\":\x7b\x7d\x7d\x7d\x7d\x7d\x7d"

/-- The same document with a number beyond all doubles, an info object that is
null, a method that no mocks are made for, and a response that is null. -/
def enlargedText : String :=
  "\x7b\"x\":[1e400],\"openapi\":\"3.1\",\"info\":null,\"paths\":\x7b\"/a\":\x7b" ++
    "\"trace\":\x7b\x7d,\"get\":\x7b\"responses\":\x7b\"200\":null,\"default\":\x7b\x7d\x7d\x7d\x7d\x7d\x7d"

set_option maxRecDepth 4000 in
/-- The text of the larger document has four insertions. -/
theorem enlarges_plainText : Enlarges .openApi plainText enlargedText := by
  let openapi : Option String × Tree := (some "openapi", .string (some "3.1"))
  let extra : Option String × Tree :=
    (some "x", .array [.number ⟨false, ['1'], [], some (false, ['4', '0', '0'])⟩])
  let info : Option String × Tree := (some "info", .null)
  let get (more : List (Option String × Tree)) : Option String × Tree :=
    (some "get", .object [(some "responses", .object (more ++ [(some "default", .object [])]))])
  let paths (members : List (Option String × Tree)) : Option String × Tree :=
    (some "paths", .object [(some "/a", .object members)])
  have hextra : Insertion .openApi (.object ([] ++ [openapi, paths [get []]]))
      (.object ([] ++ extra :: [openapi, paths [get []]])) :=
    .unknown (by decide) rfl
  have hinfo : Insertion .openApi (.object ([extra, openapi] ++ [paths [get []]]))
      (.object ([extra, openapi] ++ info :: [paths [get []]])) :=
    .null (f := ⟨"info", .optional, _⟩) (List.mem_cons_of_mem _ List.mem_cons_self) rfl (by decide)
  have htrace : OpenApi.PathItem.Insertion (.object ([] ++ [get []]))
      (.object ([] ++ (some "trace", .object []) :: [get []])) :=
    .unknown (by decide) rfl
  have hnull : NullEntry (.object ([] ++ [(some "default", .object [])]))
      (.object ([] ++ (some "200", .null) :: [(some "default", .object [])])) :=
    .insert (by decide)
  have hresponse : OpenApi.PathItem.Insertion
      (.object ([(some "trace", .object [])] ++ get [] :: []))
      (.object ([(some "trace", .object [])] ++ get [(some "200", .null)] :: [])) :=
    .inside ⟨.get, rfl, @RecordInsertion.inside _ _ _ [] [] _ _ _ ⟨rfl, .inr hnull⟩⟩
  have hpaths : ∀ {members members' : List (Option String × Tree)},
      OpenApi.PathItem.Insertion (.object members) (.object members') →
      Insertion .openApi (.object ([extra, openapi, info] ++ paths members :: []))
        (.object ([extra, openapi, info] ++ paths members' :: [])) := fun h =>
    .inside (.inr (.inl ⟨rfl, @ValueInsertion.inside _ [] [] _ _ _ h⟩))
  refine ⟨?_, rfl⟩
  exact .tail (.tail (.tail (.single hextra) hinfo) (hpaths htrace)) (hpaths hresponse)

set_option maxRecDepth 4000 in
/-- Members that are not known, nulls and a null response leave the operation. -/
theorem collect_enlargedText :
    ∃ doc, SourceDocument.parse .openApi .json plainText = .ok doc ∧
      Enlarges .openApi plainText enlargedText ∧
      ∃ doc', SourceDocument.parse .openApi .json enlargedText = .ok doc' ∧
        doc'.collect.value = doc.collect.value := by
  refine ⟨_, rfl, enlarges_plainText, ?_⟩
  exact collect_of_enlarges .openApi plainText enlargedText _ rfl enlarges_plainText

end SourceDocument

end ApiMocks
