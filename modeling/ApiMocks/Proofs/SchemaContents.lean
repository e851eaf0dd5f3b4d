import ApiMocks.Operation.Collect
import ApiMocks.Proofs.AskedModules
import ApiMocks.Proofs.TableViews

/-!
# What a schema contains

Of the schema of a response only its reference and its title count, for they give
it its name.  The rest of it, and the table where named schemas are looked up,
decide about the schema that a collected response carries.  No module is made
from that.

The outline of a document is the document with every schema of a response cut
down to these two members, and without its table.  Collecting the outline and
collecting the document go the same way: the same entries are left out, for the
same reasons, and the responses differ in their schemas only.

* `Json.outline_eq_iff`: which schemas have one outline;
* `addEntry_outline`, `addEntries_outline`: one response entry, and all of them;
* `SourceDocument.collect_outline`: the operations of an outline;
* `Emit.generate_withoutSchemas`: modules without the schemas;
* `SourceDocument.generate_of_outline_eq`: two runs with the same result.
-/

namespace ApiMocks

/-! ## Outlines -/

/-- The members of a schema that give it its name. -/
def Json.outline (schema : Json) : Json :=
  .obj <| ["$ref", "title"].filterMap fun key => (schema.get? key).map (key, ·)

theorem Json.get?_outline (schema : Json) {key : String} (h : key = "$ref" ∨ key = "title") :
    schema.outline.get? key = schema.get? key := by
  rw [outline, List.filterMap_cons, List.filterMap_cons, List.filterMap_nil]
  rcases h with rfl | rfl
  · cases schema.get? "$ref" <;> cases schema.get? "title" <;> rfl
  · cases schema.get? "$ref" <;> cases schema.get? "title" <;> rfl

/-- Schemas have one outline if they agree on these members. -/
theorem Json.outline_eq_iff {schema schema' : Json} :
    schema.outline = schema'.outline ↔
      schema.get? "$ref" = schema'.get? "$ref" ∧ schema.get? "title" = schema'.get? "title" := by
  constructor
  · intro h
    refine ⟨?_, ?_⟩
    · rw [← schema.get?_outline (.inl rfl), h, schema'.get?_outline (.inl rfl)]
    · rw [← schema.get?_outline (.inr rfl), h, schema'.get?_outline (.inr rfl)]
  · intro h
    simp only [outline, List.filterMap_cons, List.filterMap_nil, h.1, h.2]

/-- The body of a response with the outline of its schema. -/
def ResponseBody.outline (body : ResponseBody) : ResponseBody :=
  { body with schema := body.schema.map Json.outline }

/-- An operation with the outlines of its schemas. -/
def Declared.outline (d : Declared) : Declared :=
  { d with responses := d.responses.map fun e => (e.1, e.2.map ResponseBody.outline) }

namespace OpenApi

/-- A media type with the outline of its schema. -/
def MediaType.outline (t : MediaType) : MediaType := { t with schema := t.schema.map Json.outline }

/-- A response with the outlines of its schemas. -/
def ResponseObject.outline (r : ResponseObject) : ResponseObject :=
  { r with content := r.content.map MediaType.outline }

/-- An operation with the outlines of its schemas. -/
def OperationObject.outline (o : OperationObject) : OperationObject :=
  { o with responses := o.responses.map (Option.map ResponseObject.outline) }

/-- A path item with the outlines of its schemas. -/
def PathItem.outline (item : PathItem) : PathItem where
  operation method := (item.operation method).map OperationObject.outline

/-- The outline of a document: without the table of schemas. -/
def Document.outline (d : Document) : Document :=
  { d with paths := d.paths.map PathItem.outline, components := none }

end OpenApi

namespace OperationList

/-- A response with the outline of its schema. -/
def ResponseEntry.outline (r : ResponseEntry) : ResponseEntry :=
  { r with schema := r.schema.map Json.outline }

/-- An operation with the outlines of its schemas. -/
def Entry.outline (e : Entry) : Entry :=
  { e with responses := e.responses.map (Option.map ResponseEntry.outline) }

/-- The outline of a document: without the table of schemas. -/
def Document.outline (d : Document) : Document :=
  { operations := d.operations.map Entry.outline, schemas := {} }

end OperationList

/-- The outline of a document. -/
def SourceDocument.outline : SourceDocument → SourceDocument
  | openApi d => .openApi d.outline
  | operationList d => .operationList d.outline

/-! ## What a run without schemas comes to -/

/-- A response without its schema.  The name stays. -/
def Response.withoutSchema (r : Response) : Response := { r with schema := none }

/-- An operation without the schemas of its responses. -/
def Operation.withoutSchemas (op : Operation) : Operation :=
  { op with responses := op.responses.map Response.withoutSchema }

/-- A slot with a response without its schema. -/
def Slot.withoutSchema (slot : Slot) : Slot :=
  { slot with response := slot.response.withoutSchema }

/-- A logged result seen through `view`. -/
def Logged.map {α β : Type} (view : α → β) (l : Logged α) : Logged β where
  value := view l.value
  notices := l.notices

theorem Logged.all_map {α β : Type} (view : α → β) (steps : List (Logged α)) :
    (Logged.all steps).map (List.map view) = Logged.all (steps.map (Logged.map view)) := by
  rw [Logged.all, Logged.all, Logged.map, List.map_map, List.map_map, List.flatMap_map]
  rfl

/-! ## The responses -/

variable {schemas schemas' : Table Json} {slots slots' : List Slot}

theorem textMember?_outline (schema : Json) {key : String} (h : key = "$ref" ∨ key = "title") :
    textMember? key schema.outline = textMember? key schema := by
  rw [textMember?, textMember?, Json.get?_outline schema h]

theorem schemaName?_outline (schema : Json) : schemaName? schema.outline = schemaName? schema := by
  rw [schemaName?, schemaName?, textMember?_outline schema (.inl rfl),
    textMember?_outline schema (.inr rfl)]

theorem ResponseBody.response_outline (body : ResponseBody) (status : Status) :
    (body.outline.response status schemas').withoutSchema =
      (body.response status schemas).withoutSchema := by
  have hname : body.outline.schema.bind schemaName? = body.schema.bind schemaName? := by
    rw [outline, Option.bind_map]
    exact Option.bind_congr fun schema _ => schemaName?_outline schema
  simp only [response, Response.withoutSchema, hname]
  rfl

namespace Slot

theorem find?_status (s : Status) (slots : List Slot) :
    (slots.map withoutSchema).find? (·.status = s) =
      (slots.find? (·.status = s)).map withoutSchema := by
  rw [List.find?_map]
  rfl

theorem insert_withoutSchema (slot : Slot) (slots : List Slot) :
    (slot.insert slots).map withoutSchema =
      slot.withoutSchema.insert (slots.map withoutSchema) := by
  induction slots with
  | nil => rfl
  | cons t rest ih =>
      have hslot : slot.withoutSchema.status = slot.status := rfl
      have ht : t.withoutSchema.status = t.status := rfl
      rw [List.map_cons, insert, insert, hslot, ht]
      split_ifs
      · rfl
      · rfl
      · rw [List.map_cons, ih]

end Slot

/-- The slots without schemas, with what there is to report. -/
def withoutSchemas (state : List Slot × List Notice) : List Slot × List Notice :=
  (state.1.map Slot.withoutSchema, state.2)

/-- **One entry.**  It is taken into account in the same way as its outline, on
slots that look the same. -/
theorem addEntry_outline (hslots : slots'.map Slot.withoutSchema = slots.map Slot.withoutSchema)
    (key : String) (body : Option ResponseBody) :
    withoutSchemas (addEntry schemas' slots' key (body.map ResponseBody.outline)) =
      withoutSchemas (addEntry schemas slots key body) := by
  cases body with
  | none => exact Prod.ext hslots rfl
  | some body =>
      cases hstatus : Status.ofKey? key with
      | none =>
          simp only [addEntry, hstatus, Option.map_some]
          exact Prod.ext hslots rfl
      | some status =>
          let slot : Slot := ⟨body.response status schemas, key = Status.defaultKey⟩
          let slot' : Slot := ⟨body.outline.response status schemas', key = Status.defaultKey⟩
          have hslot : slot'.withoutSchema = slot.withoutSchema :=
            congrArg (Slot.mk · _) (body.response_outline status)
          have hinsert : (slot'.insert slots').map Slot.withoutSchema =
              (slot.insert slots).map Slot.withoutSchema := by
            rw [Slot.insert_withoutSchema, Slot.insert_withoutSchema, hslot, hslots]
          have hfind : (slots'.find? (·.status = status)).map Slot.withoutSchema =
              (slots.find? (·.status = status)).map Slot.withoutSchema := by
            rw [← Slot.find?_status, ← Slot.find?_status, hslots]
          -- both runs find a slot for the status or none, and it gives way in both or in none
          simp only [addEntry, hstatus, Option.map_some]
          cases hold : slots.find? (·.status = status) with
          | none =>
              rw [hold, Option.map_none, Option.map_eq_none_iff] at hfind
              simp only [hfind]
              exact Prod.ext hinsert rfl
          | some old =>
              rw [hold, Option.map_some, Option.map_eq_some_iff] at hfind
              obtain ⟨old', hold', hsame⟩ := hfind
              have hdefault : old'.withoutSchema.isDefault = old.withoutSchema.isDefault :=
                congrArg Slot.isDefault hsame
              change old'.isDefault = old.isDefault at hdefault
              simp only [hold', hdefault]
              split_ifs
              · exact Prod.ext hslots rfl
              · exact Prod.ext hinsert rfl

theorem addEntries_cons (key : String) (body : Option ResponseBody)
    (rest : List (String × Option ResponseBody)) :
    addEntries schemas slots ((key, body) :: rest) =
      ((addEntries schemas (addEntry schemas slots key body).1 rest).1,
        (addEntry schemas slots key body).2 ++
          (addEntries schemas (addEntry schemas slots key body).1 rest).2) := rfl

/-- All entries, one after the other. -/
theorem addEntries_outline (hslots : slots'.map Slot.withoutSchema = slots.map Slot.withoutSchema)
    (entries : List (String × Option ResponseBody)) :
    withoutSchemas (addEntries schemas' slots'
        (entries.map fun e => (e.1, e.2.map ResponseBody.outline))) =
      withoutSchemas (addEntries schemas slots entries) := by
  induction entries generalizing slots slots' with
  | nil => exact Prod.ext hslots rfl
  | cons e rest ih =>
      obtain ⟨key, body⟩ := e
      have hfirst : withoutSchemas (addEntry schemas' slots' key
          (body.map ResponseBody.outline)) = withoutSchemas (addEntry schemas slots key body) :=
        addEntry_outline hslots key body
      obtain ⟨hnext, hreport⟩ := Prod.mk.inj hfirst
      obtain ⟨hlast, hreports⟩ := Prod.mk.inj (ih hnext)
      rw [List.map_cons, addEntries_cons, addEntries_cons]
      exact Prod.ext hlast (congrArg₂ (· ++ ·) hreport hreports)

theorem normalizeResponses_outline (schemas schemas' : Table Json)
    (entries : List (String × Option ResponseBody)) :
    (normalizeResponses (entries.map fun e => (e.1, e.2.map ResponseBody.outline)) schemas').map
        (List.map Response.withoutSchema) =
      (normalizeResponses entries schemas).map (List.map Response.withoutSchema) := by
  have hstates : withoutSchemas (addEntries schemas' []
      (entries.map fun e => (e.1, e.2.map ResponseBody.outline))) =
        withoutSchemas (addEntries schemas [] entries) := addEntries_outline rfl entries
  obtain ⟨hslots, hreports⟩ := Prod.mk.inj hstates
  have hresponse : ∀ slots : List Slot, (slots.map (·.response)).map Response.withoutSchema =
      (slots.map Slot.withoutSchema).map (·.response) := fun slots => by
    rw [List.map_map, List.map_map]
    rfl
  rw [normalizeResponses, normalizeResponses, Logged.map, Logged.map, hresponse, hresponse, hslots]
  exact congrArg (Logged.mk _) hreports

theorem Declared.operation_outline (d : Declared) (schemas schemas' : Table Json) :
    (d.outline.operation schemas').map Operation.withoutSchemas =
      (d.operation schemas).map Operation.withoutSchemas := by
  let answering (responses : List Response) : Operation := {
    id := d.operationId.getD (Naming.operationId d.method d.path)
    method := d.method
    path := d.path
    summary := d.summary
    description := d.description
    tags := d.tags
    responses }
  exact congrArg (Logged.map answering) (normalizeResponses_outline schemas schemas' d.responses)

/-! ## The operations -/

theorem jsonContent?_map {α β : Type} (view : α → β) (content : Table α) :
    jsonContent? (content.map view) = (jsonContent? content).map view := by
  rw [jsonContent?, jsonContent?, Table.get?_map]
  cases content.get? "application/json" with
  | some found => rfl
  | none =>
      simp only [Option.map_none, Table.map, List.find?_map, Option.map_map]
      rfl

namespace OpenApi

theorem ResponseObject.body_outline (r : ResponseObject) : r.outline.body = r.body.outline := by
  rw [body, body, ResponseBody.outline, outline, jsonContent?_map]
  cases jsonContent? r.content <;> rfl

theorem OperationObject.declared_outline (o : OperationObject) (method : Method) (path : String) :
    o.outline.declared method path = (o.declared method path).outline := by
  simp only [declared, Declared.outline, outline, Table.map, List.map_map, Declared.mk.injEq,
    true_and]
  refine List.map_congr_left fun e _ => ?_
  obtain ⟨key, found⟩ := e
  cases found with
  | none => rfl
  | some r => exact congrArg (fun body => (key, some body)) r.body_outline

theorem PathItem.operations_outline (item : PathItem) :
    item.outline.operations = item.operations.map fun o => (o.1, o.2.outline) := by
  rw [operations, operations, List.map_filterMap]
  refine List.filterMap_congr fun method _ => ?_
  simp only [outline, Option.map_map]
  rfl

theorem Document.declared_outline (d : Document) :
    d.outline.declared = d.declared.map Declared.outline := by
  simp only [declared, outline, Table.map, List.flatMap_map, List.map_flatMap,
    PathItem.operations_outline, List.map_map]
  refine List.flatMap_congr fun e _ => List.map_congr_left fun o _ => ?_
  exact o.2.declared_outline o.1 e.1

theorem Document.collect_outline (d : Document) :
    d.outline.collect.map (List.map Operation.withoutSchemas) =
      d.collect.map (List.map Operation.withoutSchemas) := by
  rw [collect, collect, Logged.all_map, Logged.all_map, declared_outline]
  simp only [List.map_map]
  congr 1
  exact List.map_congr_left fun o _ => o.operation_outline _ _

end OpenApi

namespace OperationList

theorem Entry.declared_outline (e : Entry) (method : Method) :
    e.outline.declared method = (e.declared method).outline := by
  simp only [declared, Declared.outline, outline, Table.map, List.map_map, Declared.mk.injEq,
    true_and]
  refine List.map_congr_left fun r _ => ?_
  obtain ⟨key, found⟩ := r
  cases found <;> rfl

theorem Entry.operation_outline (e : Entry) :
    (e.outline.operation schemas').map (Option.map Operation.withoutSchemas) =
      (e.operation schemas).map (Option.map Operation.withoutSchemas) := by
  have hmethod : e.outline.method = e.method := rfl
  rw [operation, operation, hmethod]
  cases Method.ofName? e.method with
  | none => rfl
  | some method =>
      have hop := (e.declared method).operation_outline schemas schemas'
      rw [← declared_outline] at hop
      exact congrArg (Logged.map some) hop

theorem Document.collect_outline (d : Document) :
    d.outline.collect.map (List.map Operation.withoutSchemas) =
      d.collect.map (List.map Operation.withoutSchemas) := by
  have hsteps : (Logged.all (d.outline.operations.map (·.operation d.outline.schemas))).map
      (List.map (Option.map Operation.withoutSchemas)) =
        (Logged.all (d.operations.map (·.operation d.schemas))).map
          (List.map (Option.map Operation.withoutSchemas)) := by
    rw [Logged.all_map, Logged.all_map, outline, List.map_map, List.map_map, List.map_map]
    congr 1
    exact List.map_congr_left fun e _ => e.operation_outline
  have hlisted : ∀ found : List (Option Operation),
      (found.filterMap id).map Operation.withoutSchemas =
        (found.map (Option.map Operation.withoutSchemas)).filterMap id := fun found => by
    rw [List.map_filterMap, List.filterMap_map]
    rfl
  simp only [collect, Logged.map, hlisted]
  exact congrArg (Logged.map (List.filterMap id)) hsteps

end OperationList

/-- **The operations of an outline** are those of the document, but for their
schemas, and the same is reported. -/
theorem SourceDocument.collect_outline (d : SourceDocument) :
    d.outline.collect.map (List.map Operation.withoutSchemas) =
      d.collect.map (List.map Operation.withoutSchemas) := by
  cases d with
  | openApi d => exact d.collect_outline
  | operationList d => exact d.collect_outline

/-! ## The files -/

namespace Emit

variable {c : Config} {op : Operation}

theorem primarySuccess?_withoutSchemas :
    op.withoutSchemas.primarySuccess? = op.primarySuccess?.map Response.withoutSchema := by
  rw [Operation.primarySuccess?, Operation.withoutSchemas, List.find?_map]
  rfl

theorem mockedResponses_withoutSchemas :
    mockedResponses c op.withoutSchemas =
      (mockedResponses c op).map fun r => (r.1.withoutSchema, r.2) := by
  rw [mockedResponses_eq, mockedResponses_eq, Operation.withoutSchemas, List.filterMap_map,
    List.map_filterMap]
  refine List.filterMap_congr fun r _ => ?_
  have hstatus : r.withoutSchema.status = r.status := rfl
  have hname : r.withoutSchema.schemaName = r.schemaName := rfl
  rw [Function.comp_apply, mocked?, mocked?, hstatus, hname]
  split_ifs
  · rfl
  · rw [Option.map_map]
    rfl

theorem routeAnswer_withoutSchemas : routeAnswer op.withoutSchemas = routeAnswer op := by
  rw [routeAnswer, routeAnswer, primarySuccess?_withoutSchemas]
  cases op.primarySuccess? <;> rfl

theorem routeCandidates_withoutSchemas :
    routeCandidates c op.withoutSchemas = routeCandidates c op := by
  have herrors : op.withoutSchemas.errors = op.errors.map Response.withoutSchema := by
    rw [Operation.errors, Operation.withoutSchemas, List.filter_map]
    rfl
  rw [routeCandidates, routeCandidates, routeAnswer_withoutSchemas, herrors, List.filterMap_map]
  rfl

theorem asksAlike_withoutSchemas (op : Operation) : AsksAlike c c op op.withoutSchemas where
  fixtures := by
    rw [askedFixtures, askedFixtures, mockedResponses_withoutSchemas, List.map_map]
    rfl
  routes := routeCandidates_withoutSchemas
  classes := by
    rw [classCandidates, classCandidates, mockedResponses_withoutSchemas, List.map_map]
    rfl
  worker := by
    rw [workerCandidate?, workerCandidate?, primarySuccess?_withoutSchemas, Option.map_map]
    rfl

/-- **No module is made from a schema.** -/
theorem generate_withoutSchemas (c : Config) (ops : List Operation) :
    generate c (ops.map Operation.withoutSchemas) = generate c ops := by
  have halike : ∀ op, AsksAlike c { c with generateErrorMocks := c.generateErrorMocks } op
      op.withoutSchemas := asksAlike_withoutSchemas
  exact generate_map halike

end Emit

/-- **Schemas count by their reference and title.**  Two documents with one outline
have the same files, or the same problems, under every configuration; and the
same is reported while their operations are collected. -/
theorem SourceDocument.generate_of_outline_eq (c : Config) (d d' : SourceDocument)
    (h : d.outline = d'.outline) :
    Emit.generate c d.collect.value = Emit.generate c d'.collect.value ∧
      d.collect.notices = d'.collect.notices := by
  have hcollect : d.collect.map (List.map Operation.withoutSchemas) =
      d'.collect.map (List.map Operation.withoutSchemas) := by
    rw [← d.collect_outline, ← d'.collect_outline, h]
  obtain ⟨hvalue, hnotices⟩ := Logged.mk.inj hcollect
  refine ⟨?_, hnotices⟩
  rw [← Emit.generate_withoutSchemas c d.collect.value, hvalue, Emit.generate_withoutSchemas]

namespace SourceDocument

/-- An operation that answers with this schema. -/
def listPets (schema : Json) : OpenApi.OperationObject where
  responses := ⟨[("200", some { content := ⟨[("application/json", { schema })]⟩ })]⟩

/-- A document with this operation, and with a table of schemas. -/
def petDocument (schema : Json) (schemas : Table Json) : SourceDocument := .openApi {
  openapi := "3.0.3"
  paths := ⟨[("/pets", ({} : OpenApi.PathItem).set .get (listPets schema))]⟩
  components := some { schemas } }

theorem outline_petDocument {schema schema' : Json} (h : schema.outline = schema'.outline)
    (schemas schemas' : Table Json) :
    (petDocument schema schemas).outline = (petDocument schema' schemas').outline := by
  have hoperation : (listPets schema).outline = (listPets schema').outline :=
    congrArg listPets h
  have hitem : (({} : OpenApi.PathItem).set .get (listPets schema)).outline =
      (({} : OpenApi.PathItem).set .get (listPets schema')).outline := by
    simp only [OpenApi.PathItem.outline, OpenApi.PathItem.set, apply_ite (Option.map _),
      Option.map_some, hoperation]
  let outlined (item : OpenApi.PathItem) : SourceDocument :=
    .openApi { openapi := "3.0.3", paths := ⟨[("/pets", item)]⟩ }
  exact congrArg outlined hitem

/-- A reference. -/
def petReference : Json := .obj [("$ref", .str "#/components/schemas/Pet")]

/-- The same reference, with something beside it. -/
def petReferenceWithType : Json :=
  .obj [("$ref", .str "#/components/schemas/Pet"), ("type", .str "object")]

/-- A schema that is found in a table, and one that is not. -/
theorem generate_petDocument :
    (petDocument petReference ⟨[("Pet", .obj [])]⟩).outline =
        (petDocument petReferenceWithType {}).outline ∧
      Emit.generate {} (petDocument petReference ⟨[("Pet", .obj [])]⟩).collect.value =
        Emit.generate {} (petDocument petReferenceWithType {}).collect.value ∧
      (petDocument petReference ⟨[("Pet", .obj [])]⟩).collect.notices =
        (petDocument petReferenceWithType {}).collect.notices := by
  have hschema : petReference.outline = petReferenceWithType.outline := rfl
  have houtline := outline_petDocument hschema ⟨[("Pet", .obj [])]⟩ {}
  exact ⟨houtline, generate_of_outline_eq {} _ _ houtline⟩

end SourceDocument

end ApiMocks
