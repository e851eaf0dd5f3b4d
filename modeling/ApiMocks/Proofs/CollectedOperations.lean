import ApiMocks.Operation.Collect
import ApiMocks.Proofs.DialectAgreement
import ApiMocks.Proofs.ParsedDocuments
import Mathlib

/-!
# Which operations a document has

Collecting goes through the paths of an OpenAPI document in their order, and through
the methods of each path in an order of its own.  So an operation is collected once,
and where it stands among the others depends on the place of its path and on its
method.  An operation list is collected entry by entry, without those whose method
is none of the seven names.

* `Operation.Keeps`: what a record takes from a document as it is;
* `OpenApi.Document.Collects`, `OperationList.Document.Collects`: the operations,
  each once and in order;
* `OpenApi.Document.mem_present`, `OpenApi.Document.present_ordered`: the pairs of
  path and method that a document declares;
* `Method.ofName?_eq_some_iff`: the methods that an entry can have;
* `SourceDocument.collect_exact`: the operations of every document.
-/

namespace ApiMocks

/-- What a record keeps of the operation of a document; an id is made up only where
none is given. -/
structure Operation.Keeps (op : Operation) (operationId summary description : Option String)
    (tags : Option (List String)) : Prop where
  id : op.id = operationId.getD (Naming.operationId op.method op.path)
  summary : op.summary = summary
  description : op.description = description
  tags : op.tags = tags

theorem Declared.keeps (d : Declared) (schemas : Table Json) :
    (d.operation schemas).value.Keeps d.operationId d.summary d.description d.tags :=
  ⟨rfl, rfl, rfl, rfl⟩

namespace OpenApi

/-- Where an operation stands: the place of its path in the document, and then that
of its method in the list of all methods. -/
def Document.rank (d : Document) (path : String) (method : Method) : Nat × Nat :=
  (d.paths.keys.idxOf path, Method.all.idxOf method)

/-- The operations are those that the document declares, each once, by the place of
the path and then by the method. -/
structure Document.Collects (d : Document) (ops : List Operation) : Prop where
  sound : ∀ op ∈ ops, ∃ item o, d.paths.get? op.path = some item ∧
    item.operation op.method = some o ∧
      op.Keeps o.operationId o.summary o.description o.tags
  complete : ∀ path item method o, d.paths.get? path = some item →
    item.operation method = some o → ∃ op ∈ ops, op.path = path ∧ op.method = method
  once : (ops.map fun op => (op.path, op.method)).Nodup
  ordered : ops.Pairwise fun a b =>
    Prod.Lex (· < ·) (· < ·) (d.rank a.path a.method) (d.rank b.path b.method)

theorem PathItem.mem_operations {item : PathItem} {method : Method} {o : OperationObject} :
    (method, o) ∈ item.operations ↔ item.operation method = some o := by
  have hall : method ∈ Method.all := by cases method <;> decide
  rw [operations, List.mem_filterMap]
  constructor
  · intro h
    obtain ⟨method', -, hfound⟩ := h
    obtain ⟨o', ho', heq⟩ := Option.map_eq_some_iff.mp hfound
    cases heq
    exact ho'
  · intro h
    exact ⟨method, hall, by rw [h, Option.map_some]⟩

variable {d : Document}

/-- With distinct paths, what a document declares is what its paths lead to. -/
theorem Document.mem_present (hdistinct : d.paths.keys.Nodup) {path : String} {method : Method}
    {o : OperationObject} :
    (path, method, o) ∈ d.present ↔
      ∃ item, d.paths.get? path = some item ∧ item.operation method = some o := by
  rw [present, List.mem_flatMap]
  constructor
  · intro h
    obtain ⟨e, he, hmem⟩ := h
    obtain ⟨o', ho', heq⟩ := List.mem_map.mp hmem
    cases heq
    exact ⟨e.2, (Table.mem_entries_iff hdistinct).mp he, PathItem.mem_operations.mp ho'⟩
  · intro h
    obtain ⟨item, hitem, ho⟩ := h
    exact ⟨(path, item), (Table.mem_entries_iff hdistinct).mpr hitem,
      List.mem_map.mpr ⟨(method, o), PathItem.mem_operations.mpr ho, rfl⟩⟩

/-- In a list without repetitions, what comes first has the smaller place. -/
theorem pairwise_idxOf_of_nodup {α : Type} [DecidableEq α] {l : List α} (h : l.Nodup) :
    l.Pairwise fun a b => l.idxOf a < l.idxOf b := by
  rw [List.pairwise_iff_getElem]
  intro i j hi hj hlt
  rw [h.idxOf_getElem i hi, h.idxOf_getElem j hj]
  exact hlt

/-- The order of collection is that of the paths and then that of the methods. -/
theorem Document.present_ordered (hdistinct : d.paths.keys.Nodup) :
    d.present.Pairwise fun a b =>
      Prod.Lex (· < ·) (· < ·) (d.rank a.1 a.2.1) (d.rank b.1 b.2.1) := by
  rw [present, List.pairwise_flatMap]
  -- operations of one path differ in their methods, and those of two paths in the paths
  constructor
  · intro e _
    have hmethods : Method.all.Pairwise fun a b => Method.all.idxOf a < Method.all.idxOf b := by
      decide
    rw [List.pairwise_map, PathItem.operations, List.pairwise_filterMap]
    refine hmethods.imp ?_
    intro method method' hlt o ho o' ho'
    obtain ⟨_, _, rfl⟩ := Option.map_eq_some_iff.mp ho
    obtain ⟨_, _, rfl⟩ := Option.map_eq_some_iff.mp ho'
    exact Prod.Lex.right _ hlt
  · have hpaths : d.paths.entries.Pairwise fun e e' =>
        d.paths.keys.idxOf e.1 < d.paths.keys.idxOf e'.1 := by
      have hkeys := pairwise_idxOf_of_nodup hdistinct
      exact (List.pairwise_map (f := Prod.fst)
        (R := fun p q => d.paths.keys.idxOf p < d.paths.keys.idxOf q)).mp hkeys
    refine hpaths.imp ?_
    intro e e' hlt a ha b hb
    obtain ⟨_, _, rfl⟩ := List.mem_map.mp ha
    obtain ⟨_, _, rfl⟩ := List.mem_map.mp hb
    exact Prod.Lex.left _ _ hlt

theorem Document.collect_value (d : Document) :
    d.collect.value =
      d.present.map fun o => ((o.2.2.declared o.2.1 o.1).operation d.schemas).value := by
  simp only [collect, Logged.all, declared, present, List.map_flatMap, List.map_map]
  rfl

/-- **The operations of a document**, each once and in order. -/
theorem Document.collects (hdistinct : d.paths.keys.Nodup) : d.Collects d.collect.value := by
  have hordered : d.collect.value.Pairwise fun a b =>
      Prod.Lex (· < ·) (· < ·) (d.rank a.path a.method) (d.rank b.path b.method) := by
    rw [collect_value, List.pairwise_map]
    exact d.present_ordered hdistinct
  refine ⟨?_, ?_, ?_, hordered⟩
  · intro op hop
    rw [collect_value] at hop
    obtain ⟨o, ho, rfl⟩ := List.mem_map.mp hop
    obtain ⟨item, hitem, hfound⟩ := (mem_present hdistinct).mp ho
    exact ⟨item, o.2.2, hitem, hfound, Declared.keeps _ d.schemas⟩
  · intro path item method o hitem hfound
    refine ⟨((o.declared method path).operation d.schemas).value, ?_, rfl, rfl⟩
    rw [collect_value]
    exact List.mem_map.mpr
      ⟨(path, method, o), (mem_present hdistinct).mpr ⟨item, hitem, hfound⟩, rfl⟩
  · refine List.pairwise_map.mpr (hordered.imp ?_)
    intro a b hlt hsame
    obtain ⟨hpath, hmethod⟩ := Prod.mk.inj hsame
    rw [hpath, hmethod] at hlt
    rcases Prod.lex_iff.mp hlt with hsmaller | ⟨-, hsmaller⟩
    · exact Nat.lt_irrefl _ hsmaller
    · exact Nat.lt_irrefl _ hsmaller

end OpenApi

/-! ## Operation lists -/

namespace Method

/-- A text that folds to the name has its letters, each small or capital. -/
theorem spelled_of_foldCase {m : Method} {text : String}
    (h : Method.foldCase text = m.name.toList) : m.Spelled text := by
  rw [Spelled, ← h, foldCase, List.forall₂_map_right_iff]
  refine List.forall₂_same.mpr fun c _ => ?_
  by_cases hcapital : c.isUpper = true
  · refine .inr ?_
    rw [Char.toUpper_toLower_eq_toUpper,
      Char.toUpper_eq_of_not_isLower (Char.not_isLower_of_isUpper hcapital)]
  · exact .inl (Char.toLower_eq_of_not_isUpper hcapital).symm

/-- **The method of a text**: a text names a method exactly if it is its name in
some casing. -/
theorem ofName?_eq_some_iff {m : Method} {text : String} :
    Method.ofName? text = some m ↔ m.Spelled text := by
  refine ⟨fun h => spelled_of_foldCase ?_, Spelled.ofName?⟩
  have hname := List.find?_some h
  exact (of_decide_eq_true hname).symm

end Method

namespace OperationList

/-- The method of the entry is one of the seven names, in some casing. -/
def Entry.HasMethod (e : Entry) : Prop := ∃ method : Method, method.Spelled e.method

theorem Entry.hasMethod_iff {e : Entry} :
    e.HasMethod ↔ (Method.ofName? e.method).isSome = true := by
  rw [Option.isSome_iff_exists]
  exact exists_congr fun method => Method.ofName?_eq_some_iff.symm

instance (e : Entry) : Decidable e.HasMethod := decidable_of_iff _ Entry.hasMethod_iff.symm

/-- The record is that of the entry. -/
structure Entry.Gives (e : Entry) (op : Operation) : Prop where
  method : op.method.Spelled e.method
  path : op.path = e.path
  keeps : op.Keeps e.operationId e.summary e.description e.tags

/-- The operations are those of the entries with a method, one for each and in order. -/
def Document.Collects (d : Document) (ops : List Operation) : Prop :=
  List.Forall₂ Entry.Gives (d.operations.filter fun e => e.HasMethod) ops

variable {d : Document} {entries : List Entry} {schemas : Table Json}

theorem Entry.operation_value (e : Entry) (schemas : Table Json) :
    (e.operation schemas).value = (Method.ofName? e.method).map fun method =>
      ((e.declared method).operation schemas).value := by
  rw [operation]
  cases Method.ofName? e.method <;> rfl

/-- **Entry by entry**, a record is made or none. -/
theorem forall₂_gives (entries : List Entry) (schemas : Table Json) :
    List.Forall₂ Entry.Gives (entries.filter fun e => e.HasMethod)
      (entries.filterMap fun e => (e.operation schemas).value) := by
  induction entries with
  | nil => exact .nil
  | cons e rest ih =>
      rw [List.filterMap_cons, Entry.operation_value]
      cases hmethod : Method.ofName? e.method with
      | none =>
          have hnone : ¬ e.HasMethod := by
            rw [Entry.hasMethod_iff, hmethod]
            exact Bool.false_ne_true
          rw [List.filter_cons_of_neg (by simpa using hnone)]
          exact ih
      | some method =>
          have hspelled := Method.ofName?_eq_some_iff.mp hmethod
          have hsome : e.HasMethod := ⟨method, hspelled⟩
          rw [List.filter_cons_of_pos (by simpa using hsome)]
          exact .cons ⟨hspelled, rfl, Declared.keeps _ schemas⟩ ih

/-- **The operations of a list**, one for each entry with a method. -/
theorem Document.collects (d : Document) : d.Collects d.collect.value := by
  have hvalue : d.collect.value =
      d.operations.filterMap fun e => (e.operation d.schemas).value := by
    simp only [collect, Logged.all, List.map_map, List.filterMap_map]
    rfl
  rw [hvalue]
  exact forall₂_gives d.operations d.schemas

end OperationList

/-! ## All documents -/

namespace SourceDocument

/-- The operations are those of the document, each once and in order. -/
def Collects : SourceDocument → List Operation → Prop
  | openApi d, ops => d.Collects ops
  | operationList d, ops => d.Collects ops

/-- **Collecting is exact.**  Every document with distinct paths has the operations
that it declares, each once and in order; every document that is read has distinct
paths; and the methods of a path can stand in any order, in JSON and in YAML. -/
theorem collect_exact :
    (∀ doc : SourceDocument, doc.DistinctPaths → doc.Collects doc.collect.value) ∧
    (∀ dialect encoding text doc, SourceDocument.parse dialect encoding text = .ok doc →
      doc.DistinctPaths) ∧
    (∀ room members members' item, members.Perm members' →
      OpenApi.PathItem.read (⟨room, .object members⟩ : JsonText.Site) = .ok item →
        OpenApi.PathItem.read (⟨room, .object members'⟩ : JsonText.Site) = .ok item) ∧
    (∀ (n : Yaml.Site) anchor tag entries entries' budget item rest, entries.Perm entries' →
      (OpenApi.PathItem.read (n.move (.mapping anchor tag entries))).run budget =
          .ok (item, rest) →
        (OpenApi.PathItem.read (n.move (.mapping anchor tag entries'))).run budget =
          .ok (item, rest)) := by
  refine ⟨?_, ?_, ?_, ?_⟩
  · intro doc hdistinct
    cases doc with
    | openApi d => exact d.collects hdistinct
    | operationList d => exact d.collects
  · intro dialect encoding text doc hparse
    exact distinctPaths_of_parse hparse
  · intro room members members' item hperm hread
    exact OpenApi.PathItem.read_json_perm hperm hread
  · intro n anchor tag entries entries' budget item rest hperm hread
    exact OpenApi.PathItem.run_read_yaml_perm hperm hread

/-- A document whose methods are not in the order of collection. -/
def unorderedText : String :=
  "\x7b\"openapi\":\"3.1\",\"paths\":\x7b\"/b\":\x7b" ++
    "\"options\":\x7b\x7d,\"get\":\x7b\"operationId\":\"b\"\x7d\x7d\x7d\x7d"

/-- The document of this text. -/
def unorderedDocument : SourceDocument := .openApi {
  openapi := "3.1"
  paths := ⟨[("/b", (({} : OpenApi.PathItem).set .options (some {})).set .get
    (some { operationId := "b" }))]⟩ }

set_option maxRecDepth 4000 in
/-- Its operations: the order is that of the methods, and one id is made up. -/
theorem collect_unorderedDocument :
    SourceDocument.parse .openApi .json unorderedText = .ok unorderedDocument ∧
      unorderedDocument.Collects unorderedDocument.collect.value ∧
      unorderedDocument.collect.value.map (fun op => (op.method, op.id)) =
        [(.get, "b"), (.options, "optionsB")] := by
  have hparse : SourceDocument.parse .openApi .json unorderedText = .ok unorderedDocument := rfl
  have hdistinct := collect_exact.2.1 .openApi .json unorderedText unorderedDocument hparse
  exact ⟨hparse, collect_exact.1 unorderedDocument hdistinct, by decide +kernel⟩

end SourceDocument

end ApiMocks
