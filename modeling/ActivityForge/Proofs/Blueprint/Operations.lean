import ActivityForge.Blueprint.OfDocument
import Mathlib.Data.List.Nodup

/-!
# The operations of a document

`Document.endpoints` enumerates the operations of a document with their places.  `Identifies` and
`Selected` are the rules by which an operation gets its identifier and by which one of its
responses counts.
-/

namespace ActivityForge

namespace Document

/-- An operation of a document with its place. -/
structure Endpoint where
  path : String
  method : Method
  operation : Operation

/-- The operations in the order of the paths and, inside a path, of the methods. -/
def endpoints (d : Document) : List Endpoint :=
  d.paths.flatMap fun entry => entry.2.operations.map fun e => ⟨entry.1, e.1, e.2⟩

/-- The methods of a path for which there is an operation. -/
def PathItem.methods (item : PathItem) : List Method :=
  [.get, .post, .put, .delete, .patch].filter fun m => (item.operation? m).isSome

/-- The pairs of a path and a method for which there is an operation. -/
def places (d : Document) : List (String × Method) :=
  d.paths.flatMap fun entry => entry.2.methods.map fun m => (entry.1, m)

theorem mem_endpoints_iff {d : Document} {e : Endpoint} :
    e ∈ d.endpoints ↔ ∃ entry ∈ d.paths, (e.method, e.operation) ∈ entry.2.operations ∧
      e.path = entry.1 := by
  simp only [endpoints, List.mem_flatMap, List.mem_map]
  constructor
  · rintro ⟨entry, hentry, op, hop, rfl⟩
    exact ⟨entry, hentry, hop, rfl⟩
  · rintro ⟨entry, hentry, hop, hpath⟩
    exact ⟨entry, hentry, _, hop, by rw [← hpath]⟩

theorem PathItem.map_fst_operations (item : PathItem) :
    item.operations.map Prod.fst = item.methods := by
  rw [operations, methods, List.map_filterMap, Method.all, ← List.filterMap_eq_filter]
  refine List.filterMap_congr fun m _ => ?_
  cases h : item.operation? m <;> simp [Option.guard, h]

theorem map_endpoints (d : Document) :
    (d.endpoints.map fun e => (e.path, e.method)) = d.places := by
  simp only [endpoints, places, List.map_flatMap, List.map_map, ← PathItem.map_fst_operations]
  rfl

theorem PathItem.nodup_methods (item : PathItem) : item.methods.Nodup :=
  List.Nodup.filter _ (by decide)

/-- No place occurs twice if no path does. -/
theorem nodup_places {d : Document} (h : d.paths.keys.Nodup) : d.places.Nodup := by
  rw [places, List.nodup_flatMap]
  refine ⟨fun entry _ => ?_, ?_⟩
  · exact (entry.2.nodup_methods).map fun _ _ he => (Prod.mk.inj he).2
  · refine (List.pairwise_map.1 h).imp fun hne place hleft hright => hne ?_
    obtain ⟨_, -, rfl⟩ := List.mem_map.1 hleft
    obtain ⟨_, -, he⟩ := List.mem_map.1 hright
    exact (Prod.mk.inj he).1.symm

end Document

open Document (Endpoint Operation OrRef Response)

/-! ## Identifiers -/

/-- Every character of the text is a blank. -/
def Blank (text : String) : Prop := ∀ c ∈ text.toList, Text.isBlank c = true

/-- The identifier of an operation: the one that the document gives, or else the method and the
path if it gives none or a blank one. -/
inductive Identifies (e : Endpoint) : String → Prop
  | own {id : String} (h : e.operation.operationId = some id) (hid : ¬ Blank id) : Identifies e id
  | blank {id : String} (h : e.operation.operationId = some id) (hid : Blank id) :
      Identifies e (Name.ofMethodAndPath e.method.text e.path)
  | absent (h : e.operation.operationId = none) :
      Identifies e (Name.ofMethodAndPath e.method.text e.path)

theorem Identifies.unique {e : Endpoint} {id id' : String} (h : Identifies e id)
    (h' : Identifies e id') : id = id' := by
  cases h with
  | own h hid =>
    cases h' with
    | own h' => exact Option.some.inj (h.symm.trans h')
    | blank h' hid' => exact absurd (Option.some.inj (h'.symm.trans h) ▸ hid') hid
    | absent h' => cases h.symm.trans h'
  | blank h hid =>
    cases h' with
    | own h' hid' => exact absurd (Option.some.inj (h.symm.trans h') ▸ hid) hid'
    | blank => rfl
    | absent => rfl
  | absent h =>
    cases h' with
    | own h' => cases h.symm.trans h'
    | blank => rfl
    | absent => rfl

theorem identifies_operationName (e : Endpoint) :
    Identifies e (Blueprint.operationName e.method e.path e.operation) := by
  unfold Blueprint.operationName
  split
  · next id h =>
    split
    · next hid => exact .blank h (by simpa [Blank, Text.isAllBlank] using hid)
    · next hid => exact .own h (by simpa [Blank, Text.isAllBlank] using hid)
  · next h => exact .absent h

/-! ## Responses -/

/-- The status is one of success: it begins with a `2`. -/
def IsSuccess (code : String) : Prop := ∃ rest, code.toList = '2' :: rest

/-- The response of an operation that counts, with its status: the first of success, or the first
of all if none is of success. -/
inductive Selected (op : Operation) : String → OrRef Response → Prop
  | success {before after : List (String × OrRef Response)} {code : String} {r : OrRef Response}
      (h : op.responses = before ++ (code, r) :: after) (success : IsSuccess code)
      (first : ∀ entry ∈ before, ¬ IsSuccess entry.1) : Selected op code r
  | first {rest : List (String × OrRef Response)} {code : String} {r : OrRef Response}
      (h : op.responses = (code, r) :: rest)
      (none : ∀ entry ∈ op.responses, ¬ IsSuccess entry.1) : Selected op code r

theorem selectResponse?_eq_some_iff {op : Operation} {code : String} {r : OrRef Response} :
    Blueprint.selectResponse? op = some (code, r) ↔ Selected op code r := by
  simp only [Blueprint.selectResponse?, Option.or_eq_some_iff, List.find?_eq_some_iff_append,
    List.find?_eq_none, List.head?_eq_some_iff, decide_eq_true_eq, Bool.not_eq_true',
    decide_eq_false_iff_not]
  constructor
  · rintro (⟨success, before, after, h, first⟩ | ⟨none, rest, h⟩)
    · exact .success h success first
    · exact .first h none
  · rintro (⟨h, success, first⟩ | ⟨h, none⟩)
    · exact Or.inl ⟨success, _, _, h, first⟩
    · exact Or.inr ⟨none, _, h⟩

theorem selectResponse?_eq_none_iff {op : Operation} :
    Blueprint.selectResponse? op = none ↔ op.responses = [] := by
  rw [Blueprint.selectResponse?, Option.or_eq_none_iff, List.head?_eq_none_iff]
  constructor
  · exact fun h => h.2
  · exact fun h => ⟨by rw [h, List.find?_nil], h⟩

end ActivityForge
