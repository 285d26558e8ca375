import ActivityForge.Proofs.Blueprint.Outcome

/-!
# Documents that strict resolving accepts

In strict mode the outcome of resolving a document is the outcome of its checks one after the other
(`outcome_ofDocument`).  So it gives a blueprint exactly for the documents that are `Accepted`, and
otherwise the error of the first check that fails.
-/

namespace ActivityForge

namespace Document

variable {d : Document}

/-! ## Accepted documents -/

/-- A parameter leads to an inline one, and the references inside its schema are declared. -/
def SoundParameter (d : Document) (v : OrRef Parameter) : Prop :=
  ∃ p, LeadsTo .parameters (componentsOf d Components.parameters) v p ∧
    ∀ schema, p.schema = some schema → d.Sound schema

/-- The references inside the schemas of all media types are declared. -/
def SoundContent (d : Document) (content : Dict MediaType) : Prop :=
  ∀ entry ∈ content, ∀ schema, entry.2.schema = some schema → d.Sound schema

def SoundBody (d : Document) (v : OrRef RequestBody) : Prop :=
  ∃ b, LeadsTo .requestBodies (componentsOf d Components.requestBodies) v b ∧
    d.SoundContent b.content

def SoundResponse (d : Document) (v : OrRef Response) : Prop :=
  ∃ r, LeadsTo .responses (componentsOf d Components.responses) v r ∧ d.SoundContent r.content

/-- What strict resolving asks of a document. -/
structure Accepted (d : Document) : Prop where
  schemas : ∀ component ∈ d.schemas, d.Sound component.2
  /-- The parameters of a path count even if it has no operation. -/
  pathParameters : ∀ entry ∈ d.paths, ∀ v ∈ entry.2.parameters, d.SoundParameter v
  parameters : ∀ e ∈ d.endpoints, ∀ v ∈ e.operation.parameters, d.SoundParameter v
  bodies : ∀ e ∈ d.endpoints, ∀ v, e.operation.requestBody = some v → d.SoundBody v
  /-- Of the responses only the one that counts is looked at. -/
  responses : ∀ e ∈ d.endpoints, ∀ code v, Selected e.operation code v → d.SoundResponse v

/-! ## Accepted documents pass their checks -/

theorem passes_schema_iff {s : Schema} : (Check.schema s).Passes d ↔ d.Sound s := by
  simp [Check.Passes, ← Check.opened_eq_iff, Check.opened]

/-- A check that opens a chain of references passes if the chain leads to a value whose schemas
are sound. -/
theorem passes_iff {α : Type} {c : Check} {s : Section} {defs : Dict (OrRef α)} {v : OrRef α}
    {schemas : α → List Schema} (h : c.opened d = (v.resolve s defs).map schemas) :
    c.Passes d ↔ ∃ a, LeadsTo s defs v a ∧ ∀ schema ∈ schemas a, d.Sound schema := by
  simp only [Check.Passes, ← Check.opened_eq_iff, h, map_eq_ok_iff, resolve_eq_iff,
    chainEnds_ok_iff]
  constructor
  · rintro ⟨_, ⟨a, leads, rfl⟩, hsound⟩
    exact ⟨a, leads, hsound⟩
  · rintro ⟨a, leads, hsound⟩
    exact ⟨_, ⟨a, leads, rfl⟩, hsound⟩

theorem passes_parameter_iff {v : OrRef Parameter} :
    (Check.parameter v).Passes d ↔ d.SoundParameter v := by
  rw [passes_iff rfl, SoundParameter]
  simp only [Option.mem_toList]

theorem soundContent_iff {content : Dict MediaType} :
    d.SoundContent content ↔ ∀ schema ∈ contentSchemas content, d.Sound schema := by
  simp only [contentSchemas, List.mem_filterMap]
  exact ⟨fun h schema ⟨entry, hmem, hs⟩ => h entry hmem schema hs,
    fun h entry hmem schema hs => h schema ⟨entry, hmem, hs⟩⟩

theorem passes_body_iff {v : OrRef RequestBody} :
    (Check.body v).Passes d ↔ d.SoundBody v := by
  rw [passes_iff rfl, SoundBody]
  simp only [soundContent_iff]

theorem passes_response_iff {v : OrRef Response} :
    (Check.response v).Passes d ↔ d.SoundResponse v := by
  rw [passes_iff rfl, SoundResponse]
  simp only [soundContent_iff]

theorem forall_mem_operationChecks {op : Operation} {P : Check → Prop} :
    (∀ c ∈ op.checks, P c) ↔ (∀ v ∈ op.parameters, P (.parameter v)) ∧
      (∀ v, op.requestBody = some v → P (.body v)) ∧
      ∀ code v, Selected op code v → P (.response v) := by
  simp only [Operation.checks, List.forall_mem_append, List.forall_mem_map, Option.mem_toList,
    Prod.forall, selectResponse?_eq_some_iff, and_assoc]

theorem forall_mem_checks {P : Check → Prop} :
    (∀ c ∈ d.checks, P c) ↔ (∀ component ∈ d.schemas, P (.schema component.2)) ∧
      ∀ entry ∈ d.paths, (∀ v ∈ entry.2.parameters, P (.parameter v)) ∧
        ∀ e ∈ entry.2.operations, ∀ c ∈ e.2.checks, P c := by
  simp only [checks, PathItem.checks, List.forall_mem_append, List.forall_mem_map,
    List.forall_mem_flatMap]

theorem accepted_iff : d.Accepted ↔ ∀ c ∈ d.checks, c.Passes d := by
  simp only [forall_mem_checks, forall_mem_operationChecks, passes_schema_iff,
    passes_parameter_iff, passes_body_iff, passes_response_iff]
  constructor
  · intro h
    refine ⟨h.schemas, fun entry hentry => ⟨h.pathParameters entry hentry, fun e he => ?_⟩⟩
    have hmem : ⟨entry.1, e.1, e.2⟩ ∈ d.endpoints := mem_endpoints_iff.2 ⟨entry, hentry, he, rfl⟩
    exact ⟨h.parameters _ hmem, h.bodies _ hmem, h.responses _ hmem⟩
  · rintro ⟨hschemas, hpaths⟩
    have hop : ∀ e ∈ d.endpoints, _ := fun e he =>
      let ⟨entry, hentry, hmem, _⟩ := mem_endpoints_iff.1 he
      (hpaths entry hentry).2 _ hmem
    exact ⟨hschemas, fun entry hentry => (hpaths entry hentry).1, fun e he => (hop e he).1,
      fun e he => (hop e he).2.1, fun e he => (hop e he).2.2⟩

/-! ## An accepted document -/

/-- No identifier but blanks, and a missing response before the one of success. -/
def listPets : Operation where
  operationId := some " "
  summary := none
  description := none
  tags := ["pets"]
  parameters := []
  requestBody := none
  responses := [("404", .inline ⟨"Missing", []⟩),
    ("200", .inline ⟨"",
      [("application/json", ⟨some (.ref (Section.schemas.reference "Pet")), none⟩)]⟩)]
  deprecated := none

/-- A body and no response. -/
def createPet : Operation where
  operationId := some "createPet"
  summary := none
  description := none
  tags := []
  parameters := []
  requestBody := some (.inline ⟨none,
    [("text/plain", ⟨some (.ref (Section.schemas.reference "v1/Owner")), none⟩)], true⟩)
  responses := []
  deprecated := some true

/-- Schemas that refer to each other, a chain of parameters, and two operations of one path. -/
def petStore : Document where
  format := "3.0.3"
  info := ⟨"Pet store", none, "1.0"⟩
  paths := [("/pets", {
    parameters := [.ref (Section.parameters.reference "limit")]
    get := some listPets
    post := some createPet
    put := none
    delete := none
    patch := none })]
  components := some {
    schemas := [
      ("Pet", .inline ⟨some (.single "object"), none, none, none,
        [("owner", .ref (Section.schemas.reference "v1/Owner")),
          ("litter", .inline ⟨some (.single "array"), none, none, none, [], [], none,
            some (.ref (Section.schemas.reference "Pet"))⟩)],
        ["owner"], none, none⟩),
      ("v1/Owner", .ref (Section.schemas.reference "Pet"))]
    responses := []
    parameters := [
      ("limit", .ref (Section.parameters.reference "size")),
      ("size", .inline ⟨"size", .query, none, false,
        some (.inline ⟨some (.single "integer"), none, none, none, [], [], none, none⟩)⟩)]
    requestBodies := [] }

theorem endpoints_petStore :
    petStore.endpoints = [⟨"/pets", .get, listPets⟩, ⟨"/pets", .post, createPet⟩] := rfl

theorem soundContent_petStore (name : String) (contentType : String)
    (h : name ∈ petStore.schemas.keys) :
    petStore.SoundContent
      [(contentType, ⟨some (.ref (Section.schemas.reference name)), none⟩)] := by
  intro entry hentry schema hs
  obtain rfl := List.mem_singleton.1 hentry
  obtain rfl := Option.some.inj hs
  rintro _ ⟨⟩
  exact ⟨name, h, rfl⟩

theorem accepted_petStore : petStore.Accepted where
  schemas component hc := by
    rw [← checkSchema_eq_ok_iff]
    revert component
    decide
  pathParameters entry hentry v hv := by
    obtain rfl := List.mem_singleton.1 hentry
    obtain rfl := List.mem_singleton.1 hv
    refine ⟨_, ⟨_, .step rfl (.step rfl (.refl _))⟩, fun schema hs => ?_⟩
    obtain rfl := Option.some.inj hs
    exact checkSchema_eq_ok_iff.1 rfl
  parameters e he v hv := by
    rw [endpoints_petStore] at he
    obtain rfl | rfl : e = _ ∨ e = _ := by simpa using he
    · cases hv
    · cases hv
  bodies e he v hv := by
    rw [endpoints_petStore] at he
    obtain rfl | rfl : e = _ ∨ e = _ := by simpa using he
    · cases hv
    · obtain rfl := Option.some.inj hv
      exact ⟨_, ⟨_, .refl _⟩, soundContent_petStore _ _ (by decide)⟩
  responses e he code v h := by
    rw [endpoints_petStore] at he
    rw [← selectResponse?_eq_some_iff] at h
    obtain rfl | rfl : e = _ ∨ e = _ := by simpa using he
    · obtain ⟨-, rfl⟩ := Prod.mk.inj (Option.some.inj h)
      exact ⟨_, ⟨_, .refl _⟩, soundContent_petStore _ _ (by decide)⟩
    · cases h

end Document

/-! ## Strict resolving performs the checks -/

namespace Blueprint

open Document (Check Schema checkSchema)

variable {d : Document} {scope : String}

theorem result_checkRefs_strict (schema : Schema) :
    (checkRefs d ⟨scope, true⟩ schema).result = checkSchema d schema := by
  unfold checkRefs
  cases checkSchema d schema with
  | ok => rfl
  | error e => cases h : e.missing? <;> simp [h]

/-- Strict resolving succeeds and fails as the checks of the document do, one after the other. -/
theorem outcome_ofDocument :
    outcome (ofDocument d ⟨scope, true⟩).result = forM d.checks (Check.run d) := by
  have hrun : runCheck d ⟨scope, true⟩ = Check.run d := by
    funext c
    simp only [runCheck, Check.run, result_checkRefs_strict]
  rw [outcome_ofDocument_runCheck, hrun]

theorem exists_ofDocument_iff :
    (∃ b, (ofDocument d ⟨scope, true⟩).result = .ok b) ↔ d.Accepted := by
  rw [Document.accepted_iff, ← outcome_eq_ok_iff, outcome_ofDocument, forM_eq_ok_iff]
  simp only [Check.run_eq_ok_iff]

/-- Strict resolving gives a blueprint exactly for the accepted documents, and otherwise the error
of the first check that fails. -/
theorem ofDocument_strict (d : Document) (scope : String) :
    ((∃ b, (ofDocument d ⟨scope, true⟩).result = .ok b) ↔ d.Accepted) ∧
      ∀ e, (ofDocument d ⟨scope, true⟩).result = .error e ↔
        ∃ before c after, d.checks = before ++ c :: after ∧ (∀ c ∈ before, c.Passes d) ∧
          c.Fails d e := by
  refine ⟨exists_ofDocument_iff, fun e => ?_⟩
  rw [← outcome_eq_error_iff, outcome_ofDocument, forM_eq_error_iff]
  simp only [Check.run_eq_ok_iff, Check.run_eq_error_iff]

end Blueprint

end ActivityForge
