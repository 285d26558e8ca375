import ActivityForge.Proofs.Blueprint.Operations
import ActivityForge.Proofs.Reference.Chain
import ActivityForge.Proofs.Reference.Nested

/-!
# The references that are looked at

A `Check` is a place of a document whose references are looked at: a component schema, a parameter,
a body, or a response.  `Document.checks` lists the checks of a document in order.  `Check.Passes`
and `Check.Fails` say what each of them asks for, through the chain of references to the inline
value and then through all references inside its schemas, and `Check.run` performs it
(`Check.run_eq_ok_iff`, `Check.run_eq_error_iff`).
-/

namespace ActivityForge.Document

/-- The reference of a declared component schema. -/
def Declares (d : Document) (target : String) : Prop :=
  ∃ name ∈ d.schemas.keys, target = Section.schemas.reference name

/-- Every reference inside the schema is that of a declared component schema. -/
def Sound (d : Document) (schema : Schema) : Prop :=
  ∀ target, schema.Mentions target → d.Declares target

/-- A place of a document whose references are looked at. -/
inductive Check
  | schema (schema : Schema)
  | parameter (v : OrRef Parameter)
  | body (v : OrRef RequestBody)
  | response (v : OrRef Response)

/-- The schemas of the media types of a content. -/
def contentSchemas (content : Dict MediaType) : List Schema :=
  content.filterMap fun entry => entry.2.schema

/-! ## The checks in order -/

/-- The checks of an operation: its parameters, its body and the response that counts. -/
def Operation.checks (op : Operation) : List Check :=
  op.parameters.map .parameter ++ op.requestBody.toList.map .body
    ++ (Blueprint.selectResponse? op).toList.map fun entry => .response entry.2

/-- The checks of a path: its own parameters, then its operations in the order of the methods. -/
def PathItem.checks (item : PathItem) : List Check :=
  item.parameters.map .parameter ++ item.operations.flatMap fun e => e.2.checks

/-- The checks of a document: the component schemas, then the paths. -/
def checks (d : Document) : List Check :=
  (d.schemas.map fun component => .schema component.2)
    ++ d.paths.flatMap fun entry => entry.2.checks

theorem checkSchema_eq_ok_iff {d : Document} {schema : Schema} :
    checkSchema d schema = .ok () ↔ d.Sound schema := by
  simp only [checkSchema, Schema.check_eq, forM_eq_ok_iff, checkTarget_eq_ok_iff,
    Schema.mem_references_iff]
  rfl

/-- References inside a schema are not followed, so that there is no cycle to find. -/
theorem checkSchema_ne_cycle {d : Document} {schema : Schema} {target : String} :
    checkSchema d schema ≠ .error (.cycle target) := by
  rw [checkSchema, Schema.check_eq, ne_eq, forM_eq_error_iff]
  rintro ⟨_, _, _, -, -, h⟩
  cases checkTarget_eq_error_iff.1 h

namespace Check

/-! ## What a check asks for -/

/-- How the chain of references at the place of a check ends: with the schemas of the inline
value, or with an error. -/
inductive Ends (d : Document) : Check → Except ReferenceError (List Schema) → Prop
  | schema (schema : Schema) : Ends d (.schema schema) (.ok [schema])
  | parameter {v : OrRef Parameter} {r : Except ReferenceError Parameter}
      (h : ChainEnds .parameters (componentsOf d Components.parameters) v r) :
      Ends d (.parameter v) (r.map fun p => p.schema.toList)
  | body {v : OrRef RequestBody} {r : Except ReferenceError RequestBody}
      (h : ChainEnds .requestBodies (componentsOf d Components.requestBodies) v r) :
      Ends d (.body v) (r.map fun b => contentSchemas b.content)
  | response {v : OrRef Response} {r : Except ReferenceError Response}
      (h : ChainEnds .responses (componentsOf d Components.responses) v r) :
      Ends d (.response v) (r.map fun b => contentSchemas b.content)

/-- The chain leads to an inline value, and all references inside its schemas are declared. -/
def Passes (d : Document) (c : Check) : Prop :=
  ∃ schemas, c.Ends d (.ok schemas) ∧ ∀ schema ∈ schemas, d.Sound schema

/-- The error of a check: that of its chain, or that of the first reference inside its schemas
that is not declared. -/
inductive Fails (d : Document) (c : Check) (e : ReferenceError) : Prop
  | chain (h : c.Ends d (.error e))
  | reference {schemas : List Schema} {before after : List String} {target : String}
      (h : c.Ends d (.ok schemas))
      (order : schemas.flatMap Schema.references = before ++ target :: after)
      (declared : ∀ t ∈ before, d.Declares t) (fault : Faulty .schemas d.schemas.keys target e)

/-! ## Performing a check -/

/-- The schemas to look into, once references to components have been followed. -/
def opened (d : Document) : Check → Except ReferenceError (List Schema)
  | .schema s => .ok [s]
  | .parameter v => (resolveParameter d v).map fun p => p.schema.toList
  | .body v => (resolveRequestBody d v).map fun b => contentSchemas b.content
  | .response v => (resolveResponse d v).map fun r => contentSchemas r.content

def run (d : Document) (c : Check) : Except ReferenceError Unit := do
  let schemas ← c.opened d
  forM schemas (checkSchema d)

variable {d : Document}

theorem opened_eq_iff {c : Check} {r : Except ReferenceError (List Schema)} :
    c.opened d = r ↔ c.Ends d r := by
  constructor
  · rintro rfl
    cases c with
    | schema s => exact .schema s
    | parameter v => exact .parameter (resolve_eq_iff.1 rfl)
    | body v => exact .body (resolve_eq_iff.1 rfl)
    | response v => exact .response (resolve_eq_iff.1 rfl)
  · intro h
    cases h with
    | schema => rfl
    | parameter h => rw [opened, resolveParameter, h.resolve_eq]
    | body h => rw [opened, resolveRequestBody, h.resolve_eq]
    | response h => rw [opened, resolveResponse, h.resolve_eq]

theorem forM_checkSchema (schemas : List Schema) :
    forM schemas (checkSchema d) =
      forM (schemas.flatMap Schema.references) (checkTarget d.schemas.contains) := by
  rw [forM_flatMap]
  exact congrArg (forM schemas) (funext fun s => s.check_eq _)

theorem run_eq_ok_iff {c : Check} : c.run d = .ok () ↔ c.Passes d := by
  simp only [run, bind_eq_ok_iff, opened_eq_iff, forM_eq_ok_iff, checkSchema_eq_ok_iff, Passes]

theorem run_eq_error_iff {c : Check} {e : ReferenceError} :
    c.run d = .error e ↔ c.Fails d e := by
  simp only [run, bind_eq_error_iff, opened_eq_iff, forM_checkSchema, forM_eq_error_iff,
    checkTarget_eq_ok_iff, checkTarget_eq_error_iff]
  constructor
  · rintro (h | ⟨schemas, h, before, target, after, order, declared, fault⟩)
    · exact .chain h
    · exact .reference h order declared fault
  · rintro (h | ⟨h, order, declared, fault⟩)
    · exact Or.inl h
    · exact Or.inr ⟨_, h, _, _, _, order, declared, fault⟩

end Check

end ActivityForge.Document
