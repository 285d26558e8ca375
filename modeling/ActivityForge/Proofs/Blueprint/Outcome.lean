import ActivityForge.Proofs.Blueprint.Checks
import ActivityForge.Proofs.Blueprint.Resolution

/-!
# The outcome of resolving a document

Whether a document is resolved, and how resolving it fails, is decided by its checks, one after the
other (`outcome_ofDocument_runCheck`).  This holds in strict and in lenient mode; the mode only
decides what comes of the references inside one schema.
-/

namespace ActivityForge.Blueprint

open Document (Check MediaType Method OrRef ReferenceError Schema contentSchemas)

variable {d : Document} {o : Options}

theorem result_checkOptionalRefs (schema : Option Schema) :
    (checkOptionalRefs d o schema).result =
      forM schema.toList fun schema => (checkRefs d o schema).result := by
  cases schema with
  | none => rfl
  | some schema =>
    rw [checkOptionalRefs]
    cases h : (checkRefs d o schema).result <;> simp [h]

theorem checkContent_eq (content : Dict MediaType) :
    checkContent d o content =
      forM (contentSchemas content) fun schema => (checkRefs d o schema).result := by
  have hflat : contentSchemas content = content.flatMap fun entry => entry.2.schema.toList :=
    List.filterMap_eq_flatMap_toList ..
  rw [checkContent, hflat, forM_flatMap]
  exact congrArg (forM content) (funext fun entry => result_checkOptionalRefs _)

/-- A step that resolves a chain, looks at the schemas of the value and builds from it. -/
theorem outcome_resolved {α β : Type} {x : Except ReferenceError α}
    {check : α → Except ReferenceError Unit} {look : Schema → Except ReferenceError Unit}
    {schemas : α → List Schema} {build : α → β} (hcheck : ∀ a, check a = forM (schemas a) look) :
    outcome (do
      let a ← x
      check a
      pure (build a)) = (do
      let found ← x.map schemas
      forM found look) := by
  cases x with
  | error e => rfl
  | ok a =>
    rw [ok_bind, outcome_bind_pure, outcome_unit, hcheck]
    rfl

variable (d o)

/-- Performs a check in the mode of the options. -/
def runCheck (c : Check) : Except ReferenceError Unit := do
  let schemas ← c.opened d
  forM schemas fun schema => (checkRefs d o schema).result

theorem outcome_resolveParameter (v : OrRef Document.Parameter) :
    outcome (resolveParameter d o v).result = runCheck d o (.parameter v) := by
  rw [result_resolveParameter]
  exact outcome_resolved fun p => result_checkOptionalRefs p.schema

theorem outcome_resolveBody (v : OrRef Document.RequestBody) :
    outcome (resolveBody d o v).result = runCheck d o (.body v) := by
  rw [result_resolveBody]
  exact outcome_resolved fun b => checkContent_eq b.content

theorem outcome_resolveBody? (v : Option (OrRef Document.RequestBody)) :
    outcome (resolveBody? d o v) = forM (v.toList.map Check.body) (runCheck d o) := by
  cases v with
  | none => rfl
  | some v =>
    rw [resolveBody?, outcome_bind_pure, outcome_resolveBody]
    simp

theorem outcome_resolveResponse (op : Document.Operation) :
    outcome (resolveResponse d o op).result =
      forM ((selectResponse? op).toList.map fun entry => Check.response entry.2) (runCheck d o) := by
  rw [result_resolveResponse]
  cases selectResponse? op with
  | none => rfl
  | some entry =>
    refine Eq.trans (b := runCheck d o (.response entry.2)) ?_ (by simp)
    exact outcome_resolved fun r => checkContent_eq r.content

theorem outcome_resolveActivity (path : String) (ofPath : List Activity.Parameter)
    (entry : Method × Document.Operation) :
    outcome (resolveActivity d o path ofPath entry).result =
      forM entry.2.checks (runCheck d o) := by
  have hbody := outcome_resolveBody? d o entry.2.requestBody
  have hresponse := outcome_resolveResponse d o entry.2
  rw [result_resolveActivity, Document.Operation.checks, List.forM_append, List.forM_append,
    List.forM_map, bind_assoc, ← hbody, ← hresponse]
  refine (outcome_bind fun own => outcome_bind fun body => outcome_bind_pure).trans ?_
  rw [outcome_mapM]
  simp only [outcome_resolveParameter]

theorem outcome_resolvePath (entry : String × Document.PathItem) :
    outcome (resolvePath d o entry).result = forM entry.2.checks (runCheck d o) := by
  rw [result_resolvePath, Document.PathItem.checks, List.forM_append, List.forM_map, forM_flatMap,
    outcome_bind (c := forM entry.2.operations fun e => forM e.2.checks (runCheck d o)),
    outcome_mapM]
  · simp only [outcome_resolveParameter]
  · intro ofPath
    rw [outcome_mapM]
    simp only [outcome_resolveActivity]

/-- Resolving succeeds and fails as the checks of the document do, one after the other. -/
theorem outcome_ofDocument_runCheck :
    outcome (ofDocument d o).result = forM d.checks (runCheck d o) := by
  have hmodel (component : String × Schema) :
      outcome (resolveModel d o component).result = runCheck d o (.schema component.2) := by
    rw [result_resolveModel, outcome_bind_pure, outcome_unit]
    simp [runCheck, Check.opened]
  rw [result_ofDocument, Document.checks, List.forM_append, List.forM_map, forM_flatMap,
    outcome_bind (c := forM d.paths fun entry => forM entry.2.checks (runCheck d o)), outcome_mapM]
  · simp only [hmodel]
  · intro models
    rw [outcome_bind_pure, outcome_mapM]
    simp only [outcome_resolvePath]

end ActivityForge.Blueprint
