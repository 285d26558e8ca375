import ActivityForge.Blueprint.OfDocument
import ActivityForge.Proofs.Traversal

/-!
# Checking and building

Every step of resolving a document checks references and builds a part of the blueprint.  This
module takes the two apart: `parameterOf`, `payloadOf`, `draftOf`, `modelFrom`, … are what is
built, and the `result_…` lemmas say that each step gives just that after its checks.  The log
plays no part in the results.
-/

namespace ActivityForge.Blueprint

open Document (MediaType Method OrRef ReferenceError Schema SchemaBody)

/-! ## What is built -/

def fieldFrom (scope : String) (required : List String) (property : String × Schema) :
    Model.Field where
  originalName := property.1
  fieldName := Name.fieldText property.1
  type := DataType.ofField scope (some property.2) (required.contains property.1)
  required := required.contains property.1
  description := propertyDescription property.2

def modelFrom (scope : String) (component : String × Schema) : Model :=
  match component.2 with
  | .ref _ => ⟨Name.ofText component.1, none, []⟩
  | .inline body =>
    ⟨Name.ofText component.1, body.description, body.properties.map (fieldFrom scope body.required)⟩

def parameterOf (scope : String) (p : Document.Parameter) : Activity.Parameter where
  originalName := p.name
  fieldName := Name.fieldText p.name
  place := p.place
  type := DataType.ofField scope p.schema p.required
  required := p.required
  description := p.description

def payloadOf (scope : String) (entry : String × MediaType) : String × Activity.Payload :=
  (entry.1, ⟨entry.1, DataType.ofOptional scope entry.2.schema,
    match entry.2.schema with
    | some (.ref target) => some target
    | _ => none⟩)

def bodyOf (scope : String) (body : Document.RequestBody) : Activity.Body :=
  ⟨body.description, body.required, body.content.map (payloadOf scope)⟩

def responseOf (scope code : String) (response : Document.Response) : Activity.Response :=
  ⟨code, if response.description.isEmpty then none else some response.description,
    response.content.map (payloadOf scope)⟩

/-- The activity of an operation, with the parts that are resolved. -/
def draftOf (path : String) (entry : Method × Document.Operation)
    (parameters : List Activity.Parameter) (body : Option Activity.Body)
    (response : Activity.Response) : Activity where
  name := Name.ofText (operationName entry.1 path entry.2)
  method := entry.1
  path := path
  summary := entry.2.summary
  description := entry.2.description
  tags := entry.2.tags
  parameters := parameters
  body := body
  response := response
  idempotent := entry.1.isIdempotent
  retryPolicy := .ofIdempotency entry.1.isIdempotent
  deprecated := entry.2.deprecated.getD false

/-! ## What is checked -/

variable (d : Document) (o : Options)

/-- Checks the schemas of a content. -/
def checkContent (content : Dict MediaType) : Except ReferenceError Unit :=
  forM content fun entry => (checkOptionalRefs d o entry.2.schema).result

/-- The body of an operation, if it has one. -/
def resolveBody? (b : Option (OrRef Document.RequestBody)) :
    Except ReferenceError (Option Activity.Body) :=
  match b with
  | some b => do
    let body ← (resolveBody d o b).result
    pure (some body)
  | none => pure none

/-! ## Results of the steps -/

@[simp] theorem result_typeOf (schema : Option Schema) :
    (typeOf o schema).result = .ok (DataType.ofOptional o.modelScope schema) := rfl

theorem result_fieldOf (required : List String) (property : String × Schema) :
    (fieldOf o required property).result = .ok (fieldFrom o.modelScope required property) := rfl

theorem result_modelOf (component : String × Schema) :
    (modelOf o component.1 component.2).result = .ok (modelFrom o.modelScope component) := by
  obtain ⟨key, schema⟩ := component
  cases schema with
  | ref target => rfl
  | inline body =>
    simp only [modelOf, modelFrom, Logged.result_bind, Logged.result_mapM, result_fieldOf,
      Logged.result_pure]
    rw [show (fun p => Except.ok (fieldFrom o.modelScope body.required p)) =
        fun p => (pure (fieldFrom o.modelScope body.required p) : Except ReferenceError _) from rfl,
      List.mapM_pure]
    rfl

theorem result_resolveModel (component : String × Schema) :
    (resolveModel d o component).result =
      (checkRefs d o component.2).result >>= fun _ => pure (modelFrom o.modelScope component) := by
  simp only [resolveModel, Logged.result_bind, result_modelOf]
  rfl

theorem result_resolveParameter (p : OrRef Document.Parameter) :
    (resolveParameter d o p).result = (do
      let parameter ← Document.resolveParameter d p
      (checkOptionalRefs d o parameter.schema).result
      pure (parameterOf o.modelScope parameter)) := by
  simp only [resolveParameter, Logged.result_bind, Logged.result_ofExcept, result_typeOf]
  rfl

theorem result_resolvePayload (entry : String × MediaType) :
    (resolvePayload d o entry).result =
      (checkOptionalRefs d o entry.2.schema).result >>= fun _ =>
        pure (payloadOf o.modelScope entry) := by
  simp only [resolvePayload, Logged.result_bind, result_typeOf]
  rfl

/-- A traversal that checks each element and builds from it checks all and builds from all. -/
theorem mapM_check {α β : Type} (check : α → Except ReferenceError Unit) (build : α → β)
    (l : List α) :
    (l.mapM fun a => check a >>= fun _ => pure (build a)) =
      (forM l check >>= fun _ => pure (l.map build)) := by
  induction l with
  | nil => rfl
  | cons a l ih =>
    simp only [List.mapM_cons, List.forM_cons, ih, bind_assoc, pure_bind, List.map_cons]

theorem result_content (content : Dict MediaType) :
    (content.mapM (resolvePayload d o)).result =
      checkContent d o content >>= fun _ => pure (content.map (payloadOf o.modelScope)) := by
  simp only [Logged.result_mapM, result_resolvePayload, mapM_check]
  rfl

theorem result_resolveBody (b : OrRef Document.RequestBody) :
    (resolveBody d o b).result = (do
      let body ← Document.resolveRequestBody d b
      checkContent d o body.content
      pure (bodyOf o.modelScope body)) := by
  simp only [resolveBody, Logged.result_bind, Logged.result_ofExcept, result_content,
    Logged.result_pure, bind_assoc]
  rfl

theorem result_resolveResponse (op : Document.Operation) :
    (resolveResponse d o op).result =
      match selectResponse? op with
      | none => pure plainResponse
      | some (code, r) => (do
        let response ← Document.resolveResponse d r
        checkContent d o response.content
        pure (responseOf o.modelScope code response)) := by
  rw [resolveResponse]
  cases selectResponse? op with
  | none => rfl
  | some entry =>
    simp only [Logged.result_bind, Logged.result_ofExcept, result_content,
      Logged.result_pure, bind_assoc]
    rfl

theorem result_resolveActivity (path : String) (ofPath : List Activity.Parameter)
    (entry : Method × Document.Operation) :
    (resolveActivity d o path ofPath entry).result = (do
      let own ← entry.2.parameters.mapM fun p => (resolveParameter d o p).result
      let body ← resolveBody? d o entry.2.requestBody
      let response ← (resolveResponse d o entry.2).result
      pure (draftOf path entry (mergeParameters ofPath own) body response)) := by
  obtain ⟨method, op⟩ := entry
  simp only [resolveActivity, resolveBody?, Logged.result_bind, Logged.result_mapM]
  cases op.requestBody with
  | none =>
    simp only [Logged.result_bind, Logged.result_pure]
    rfl
  | some b =>
    simp only [Logged.result_bind, Logged.result_pure, Logged.result_note, ok_bind, bind_assoc,
      pure_bind]
    rfl

theorem result_resolvePath (entry : String × Document.PathItem) :
    (resolvePath d o entry).result = (do
      let ofPath ← entry.2.parameters.mapM fun p => (resolveParameter d o p).result
      entry.2.operations.mapM fun e => (resolveActivity d o entry.1 ofPath e).result) := by
  simp only [resolvePath, Logged.result_bind, Logged.result_mapM]

theorem result_ofDocument :
    (ofDocument d o).result = (do
      let models ← d.schemas.mapM fun component => (resolveModel d o component).result
      let drafts ← d.paths.mapM fun entry => (resolvePath d o entry).result
      pure ⟨d.info, Activity.settleNames [] drafts.flatten, models⟩) := by
  simp only [ofDocument, resolveActivities, Logged.result_bind, Logged.result_mapM, bind_assoc]
  rfl

variable {d o}

/-- The models are built from the component schemas, whatever is made of the paths. -/
theorem models_eq {b : Blueprint} (h : (ofDocument d o).result = .ok b) :
    b.models = d.schemas.map (modelFrom o.modelScope) := by
  simp only [result_ofDocument, result_resolveModel, mapM_check, bind_eq_ok_iff,
    pure_eq_ok_iff] at h
  obtain ⟨_, ⟨-, -, rfl⟩, _, -, rfl⟩ := h
  rfl

end ActivityForge.Blueprint
