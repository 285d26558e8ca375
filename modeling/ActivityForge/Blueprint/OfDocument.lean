import ActivityForge.Activity.Collision
import ActivityForge.Blueprint
import ActivityForge.DataType.OfSchema
import ActivityForge.Document.Reference
import ActivityForge.Log

/-!
# The blueprint of a document

`Blueprint.ofDocument` resolves a document: first the component schemas become models, then the
operations of each path become activities, and last colliding names are settled.  It stops at
the first reference that leads nowhere; in lenient mode a missing schema is only noted.
-/

namespace ActivityForge

open Document (MediaType Method OrRef ReferenceError Schema)

/-- How a document is resolved. -/
structure Options where
  /-- The module that references to models are qualified with. -/
  modelScope : String
  /-- Whether a reference to a missing schema is an error. -/
  strict : Bool
deriving DecidableEq, Repr, Inhabited

/-- A computation that may stop at a bad reference. -/
abbrev Resolving := Logged ReferenceError

namespace Blueprint

open Logged (note ofExcept)

/-- Checks the references inside a schema.  In lenient mode the first bad reference, if it names
a missing schema, is only noted, and what follows it is not looked at. -/
def checkRefs (d : Document) (o : Options) (schema : Schema) : Resolving Unit :=
  match Document.checkSchema d schema with
  | .ok () => pure ()
  | .error e =>
    match e.missing? with
    | some target =>
      if o.strict then ofExcept (.error e)
      else note (warn ("dangling schema reference " ++ target ++ ", emitting it by name"))
    | none => ofExcept (.error e)

def checkOptionalRefs (d : Document) (o : Options) : Option Schema → Resolving Unit
  | none => pure ()
  | some schema => checkRefs d o schema

/-- The type of a schema that may be absent, with what is noted about it. -/
def typeOf (o : Options) (schema : Option Schema) : Resolving DataType := do
  note (Document.optionalNotes schema)
  pure (DataType.ofOptional o.modelScope schema)

/-! ## Models -/

/-- The description of an inline schema. -/
def propertyDescription : Schema → Option String
  | .ref _ => none
  | .inline body => body.description

/-- The field of a property. -/
def fieldOf (o : Options) (required : List String) (property : String × Schema) :
    Resolving Model.Field := do
  let (name, schema) := property
  let type ← typeOf o (some schema)
  let isRequired := required.contains name
  pure {
    originalName := name
    fieldName := Name.fieldText name
    type := if isRequired then type else type.optional
    required := isRequired
    description := propertyDescription schema }

/-- The model of a component schema; a reference is an alias without fields. -/
def modelOf (o : Options) (key : String) : Schema → Resolving Model
  | .ref _ => pure ⟨Name.ofText key, none, []⟩
  | .inline body => do
    let fields ← body.properties.mapM (fieldOf o body.required)
    pure ⟨Name.ofText key, body.description, fields⟩

def resolveModel (d : Document) (o : Options) (component : String × Schema) : Resolving Model := do
  checkRefs d o component.2
  let model ← modelOf o component.1 component.2
  note (debug ("model " ++ model.name.original ++ " with " ++ toString model.fields.length
    ++ " fields"))
  pure model

/-! ## Activities -/

def resolveParameter (d : Document) (o : Options) (p : OrRef Document.Parameter) :
    Resolving Activity.Parameter := do
  let parameter ← ofExcept (Document.resolveParameter d p)
  checkOptionalRefs d o parameter.schema
  let type ← typeOf o parameter.schema
  pure {
    originalName := parameter.name
    fieldName := Name.fieldText parameter.name
    place := parameter.place
    type := if parameter.required then type else type.optional
    required := parameter.required
    description := parameter.description }

/-- Whether two parameters are the same on the wire. -/
def sameParameter (p q : Activity.Parameter) : Bool :=
  p.originalName = q.originalName && p.place = q.place

/-- Puts a parameter in the place of the first that is the same, or else at the end. -/
def mergeParameter : List Activity.Parameter → Activity.Parameter → List Activity.Parameter
  | [], p => [p]
  | q :: rest, p => if sameParameter q p then p :: rest else q :: mergeParameter rest p

/-- The parameters of a path, overridden and extended by those of an operation. -/
def mergeParameters (ofPath ofOperation : List Activity.Parameter) : List Activity.Parameter :=
  ofOperation.foldl mergeParameter ofPath

def resolvePayload (d : Document) (o : Options) (entry : String × MediaType) :
    Resolving (String × Activity.Payload) := do
  let (contentType, media) := entry
  checkOptionalRefs d o media.schema
  let type ← typeOf o media.schema
  let schemaRef := match media.schema with
    | some (.ref target) => some target
    | _ => none
  pure (contentType, ⟨contentType, type, schemaRef⟩)

def resolveBody (d : Document) (o : Options) (b : OrRef Document.RequestBody) :
    Resolving Activity.Body := do
  let body ← ofExcept (Document.resolveRequestBody d b)
  let content ← body.content.mapM (resolvePayload d o)
  pure ⟨body.description, body.required, content⟩

/-- The response that counts: the first with a status of success, else the first. -/
def selectResponse? (op : Document.Operation) : Option (String × OrRef Document.Response) :=
  (op.responses.find? fun (code, _) => code.toList.head? = some '2').or op.responses.head?

/-- The response of an operation that declares none. -/
def plainResponse : Activity.Response := ⟨"200", some "Success", []⟩

def resolveResponse (d : Document) (o : Options) (op : Document.Operation) :
    Resolving Activity.Response :=
  match selectResponse? op with
  | none => pure plainResponse
  | some (code, r) => do
    let response ← ofExcept (Document.resolveResponse d r)
    let content ← response.content.mapM (resolvePayload d o)
    let description := if response.description.isEmpty then none else some response.description
    pure ⟨code, description, content⟩

/-- The identifier of an operation: its own unless it is blank, or else one made from its method
and path. -/
def operationName (method : Method) (path : String) (op : Document.Operation) : String :=
  match op.operationId with
  | some id =>
    if Text.isAllBlank id.toList then Name.ofMethodAndPath method.text path else id
  | none => Name.ofMethodAndPath method.text path

def activityNote (a : Activity) : Log :=
  debug ("operation " ++ a.name.original ++ " (" ++ a.method.text ++ " " ++ a.path ++ "): "
    ++ toString a.parameters.length ++ " parameters, body: " ++ toString a.body.isSome
    ++ ", request object: " ++ toString a.usesRequest)

/-- The activity of an operation, before colliding names are settled. -/
def resolveActivity (d : Document) (o : Options) (path : String)
    (ofPath : List Activity.Parameter) (entry : Method × Document.Operation) :
    Resolving Activity := do
  let (method, op) := entry
  let own ← op.parameters.mapM (resolveParameter d o)
  let body ← match op.requestBody with
    | some b => do
      let body ← resolveBody d o b
      pure (some body)
    | none => pure none
  let response ← resolveResponse d o op
  let activity : Activity := {
    name := Name.ofText (operationName method path op)
    method := method
    path := path
    summary := op.summary
    description := op.description
    tags := op.tags
    parameters := mergeParameters ofPath own
    body := body
    response := response
    idempotent := method.isIdempotent
    retryPolicy := .ofIdempotency method.isIdempotent
    deprecated := op.deprecated.getD false }
  note (activityNote activity)
  pure activity

/-- The activities of a path. -/
def resolvePath (d : Document) (o : Options) (entry : String × Document.PathItem) :
    Resolving (List Activity) := do
  let (path, item) := entry
  let ofPath ← item.parameters.mapM (resolveParameter d o)
  item.operations.mapM (resolveActivity d o path ofPath)

/-- The activities of all paths, before colliding names are settled. -/
def resolveActivities (d : Document) (o : Options) : Resolving (List Activity) := do
  let perPath ← d.paths.mapM (resolvePath d o)
  pure perPath.flatten

def ofDocument (d : Document) (o : Options) : Resolving Blueprint := do
  let models ← d.schemas.mapM (resolveModel d o)
  let activities ← resolveActivities d o
  note (Activity.settleNotes [] activities)
  pure ⟨d.info, Activity.settleNames [] activities, models⟩

end Blueprint

end ActivityForge
