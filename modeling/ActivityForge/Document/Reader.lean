import ActivityForge.Document.Basic
import ActivityForge.Json.Reader
import ActivityForge.Path
import ActivityForge.Reading.Shape
import ActivityForge.Yaml.Reader

/-!
# Reading documents

The shapes of a document and its parts.  The outer records are read member by member; schemas,
parameters, request bodies and responses are kept whole and then matched, first as a reference
and then inline, so that anything wrong inside them is one fault.
-/

namespace ActivityForge.Document

open Reading

/-! ## Values that are kept whole -/

/-- The record of a reference. -/
def refFields : Fields String := Fields.make id |>.required "$ref" .text

/-- A reference, or else an inline value. -/
def orRef? {α : Type} (inline? : Content → Option α) (c : Content) : Option (OrRef α) :=
  ((refFields.ofMap? c).map OrRef.ref).or ((inline? c).map OrRef.inline)

def TypeSet.ofContent? (c : Content) : Option TypeSet :=
  (c.text?.map TypeSet.single).or ((c.list? Content.text?).map TypeSet.several)

/-- The fields of an inline schema over inner schemas. -/
def schemaFields {σ : Type} (inner : Content → Option σ) : Fields (SchemaBody σ) :=
  Fields.make SchemaBody.mk
    |>.optional "type" (.whole TypeSet.ofContent?)
    |>.optional "format" .text
    |>.optional "description" .text
    |>.optional "nullable" .flag
    |>.defaulted "properties" (.dict (.whole inner)) []
    |>.defaulted "required" (.list .text) []
    |>.optional "additionalProperties"
      (.whole fun c => (c.flag?.map Additional.allowed).or ((inner c).map Additional.values))
    |>.optional "items" (.whole inner)

/-- The schema that a content of less than `depth` nested containers denotes. -/
def schemaWithin? : Nat → Content → Option Schema
  | 0, _ => none
  | depth + 1, c =>
    ((refFields.ofMap? c).map Schema.ref).or
      (((schemaFields (schemaWithin? depth)).value? c).map Schema.inline)

def Schema.ofContent? (c : Content) : Option Schema := schemaWithin? (c.depth + 1) c

/-- The place that a text or its number names. -/
def Place.ofName? : Content → Option Place
  | .text s => Place.all.find? (·.text = s)
  | .int n => if n < 0 then none else Place.all[n.toNat]?
  | _ => none

/-- A place is its name, or a mapping from its name to nothing. -/
def Place.ofContent? : Content → Option Place
  | .text s => Place.ofName? (.text s)
  | .map [(name, .unit)] => Place.ofName? name
  | _ => none

def parameterFields : Fields Parameter :=
  Fields.make Parameter.mk
    |>.required "name" .text
    |>.required "in" (.whole Place.ofContent?)
    |>.optional "description" .text
    |>.defaulted "required" .flag false
    |>.optional "schema" (.whole Schema.ofContent?)

/-- The members of an object in the order of their keys. -/
def sortMembers (members : Dict Json.Value) : Dict Json.Value :=
  members.mergeSort fun a b => a.1 ≤ b.1

/-- A JSON value of any kind, where less than `depth` containers are nested. -/
def exampleWithin? : Nat → Content → Option Json.Value
  | _, .unit => some .null
  | _, .bool b => some (.bool b)
  | _, .int n => some (.number (.int n))
  | _, .float x => some (if x.isFinite then .number (.float x) else .null)
  | _, .text s => some (.text s)
  | depth + 1, .list items => (items.mapM (exampleWithin? depth)).map .list
  | depth + 1, .map members =>
    (Content.dict? (exampleWithin? depth) (.map members)).map fun d => .object (sortMembers d)
  | 0, _ => none

def mediaTypeFields : Fields MediaType :=
  Fields.make MediaType.mk
    |>.optional "schema" (.whole Schema.ofContent?)
    |>.optional "example" (.whole fun c => exampleWithin? (c.depth + 1) c)

def contentMap : Shape (Dict MediaType) := .dict (.whole mediaTypeFields.value?)

def requestBodyFields : Fields RequestBody :=
  Fields.make RequestBody.mk
    |>.optional "description" .text
    |>.defaulted "content" contentMap []
    |>.defaulted "required" .flag false

def responseFields : Fields Response :=
  Fields.make Response.mk
    |>.defaulted "description" .text ""
    |>.defaulted "content" contentMap []

def Schema.shape : Shape Schema := .choice "SchemaOrRef" Schema.ofContent?

def Parameter.shape : Shape (OrRef Parameter) := .choice "ParameterOrRef" (orRef? parameterFields.value?)

def RequestBody.shape : Shape (OrRef RequestBody) :=
  .choice "RequestBodyOrRef" (orRef? requestBodyFields.value?)

def Response.shape : Shape (OrRef Response) := .choice "ResponseOrRef" (orRef? responseFields.value?)

/-! ## Records -/

def Operation.shape : Shape Operation :=
  .record "Operation" <|
    Fields.make Operation.mk
      |>.optional "operationId" .text
      |>.optional "summary" .text
      |>.optional "description" .text
      |>.defaulted "tags" (.list .text) []
      |>.defaulted "parameters" (.list Parameter.shape) []
      |>.optional "requestBody" RequestBody.shape
      |>.defaulted "responses" (.dict Response.shape) []
      |>.optional "deprecated" .flag

def PathItem.shape : Shape PathItem :=
  .record "PathItem" <|
    Fields.make PathItem.mk
      |>.defaulted "parameters" (.list Parameter.shape) []
      |>.optional "get" Operation.shape
      |>.optional "post" Operation.shape
      |>.optional "put" Operation.shape
      |>.optional "delete" Operation.shape
      |>.optional "patch" Operation.shape

def Components.shape : Shape Components :=
  .record "Components" <|
    Fields.make Components.mk
      |>.defaulted "schemas" (.dict Schema.shape) []
      |>.defaulted "responses" (.dict Response.shape) []
      |>.defaulted "parameters" (.dict Parameter.shape) []
      |>.defaulted "requestBodies" (.dict RequestBody.shape) []

def Info.shape : Shape Info :=
  .record "Info" <|
    Fields.make Info.mk
      |>.required "title" .text
      |>.optional "description" .text
      |>.required "version" .text

def shape : Shape Document :=
  .record "OpenApiSpec" <|
    Fields.make Document.mk
      |>.required "openapi" .text
      |>.required "info" Info.shape
      |>.defaulted "paths" (.dict PathItem.shape) []
      |>.optional "components" Components.shape

/-! ## Texts -/

/-- Why a text is no document. -/
inductive ReadError
  | json (fault : Fault)
  | yaml (fault : Fault)
  /-- A format version other than 3. -/
  | unsupportedVersion (version : String)
deriving DecidableEq, Repr

def ReadError.message : ReadError → String
  | .json f => "failed to parse JSON: " ++ f.text
  | .yaml f => "failed to parse YAML: " ++ f.text
  | .unsupportedVersion v => "unsupported OpenAPI version: " ++ v

/-- A document has to be of format version 3. -/
def checkVersion (d : Document) : Except ReadError Document :=
  if "3.".isPrefixOf d.format then .ok d else .error (.unsupportedVersion d.format)

def ofJson (text : String) : Except ReadError Document := do
  match shape.read (Json.source text) with
  | .ok d => checkVersion d
  | .error f => .error (.json f)

def ofYaml (text : String) : Except ReadError Document := do
  match shape.read (Yaml.source text) with
  | .ok d => checkVersion d
  | .error f => .error (.yaml f)

/-- The document in the file at a path: JSON if the path says so, else YAML. -/
def ofFile (path text : String) : Except ReadError Document :=
  if Path.isJson path then ofJson text else ofYaml text

end ActivityForge.Document
