import ActivityForge.Dict
import ActivityForge.Json.Value

/-!
# API documents

The part of an API description that activities and models are made from.  Maps keep the order of
the document.  Parameters, request bodies, responses and schemas are given inline or by a
reference to a component.
-/

namespace ActivityForge

namespace Document

/-- What the API is called. -/
structure Info where
  title : String
  description : Option String
  version : String
deriving DecidableEq, Repr, Inhabited

/-! ## Schemas -/

/-- The type of a schema: one name or a list of names. -/
inductive TypeSet
  | single (name : String)
  | several (names : List String)
deriving DecidableEq, Repr

/-- The effective type name: the first that is not `null`, or else the first. -/
def TypeSet.primary? : TypeSet → Option String
  | single name => some name
  | several names => (names.find? (· ≠ "null")).or names.head?

/-- What values a schema allows beyond its properties. -/
inductive Additional (σ : Type)
  | allowed (b : Bool)
  | values (schema : σ)

/-- An inline schema over inner schemas of type `σ`. -/
structure SchemaBody (σ : Type) where
  type? : Option TypeSet
  format : Option String
  description : Option String
  nullable : Option Bool
  properties : List (String × σ)
  required : List String
  additional : Option (Additional σ)
  items : Option σ

/-- A schema, inline or by reference. -/
inductive Schema
  | ref (target : String)
  | inline (body : SchemaBody Schema)

instance : Inhabited Schema := ⟨.ref ""⟩

namespace SchemaBody

variable {σ : Type}

def primary? (s : SchemaBody σ) : Option String := s.type?.bind TypeSet.primary?

/-- Whether `null` is allowed, by the flag or as a member of the type list. -/
def isNullable (s : SchemaBody σ) : Bool :=
  s.nullable = some true ||
    match s.type? with
    | some (.several names) => names.contains "null"
    | _ => false

/-- Whether the schema is an array, by its type or, without one, because it has items. -/
def isArray (s : SchemaBody σ) : Bool :=
  match s.primary? with
  | some name => name = "array"
  | none => s.items.isSome

end SchemaBody

/-! ## Operations -/

/-- Where a parameter is sent. -/
inductive Place
  | query
  | header
  | path
  | cookie
deriving DecidableEq, Repr, Inhabited

namespace Place

def all : List Place := [query, header, path, cookie]

def text : Place → String
  | query => "query"
  | header => "header"
  | path => "path"
  | cookie => "cookie"

end Place

/-- A value given inline or by a reference to a component. -/
inductive OrRef (α : Type)
  | ref (target : String)
  | inline (value : α)

structure Parameter where
  name : String
  place : Place
  description : Option String
  required : Bool
  schema : Option Schema

structure MediaType where
  schema : Option Schema
  example? : Option Json.Value

structure RequestBody where
  description : Option String
  content : Dict MediaType
  required : Bool

structure Response where
  description : String
  content : Dict MediaType

structure Operation where
  operationId : Option String
  summary : Option String
  description : Option String
  tags : List String
  parameters : List (OrRef Parameter)
  requestBody : Option (OrRef RequestBody)
  responses : Dict (OrRef Response)
  deprecated : Option Bool

/-- The methods of operations that become activities, in the order in which they do. -/
inductive Method
  | get
  | post
  | put
  | delete
  | patch
deriving DecidableEq, Repr, Inhabited

namespace Method

def all : List Method := [get, post, put, delete, patch]

def text : Method → String
  | get => "GET"
  | post => "POST"
  | put => "PUT"
  | delete => "DELETE"
  | patch => "PATCH"

/-- Whether repeating a request has no further effect. -/
def isIdempotent : Method → Bool
  | get | put | delete => true
  | post | patch => false

end Method

/-- The operations of one path. -/
structure PathItem where
  parameters : List (OrRef Parameter)
  get : Option Operation
  post : Option Operation
  put : Option Operation
  delete : Option Operation
  patch : Option Operation

namespace PathItem

def operation? (item : PathItem) : Method → Option Operation
  | .get => item.get
  | .post => item.post
  | .put => item.put
  | .delete => item.delete
  | .patch => item.patch

/-- The operations that are there, in the order of the methods. -/
def operations (item : PathItem) : List (Method × Operation) :=
  Method.all.filterMap fun m => (item.operation? m).map fun op => (m, op)

end PathItem

/-- The definitions that references may point to, by section. -/
structure Components where
  schemas : Dict Schema
  responses : Dict (OrRef Response)
  parameters : Dict (OrRef Parameter)
  requestBodies : Dict (OrRef RequestBody)

end Document

open Document in
structure Document where
  /-- The version of the description format. -/
  format : String
  info : Info
  paths : Dict PathItem
  components : Option Components

namespace Document

/-- The component schemas in declared order. -/
def schemas (d : Document) : Dict Schema :=
  match d.components with
  | some c => c.schemas
  | none => []

end Document

end ActivityForge
