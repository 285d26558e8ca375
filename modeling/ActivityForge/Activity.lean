import ActivityForge.DataType
import ActivityForge.Document.Basic
import ActivityForge.Name
import ActivityForge.RetryPolicy

/-!
# Activities

An activity is an operation of the API, resolved: its parameters, body and response have data
types, and it has a name and a retry policy.  `Activity.arguments` lists what a caller passes;
with `usesRequest` it is passed as one request object.
-/

namespace ActivityForge

open Document (Method Place)

namespace Activity

structure Parameter where
  /-- The name in the document and on the wire. -/
  originalName : String
  /-- The camel case form of the name. -/
  fieldName : String
  place : Place
  /-- The type, nullable unless the parameter is required. -/
  type : DataType
  required : Bool
  description : Option String
deriving DecidableEq, Repr, Inhabited

/-- A content type with the type of its values. -/
structure Payload where
  contentType : String
  type : DataType
  /-- The reference that describes the values, if they are described by one. -/
  schemaRef : Option String
deriving DecidableEq, Repr, Inhabited

structure Body where
  description : Option String
  required : Bool
  content : Dict Payload
deriving DecidableEq, Repr, Inhabited

structure Response where
  statusCode : String
  description : Option String
  content : Dict Payload
deriving DecidableEq, Repr, Inhabited

/-- The payload that an activity works with: JSON if there is any, else the first. -/
def primary? (content : Dict Payload) : Option Payload :=
  (content.get? "application/json").or (content.head?.map Prod.snd)

/-- Where an argument is sent. -/
inductive Target
  | parameter (place : Place)
  | body
deriving DecidableEq, Repr

def Target.text : Target → String
  | parameter place => place.text
  | body => "body"

structure Argument where
  fieldName : String
  originalName : String
  type : DataType
  target : Target
  description : Option String
deriving DecidableEq, Repr

def Parameter.argument (p : Parameter) : Argument :=
  ⟨p.fieldName, p.originalName, p.type, .parameter p.place, p.description⟩

/-- The name of the argument that carries the body. -/
def bodyName : String := "body"

/-- Arguments are passed as one request object if there are more than three parameters, or any
beside a body. -/
def needsRequest (parameters : Nat) (hasBody : Bool) : Bool :=
  parameters > 3 || (parameters > 0 && hasBody)

end Activity

structure Activity where
  name : Name
  method : Method
  path : String
  summary : Option String
  description : Option String
  tags : List String
  parameters : List Activity.Parameter
  body : Option Activity.Body
  response : Activity.Response
  idempotent : Bool
  retryPolicy : RetryPolicy
  deprecated : Bool
deriving DecidableEq, Repr, Inhabited

namespace Activity

def usesRequest (a : Activity) : Bool := needsRequest a.parameters.length a.body.isSome

/-- The name of the request object. -/
def requestName (a : Activity) : String := a.name.pascal ++ "Request"

/-- The type of the body argument, if the body has any content. -/
def bodyType? (a : Activity) : Option DataType :=
  (a.body.bind fun b => primary? b.content).map Payload.type

/-- The type of the result, if there is one. -/
def resultType? (a : Activity) : Option DataType := (primary? a.response.content).map Payload.type

/-- The group of client functions that the activity calls into: its first tag. -/
def clientGroup (a : Activity) : String := a.tags.head?.getD "Default"

/-- The argument that carries the body, if there is one. -/
def bodyArgument? (a : Activity) : Option Argument :=
  a.bodyType?.map fun type => ⟨bodyName, bodyName, type, .body, a.body.bind Body.description⟩

/-- What a caller passes: the parameters in order, then the body. -/
def arguments (a : Activity) : List Argument :=
  a.parameters.map Parameter.argument ++ a.bodyArgument?.toList

end Activity

end ActivityForge
