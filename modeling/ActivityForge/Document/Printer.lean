import ActivityForge.Document.Basic

/-!
# Documents as JSON

A document and its parts as JSON values, with the members in a fixed order.  Members that are
absent are left out, and so are empty lists and maps except the content of a request body.
-/

namespace ActivityForge.Document

open Json (Value)

/-- A member that is left out when absent. -/
def member? {α : Type} (key : String) (write : α → Value) : Option α → List (String × Value)
  | some a => [(key, write a)]
  | none => []

/-- A list that is left out when empty. -/
def listMember {α : Type} (key : String) (write : α → Value) : List α → List (String × Value)
  | [] => []
  | items => [(key, .list (items.map write))]

/-- A map as an object. -/
def writeDict {α : Type} (write : α → Value) (d : Dict α) : Value :=
  .object (d.map fun (key, a) => (key, write a))

/-- A map that is left out when empty. -/
def dictMember {α : Type} (key : String) (write : α → Value) : Dict α → List (String × Value)
  | [] => []
  | d => [(key, writeDict write d)]

def writeRef (target : String) : Value := .object [("$ref", .text target)]

def OrRef.write {α : Type} (write : α → Value) : OrRef α → Value
  | .ref target => writeRef target
  | .inline a => write a

def TypeSet.write : TypeSet → Value
  | .single name => .text name
  | .several names => .list (names.map .text)

mutual

def Schema.write : Schema → Value
  | .ref target => writeRef target
  | .inline { type?, format, description, nullable, properties, required, additional, items } =>
    .object
      (member? "type" TypeSet.write type?
        ++ member? "format" .text format
        ++ member? "description" .text description
        ++ member? "nullable" .bool nullable
        ++ (if properties.isEmpty then [] else [("properties", .object (writeProperties properties))])
        ++ listMember "required" .text required
        ++ writeAdditional additional
        ++ writeItems items)

def writeProperties : List (String × Schema) → List (String × Value)
  | [] => []
  | (key, schema) :: rest => (key, schema.write) :: writeProperties rest

def writeAdditional : Option (Additional Schema) → List (String × Value)
  | none => []
  | some (.allowed b) => [("additionalProperties", .bool b)]
  | some (.values schema) => [("additionalProperties", schema.write)]

def writeItems : Option Schema → List (String × Value)
  | none => []
  | some schema => [("items", schema.write)]

end

def Parameter.write (p : Parameter) : Value :=
  .object
    ([("name", .text p.name), ("in", .text p.place.text)]
      ++ member? "description" .text p.description
      ++ [("required", .bool p.required)]
      ++ member? "schema" Schema.write p.schema)

def MediaType.write (m : MediaType) : Value :=
  .object (member? "schema" Schema.write m.schema ++ member? "example" id m.example?)

def RequestBody.write (b : RequestBody) : Value :=
  .object
    (member? "description" .text b.description
      ++ [("content", writeDict MediaType.write b.content), ("required", .bool b.required)])

def Response.write (r : Response) : Value :=
  .object (("description", .text r.description) :: dictMember "content" MediaType.write r.content)

def Operation.write (op : Operation) : Value :=
  .object
    (member? "operationId" .text op.operationId
      ++ member? "summary" .text op.summary
      ++ member? "description" .text op.description
      ++ listMember "tags" .text op.tags
      ++ listMember "parameters" (OrRef.write Parameter.write) op.parameters
      ++ member? "requestBody" (OrRef.write RequestBody.write) op.requestBody
      ++ dictMember "responses" (OrRef.write Response.write) op.responses
      ++ member? "deprecated" .bool op.deprecated)

def PathItem.write (item : PathItem) : Value :=
  .object
    (listMember "parameters" (OrRef.write Parameter.write) item.parameters
      ++ member? "get" Operation.write item.get
      ++ member? "post" Operation.write item.post
      ++ member? "put" Operation.write item.put
      ++ member? "delete" Operation.write item.delete
      ++ member? "patch" Operation.write item.patch)

def Components.write (c : Components) : Value :=
  .object
    (dictMember "schemas" Schema.write c.schemas
      ++ dictMember "responses" (OrRef.write Response.write) c.responses
      ++ dictMember "parameters" (OrRef.write Parameter.write) c.parameters
      ++ dictMember "requestBodies" (OrRef.write RequestBody.write) c.requestBodies)

def Info.write (i : Info) : Value :=
  .object
    (("title", .text i.title) :: member? "description" .text i.description
      ++ [("version", .text i.version)])

/-- A document as a JSON value. -/
def write (d : Document) : Value :=
  .object
    ([("openapi", .text d.format), ("info", d.info.write)]
      ++ dictMember "paths" PathItem.write d.paths
      ++ member? "components" Components.write d.components)

end ActivityForge.Document
