import ActivityForge.DataType
import ActivityForge.Document.Basic
import ActivityForge.Log
import ActivityForge.Name

/-!
# Data types of schemas

`DataType.ofSchema` gives the type of the values that a schema describes.  References become
references to models by name and are not followed, so every schema has a finite type.
`schemaNotes` are the log entries about schemas whose type is not known.
-/

namespace ActivityForge

open Document (Additional Schema SchemaBody)

namespace DataType

/-- The part of a text behind its last slash. -/
def lastSegment (cs : List Char) : List Char := (cs.reverse.takeWhile (· ≠ '/')).reverse

/-- The model that a reference names, in the module `scope`. -/
def ofReference (scope target : String) : DataType :=
  .ref scope (Name.ofText (String.ofList (lastSegment target.toList))).pascal

/-- The type of a plain schema with a type name, if both name and format are known together. -/
def ofFormat? : String → String → Option DataType
  | "integer", "int32" => some .int32
  | "integer", "int64" => some .int64
  | "number", "float" => some .float
  | "number", "double" => some .double
  | "string", "date" => some .date
  | "string", "date-time" => some .dateTime
  | "string", "byte" => some .bytes
  | "string", "binary" => some .bytes
  | "string", "uuid" => some .uuid
  | _, _ => none

/-- The type of a plain schema by its type name alone. -/
def ofTypeName? : String → Option DataType
  | "string" => some .string
  | "integer" => some .int32
  | "number" => some .double
  | "boolean" => some .boolean
  | _ => none

/-- The type of a schema that is neither an array nor a map. -/
def ofPlain {σ : Type} (s : SchemaBody σ) : DataType :=
  match s.primary? with
  | none => .any
  | some name => ((s.format.bind (ofFormat? name)).or (ofTypeName? name)).getD .any

mutual

/-- The type of the values of a schema; an inline schema that allows `null` is nullable. -/
def ofSchema (scope : String) : Schema → DataType
  | .ref target => ofReference scope target
  | .inline body =>
    if body.isNullable then .nullable (ofBody scope body) else ofBody scope body

/-- The type of an inline schema, apart from `null`: an array, else a map if further values are
described or everything is allowed, else plain. -/
def ofBody (scope : String) : SchemaBody Schema → DataType
  | ⟨type?, format, description, allowsNull, properties, required, additional, items⟩ =>
    let body : SchemaBody Schema :=
      ⟨type?, format, description, allowsNull, properties, required, additional, items⟩
    if body.isArray then .array (ofOptional scope items)
    else
      match ofAdditional? scope properties.isEmpty additional with
      | some value => .map value
      | none => ofPlain body

/-- The type of a schema that may be absent. -/
def ofOptional (scope : String) : Option Schema → DataType
  | none => .any
  | some schema => ofSchema scope schema

/-- The type of the further values that make a schema a map; `noProperties` if it has none. -/
def ofAdditional? (scope : String) (noProperties : Bool) :
    Option (Additional Schema) → Option DataType
  | some (.values schema) => some (ofSchema scope schema)
  | some (.allowed b) => if b && noProperties then some .any else none
  | none => none

end

/-- The type of a parameter or property, nullable unless it is required. -/
def ofField (scope : String) (schema : Option Schema) (required : Bool) : DataType :=
  if required then ofOptional scope schema else (ofOptional scope schema).optional

end DataType

namespace Document

/-- What is noted about a plain schema. -/
def plainNotes {σ : Type} (s : SchemaBody σ) : Log :=
  match s.primary? with
  | none => debug "schema without a type maps to an untyped value"
  | some name =>
    if ((s.format.bind (DataType.ofFormat? name)).or (DataType.ofTypeName? name)).isSome then []
    else debug ("unrecognised schema type \x60" ++ name ++ "\x60 maps to an untyped value")

mutual

/-- What is noted while a schema is given its type. -/
def schemaNotes : Schema → Log
  | .ref _ => []
  | .inline ⟨type?, format, description, allowsNull, properties, required, additional, items⟩ =>
    let body : SchemaBody Schema :=
      ⟨type?, format, description, allowsNull, properties, required, additional, items⟩
    if body.isArray then optionalNotes items
    else (additionalNotes? properties.isEmpty additional).getD (plainNotes body)

def optionalNotes : Option Schema → Log
  | none => []
  | some schema => schemaNotes schema

def additionalNotes? (noProperties : Bool) : Option (Additional Schema) → Option Log
  | some (.values schema) => some (schemaNotes schema)
  | some (.allowed b) => if b && noProperties then some [] else none
  | none => none

end

end Document

end ActivityForge
