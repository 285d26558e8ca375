import ActivityForge.Activity

/-!
# Blueprints

What is to be generated: the activities in the order of paths and methods, and the models in the
order of the component schemas.
-/

namespace ActivityForge

namespace Model

structure Field where
  /-- The name of the property in the document and on the wire. -/
  originalName : String
  /-- The camel case form of the name. -/
  fieldName : String
  /-- The type, nullable unless the property is required. -/
  type : DataType
  required : Bool
  description : Option String
deriving DecidableEq, Repr, Inhabited

end Model

/-- A component schema as a data model; without fields it is an alias or an enumeration. -/
structure Model where
  name : Name
  description : Option String
  fields : List Model.Field
deriving DecidableEq, Repr, Inhabited

structure Blueprint where
  info : Document.Info
  activities : List Activity
  models : List Model
deriving DecidableEq, Repr, Inhabited

end ActivityForge
