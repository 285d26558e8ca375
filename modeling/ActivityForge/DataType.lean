/-!
# Data types

The types that parameters, bodies, results and model fields of generated code may have.
-/

namespace ActivityForge

inductive DataType
  | string
  | int32
  | int64
  | float
  | double
  | boolean
  /-- A calendar date without a time zone. -/
  | date
  /-- A point in time with an offset. -/
  | dateTime
  | bytes
  | uuid
  /-- A value about which nothing is known. -/
  | any
  | array (item : DataType)
  /-- A map from texts to values. -/
  | map (value : DataType)
  /-- A model, by the module path it lives in and its name. -/
  | ref (scope name : String)
  /-- A value that may be absent. -/
  | nullable (inner : DataType)
deriving DecidableEq, Repr, Inhabited

namespace DataType

def isNullable : DataType → Bool
  | nullable _ => true
  | _ => false

/-- `name` inside the module `scope`; an empty scope is left out. -/
def qualify (scope name : String) : String := if scope.isEmpty then name else scope ++ "::" ++ name

/-- The full name of a reference. -/
def qualifiedName? : DataType → Option String
  | ref scope name => some (qualify scope name)
  | _ => none

/-- The type of a value that may be left out: nullable, once. -/
def optional (t : DataType) : DataType := if t.isNullable then t else nullable t

/-- The type of the items of an array. -/
def item? : DataType → Option DataType
  | array item => some item
  | _ => none

end DataType

end ActivityForge
