import ActivityForge.DataType

/-!
# Data types in generated source

The text of a data type in the generated code, and its text as the type of a model field, where a
direct reference of a model to itself is boxed.
-/

namespace ActivityForge.DataType

/-- The type in generated code. -/
def text : DataType → String
  | string => "String"
  | int32 => "i32"
  | int64 => "i64"
  | float => "f32"
  | double => "f64"
  | boolean => "bool"
  | date => "chrono::NaiveDate"
  | dateTime => "chrono::DateTime<chrono::FixedOffset>"
  | bytes => "Vec<u8>"
  | uuid => "uuid::Uuid"
  | any => "serde_json::Value"
  | array item => "Vec<" ++ item.text ++ ">"
  | map value => "std::collections::HashMap<String, " ++ value.text ++ ">"
  | ref scope name => qualify scope name
  | nullable inner => "Option<" ++ inner.text ++ ">"

/-- Whether the type is a reference to the model `enclosing`. -/
def refersTo (enclosing : String) : DataType → Bool
  | ref _ name => name = enclosing
  | _ => false

/-- The type of a field of the model `enclosing`.  A direct reference to the model itself is
optional and boxed: unboxed, the model would contain itself, and if required no value of it could
be built. -/
def fieldText (enclosing : String) (t : DataType) : String :=
  let direct := match t with
    | nullable inner => if inner.refersTo enclosing then inner else t
    | _ => t
  if direct.refersTo enclosing then "Option<Box<" ++ direct.text ++ ">>" else t.text

/-- Whether a field of the model `enclosing` is written as an `Option`. -/
def isOptionalField (enclosing : String) (t : DataType) : Bool :=
  t.isNullable || t.refersTo enclosing

end ActivityForge.DataType
