import ActivityForge.Source.Contract

/-!
# Model files

The file of a model with fields: a struct with private fields, a constructor that takes them all,
and a getter and a setter for each.
-/

namespace ActivityForge.Source

structure StructField where
  docs : List String
  binder : Binder
  /-- The literal of the name on the wire. -/
  rename : String
  /-- Whether the field is left out on the wire when it has no value. -/
  optional : Bool
  setter : String
deriving DecidableEq, Repr, Inhabited

structure ModelFile where
  header : String
  name : String
  docs : List String
  fields : List StructField
deriving DecidableEq, Repr, Inhabited

/-- The name of a setter: an underscore at the start of the field's name is not repeated. -/
def setterName (field : String) : String :=
  "set_" ++ String.ofList (field.toList.dropWhile (· = '_'))

def StructField.ofField (model : String) (f : Model.Field) : StructField where
  docs := docLines? f.description
  binder := ⟨identifier f.fieldName, f.type.fieldText model⟩
  rename := Text.literal f.originalName
  optional := f.type.isOptionalField model
  setter := setterName (memberName f.fieldName)

def ModelFile.ofModel (info : Document.Info) (m : Model) : ModelFile where
  header := headerLine info
  name := m.name.pascal
  docs := docLines? m.description
  fields := m.fields.map (StructField.ofField m.name.pascal)

/-- The module of a model. -/
def modelModule (m : Model) : String := memberName m.name.pascal

/-! ## Text -/

/-- How the field is written on the wire. -/
def StructField.wireText (f : StructField) : String :=
  "#[serde(rename = " ++ f.rename
    ++ (if f.optional then ", default, skip_serializing_if = \"Option::is_none\"" else "") ++ ")]"

def StructField.lines (f : StructField) : Lines :=
  comment "///" f.docs ++ [f.wireText, f.binder.text ++ ","]

def StructField.getterLines (f : StructField) : Lines :=
  block ("pub fn " ++ f.binder.name ++ "(&self) -> &" ++ f.binder.type)
    ["&self." ++ f.binder.name] ""

def StructField.setterLines (f : StructField) : Lines :=
  block ("pub fn " ++ f.setter ++ "(&mut self, " ++ f.binder.text ++ ")")
    ["self." ++ f.binder.name ++ " = " ++ f.binder.name ++ ";"] ""

def ModelFile.lines (m : ModelFile) : Lines :=
  ["//! " ++ m.header,
   "",
   "use serde::\x7bDeserialize, Serialize\x7d;",
   ""]
  ++ comment "///" m.docs
  ++ ["#[derive(Debug, Clone, Default, PartialEq, Serialize, Deserialize)]"]
  ++ block ("pub struct " ++ m.name) (m.fields.flatMap StructField.lines) ""
  ++ [""]
  ++ block ("impl " ++ m.name)
    (["/// Build a fully populated \x60" ++ m.name ++ "\x60.",
      "#[allow(clippy::too_many_arguments)]"]
      ++ block ("pub fn new(" ++ ", ".intercalate (m.fields.map (·.binder.text)) ++ ") -> Self")
        (block "Self" (m.fields.map fun f => f.binder.name ++ ",") "") ""
      ++ m.fields.flatMap fun f => spaced [f.getterLines, f.setterLines]) ""

end ActivityForge.Source
