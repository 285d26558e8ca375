import ActivityForge.Proofs.Name.Characters
import ActivityForge.Proofs.Source.Files
import ActivityForge.Proofs.Text.Literal
import ActivityForge.Source.ModelFile

/-!
# The members of a struct as they are written

`readFields` reads the fields of a struct off the lines between its braces, each with what its
attribute says, and `readFunctions` the functions off the lines of an `impl` block.  Both account
for every line: what is no comment belongs to a field or a function, or nothing is read at all.  In
the file of a model they find the fields that it was written from, a constructor, and two functions
for each field (`fieldsOf?_modelFile`, `functionsOf?_modelFile`).
-/

namespace ActivityForge.Source

open Document (cutAt? cutAt?_append dropStart? dropStart?_append)

/-! ## Fields -/

/-- A field of a struct as it is written. -/
structure WrittenField where
  name : String
  type : String
  /-- The text that the literal of the name on the wire denotes. -/
  wireName : String
  /-- Whether the field is left out on the wire when it has no value. -/
  skipped : Bool
deriving DecidableEq, Repr

/-- What an attribute says behind the name on the wire, if the field may be left out. -/
def skipText : String := ", default, skip_serializing_if = \"Option::is_none\""

/-- The name on the wire, and whether the field may be left out, by the attribute of the field. -/
def attribute? (line : String) : Option (String × Bool) := do
  let literal ← dropStart? "#[serde(rename = ".toList line.toList
  let (wireName, rest) ← Text.readLiteral? literal
  if rest = ")]".toList then some (String.ofList wireName, false)
  else if rest = (skipText ++ ")]").toList then some (String.ofList wireName, true)
  else none

/-- The name and the type of a private field: a visibility would stand in front of the name, with a
space between them. -/
def binder? (line : String) : Option Binder := do
  let (name, rest) ← cutAt? ':' line.toList
  let type ← between? " " "," (String.ofList rest)
  if ' ' ∈ name then none else some ⟨String.ofList name, type⟩

/-- The fields of a struct: each an attribute and the field itself, between comment lines. -/
def readFields : Lines → Option (List WrittenField)
  | [] => some []
  | [line] => if startsWith "///" line then some [] else none
  | line :: next :: rest =>
    if startsWith "///" line then readFields (next :: rest)
    else do
      let (wireName, skipped) ← attribute? line
      let binder ← binder? next
      let fields ← readFields rest
      pure (⟨binder.name, binder.type, wireName, skipped⟩ :: fields)

/-- The field of a model as it is written into the struct `model`. -/
def WrittenField.ofField (model : String) (f : Model.Field) : WrittenField where
  name := identifier f.fieldName
  type := f.type.fieldText model
  wireName := f.originalName
  skipped := f.type.isOptionalField model

theorem not_mem_identifier {c : Char} (hc : Name.isNameChar c = false) (hhash : c ≠ '#')
    (text : String) : c ∉ (identifier text).toList := by
  have hmember : c ∉ (memberName text).toList := Name.not_mem_memberName hc text
  unfold identifier escapeKeyword
  split
  · have hr : c ≠ 'r' := by
      rintro rfl
      exact absurd hc (by decide)
    simp [hmember, hhash, hr]
  · exact hmember

theorem readFields_cons_comment {line : String} (h : startsWith "///" line = true) (rest : Lines) :
    readFields (line :: rest) = readFields rest := by
  cases rest with
  | nil => simp [readFields, h]
  | cons next rest => rw [readFields, if_pos h]

theorem readFields_comment (docs : List String) (rest : Lines) :
    readFields (comment "///" docs ++ rest) = readFields rest := by
  induction docs with
  | nil => rfl
  | cons text docs ih =>
    have hmark : startsWith "///" ("///" ++ text) = true := startsWith_append _ _
    show readFields (("///" ++ text) :: (comment "///" docs ++ rest)) = readFields rest
    rw [readFields_cons_comment hmark, ih]

theorem wireText_eq (f : StructField) : f.wireText =
    "#[serde(rename = " ++ (f.rename ++ ((if f.optional then skipText else "") ++ ")]")) := by
  unfold StructField.wireText
  rw [String.append_assoc, String.append_assoc]
  rfl

theorem attribute?_wireText (model : String) (f : Model.Field) :
    attribute? (StructField.ofField model f).wireText =
      some (f.originalName, f.type.isOptionalField model) := by
  have hline : (StructField.ofField model f).wireText.toList =
      "#[serde(rename = ".toList ++ (Text.literalChars f.originalName.toList ++
        ((if f.type.isOptionalField model then skipText else "") ++ ")]").toList) := by
    have hliteral : (StructField.ofField model f).rename.toList =
        Text.literalChars f.originalName.toList := String.toList_ofList ..
    rw [wireText_eq, String.toList_append, String.toList_append, hliteral]
    rfl
  rw [attribute?, hline, dropStart?_append]
  simp only [Option.bind_eq_bind, Option.bind_some, Text.readLiteral?_literalChars,
    String.ofList_toList]
  cases f.type.isOptionalField model with
  | false => rw [if_pos (by simp)]
  | true =>
    have hne : (skipText ++ ")]").toList ≠ ")]".toList := by decide
    rw [if_pos rfl, if_neg hne, if_pos rfl]

theorem binder?_text {name : String} (hcolon : ':' ∉ name.toList) (hspace : ' ' ∉ name.toList)
    (type : String) : binder? ((Binder.mk name type).text ++ ",") = some ⟨name, type⟩ := by
  have hline : ((Binder.mk name type).text ++ ",").toList =
      name.toList ++ ':' :: (" " ++ type ++ ",").toList := by
    simp [Binder.text]
  rw [binder?, hline, cutAt?_append hcolon]
  simp only [Option.bind_eq_bind, Option.bind_some, String.ofList_toList, between?_append,
    if_neg hspace]

theorem StructField.ofField_binder (model : String) (f : Model.Field) :
    (StructField.ofField model f).binder = ⟨identifier f.fieldName, f.type.fieldText model⟩ := rfl

theorem readFields_structLines (model : String) (fields : List Model.Field) :
    readFields ((fields.map (StructField.ofField model)).flatMap StructField.lines) =
      some (fields.map (WrittenField.ofField model)) := by
  induction fields with
  | nil => rfl
  | cons f fields ih =>
    have hattribute := attribute?_wireText model f
    have hcolon : ':' ∉ (identifier f.fieldName).toList :=
      not_mem_identifier (by decide) (by decide) _
    have hspace : ' ' ∉ (identifier f.fieldName).toList :=
      not_mem_identifier (by decide) (by decide) _
    have hbinder := binder?_text hcolon hspace (f.type.fieldText model)
    have hplain : startsWith "///" (StructField.ofField model f).wireText = false := by
      rw [wireText_eq]
      exact startsWith_eq_false (by decide) (by simp)
    rw [List.map_cons, List.flatMap_cons, StructField.lines, List.append_assoc,
      readFields_comment, List.cons_append, List.cons_append, List.nil_append, readFields, hplain,
      if_neg Bool.false_ne_true, hattribute, StructField.ofField_binder, hbinder, ih]
    simp only [Option.bind_eq_bind, Option.bind_some, Option.pure_def, WrittenField.ofField,
      List.map_cons]

/-! ## Functions -/

/-- A function as it is written. -/
structure WrittenFunction where
  /-- What stands between `pub fn` and the brace. -/
  signature : String
  body : Lines
deriving DecidableEq, Repr

/-- A line of an `impl` block that begins no function. -/
def isFunctionRest (line : String) : Bool :=
  isInner line || line = "\x7d" || startsWith "///" line || startsWith "#[" line

def WrittenFunction.read? (line : String) (rest : Lines) : Option WrittenFunction :=
  (between? "pub fn " " \x7b" line).map fun signature => ⟨signature, inside rest⟩

/-- The functions of an `impl` block. -/
def readFunctions : Lines → Option (List WrittenFunction) :=
  readAll? isFunctionRest WrittenFunction.read?

theorem readFunctions_append {part : Lines} (h : ∀ line ∈ part, isFunctionRest line = true)
    (rest : Lines) : readFunctions (part ++ rest) = readFunctions rest :=
  readAll?_append h rest

theorem readFunctions_block (signature : String) (body rest : Lines) :
    readFunctions (block ("pub fn " ++ signature) body "" ++ rest) =
      (readFunctions rest).map (⟨signature, body⟩ :: ·) := by
  have hhead : isFunctionRest ("pub fn " ++ signature ++ " \x7b") = false := by
    have houter : Outer ("pub fn " ++ signature ++ " \x7b") :=
      (Outer.append (by decide) _).append _
    have hstart (start : String) (hne : start ≠ "") (h : start.toList.head? ≠ some 'p') :
        startsWith start ("pub fn " ++ signature ++ " \x7b") = false :=
      startsWith_eq_false hne (by simpa using h.symm)
    have hclose : "pub fn " ++ signature ++ " \x7b" ≠ "\x7d" := by
      intro h
      have hfirst := congrArg (fun s : String => s.toList.head?) h
      simp at hfirst
    simp [isFunctionRest, houter.isInner_eq_false, hclose,
      hstart "///" (by decide) (by decide), hstart "#[" (by decide) (by decide)]
  have hrest : ∀ line ∈ indent body ++ ["\x7d" ++ ""], isFunctionRest line = true := by
    rw [List.forall_mem_append]
    refine ⟨fun line hline => ?_, by decide⟩
    simp [isFunctionRest, isInner_of_mem_indent hline]
  have hread : WrittenFunction.read? ("pub fn " ++ signature ++ " \x7b")
      (indent body ++ ["\x7d" ++ ""] ++ rest) = some ⟨signature, body⟩ := by
    rw [WrittenFunction.read?, between?_append, inside_block, Option.map_some]
  rw [block, List.cons_append, List.cons_append, readFunctions, readAll?_cons hhead hread,
    readAll?_append hrest]

/-- The constructor takes a value for every field and puts each in its field. -/
def constructorOf (fields : List WrittenField) : WrittenFunction where
  signature :=
    "new(" ++ ", ".intercalate (fields.map fun f => f.name ++ ": " ++ f.type) ++ ") -> Self"
  body := block "Self" (fields.map fun f => f.name ++ ",") ""

def getterOf (f : WrittenField) : WrittenFunction where
  signature := f.name ++ "(&self) -> &" ++ f.type
  body := ["&self." ++ f.name]

def setterOf (name : String) (f : WrittenField) : WrittenFunction where
  signature := name ++ "(&mut self, " ++ f.name ++ ": " ++ f.type ++ ")"
  body := ["self." ++ f.name ++ " = " ++ f.name ++ ";"]

/-- The getter and the setter of a field of a model. -/
def accessorsOf (f : Model.Field) (written : WrittenField) : List WrittenFunction :=
  [getterOf written, setterOf (setterName (memberName f.fieldName)) written]

theorem readFunctions_accessors (model : String) (f : Model.Field) (rest : Lines) :
    readFunctions (spaced [(StructField.ofField model f).getterLines,
        (StructField.ofField model f).setterLines] ++ rest) =
      (readFunctions rest).map (accessorsOf f (.ofField model f) ++ ·) := by
  have hempty : ∀ line ∈ [""], isFunctionRest line = true := by decide
  have hgetter : (StructField.ofField model f).getterLines =
      block ("pub fn " ++ (getterOf (.ofField model f)).signature)
        (getterOf (.ofField model f)).body "" := by
    simp only [StructField.getterLines, StructField.ofField, getterOf, WrittenField.ofField,
      String.append_assoc]
  have hsetter : (StructField.ofField model f).setterLines =
      block ("pub fn " ++ (setterOf (setterName (memberName f.fieldName))
          (.ofField model f)).signature)
        (setterOf (setterName (memberName f.fieldName)) (.ofField model f)).body "" := by
    simp only [StructField.setterLines, StructField.ofField, setterOf, WrittenField.ofField,
      Binder.text, String.append_assoc]
  have hlines : spaced [(StructField.ofField model f).getterLines,
      (StructField.ofField model f).setterLines] ++ rest =
        [""] ++ ((StructField.ofField model f).getterLines ++
          ([""] ++ ((StructField.ofField model f).setterLines ++ rest))) := by
    simp [spaced]
  rw [hlines, readFunctions_append hempty, hgetter, readFunctions_block,
    readFunctions_append hempty, hsetter, readFunctions_block, Option.map_map]
  rfl

theorem readFunctions_accessorLines (model : String) (fields : List Model.Field) :
    readFunctions ((fields.map (StructField.ofField model)).flatMap
        fun f => spaced [f.getterLines, f.setterLines]) =
      some (fields.flatMap fun f => accessorsOf f (.ofField model f)) := by
  induction fields with
  | nil => rfl
  | cons f fields ih =>
    rw [List.map_cons, List.flatMap_cons, readFunctions_accessors, ih, Option.map_some,
      List.flatMap_cons]

/-! ## Model files -/

/-- The names of the structs that a file defines. -/
def definedStructs (file : Lines) : List String := (structReader.scan file).map Struct.name

/-- The fields of the struct in a file. -/
def fieldsOf? (file : Lines) : Option (List WrittenField) :=
  readFields (blockOf "pub struct " file)

/-- The functions of the `impl` block in a file. -/
def functionsOf? (file : Lines) : Option (List WrittenFunction) :=
  readFunctions (blockOf "impl " file)

/-- The lines of a model file before its struct. -/
def ModelFile.headLines (m : ModelFile) : Lines :=
  ["//! " ++ m.header, "", "use serde::\x7bDeserialize, Serialize\x7d;", ""]
  ++ comment "///" m.docs
  ++ ["#[derive(Debug, Clone, Default, PartialEq, Serialize, Deserialize)]"]

/-- The lines inside the `impl` block of a model file. -/
def ModelFile.implLines (m : ModelFile) : Lines :=
  ["/// Build a fully populated \x60" ++ m.name ++ "\x60.",
    "#[allow(clippy::too_many_arguments)]"]
  ++ block ("pub fn new(" ++ ", ".intercalate (m.fields.map (·.binder.text)) ++ ") -> Self")
    (block "Self" (m.fields.map fun f => f.binder.name ++ ",") "") ""
  ++ m.fields.flatMap fun f => spaced [f.getterLines, f.setterLines]

theorem ModelFile.lines_eq (m : ModelFile) : m.lines =
    m.headLines ++ block ("pub struct " ++ m.name) (m.fields.flatMap StructField.lines) ""
      ++ ([""] ++ block ("impl " ++ m.name) m.implLines "") := by
  simp only [ModelFile.lines, headLines, implLines, List.append_assoc]

theorem ModelFile.startsWith_headLines {start : String} (hne : start ≠ "")
    (h : start.toList.head? = some 'p' ∨ start.toList.head? = some 'i') (m : ModelFile) :
    ∀ line ∈ m.headLines, startsWith start line = false := by
  have hother {line : String} (hp : line.toList.head? ≠ some 'p')
      (hi : line.toList.head? ≠ some 'i') : startsWith start line = false := by
    rcases h with h | h
    · exact startsWith_eq_false hne (h ▸ hp)
    · exact startsWith_eq_false hne (h ▸ hi)
  simp only [headLines, List.forall_mem_append, List.forall_mem_cons, comment, List.forall_mem_map]
  refine ⟨⟨⟨?_, ?_, ?_, ?_, by simp⟩, fun text _ => ?_⟩, ?_, by simp⟩ <;>
    exact hother (by simp) (by simp)

variable (info : Document.Info) (m : Model)

theorem definedStructs_modelFile :
    definedStructs (ModelFile.ofModel info m).lines = [m.name.pascal] := by
  have hbefore : ∀ line ∈ (ModelFile.ofModel info m).headLines,
      startsWith "pub struct " line = false :=
    ModelFile.startsWith_headLines (by decide) (Or.inl (by decide)) _
  have hhead : startsWith "pub struct "
      ("pub struct " ++ (ModelFile.ofModel info m).name ++ " \x7b") = true :=
    startsWith_append_append_self ..
  have hread (rest : Lines) : structReader.read?
      ("pub struct " ++ (ModelFile.ofModel info m).name ++ " \x7b")
      (indent ((ModelFile.ofModel info m).fields.flatMap StructField.lines) ++ ["\x7d" ++ ""]
        ++ rest) =
      some ⟨m.name.pascal, ((ModelFile.ofModel info m).fields.flatMap StructField.lines).filter
        fun l => !startsWith "///" l⟩ := by
    simp only [structReader, between?_append, inside_block, Option.bind_eq_bind, Option.bind_some]
    rfl
  have hafter : ∀ line ∈ [""] ++ block ("impl " ++ (ModelFile.ofModel info m).name)
      (ModelFile.ofModel info m).implLines "", startsWith "pub struct " line = false := by
    rw [List.forall_mem_append]
    exact ⟨by decide, startsWith_block (by decide) (by decide)
      (startsWith_eq_false (by decide) (by simp))⟩
  have hrest := Reader.scan_append (r := structReader) hafter []
  rw [List.append_nil] at hrest
  rw [definedStructs, ModelFile.lines_eq,
    Reader.scan_block (r := structReader) (by decide) hbefore hhead hread (by decide), hrest]
  rfl

theorem fieldsOf?_modelFile :
    fieldsOf? (ModelFile.ofModel info m).lines =
      some (m.fields.map (WrittenField.ofField m.name.pascal)) := by
  have hbefore : ∀ line ∈ (ModelFile.ofModel info m).headLines,
      startsWith "pub struct " line = false :=
    ModelFile.startsWith_headLines (by decide) (Or.inl (by decide)) _
  rw [fieldsOf?, ModelFile.lines_eq, blockOf_block hbefore (startsWith_append_append_self ..)]
  exact readFields_structLines m.name.pascal m.fields

theorem readFunctions_implLines :
    readFunctions (ModelFile.ofModel info m).implLines =
      some (constructorOf (m.fields.map (WrittenField.ofField m.name.pascal)) ::
        m.fields.flatMap fun f => accessorsOf f (.ofField m.name.pascal f)) := by
  have hfields : (ModelFile.ofModel info m).fields =
      m.fields.map (StructField.ofField m.name.pascal) := rfl
  have hhead : ∀ line ∈ ["/// Build a fully populated \x60" ++ (ModelFile.ofModel info m).name
      ++ "\x60.", "#[allow(clippy::too_many_arguments)]"], isFunctionRest line = true := by
    intro line hline
    rcases List.mem_cons.1 hline with rfl | hline
    · have hcomment : startsWith "///" ("/// Build a fully populated \x60" ++
          (ModelFile.ofModel info m).name ++ "\x60.") = true := by
        rw [startsWith]
        simp [dropStart?]
      simp [isFunctionRest, hcomment]
    · obtain rfl := List.mem_singleton.1 hline
      decide
  have hnew : block ("pub fn new(" ++ ", ".intercalate
        ((ModelFile.ofModel info m).fields.map (·.binder.text)) ++ ") -> Self")
      (block "Self" ((ModelFile.ofModel info m).fields.map fun f => f.binder.name ++ ",") "") "" =
        block ("pub fn " ++
            (constructorOf (m.fields.map (WrittenField.ofField m.name.pascal))).signature)
          (constructorOf (m.fields.map (WrittenField.ofField m.name.pascal))).body "" := by
    simp only [hfields, constructorOf, List.map_map, Function.comp_def, StructField.ofField,
      WrittenField.ofField, Binder.text]
    rfl
  rw [ModelFile.implLines, List.append_assoc, readFunctions_append hhead, hnew,
    readFunctions_block, hfields, readFunctions_accessorLines, Option.map_some]

theorem functionsOf?_modelFile :
    functionsOf? (ModelFile.ofModel info m).lines =
      some (constructorOf (m.fields.map (WrittenField.ofField m.name.pascal)) ::
        m.fields.flatMap fun f => accessorsOf f (.ofField m.name.pascal f)) := by
  have hbefore : ∀ line ∈ (ModelFile.ofModel info m).headLines ++
      block ("pub struct " ++ (ModelFile.ofModel info m).name)
        ((ModelFile.ofModel info m).fields.flatMap StructField.lines) "" ++ [""],
      startsWith "impl " line = false := by
    simp only [List.forall_mem_append]
    refine ⟨⟨(ModelFile.ofModel info m).startsWith_headLines (by decide) (Or.inr (by decide)), ?_⟩,
      by decide⟩
    exact startsWith_block (by decide) (by decide) (startsWith_eq_false (by decide) (by simp))
  have hlines : (ModelFile.ofModel info m).lines = (ModelFile.ofModel info m).headLines ++
      block ("pub struct " ++ (ModelFile.ofModel info m).name)
        ((ModelFile.ofModel info m).fields.flatMap StructField.lines) "" ++ [""] ++
      block ("impl " ++ (ModelFile.ofModel info m).name) (ModelFile.ofModel info m).implLines "" ++
        [] := by
    rw [ModelFile.lines_eq, List.append_nil]
    simp only [List.append_assoc]
  rw [functionsOf?, hlines, blockOf_block hbefore (startsWith_append_append_self ..)]
  exact readFunctions_implLines info m

end ActivityForge.Source
