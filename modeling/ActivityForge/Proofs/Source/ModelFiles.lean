import ActivityForge.Proofs.DataType.Optional
import ActivityForge.Proofs.Source.ModuleTree

/-!
# Model files follow their models

Every model with fields gets one file, and models without fields get none.  What is read back from
the file of a model is the model: its struct has the fields in their order, with the names, types
and names on the wire that they have in the model (`FollowsField`); the constructor takes them all,
and each has a getter and a setter (`FollowsModel`).  Whatever the schemas are, nothing but the
title, the version and the module of the models may break a line of such a file
(`modelsOnOneLine_ofDocument`).
-/

namespace ActivityForge.Source

open Blueprint (fieldFrom modelFrom)
open Document (Schema)

def IsOption (type : String) : Prop := ∃ inner, type = "Option<" ++ inner ++ ">"

/-- A field of the struct `model` as it is in the model, where models live in the module `scope`. -/
structure FollowsField (scope model : String) (f : Model.Field) (w : WrittenField) : Prop where
  name : w.name = identifier f.fieldName
  type : w.type = f.type.fieldText model
  wireName : w.wireName = f.originalName
  skipped_iff : w.skipped = true ↔
    (∃ inner, f.type = .nullable inner) ∨ ∃ ns, f.type = .ref ns model
  isOption : w.skipped = true → IsOption w.type
  skipped_of_isOption : '<' ∉ scope.toList → IsOption w.type → w.skipped = true

/-- The file of a model.  The functions of the struct are a constructor for all fields, and the
accessors of one field after the other. -/
structure FollowsModel (scope : String) (m : Model) (file : SourceFile) : Prop where
  path : file.path = "models/" ++ modelModule m ++ ".rs"
  struct : definedStructs file.lines = [m.name.pascal]
  members : ∃ fields, fieldsOf? file.lines = some fields ∧
    List.Forall₂ (FollowsField scope m.name.pascal) m.fields fields ∧
    functionsOf? file.lines =
      some (constructorOf fields :: (List.zipWith accessorsOf m.fields fields).flatten)

/-- A field whose type is that of a property. -/
theorem followsField_ofField {scope : String} {f : Model.Field} {schema : Schema} {required : Bool}
    (hf : f.type = DataType.ofField scope (some schema) required) (model : String) :
    FollowsField scope model f (.ofField model f) where
  name := by rw [WrittenField.ofField]
  type := rfl
  wireName := rfl
  skipped_iff := DataType.isOptionalField_iff
  isOption := DataType.exists_option_of_isOptionalField
  skipped_of_isOption hscope := by
    rintro ⟨inner, h⟩
    have htext : f.type.fieldText model = "Option<" ++ (inner ++ ">") := by
      rw [← String.append_assoc]
      exact h
    show f.type.isOptionalField model = true
    rw [hf] at htext ⊢
    exact DataType.isOptionalField_of_option hscope htext

theorem followsModel_modelFrom (info : Document.Info) (scope : String)
    (component : String × Schema) :
    FollowsModel scope (modelFrom scope component)
      (modelSource info (modelFrom scope component)) where
  path := rfl
  struct := definedStructs_modelFile info _
  members := by
    refine ⟨_, fieldsOf?_modelFile info _, ?_, ?_⟩
    · rw [List.forall₂_map_right_iff, List.forall₂_same, Blueprint.fields_modelFrom]
      intro f hf
      obtain ⟨property, -, rfl⟩ := List.mem_map.1 hf
      exact followsField_ofField rfl _
    · rw [List.zipWith_map_right, List.zipWith_self, ← List.flatMap_def]
      exact functionsOf?_modelFile info _

variable {d : Document} {o : Options} {b : Blueprint}

/-- The files of the models of a document: one for each model with fields, in their order, and
behind them the module file if there are any.  Their lines are found in their texts. -/
theorem model_files_follow_models (h : (Blueprint.ofDocument d o).result = .ok b) :
    modelArtifacts b = (modelSources b).map SourceFile.artifact ++
        (if (modelSources b).isEmpty then []
          else [⟨"models/mod.rs", (ModelsModule.ofBlueprint b).lines.text⟩]) ∧
      List.Forall₂ (FollowsModel o.modelScope) (emittedModels b) (modelSources b) ∧
      (isBroken d.info.title = false → isBroken d.info.version = false →
        isBroken o.modelScope = false →
          ∀ file ∈ modelSources b, linesOf file.artifact.content = file.lines) := by
  refine ⟨modelArtifacts_eq b, ?_, fun htitle hversion hscope =>
    linesOf_modelSources (modelsOnOneLine_ofDocument h htitle hversion hscope)⟩
  rw [modelSources, List.forall₂_map_right_iff, List.forall₂_same, emittedModels_eq h]
  intro m hm
  obtain ⟨component, -, rfl⟩ := List.mem_map.1 hm
  exact followsModel_modelFrom b.info o.modelScope component

/-- A model whose properties have names that are no identifiers, and one without properties. -/
def awkwardNames : Document where
  format := "3.0.3"
  info := ⟨"Awkward names", none, "1"⟩
  paths := []
  components := some ⟨[("type", schema), ("alias", text)], [], [], []⟩
where
  text : Schema := .inline ⟨some (.single "string"), none, none, none, [], [], none, none⟩
  schema : Schema :=
    .inline ⟨some (.single "object"), none, none, none,
      [("type", text), ("2nd", text), ("a \"b\"", text),
        ("next", .ref "#/components/schemas/type")],
      ["type", "next"], none, none⟩

theorem awkward_names_are_followed : ∃ b,
    (Blueprint.ofDocument awkwardNames ⟨"models", true⟩).result = .ok b ∧
      modelArtifacts b = (modelSources b).map SourceFile.artifact ++
          (if (modelSources b).isEmpty then []
            else [⟨"models/mod.rs", (ModelsModule.ofBlueprint b).lines.text⟩]) ∧
        List.Forall₂ (FollowsModel "models") (emittedModels b) (modelSources b) ∧
        ∀ file ∈ modelSources b, linesOf file.artifact.content = file.lines := by
  obtain ⟨b, h⟩ := exists_eq_ok_of_isOk
    (x := (Blueprint.ofDocument awkwardNames ⟨"models", true⟩).result) (by decide)
  obtain ⟨hfiles, hfollow, hlines⟩ := model_files_follow_models h
  exact ⟨b, h, hfiles, hfollow, hlines (by decide) (by decide) (by decide)⟩

end ActivityForge.Source
