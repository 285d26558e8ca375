import ActivityForge.Proofs.Source.Uncommented

/-!
# Descriptions stay in comments

The descriptions of a document are written into comments, line by line, so none of their lines is
broken and nothing is left of them when comments are taken out of the generated files
(`uncommented_undescribed`).  Blueprints that differ in descriptions only are generated into files
with the same paths and the same code (`descriptions_stay_in_comments`).
-/

namespace ActivityForge

/-! ## Without descriptions -/

def Document.Info.undescribed (i : Document.Info) : Document.Info := { i with description := none }

namespace Activity

def Parameter.undescribed (p : Parameter) : Parameter := { p with description := none }

def Body.undescribed (b : Body) : Body := { b with description := none }

def Argument.undescribed (a : Argument) : Argument := { a with description := none }

/-- The activity without its summary and the descriptions in it; that of its response is not
generated. -/
def undescribed (a : Activity) : Activity :=
  { a with
    summary := none
    description := none
    parameters := a.parameters.map Parameter.undescribed
    body := a.body.map Body.undescribed }

end Activity

def Model.Field.undescribed (f : Model.Field) : Model.Field := { f with description := none }

def Model.undescribed (m : Model) : Model :=
  { m with description := none, fields := m.fields.map Model.Field.undescribed }

/-- The blueprint without its descriptive texts. -/
def Blueprint.undescribed (b : Blueprint) : Blueprint where
  info := b.info.undescribed
  activities := b.activities.map Activity.undescribed
  models := b.models.map Model.undescribed

/-! ## What is read off an activity -/

namespace Activity

variable (a : Activity)

theorem usesRequest_undescribed : a.undescribed.usesRequest = a.usesRequest := by
  simp [usesRequest, undescribed]

theorem bodyType?_undescribed : a.undescribed.bodyType? = a.bodyType? := by
  cases h : a.body <;> simp [bodyType?, undescribed, h, Body.undescribed]

theorem bodyArgument?_undescribed :
    a.undescribed.bodyArgument? = a.bodyArgument?.map Argument.undescribed := by
  have hnone : (a.body.map Body.undescribed).bind Body.description = none := by
    cases a.body <;> rfl
  rw [bodyArgument?, bodyType?_undescribed, bodyArgument?, Option.map_map]
  simp only [undescribed, hnone]
  rfl

theorem arguments_undescribed :
    a.undescribed.arguments = a.arguments.map Argument.undescribed := by
  rw [arguments, bodyArgument?_undescribed, arguments, List.map_append, undescribed,
    List.map_map, List.map_map, Option.toList_map]
  rfl

theorem signature_undescribed : a.undescribed.signature = a.signature := by
  have hbinders : a.undescribed.binders = a.binders := by
    rw [binders, usesRequest_undescribed, arguments_undescribed, List.map_map, binders]
    rfl
  rw [signature, hbinders]
  rfl

theorem callArguments_undescribed : a.undescribed.callArguments = a.callArguments := by
  rw [callArguments, arguments_undescribed, usesRequest_undescribed, List.map_map, callArguments]
  rfl

end Activity

namespace Source

/-! ## What is left of the files -/

theorem Declaration.uncommented_undescribed (a : Activity) :
    (Declaration.ofActivity a.undescribed).uncommented =
      (Declaration.ofActivity a).uncommented := by
  have hdocs : exposedLines (methodDocs a.undescribed) = exposedLines (methodDocs a) := by
    rw [exposedLines_methodDocs, exposedLines_methodDocs]
    rfl
  simp only [uncommented, ofActivity, a.signature_undescribed, hdocs]
  rfl

theorem Request.uncommented_undescribed (a : Activity) :
    (Request.ofActivity a.undescribed).uncommented = (Request.ofActivity a).uncommented := by
  simp only [uncommented, ofActivity, a.arguments_undescribed, List.map_map]
  congr 1
  refine List.map_congr_left fun arg _ => ?_
  simp only [Function.comp_apply, RequestField.ofArgument, RequestField.uncommented,
    exposedLines_docLines?]
  rfl

theorem Contract.uncommented_undescribed (b : Blueprint) (s : Settings) :
    (Contract.ofBlueprint b.undescribed s).uncommented =
      (Contract.ofBlueprint b s).uncommented := by
  simp only [uncommented, ofBlueprint, Blueprint.undescribed, exposedLines_docLines?,
    List.map_map, List.filter_map, Function.comp_def, Activity.usesRequest_undescribed,
    Declaration.uncommented_undescribed, Request.uncommented_undescribed]
  rfl

theorem Implementation.uncommented_undescribed (b : Blueprint) (s : Settings) :
    (Implementation.ofBlueprint b.undescribed s).uncommented =
      (Implementation.ofBlueprint b s).uncommented := by
  have hdefinition (a : Activity) :
      Definition.ofActivity a.undescribed = Definition.ofActivity a := by
    simp only [Definition.ofActivity, a.signature_undescribed, a.callArguments_undescribed]
    rfl
  simp only [uncommented, ofBlueprint, contractImports, Blueprint.undescribed, List.any_map,
    List.map_map, Function.comp_def, Activity.usesRequest_undescribed, hdefinition]
  rfl

theorem ModelFile.uncommented_undescribed (info : Document.Info) (m : Model) :
    (ModelFile.ofModel info.undescribed m.undescribed).uncommented =
      (ModelFile.ofModel info m).uncommented := by
  simp only [uncommented, ofModel, Model.undescribed, List.map_map, exposedLines_docLines?,
    Function.comp_def, StructField.uncommented, StructField.ofField, Model.Field.undescribed]
  rfl

theorem emittedModels_undescribed (b : Blueprint) :
    emittedModels b.undescribed = (emittedModels b).map Model.undescribed := by
  simp [emittedModels, Blueprint.undescribed, Model.undescribed, List.filter_map,
    Function.comp_def]

/-- Nothing is left of a description in any file. -/
theorem Uncommented.ofBlueprint_undescribed (b : Blueprint) (s : Settings) :
    ofBlueprint b.undescribed s = ofBlueprint b s := by
  have hmodels : (emittedModels b.undescribed).map (fun m =>
      (modelModule m, (ModelFile.ofModel b.undescribed.info m).uncommented)) =
      (emittedModels b).map fun m =>
        (modelModule m, (ModelFile.ofModel b.info m).uncommented) := by
    rw [emittedModels_undescribed, List.map_map]
    refine List.map_congr_left fun m _ => ?_
    exact congrArg (modelModule m, ·) (ModelFile.uncommented_undescribed b.info m)
  have hmodules : ModelsModule.ofBlueprint b.undescribed = ModelsModule.ofBlueprint b := by
    rw [ModelsModule.ofBlueprint, emittedModels_undescribed, List.map_map]
    rfl
  have hroot : RootModule.ofBlueprint b.undescribed s = RootModule.ofBlueprint b s := by
    rw [RootModule.ofBlueprint, writesModels, emittedModels_undescribed, List.isEmpty_map]
    rfl
  rw [ofBlueprint, Contract.uncommented_undescribed, Implementation.uncommented_undescribed,
    hmodels, hmodules, hroot]
  rfl

/-- Whatever stands in the descriptions of two blueprints that are the same without them, it gets
into no path and into no line of code of the generated files. -/
theorem descriptions_stay_in_comments {b b' : Blueprint} (h : b.undescribed = b'.undescribed)
    (s : Settings) : List.Forall₂ Artifact.SameCode (generate b s) (generate b' s) := by
  refine sameCode_generate ?_
  rw [← Uncommented.ofBlueprint_undescribed b, h, Uncommented.ofBlueprint_undescribed]

/-- A blueprint with a request object and a model, and with the same text for every description. -/
def describedPets (text : Option String) : Blueprint where
  info := ⟨"Pets", text, "1"⟩
  activities := [{
    name := Name.ofText "createPet"
    method := .post
    path := "/pets"
    summary := text
    description := text
    tags := []
    parameters := [⟨"id", "id", .query, .string, true, text⟩]
    body := some ⟨text, true,
      [("application/json", ⟨"application/json", .ref "models" "Pet", none⟩)]⟩
    response := ⟨"204", none, []⟩
    idempotent := false
    retryPolicy := .ofIdempotency false
    deprecated := false }]
  models := [⟨Name.ofText "Pet", text, [⟨"name", "name", .string, true, text⟩]⟩]

/-- Lines of code, an empty line, the end of a comment and the syntax of templates. -/
def hostileText : String :=
  "\n */ fn a() \x7b\x7d\r\n\n\t\x7b% endfor %\x7d\n\x7b\x7b x \x7d\x7d\nfn b() \x7b\x7d"

theorem undescribed_describedPets (text text' : Option String) :
    (describedPets text).undescribed = (describedPets text').undescribed := rfl

theorem hostile_descriptions_stay :
    (describedPets (some hostileText)).undescribed = (describedPets none).undescribed ∧
      List.Forall₂ Artifact.SameCode (generate (describedPets (some hostileText)) .default)
        (generate (describedPets none) .default) :=
  ⟨undescribed_describedPets _ _,
    descriptions_stay_in_comments (undescribed_describedPets _ _) .default⟩

end Source

end ActivityForge
