import ActivityForge.Proofs.Source.ModuleItems
import ActivityForge.Proofs.Source.Paths

/-!
# The module tree, unless a line is broken

The generated files, sorted by what they are for (`FileTree`, `SortedFiles`), and what the texts of
the two module files among them declare.  The module file of the models declares the model files and
re-exports their structs; the root module file declares the contract, the implementation if there is
one, and the models if there are any.  This holds if nothing that is put into these files as it is
has a line feed in it (`module_tree_matches_files`).  A line feed in a title lets the rest of it out
of the header, where it declares a module that no file is for (`broken_title_adds_module`).
-/

namespace ActivityForge.Source

/-! ## Files -/

/-- A generated file as lines. -/
structure SourceFile where
  path : String
  lines : Lines
deriving DecidableEq, Repr

def SourceFile.artifact (f : SourceFile) : Artifact := ⟨f.path, f.lines.text⟩

theorem SourceFile.content_artifact (f : SourceFile) : f.artifact.content = f.lines.text := rfl

def modelSource (info : Document.Info) (m : Model) : SourceFile :=
  ⟨"models/" ++ modelModule m ++ ".rs", (ModelFile.ofModel info m).lines⟩

/-- The files of the models with fields. -/
def modelSources (b : Blueprint) : List SourceFile := (emittedModels b).map (modelSource b.info)

def modelsModuleArtifact (b : Blueprint) : Artifact :=
  ⟨"models/mod.rs", (ModelsModule.ofBlueprint b).lines.text⟩

/-- The generated files by what they are for. -/
structure FileTree where
  contract : Artifact
  implementation : Option Artifact
  models : List Artifact
  /-- The module file of the models. -/
  modelsModule : Option Artifact
  root : Artifact

namespace FileTree

def files (t : FileTree) : List Artifact :=
  t.contract :: t.implementation.toList ++ t.models ++ t.modelsModule.toList ++ [t.root]

def ofBlueprint (b : Blueprint) (s : Settings) : FileTree where
  contract := contractArtifact b s
  implementation := if s.generateImplementation then some (implementationArtifact b s) else none
  models := if s.generateModels then (modelSources b).map SourceFile.artifact else []
  modelsModule := if writesModels b s then some (modelsModuleArtifact b) else none
  root := rootArtifact b s

end FileTree

/-- The model files, and behind them their module file if there are any. -/
theorem modelArtifacts_eq (b : Blueprint) :
    modelArtifacts b = (modelSources b).map SourceFile.artifact ++
      (if (modelSources b).isEmpty then []
        else [⟨"models/mod.rs", (ModelsModule.ofBlueprint b).lines.text⟩]) := by
  rw [modelArtifacts, modelSources, List.isEmpty_map, List.map_map]
  split
  · next hnone =>
    rw [List.isEmpty_iff.1 hnone]
    rfl
  · rfl

theorem generate_eq_files (b : Blueprint) (s : Settings) :
    generate b s = (FileTree.ofBlueprint b s).files := by
  have hmodels : (if s.generateModels then modelArtifacts b else []) =
      (FileTree.ofBlueprint b s).models ++ (FileTree.ofBlueprint b s).modelsModule.toList := by
    rw [modelArtifacts_eq, modelSources, List.isEmpty_map]
    unfold FileTree.ofBlueprint writesModels
    cases s.generateModels with
    | false => rfl
    | true => cases (emittedModels b).isEmpty <;> rfl
  rw [generate, hmodels]
  unfold FileTree.files FileTree.ofBlueprint
  cases s.generateImplementation <;> simp

/-! ## Texts of module files -/

/-- What gets into the module files and the model files as it is has no line feed in it. -/
structure ModelsOnOneLine (b : Blueprint) : Prop where
  title : isBroken b.info.title = false
  version : isBroken b.info.version = false
  structs : ∀ m ∈ emittedModels b, isBroken m.name.pascal = false
  types : ∀ m ∈ emittedModels b, ∀ f ∈ m.fields, isBroken (f.type.fieldText m.name.pascal) = false

section ModelsOnOneLine

variable {b : Blueprint} (h : ModelsOnOneLine b)

include h

theorem ModelsOnOneLine.whole_header : Lines.Whole ["//! " ++ headerLine b.info, ""] := by
  have hheader := isBroken_headerLine_eq_false h.title h.version
  simp only [whole_cons, whole_nil, isBroken_append, hheader]
  decide

theorem linesOf_modelSources :
    ∀ file ∈ modelSources b, linesOf file.artifact.content = file.lines := by
  refine List.forall_mem_map.2 fun m hm => ?_
  rw [SourceFile.content_artifact]
  exact linesOf_text (whole_modelFile h.title h.version (h.structs m hm) (h.types m hm))

theorem linesOf_modelsModule :
    linesOf (modelsModuleArtifact b).content = (ModelsModule.ofBlueprint b).lines := by
  refine linesOf_text ?_
  have hheader : Lines.Whole ["//! " ++ (ModelsModule.ofBlueprint b).header, ""] := h.whole_header
  have hempty : Lines.Whole [""] := whole_cons.2 ⟨by decide, whole_nil⟩
  have hmodule (m : Model) : isBroken (escapeKeyword (modelModule m)) = false :=
    isBroken_identifier m.name.pascal
  rw [ModelsModule.lines, whole_append, whole_append, whole_append, whole_map, whole_map,
    ModelsModule.ofBlueprint, List.forall_mem_map, List.forall_mem_map]
  refine ⟨⟨⟨hheader, fun m _ => ?_⟩, hempty⟩, fun m hm => ?_⟩
  · rw [isBroken_around (by decide) (by decide), hmodule]
  · simp only [isBroken_append, hmodule, h.structs m hm]
    decide

theorem linesOf_rootModule {s : Settings} (hs : isBroken s.contractName = false) :
    linesOf (rootArtifact b s).content = (RootModule.ofBlueprint b s).lines := by
  refine linesOf_text ?_
  have hheader : Lines.Whole ["//! " ++ (RootModule.ofBlueprint b s).header, ""] := h.whole_header
  have hcontract : isBroken (RootModule.ofBlueprint b s).contractModule = false :=
    isBroken_memberName s.contractName
  have hescaped : isBroken (escapeKeyword (RootModule.ofBlueprint b s).contractModule) = false :=
    isBroken_identifier s.contractName
  have hname : isBroken (RootModule.ofBlueprint b s).contractName = false := hs
  have hdeclared : Lines.Whole (RootModule.ofBlueprint b s).declared := by
    rw [RootModule.declared, whole_append, whole_append, whole_cons]
    refine ⟨⟨⟨hescaped, whole_nil⟩, whole_ite_singleton ?_⟩, whole_ite_singleton (by decide)⟩
    rw [isBroken_append, hcontract]
    decide
  have hmodules : Lines.Whole ((RootModule.ofBlueprint b s).declared.map
      fun e => "pub mod " ++ e ++ ";") := by
    refine whole_map.2 fun e he => ?_
    rw [isBroken_around (by decide) (by decide), hdeclared e he]
  rw [RootModule.lines, whole_append, whole_append, whole_append]
  refine ⟨⟨⟨hheader, hmodules⟩, ?_⟩, whole_ite_singleton ?_⟩
  · simp only [whole_cons, whole_nil, isBroken_append, hescaped, hname]
    decide
  · simp only [isBroken_append, hcontract, hname]
    decide

end ModelsOnOneLine

/-- Whatever the schemas of a document are, only its title, its version and the module of the models
matter. -/
theorem modelsOnOneLine_ofDocument {d : Document} {o : Options} {b : Blueprint}
    (h : (Blueprint.ofDocument d o).result = .ok b)
    (htitle : isBroken d.info.title = false) (hversion : isBroken d.info.version = false)
    (hscope : isBroken o.modelScope = false) : ModelsOnOneLine b where
  title := by rw [info_ofDocument h, htitle]
  version := by rw [info_ofDocument h, hversion]
  structs := by
    rw [emittedModels_eq h, List.forall_mem_map]
    intro component _
    rw [Blueprint.name_modelFrom, isBroken_pascal]
  types := by
    rw [emittedModels_eq h, List.forall_mem_map]
    intro component _
    rw [Blueprint.fields_modelFrom, List.forall_mem_map]
    intro property _
    exact isBroken_fieldText_ofField hscope property.2 _ _

/-! ## The tree -/

/-- The module file of the models declares the model files, in their order, and re-exports from each
the struct that it defines. -/
def MountsModels (file : Artifact) (models : List Artifact) : Prop :=
  ∃ modules structs : List String,
    items? (linesOf file.content) = some
      (modules.map (.submodule false) ++ List.zipWith .reexport modules structs) ∧
    models.map (·.path) = modules.map (fun name => "models/" ++ unescape name ++ ".rs") ∧
    models.map (fun f => definedStructs (linesOf f.content)) = structs.map fun name => [name]

/-- The root module file declares the contract, the implementation if there is one and the models if
there are any, and re-exports from the contract and from the implementation if there is one. -/
def MountsTree (contractName : String) (t : FileTree) : Prop :=
  ∃ (contract : String) (implementation : Option String),
    items? (linesOf t.root.content) = some
      ((contract :: (implementation.toList ++ (t.modelsModule.map fun _ => "models").toList)).map
          (.submodule true) ++
        .reexports contract [contractExports contractName] ::
          implementation.toList.map (.reexport · (contractName ++ "Impl"))) ∧
    t.contract.path = unescape contract ++ ".rs" ∧
    t.implementation.map (·.path) = implementation.map (unescape · ++ ".rs")

/-- The files that are generated are those of a tree.  The root module file comes last, and the
module file of the models is there exactly if models are generated and one of them has fields. -/
structure SortedFiles (b : Blueprint) (s : Settings) (t : FileTree) : Prop where
  generated : generate b s = t.files
  modelsModule_emitted : (∃ a ∈ generate b s, a.path = "models/mod.rs") ↔
    s.generateModels = true ∧ ∃ m ∈ b.models, m.fields ≠ []
  modelsModule_isSome : t.modelsModule.isSome = true ↔
    s.generateModels = true ∧ ∃ m ∈ b.models, m.fields ≠ []
  modelsModule_path : ∀ file, t.modelsModule = some file → file.path = "models/mod.rs"
  models_of_none : t.modelsModule = none → t.models = []
  implementation_isSome : t.implementation.isSome = s.generateImplementation
  root_path : t.root.path = "mod.rs"

/-- How the module files go with the files of a tree that is generated. -/
structure ModuleTree (b : Blueprint) (s : Settings) (t : FileTree) : Prop
    extends SortedFiles b s t where
  modelsModule : ∀ file, t.modelsModule = some file → MountsModels file t.models
  root : MountsTree s.contractName t
  /-- A module is a file or a directory with a module file. -/
  declared : ∀ items name, items? (linesOf t.root.content) = some items →
    .submodule true name ∈ items →
      ∃ a ∈ generate b s, a.path = unescape name ++ ".rs" ∨ a.path = unescape name ++ "/mod.rs"

/-! ### Files of the tree -/

section SortedFiles

variable (b : Blueprint) (s : Settings)

theorem writesModels_iff : writesModels b s = true ↔
    s.generateModels = true ∧ ∃ m ∈ b.models, m.fields ≠ [] := by
  simp [writesModels, emittedModels]

theorem writesModels_of_mem_modelPaths {p : String} (h : p ∈ modelPaths b s) :
    writesModels b s = true := by
  unfold modelPaths modelArtifacts at h
  unfold writesModels
  split at h
  · next hmodels =>
    split at h
    · cases h
    · next hsome => rw [hmodels, Bool.true_and, Bool.eq_false_iff.2 hsome, Bool.not_false]
  · cases h

theorem modelsModule_ofBlueprint : (FileTree.ofBlueprint b s).modelsModule =
    if writesModels b s then some (modelsModuleArtifact b) else none :=
  rfl

variable {b s} in
theorem modelsModule_eq_some {file : Artifact}
    (h : (FileTree.ofBlueprint b s).modelsModule = some file) :
    writesModels b s = true ∧ file = modelsModuleArtifact b := by
  rw [modelsModule_ofBlueprint] at h
  split at h
  · next hwrites => exact ⟨hwrites, (Option.some.inj h).symm⟩
  · cases h

/-- Outside the directory of the models no path has a slash in it. -/
theorem exists_modelsModule_iff :
    (∃ a ∈ generate b s, a.path = "models/mod.rs") ↔ writesModels b s = true := by
  constructor
  · rintro ⟨a, ha, hpath⟩
    have hmem : a.path ∈ outerPaths s ++ modelPaths b s :=
      (perm_paths b s).subset (List.mem_map_of_mem ha)
    rcases List.mem_append.1 hmem with h | h
    · rw [hpath] at h
      exact absurd (by decide) (slash_not_mem_outerPaths h)
    · exact writesModels_of_mem_modelPaths b s h
  · intro h
    rw [generate_eq_files]
    refine ⟨modelsModuleArtifact b, ?_, rfl⟩
    simp [FileTree.files, modelsModule_ofBlueprint, h]

theorem sortedFiles_ofBlueprint : SortedFiles b s (FileTree.ofBlueprint b s) where
  generated := generate_eq_files b s
  modelsModule_emitted := (exists_modelsModule_iff b s).trans (writesModels_iff b s)
  modelsModule_isSome := by
    rw [← writesModels_iff, modelsModule_ofBlueprint]
    cases writesModels b s <;> simp
  modelsModule_path file hfile := by
    rw [(modelsModule_eq_some hfile).2]
    rfl
  models_of_none hnone := by
    rw [modelsModule_ofBlueprint, ite_eq_right_iff] at hnone
    have hwrites : writesModels b s = false := Bool.eq_false_iff.2 fun h => nomatch hnone h
    unfold writesModels at hwrites
    unfold FileTree.ofBlueprint
    cases hgenerate : s.generateModels with
    | false => rfl
    | true => simpa [hgenerate, modelSources] using hwrites
  implementation_isSome := by
    unfold FileTree.ofBlueprint
    cases s.generateImplementation <;> rfl
  root_path := rfl

end SortedFiles

/-! ### What the module files declare -/

section ModuleTree

variable {b : Blueprint} {s : Settings} (h : ModelsOnOneLine b)

include h

theorem mountsModels_ofBlueprint (hmodels : s.generateModels = true) :
    MountsModels (modelsModuleArtifact b) (FileTree.ofBlueprint b s).models := by
  have hfiles : (FileTree.ofBlueprint b s).models = (modelSources b).map SourceFile.artifact :=
    if_pos hmodels
  refine ⟨(emittedModels b).map fun m => escapeKeyword (modelModule m),
    (emittedModels b).map fun m => m.name.pascal, ?_, ?_, ?_⟩
  · rw [linesOf_modelsModule h, items?_modelsModule, List.map_map, List.zipWith_map_left,
      List.zipWith_map_right, List.zipWith_self]
    rfl
  · have hmodule (m : Model) : unescape (escapeKeyword (modelModule m)) = modelModule m :=
      unescape_escapeKeyword (Name.not_mem_memberName (by decide) m.name.pascal)
    simp only [hfiles, modelSources, List.map_map, Function.comp_def, SourceFile.artifact,
      modelSource, hmodule]
  · have hstructs : (modelSources b).map (fun f => definedStructs (linesOf f.artifact.content)) =
        (modelSources b).map fun f => definedStructs f.lines :=
      List.map_congr_left fun f hf => congrArg definedStructs (linesOf_modelSources h f hf)
    rw [hfiles, List.map_map]
    refine hstructs.trans ?_
    simp only [modelSources, List.map_map, Function.comp_def, modelSource, definedStructs_modelFile]

theorem mountsTree_ofBlueprint (hs : isBroken s.contractName = false) :
    MountsTree s.contractName (FileTree.ofBlueprint b s) := by
  have hhash : '#' ∉ (moduleOfContract s).toList := not_mem_moduleOfContract (by decide) s
  have himpl : unescape (moduleOfContract s ++ "_impl") = moduleOfContract s ++ "_impl" :=
    unescape_of_not_mem (by simp [hhash])
  have hroot : linesOf (FileTree.ofBlueprint b s).root.content =
      (RootModule.ofBlueprint b s).lines := linesOf_rootModule h hs
  refine ⟨escapeKeyword (moduleOfContract s),
    if s.generateImplementation then some (moduleOfContract s ++ "_impl") else none, ?_, ?_, ?_⟩
  · have hitems := items?_rootModule (m := RootModule.ofBlueprint b s)
      (not_mem_moduleOfContract (by decide) s)
    rw [hroot]
    refine hitems.trans ?_
    unfold implementationExports RootModule.declared RootModule.ofBlueprint FileTree.ofBlueprint
    cases s.generateImplementation <;> cases writesModels b s <;> rfl
  · rw [unescape_escapeKeyword hhash]
    rfl
  · unfold FileTree.ofBlueprint
    cases s.generateImplementation with
    | false => rfl
    | true =>
      simp only [↓reduceIte, Option.map_some, himpl, String.append_assoc]
      rfl

end ModuleTree

/-- In a tree that is mounted every declared module has a file. -/
theorem exists_file_of_declared {contractName : String} {t : FileTree}
    (h : MountsTree contractName t)
    (hmodels : ∀ file, t.modelsModule = some file → file.path = "models/mod.rs")
    {items : List Item} (hitems : items? (linesOf t.root.content) = some items) {name : String}
    (hname : .submodule true name ∈ items) :
    ∃ f ∈ t.files, f.path = unescape name ++ ".rs" ∨ f.path = unescape name ++ "/mod.rs" := by
  obtain ⟨contract, implementation, hroot, hcontract, himplementation⟩ := h
  obtain rfl := Option.some.inj (hitems.symm.trans hroot)
  have hdeclared : name = contract ∨ name ∈ implementation ∨
      name = "models" ∧ t.modelsModule ≠ none := by
    cases hm : t.modelsModule <;> simpa [hm] using hname
  rcases hdeclared with rfl | h | ⟨rfl, hsome⟩
  · exact ⟨t.contract, by simp [FileTree.files], Or.inl hcontract⟩
  · rw [Option.mem_def] at h
    rw [h, Option.map_some, Option.map_eq_some_iff] at himplementation
    obtain ⟨f, hf, hpath⟩ := himplementation
    exact ⟨f, by simp [FileTree.files, hf], Or.inl hpath⟩
  · obtain ⟨f, hf⟩ := Option.ne_none_iff_exists'.1 hsome
    refine ⟨f, by simp [FileTree.files, hf], Or.inr ?_⟩
    rw [hmodels f hf]
    decide

/-- The texts of the module files declare and re-export what is in the other files that are
generated, if what is put into all these files as it is has no line feed in it. -/
theorem module_tree_matches_files {b : Blueprint} {s : Settings} (h : ModelsOnOneLine b)
    (hs : isBroken s.contractName = false) : ModuleTree b s (FileTree.ofBlueprint b s) := by
  have hsorted := sortedFiles_ofBlueprint b s
  have hmounts := mountsTree_ofBlueprint h hs
  refine
    { toSortedFiles := hsorted
      modelsModule := ?modelsModule
      root := hmounts
      declared := ?declared }
  case modelsModule =>
    intro file hfile
    obtain ⟨hwrites, rfl⟩ := modelsModule_eq_some hfile
    exact mountsModels_ofBlueprint h ((writesModels_iff b s).1 hwrites).1
  case declared =>
    intro items name hitems hname
    rw [hsorted.generated]
    exact exists_file_of_declared hmounts hsorted.modelsModule_path hitems hname

theorem petStore_module_tree : ∃ b,
    (Blueprint.ofDocument Document.petStore ⟨"models", true⟩).result = .ok b ∧
      ModelsOnOneLine b ∧ isBroken Settings.default.contractName = false ∧
      ModuleTree b .default (FileTree.ofBlueprint b .default) := by
  obtain ⟨b, h⟩ : ∃ b, (Blueprint.ofDocument Document.petStore ⟨"models", true⟩).result = .ok b :=
    Blueprint.exists_ofDocument_iff.2 Document.accepted_petStore
  have hmodels : ModelsOnOneLine b := modelsOnOneLine_ofDocument h rfl rfl rfl
  exact ⟨b, h, hmodels, rfl, module_tree_matches_files hmodels rfl⟩

/-- A blueprint whose title ends the comment which it stands in, and declares a module. -/
def petsWithModule : Blueprint := titledPets "T\nmod evil;\n//" "1" "/pets"

/-- A line feed in a title adds a module to the root module file that no file is for. -/
theorem broken_title_adds_module :
    ¬ ∀ (b : Blueprint) (s : Settings), ModuleTree b s (FileTree.ofBlueprint b s) := by
  intro hall
  have hheader : cutLines ["//! " ++ headerLine petsWithModule.info] =
      ["//! Generated by oact from \x60T"] ++ ("mod " ++ "evil" ++ ";") ::
        ["//\x60 1. Do not edit."] := by
    decide +kernel
  obtain ⟨rest, hlines⟩ : ∃ rest, (RootModule.ofBlueprint petsWithModule contractOnly).lines =
      ["//! " ++ headerLine petsWithModule.info] ++ rest := ⟨_, rfl⟩
  have htext : linesOf (rootArtifact petsWithModule contractOnly).content =
      ["//! Generated by oact from \x60T"] ++ ("mod " ++ "evil" ++ ";") ::
        (["//\x60 1. Do not edit."] ++ cutLines rest) := by
    rw [rootArtifact, linesOf_text_eq_cutLines, hlines, cutLines_append, hheader]
    rfl
  obtain ⟨contract, implementation, hroot, -⟩ := (hall petsWithModule contractOnly).root
  have hitems : items? (linesOf (rootArtifact petsWithModule contractOnly).content) = _ := hroot
  rw [htext, items?_append (by decide), items?_cons (by decide) (read?_submodule _ _)] at hitems
  obtain ⟨items, -, hevil⟩ := Option.map_eq_some_iff.1 hitems
  cases hevil

end ActivityForge.Source
