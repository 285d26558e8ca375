import ActivityForge.Proofs.Source.Comments
import Mathlib.Data.List.Forall2

/-!
# Generated files without their comments

Every file is written from a record, some of whose texts stand in comment lines.  `uncommented`
empties those texts, except where a line feed lets them out of their comment, and the file of the
record that is left has the same code (`code_lines` of each record).  So blueprints for which the
same is left (`Uncommented.ofBlueprint`) are generated into files with the same paths and the same
code (`sameCode_generate`).
-/

namespace ActivityForge.Source

/-! ## Records without comments -/

def Declaration.uncommented (d : Declaration) : Declaration :=
  { d with docs := exposedLines d.docs }

def RequestField.uncommented (f : RequestField) : RequestField :=
  { f with docs := exposedLines f.docs }

def Request.uncommented (r : Request) : Request :=
  { r with fields := r.fields.map RequestField.uncommented }

def Contract.uncommented (c : Contract) : Contract :=
  { c with
    header := exposed c.header
    title := exposed c.title
    docs := exposedLines c.docs
    declarations := c.declarations.map Declaration.uncommented
    requests := c.requests.map Request.uncommented }

def Implementation.uncommented (i : Implementation) : Implementation :=
  { i with header := exposed i.header }

def StructField.uncommented (f : StructField) : StructField :=
  { f with docs := exposedLines f.docs }

def ModelFile.uncommented (m : ModelFile) : ModelFile :=
  { m with
    header := exposed m.header
    docs := exposedLines m.docs
    fields := m.fields.map StructField.uncommented }

def ModelsModule.uncommented (m : ModelsModule) : ModelsModule :=
  { m with header := exposed m.header }

def RootModule.uncommented (m : RootModule) : RootModule :=
  { m with header := exposed m.header }

/-! ## Their files have the same code -/

/-- The first line of a file. -/
theorem code_header (header : String) :
    Lines.code ["//! " ++ exposed header] = Lines.code ["//! " ++ header] := by
  have hmark : IsMark "//! " := by decide
  have hstop : isBroken "" = false := by decide
  simpa using code_exposed hmark hstop header

theorem code_docs {mark : String} (h : IsMark mark) (docs : List String) :
    Lines.code (comment mark (exposedLines docs)) = Lines.code (comment mark docs) := by
  rw [code_comment h, code_comment h]
  simp [exposedLines]

theorem Declaration.code_methodLines (d : Declaration) :
    Lines.code d.uncommented.methodLines = Lines.code d.methodLines := by
  obtain ⟨key, signature, docs, deprecated, options, retryPolicy⟩ := d
  dsimp only [Declaration.methodLines, Declaration.uncommented]
  simp only [code_append, code_docs isMark_outer]

theorem Request.code_lines (contract : String) (r : Request) :
    Lines.code (r.uncommented.lines contract) = Lines.code (r.lines contract) := by
  simp only [Request.lines, Request.uncommented, RequestField.uncommented, code_append, code_block,
    code_flatMap, List.flatMap_map, code_docs isMark_outer]

/-- The docs of a contract, behind an empty comment line. -/
theorem code_contractDocs (docs : List String) :
    Lines.code (if (exposedLines docs).isEmpty then []
        else "//!" :: comment "//!" (exposedLines docs)) =
      Lines.code (if docs.isEmpty then [] else "//!" :: comment "//!" docs) := by
  have hcode (docs : List String) :
      Lines.code (if docs.isEmpty then [] else "//!" :: comment "//!" docs) =
        Lines.code (comment "//!" docs) := by
    cases docs with
    | nil => rfl
    | cons line docs => rfl
  rw [hcode, hcode, code_docs isMark_inner]

/-- The first lines of a contract. -/
theorem code_contractHead (header title : String) :
    Lines.code ["//! " ++ exposed header, "//!",
        "//! Activity contract for " ++ exposed title ++ "."] =
      Lines.code ["//! " ++ header, "//!", "//! Activity contract for " ++ title ++ "."] := by
  have htitle : Lines.code ["//! Activity contract for " ++ exposed title ++ "."] =
      Lines.code ["//! Activity contract for " ++ title ++ "."] := by
    rw [String.append_assoc, String.append_assoc]
    exact code_exposed (by decide) (by decide) title
  rw [code_cons _ ("//! " ++ _), code_cons _ "//!", code_header, htitle, ← code_cons, ← code_cons]

theorem Contract.code_lines (c : Contract) :
    Lines.code c.uncommented.lines = Lines.code c.lines := by
  obtain ⟨header, title, docs, name, declarations, requests⟩ := c
  have hkey (d : Declaration) : d.uncommented.key = d.key := rfl
  have hname (d : Declaration) : d.uncommented.options = d.options := rfl
  have hoptions (d : Declaration) : d.uncommented.optionsLines = d.optionsLines := rfl
  dsimp only [Contract.lines, Contract.uncommented]
  simp only [code_append, code_block, code_spaced, code_separated, code_contractHead,
    code_contractDocs, List.map_map, Function.comp_def, Declaration.code_methodLines,
    Request.code_lines, hkey, hname, hoptions]

theorem Implementation.code_lines (i : Implementation) :
    Lines.code i.uncommented.lines = Lines.code i.lines := by
  simp only [Implementation.lines, Implementation.uncommented, code_append]
  rw [code_cons, code_header, ← code_cons]

theorem StructField.code_lines (f : StructField) :
    Lines.code f.uncommented.lines = Lines.code f.lines := by
  have hwire : f.uncommented.wireText = f.wireText := rfl
  simp only [StructField.lines, hwire, code_append]
  simp only [StructField.uncommented, code_docs isMark_outer]

theorem ModelFile.code_lines (m : ModelFile) :
    Lines.code m.uncommented.lines = Lines.code m.lines := by
  have hbinder (f : StructField) : f.uncommented.binder = f.binder := rfl
  have hgetter (f : StructField) : f.uncommented.getterLines = f.getterLines := rfl
  have hsetter (f : StructField) : f.uncommented.setterLines = f.setterLines := rfl
  simp only [ModelFile.lines, ModelFile.uncommented, code_append, code_block, code_flatMap,
    code_docs isMark_outer, List.flatMap_map, List.map_map, Function.comp_def,
    StructField.code_lines, hbinder, hgetter, hsetter]
  rw [code_cons, code_header, ← code_cons]

theorem ModelsModule.code_lines (m : ModelsModule) :
    Lines.code m.uncommented.lines = Lines.code m.lines := by
  simp only [ModelsModule.lines, ModelsModule.uncommented, code_append]
  rw [code_cons, code_header, ← code_cons]

theorem RootModule.code_lines (m : RootModule) :
    Lines.code m.uncommented.lines = Lines.code m.lines := by
  obtain ⟨header, contractModule, contractName, hasImplementation, hasModels⟩ := m
  dsimp only [RootModule.lines, RootModule.declared, RootModule.uncommented]
  simp only [code_append]
  rw [code_cons, code_header, ← code_cons]

/-! ## Comments made of descriptions -/

theorem exposedLines_docLines? (text : Option String) : exposedLines (docLines? text) = [] :=
  exposedLines_eq_nil fun _ => lineFeed_not_mem_docLines?

/-- The empty lines between blocks are not broken. -/
theorem exposedLines_joinBlocks (blocks : List (List String)) :
    exposedLines (joinBlocks blocks) = blocks.flatMap exposedLines := by
  induction blocks with
  | nil => rfl
  | cons first rest ih =>
    rw [joinBlocks, List.flatMap_cons, ← ih]
    split
    · next hempty => rw [List.isEmpty_iff.1 hempty]; rfl
    · split
      · next hempty => rw [List.isEmpty_iff.1 hempty]; simp [exposedLines]
      · simp [exposedLines, isBroken]

/-- The comment of a method is broken at most where it gives the path. -/
theorem exposedLines_methodDocs (a : Activity) :
    exposedLines (methodDocs a) =
      exposedLines [" \x60" ++ a.method.text ++ " " ++ a.path ++ "\x60"] := by
  have hnote : exposedLines
      [if a.idempotent then " Idempotent: safe to retry."
        else " Not idempotent: retry with caution."] = [] := by
    cases a.idempotent <;> decide
  simp only [methodDocs, exposedLines_joinBlocks, List.flatMap_cons, List.flatMap_nil,
    exposedLines_docLines?, hnote, List.nil_append, List.append_nil]

/-! ## Generated files -/

/-- Two files have the same path and the same code. -/
structure Artifact.SameCode (a a' : Artifact) : Prop where
  path : a.path = a'.path
  code : codeOf a.content = codeOf a'.content

theorem Artifact.sameCode_of_lines {path path' : String} {lines lines' : Lines}
    (hpath : path = path') (h : Lines.code lines = Lines.code lines') :
    SameCode ⟨path, lines.text⟩ ⟨path', lines'.text⟩ :=
  ⟨hpath, by rw [codeOf_text, codeOf_text, h]⟩

/-- What is left of the records that the files of a blueprint are written from; each model stands
with its module. -/
structure Uncommented where
  contract : Contract
  implementation : Implementation
  models : List (String × ModelFile)
  modelsModule : ModelsModule
  rootModule : RootModule

def Uncommented.ofBlueprint (b : Blueprint) (s : Settings) : Uncommented where
  contract := (Contract.ofBlueprint b s).uncommented
  implementation := (Implementation.ofBlueprint b s).uncommented
  models := (emittedModels b).map fun m =>
    (modelModule m, (ModelFile.ofModel b.info m).uncommented)
  modelsModule := (ModelsModule.ofBlueprint b).uncommented
  rootModule := (RootModule.ofBlueprint b s).uncommented

section SameCode

variable {b b' : Blueprint} {s : Settings}
  (h : Uncommented.ofBlueprint b s = Uncommented.ofBlueprint b' s)

include h

theorem sameCode_contract :
    Artifact.SameCode (contractArtifact b s) (contractArtifact b' s) := by
  refine Artifact.sameCode_of_lines rfl ?_
  have hc : (Contract.ofBlueprint b s).uncommented = (Contract.ofBlueprint b' s).uncommented :=
    congrArg Uncommented.contract h
  rw [← Contract.code_lines, hc, Contract.code_lines]

theorem sameCode_implementation :
    Artifact.SameCode (implementationArtifact b s) (implementationArtifact b' s) := by
  refine Artifact.sameCode_of_lines rfl ?_
  have hi : (Implementation.ofBlueprint b s).uncommented =
      (Implementation.ofBlueprint b' s).uncommented := congrArg Uncommented.implementation h
  rw [← Implementation.code_lines, hi, Implementation.code_lines]

theorem sameCode_root : Artifact.SameCode (rootArtifact b s) (rootArtifact b' s) := by
  refine Artifact.sameCode_of_lines rfl ?_
  have hr : (RootModule.ofBlueprint b s).uncommented =
      (RootModule.ofBlueprint b' s).uncommented := congrArg Uncommented.rootModule h
  rw [← RootModule.code_lines, hr, RootModule.code_lines]

theorem sameCode_models :
    List.Forall₂ Artifact.SameCode (modelArtifacts b) (modelArtifacts b') := by
  have hmodels := congrArg Uncommented.models h
  have hmodule : Lines.code (ModelsModule.ofBlueprint b).lines =
      Lines.code (ModelsModule.ofBlueprint b').lines := by
    have hm : (ModelsModule.ofBlueprint b).uncommented =
        (ModelsModule.ofBlueprint b').uncommented := congrArg Uncommented.modelsModule h
    rw [← ModelsModule.code_lines, hm, ModelsModule.code_lines]
  have hempty : (emittedModels b).isEmpty = (emittedModels b').isEmpty := by
    simpa [Uncommented.ofBlueprint] using congrArg List.isEmpty hmodels
  rw [← List.forall₂_eq_eq_eq] at hmodels
  simp only [Uncommented.ofBlueprint, List.forall₂_map_left_iff, List.forall₂_map_right_iff,
    Prod.mk.injEq] at hmodels
  rw [modelArtifacts, modelArtifacts, hempty]
  split
  · exact .nil
  · refine List.rel_append ?_ (.cons (Artifact.sameCode_of_lines rfl hmodule) .nil)
    rw [List.forall₂_map_left_iff, List.forall₂_map_right_iff]
    refine hmodels.imp fun m m' ⟨hname, hfile⟩ => Artifact.sameCode_of_lines (by rw [hname]) ?_
    rw [← ModelFile.code_lines, hfile, ModelFile.code_lines]

/-- Files of blueprints that agree without their comments. -/
theorem sameCode_generate :
    List.Forall₂ Artifact.SameCode (generate b s) (generate b' s) := by
  refine List.rel_append (List.rel_append (List.rel_append ?_ ?_) ?_) ?_
  · exact .cons (sameCode_contract h) .nil
  · split
    · exact .cons (sameCode_implementation h) .nil
    · exact .nil
  · split
    · exact sameCode_models h
    · exact .nil
  · exact .cons (sameCode_root h) .nil

end SameCode

end ActivityForge.Source
