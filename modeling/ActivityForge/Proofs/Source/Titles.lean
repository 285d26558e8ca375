import ActivityForge.Proofs.Source.Uncommented

/-!
# Titles, versions and paths stay in comments, unless they are broken

The title and the version of a document and the paths of its operations are put into comment lines
as they are.  Without line feeds in them nothing is left of them when comments are taken out of the
generated files, and blueprints that differ in them only are generated into files with the same
paths and the same code (`titles_stay_in_comments`).  A line feed in a title lets the rest of it out
of the comment (`broken_title_adds_code`).
-/

namespace ActivityForge

namespace Blueprint

/-- The blueprint without its title, its version and the paths of its activities. -/
def untitled (b : Blueprint) : Blueprint :=
  { b with
    info := { b.info with title := "", version := "" }
    activities := b.activities.map fun a => { a with path := "" } }

/-- The title, the version and the paths have no line feeds in them. -/
structure Unbroken (b : Blueprint) : Prop where
  title : Source.isBroken b.info.title = false
  version : Source.isBroken b.info.version = false
  paths : ∀ a ∈ b.activities, Source.isBroken a.path = false

end Blueprint

namespace Source

/-! ## What is left of the files -/

theorem isBroken_around_two {first second third : String} (hfirst : isBroken first = false)
    (hsecond : isBroken second = false) (hthird : isBroken third = false) (text text' : String) :
    isBroken (first ++ text ++ second ++ text' ++ third) = (isBroken text || isBroken text') := by
  simp only [isBroken_append, hfirst, hsecond, hthird, Bool.false_or, Bool.or_false]

theorem isBroken_headerLine (info : Document.Info) :
    isBroken (headerLine info) = (isBroken info.title || isBroken info.version) :=
  isBroken_around_two (by simp [isBroken]) (by decide) (by simp [isBroken]) _ _

theorem isBroken_headerLine_eq_false {info : Document.Info} (htitle : isBroken info.title = false)
    (hversion : isBroken info.version = false) : isBroken (headerLine info) = false := by
  rw [isBroken_headerLine, htitle, hversion]
  rfl

theorem isBroken_pathLine (a : Activity) :
    isBroken (" \x60" ++ a.method.text ++ " " ++ a.path ++ "\x60") = isBroken a.path := by
  have hmethod : isBroken a.method.text = false := by cases a.method <;> decide
  rw [isBroken_around_two (by decide) (by decide) (by decide), hmethod, Bool.false_or]

theorem exposed_of_not_isBroken {text : String} (h : isBroken text = false) : exposed text = "" :=
  if_neg (by simp [h])

theorem exposedLines_methodDocs_eq_nil {a : Activity} (h : isBroken a.path = false) :
    exposedLines (methodDocs a) = [] := by
  rw [exposedLines_methodDocs, exposedLines, List.filter_singleton, isBroken_pathLine, h]
  rfl

section Untitled

variable {b : Blueprint} (hb : b.Unbroken)

include hb

/-- The headers of the files. -/
theorem exposed_header_untitled :
    exposed (headerLine b.untitled.info) = exposed (headerLine b.info) := by
  rw [exposed_of_not_isBroken (isBroken_headerLine_eq_false hb.title hb.version)]
  exact exposed_of_not_isBroken (isBroken_headerLine_eq_false rfl rfl)

theorem Contract.uncommented_untitled (s : Settings) :
    (Contract.ofBlueprint b.untitled s).uncommented = (Contract.ofBlueprint b s).uncommented := by
  have htitle : exposed b.untitled.info.title = exposed b.info.title := by
    rw [exposed_of_not_isBroken hb.title]
    rfl
  have hdeclarations :
      b.untitled.activities.map (Declaration.uncommented ∘ Declaration.ofActivity) =
        b.activities.map (Declaration.uncommented ∘ Declaration.ofActivity) := by
    rw [Blueprint.untitled, List.map_map]
    refine List.map_congr_left fun a ha => ?_
    have hdocs := exposedLines_methodDocs_eq_nil (hb.paths a ha)
    have hdocs' : exposedLines (methodDocs { a with path := "" }) = [] :=
      exposedLines_methodDocs_eq_nil rfl
    simp only [Function.comp_apply, Declaration.uncommented, Declaration.ofActivity, hdocs, hdocs']
    rfl
  have hrequests : (b.untitled.activities.filter Activity.usesRequest).map Request.ofActivity =
      (b.activities.filter Activity.usesRequest).map Request.ofActivity := by
    rw [Blueprint.untitled, List.filter_map, List.map_map]
    rfl
  simp only [uncommented, ofBlueprint, List.map_map, hdeclarations, exposed_header_untitled hb,
    htitle, hrequests]
  rfl

theorem Uncommented.ofBlueprint_untitled (s : Settings) :
    ofBlueprint b.untitled s = ofBlueprint b s := by
  have hheader := exposed_header_untitled hb
  have himplementation : (Implementation.ofBlueprint b.untitled s).uncommented =
      (Implementation.ofBlueprint b s).uncommented := by
    have hactivities : b.untitled.activities = b.activities.map fun a => { a with path := "" } :=
      rfl
    simp only [Implementation.uncommented, Implementation.ofBlueprint, contractImports, hheader,
      hactivities, List.any_map, List.map_map]
    rfl
  have hmodel (m : Model) : (ModelFile.ofModel b.untitled.info m).uncommented =
      (ModelFile.ofModel b.info m).uncommented := by
    simp only [ModelFile.uncommented, ModelFile.ofModel, hheader]
  have hmodules : (ModelsModule.ofBlueprint b.untitled).uncommented =
      (ModelsModule.ofBlueprint b).uncommented := by
    simp only [ModelsModule.uncommented, ModelsModule.ofBlueprint, hheader]
    rfl
  have hroot : (RootModule.ofBlueprint b.untitled s).uncommented =
      (RootModule.ofBlueprint b s).uncommented := by
    simp only [RootModule.uncommented, RootModule.ofBlueprint, hheader]
    rfl
  rw [ofBlueprint, Contract.uncommented_untitled hb, himplementation, hmodules, hroot]
  simp only [hmodel]
  rfl

end Untitled

/-! ## The files -/

/-- Whatever stands in the titles, versions and paths of two blueprints that are the same without
them, it gets into no path and into no line of code of the generated files, if there are no line
feeds in it. -/
theorem titles_stay_in_comments {b b' : Blueprint} (h : b.untitled = b'.untitled)
    (hb : b.Unbroken) (hb' : b'.Unbroken) (s : Settings) :
    List.Forall₂ Artifact.SameCode (generate b s) (generate b' s) := by
  refine sameCode_generate ?_
  rw [← Uncommented.ofBlueprint_untitled hb, h, Uncommented.ofBlueprint_untitled hb']

/-- A blueprint with one activity. -/
def titledPets (title version path : String) : Blueprint where
  info := ⟨title, none, version⟩
  activities := [{
    name := Name.ofText "listPets"
    method := .get
    path := path
    summary := none
    description := none
    tags := []
    parameters := []
    body := none
    response := ⟨"204", none, []⟩
    idempotent := true
    retryPolicy := .ofIdempotency true
    deprecated := false }]
  models := []

theorem untitled_titledPets (title version path : String) :
    (titledPets title version path).untitled = (titledPets "" "" "").untitled := rfl

theorem unbroken_titledPets {title version path : String} (htitle : isBroken title = false)
    (hversion : isBroken version = false) (hpath : isBroken path = false) :
    (titledPets title version path).Unbroken :=
  ⟨htitle, hversion, fun a ha => by rwa [List.mem_singleton.1 ha]⟩

theorem hostile_titles_stay :
    (titledPets "*/ fn a() \x7b\x7d" "1.0\r" "/pets/\x7bid\x7d").untitled =
        (titledPets "" "" "").untitled ∧
      (titledPets "*/ fn a() \x7b\x7d" "1.0\r" "/pets/\x7bid\x7d").Unbroken ∧
      (titledPets "" "" "").Unbroken ∧
      List.Forall₂ Artifact.SameCode
        (generate (titledPets "*/ fn a() \x7b\x7d" "1.0\r" "/pets/\x7bid\x7d") .default)
        (generate (titledPets "" "" "") .default) := by
  have hhostile : (titledPets "*/ fn a() \x7b\x7d" "1.0\r" "/pets/\x7bid\x7d").Unbroken :=
    unbroken_titledPets (by decide) (by decide) (by decide)
  have hempty : (titledPets "" "" "").Unbroken :=
    unbroken_titledPets (by decide) (by decide) (by decide)
  exact ⟨untitled_titledPets _ _ _, hhostile, hempty,
    titles_stay_in_comments (untitled_titledPets _ _ _) hhostile hempty .default⟩

/-- Settings for a contract and nothing else. -/
def contractOnly : Settings :=
  { Settings.default with generateImplementation := false, generateModels := false }

/-- A line feed in a title puts what stands behind it into every file as a line of code. -/
theorem broken_title_adds_code :
    ¬ ∀ (b b' : Blueprint) (s : Settings), b.untitled = b'.untitled →
      List.Forall₂ Artifact.SameCode (generate b s) (generate b' s) := by
  intro hall
  have hfiles : List.Forall₂ Artifact.SameCode
      [contractArtifact (titledPets "T\nfn f() \x7b\x7d" "1" "/pets") contractOnly,
        rootArtifact (titledPets "T\nfn f() \x7b\x7d" "1" "/pets") contractOnly]
      [contractArtifact (titledPets "T" "1" "/pets") contractOnly,
        rootArtifact (titledPets "T" "1" "/pets") contractOnly] :=
    hall _ _ _ ((untitled_titledPets _ _ _).trans (untitled_titledPets _ _ _).symm)
  rw [List.forall₂_cons, List.forall₂_cons] at hfiles
  obtain ⟨-, hroot, -⟩ := hfiles
  have hcode := hroot.code
  simp only [rootArtifact, codeOf_text] at hcode
  exact absurd hcode (by decide +kernel)

end Source

end ActivityForge
