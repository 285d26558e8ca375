import ActivityForge.Proofs.Name.Legal
import ActivityForge.Proofs.Source.MemberNames
import ActivityForge.Proofs.Source.WireNames

/-!
# Legal names in the generated files

The methods of the contract, the arguments that they take, the constants with their options and the
members of structs are named after the document.  Where the name in the document is ASCII, the name
in the generated file is an identifier (`ascii_names_are_legal`).
-/

namespace ActivityForge.Source

open Activity (Argument Settles forms)
open Document (Endpoint)
open Name (LegalForms)

/-- The identifier that a document gives to an operation is ASCII, if it gives one. -/
def AsciiOperation (e : Endpoint) : Prop :=
  ∀ id, e.operation.operationId = some id → IsAsciiText id

/-- The names in the generated files that come from ASCII names of the document are identifiers. -/
structure LegalNames (d : Document) (b : Blueprint) (s : Settings) : Prop where
  methods : List.Forall₂ (fun e (method : Method) => AsciiOperation e → IsIdentifier method.name)
    d.endpoints (traitMethods (Contract.ofBlueprint b s).lines)
  /-- The constants, and those that the contract has for its implementations. -/
  constants : List.Forall₂
    (fun e (constant : String × RetryPolicy) => AsciiOperation e →
      IsIdentifier constant.1 ∧ IsIdentifier (constant.1 ++ "_OPTIONS"))
    d.endpoints (optionConstants (Contract.ofBlueprint b s).lines)
  /-- The parameters of a method, or the fields of its request object. -/
  arguments : ∀ a ∈ b.activities,
    List.Forall₂ (fun (arg : Argument) name => IsAsciiText arg.originalName → IsIdentifier name)
      a.arguments (declaredNames a)
  /-- The fields of a struct, and its getters and setters. -/
  members : List.Forall₂
    (fun component file => ∃ fields functions,
      fieldsOf? file.lines = some fields ∧ functionsOf? file.lines = some functions ∧
      fields.map WrittenField.name = fieldNames (propertyNames component) ∧
      functions.map WrittenFunction.name = functionNames (propertyNames component) ∧
      ∀ p ∈ propertyNames component, IsAsciiText p →
        IsIdentifier (escapeKeyword (formOf p)) ∧ IsIdentifier (setterName (formOf p)))
    d.structured (modelSources b)

variable {d : Document} {o : Options} {b : Blueprint}

/-! ## Names of activities -/

theorem asciiName_of_settles {earlier : List String} {draft a : Activity}
    (hname : AsciiName draft.name) (h : Settles earlier draft a) : AsciiName a.name := by
  by_cases htaken : draft.name.snake ∈ earlier
  · obtain ⟨n, -, heq⟩ := h.renamed htaken
    rw [heq]
    exact hname.numbered n
  · rw [h.kept.2 htaken]
    exact hname

/-- Whatever becomes of its name, an operation with an ASCII name gets an ASCII name. -/
theorem asciiName_of_operation (h : (Blueprint.ofDocument d o).result = .ok b) :
    List.Forall₂ (fun e a => AsciiOperation e → AsciiName a.name) d.endpoints b.activities := by
  refine List.forall₂_iff_get.2 ⟨(length_activities h).symm, fun i hi hi' hascii => ?_⟩
  obtain ⟨draft, hdescribes, hsettles⟩ :=
    exists_settles h (List.getElem?_eq_getElem hi) (List.getElem?_eq_getElem hi')
  exact asciiName_of_settles ⟨hdescribes.name, hdescribes.identifier.isAscii hascii⟩ hsettles

/-- Of an activity with an ASCII name, the method and the constants. -/
theorem isIdentifier_of_asciiName {a : Activity} (h : AsciiName a.name) :
    IsIdentifier a.methodName ∧ IsIdentifier a.name.screaming ∧
      IsIdentifier (a.name.screaming ++ "_OPTIONS") := by
  have hsnake : IsAsciiText a.name.snake := by
    rw [h.eq_ofText]
    exact Name.isAsciiText_snake h.ascii
  have hscreaming : IsWord Char.isUpper a.name.screaming := by
    rw [h.eq_ofText]
    exact Name.isWord_screaming h.ascii
  have hoptions : ∀ c ∈ "_OPTIONS".toList, c.isUpper = true ∨ c.isDigit = true ∨ c = '_' :=
    Name.chars_of_all (by decide)
  exact ⟨(Name.legalForms_of_ascii hsnake).isIdentifier, Name.isIdentifier_of_isUpper hscreaming,
    Name.isIdentifier_of_isUpper (Name.isWord_append hscreaming hoptions (by decide))⟩

/-! ## Names of arguments and members -/

/-- The form of an ASCII name as a member, and its setter. -/
theorem isIdentifier_of_formOf {p : String} (h : IsAsciiText p) :
    IsIdentifier (escapeKeyword (formOf p)) ∧ IsIdentifier (setterName (formOf p)) := by
  have hfield : IsAsciiText (Name.fieldText p) := Name.isAsciiText_fieldText h
  refine ⟨(Name.legalForms_of_ascii hfield).isIdentifier, ?_⟩
  have hset : IsWord Char.isAlpha "set_" :=
    ⟨Name.chars_of_all (by decide), ⟨'s', rfl, rfl⟩, by decide⟩
  have hstem : ∀ c ∈ (String.ofList (Name.memberStem (Name.fieldText p))).toList,
      c.isAlpha = true ∨ c.isDigit = true ∨ c = '_' := by
    rw [String.toList_ofList]
    exact fun c hc => (Name.isLower_of_mem_memberStem hfield hc).imp_left (isAlpha_of_isLower c)
  have hne : String.ofList (Name.memberStem (Name.fieldText p)) ≠ "" := by
    simpa using Name.memberStem_ne_nil (Name.fieldText p)
  rw [formOf, setterName_memberName]
  exact Name.isIdentifier_of_underscore (Name.isWord_append hset hstem hne) (by simp)

/-- An argument is named after its parameter, or is the body. -/
theorem isIdentifier_of_argument (h : (Blueprint.ofDocument d o).result = .ok b) {a : Activity}
    (ha : a ∈ b.activities) {arg : Argument} (harg : arg ∈ a.arguments)
    (hascii : IsAsciiText arg.originalName) : IsIdentifier (identifier arg.fieldName) := by
  obtain ⟨e, -, hmerges⟩ := exists_mem_of_forall₂ (Blueprint.merges_of_ofDocument h) ha
  rcases List.mem_append.1 harg with hp | hbody
  · obtain ⟨p, hmem, rfl⟩ := List.mem_map.1 hp
    have hfield : p.fieldName = Name.fieldText p.originalName := fieldName_of_merges hmerges p hmem
    show IsIdentifier (identifier p.fieldName)
    rw [hfield]
    exact (isIdentifier_of_formOf hascii).1
  · obtain ⟨type, -, rfl⟩ := Option.map_eq_some_iff.1 (Option.mem_toList.1 hbody)
    exact (Name.legalForms_of_ascii hascii).isIdentifier

theorem legalNames_of_ofDocument (h : (Blueprint.ofDocument d o).result = .ok b) (s : Settings) :
    LegalNames d b s where
  methods := by
    have hmethods := methods_ofBlueprint (b := b) s
    rw [← List.forall₂_map_right_iff (f := Method.name)
      (R := fun e name => AsciiOperation e → IsIdentifier name), hmethods,
      List.forall₂_map_right_iff]
    exact (asciiName_of_operation h).imp fun _ _ hname hascii =>
      (isIdentifier_of_asciiName (hname hascii)).1
  constants := by
    rw [optionConstants_ofBlueprint, List.forall₂_map_right_iff]
    exact (asciiName_of_operation h).imp fun _ _ hname hascii =>
      (isIdentifier_of_asciiName (hname hascii)).2
  arguments a ha := by
    rw [declaredNames_eq, argumentNames, List.forall₂_map_right_iff, List.forall₂_same]
    exact fun arg harg => isIdentifier_of_argument h ha harg
  members := by
    rw [modelSources, emittedModels_eq h, List.map_map, List.forall₂_map_right_iff,
      List.forall₂_same]
    intro component _
    obtain ⟨fields, functions, hfields, hfunctions, hfieldNames, hfunctionNames⟩ :=
      members_modelFrom b.info o.modelScope component
    exact ⟨fields, functions, hfields, hfunctions, hfieldNames, hfunctionNames,
      fun p _ => isIdentifier_of_formOf⟩

/-- An ASCII name has legal forms, and wherever one of a document gets into the generated files, it
is an identifier there. -/
theorem ascii_names_are_legal :
    (∀ name, IsAsciiText name → LegalForms name) ∧
      ∀ (d : Document) (o : Options) (b : Blueprint) (s : Settings),
        (Blueprint.ofDocument d o).result = .ok b → LegalNames d b s :=
  ⟨fun _ => Name.legalForms_of_ascii, fun _ _ _ s h => legalNames_of_ofDocument h s⟩

/-- A path keyword as a name, and operations that have it as their identifiers. -/
theorem keywords_are_legal : IsAsciiText "Self" ∧ LegalForms "Self" ∧ ∃ b,
    (Blueprint.ofDocument homonyms ⟨"models", true⟩).result = .ok b ∧
      LegalNames homonyms b .default := by
  have hself : IsAsciiText "Self" := List.all_eq_true.1 (by decide)
  obtain ⟨b, h⟩ := exists_eq_ok_of_isOk
    (x := (Blueprint.ofDocument homonyms ⟨"models", true⟩).result) (by decide)
  exact ⟨hself, ascii_names_are_legal.1 _ hself, b, h,
    ascii_names_are_legal.2 _ _ b .default h⟩

end ActivityForge.Source
