import ActivityForge.Proofs.Name.Members
import ActivityForge.Proofs.Source.ArgumentNames
import ActivityForge.Proofs.Source.Omission
import Mathlib.Data.List.Perm.Basic

/-!
# The names of members

The fields of a struct, their getters and their setters are named after the properties of a schema,
without the case and the separators of these.  Nothing more is lost behind that: a setter tells its
field, and an escaped keyword is no other name.  So the functions of a struct have different names
if and only if the forms of the properties differ, none of them is `new`, and none is the name of a
setter (`member_names_differ_iff`).  Nothing keeps properties of one form from being declared
(`spellings_share_a_member`).
-/

namespace ActivityForge

namespace Source

open Blueprint (fieldFrom modelFrom requiredKeys)

/-! ## Names of functions -/

/-- The name of a function stands before its parameters. -/
def WrittenFunction.name (f : WrittenFunction) : String :=
  String.ofList (f.signature.toList.takeWhile (· ≠ '('))

theorem WrittenFunction.name_eq {f : WrittenFunction} {name : String}
    (hsignature : name.toList ++ ['('] <+: f.signature.toList) (hname : '(' ∉ name.toList) :
    f.name = name := by
  obtain ⟨parameters, heq⟩ := hsignature
  have hall : ∀ c ∈ name.toList, decide (c ≠ '(') = true := fun c hc =>
    decide_eq_true fun hparen => hname (hparen ▸ hc)
  rw [WrittenFunction.name, ← heq, List.append_assoc, List.takeWhile_append_of_pos hall]
  simp

theorem name_constructorOf (fields : List WrittenField) : (constructorOf fields).name = "new" := by
  refine WrittenFunction.name_eq ?_ (by decide)
  rw [constructorOf, String.append_assoc, String.toList_append]
  exact List.prefix_append _ _

theorem name_getterOf {f : WrittenField} (h : '(' ∉ f.name.toList) : (getterOf f).name = f.name :=
  WrittenFunction.name_eq ⟨("&self) -> &" ++ f.type).toList, by simp [getterOf]⟩ h

theorem name_setterOf {name : String} (h : '(' ∉ name.toList) (f : WrittenField) :
    (setterOf name f).name = name :=
  WrittenFunction.name_eq
    ⟨("&mut self, " ++ f.name ++ ": " ++ f.type ++ ")").toList, by simp [setterOf]⟩ h

/-! ## Names of setters -/

theorem setterName_memberName (text : String) :
    setterName (memberName text) = "set_" ++ String.ofList (Name.memberStem text) := by
  rw [setterName, Name.memberName_eq, String.toList_ofList,
    Name.dropWhile_guardReserved (Name.head?_memberStem_ne_underscore text)]

/-- A setter tells its field. -/
theorem setterName_memberName_inj {s t : String} :
    setterName (memberName s) = setterName (memberName t) ↔ memberName s = memberName t := by
  refine ⟨fun h => ?_, congrArg setterName⟩
  rw [setterName_memberName, setterName_memberName, String.append_right_inj] at h
  rw [Name.memberName_eq, Name.memberName_eq, String.ofList_injective h]

theorem not_mem_setterName {c : Char} (hc : Name.isNameChar c = false) (text : String) :
    c ∉ (setterName (memberName text)).toList := by
  rw [setterName, String.toList_append, List.mem_append, not_or]
  constructor
  · intro hset
    have hname : "set_".toList.all Name.isNameChar = true := by decide
    rw [List.all_eq_true.1 hname c hset] at hc
    cases hc
  · intro hmem
    rw [String.toList_ofList] at hmem
    exact Name.not_mem_memberName hc text ((List.dropWhile_sublist _).subset hmem)

theorem setterName_not_mem_rawKeywords (field : String) : setterName field ∉ rawKeywords := by
  have hkeywords : rawKeywords.all (fun keyword => !keyword.toList.contains '_') = true := by
    decide +kernel
  intro h
  have hplain := List.all_eq_true.1 hkeywords _ h
  simp [setterName] at hplain

/-- An escaped keyword is none of the names that need no escape. -/
theorem escapeKeyword_eq_iff {s t : String} (hhash : '#' ∉ t.toList) (ht : t ∉ rawKeywords) :
    escapeKeyword s = t ↔ s = t := by
  unfold escapeKeyword
  split
  · next hs =>
    have hne : "r#" ++ s ≠ t := by
      rintro rfl
      exact hhash (by simp)
    have hst : s ≠ t := by
      rintro rfl
      exact ht (List.contains_iff_mem.1 hs)
    exact iff_of_false hne hst
  · exact Iff.rfl

/-! ## Names of members -/

section Names

/-- The names of fields and of their getters, for properties with the names `properties`. -/
def fieldNames (properties : List String) : List String :=
  properties.map fun p => escapeKeyword (formOf p)

def setterNames (properties : List String) : List String :=
  properties.map fun p => setterName (formOf p)

/-- The constructor, and a getter and a setter for each property. -/
def functionNames (properties : List String) : List String :=
  "new" :: properties.flatMap fun p => [escapeKeyword (formOf p), setterName (formOf p)]

/-- Properties whose fields and functions have different names. -/
structure MembersDiffer (properties : List String) : Prop where
  forms : (properties.map formOf).Nodup
  notNew : ∀ p ∈ properties, formOf p ≠ "new"
  notSetter : ∀ p ∈ properties, ∀ q ∈ properties, formOf p ≠ setterName (formOf q)

theorem nodup_map_iff_of_same {α β γ : Type} {f : α → β} {g : α → γ}
    (h : ∀ a b, f a = f b ↔ g a = g b) (as : List α) : (as.map f).Nodup ↔ (as.map g).Nodup := by
  simp only [List.Nodup, List.pairwise_map, ne_eq, h]

variable (properties : List String)

theorem nodup_fieldNames_iff : (fieldNames properties).Nodup ↔ (properties.map formOf).Nodup :=
  nodup_map_iff_of_same (fun _ _ => identifier_eq_iff) properties

theorem nodup_setterNames_iff : (setterNames properties).Nodup ↔ (properties.map formOf).Nodup :=
  nodup_map_iff_of_same (fun _ _ => setterName_memberName_inj) properties

theorem functionNames_perm : (functionNames properties).Perm
    ("new" :: (fieldNames properties ++ setterNames properties)) := by
  have hpairs := List.map_append_flatMap_perm properties (fun p => escapeKeyword (formOf p))
    fun p => [setterName (formOf p)]
  rw [← List.map_eq_flatMap] at hpairs
  exact hpairs.symm.cons "new"

theorem new_not_mem_iff : "new" ∉ fieldNames properties ++ setterNames properties ↔
    ∀ p ∈ properties, formOf p ≠ "new" := by
  have hgetter (p : String) : escapeKeyword (formOf p) = "new" ↔ formOf p = "new" :=
    escapeKeyword_eq_iff (by decide) (by decide)
  have hsetter (p : String) : setterName (formOf p) ≠ "new" := fun h => by
    have hfirst := congrArg (fun s : String => s.toList.head?) h
    simp [setterName] at hfirst
  simp [fieldNames, setterNames, hgetter, hsetter]

theorem fieldName_ne_setterName_iff :
    (∀ field ∈ fieldNames properties, ∀ setter ∈ setterNames properties, field ≠ setter) ↔
      ∀ p ∈ properties, ∀ q ∈ properties, formOf p ≠ setterName (formOf q) := by
  have hescaped (p q : String) : escapeKeyword (formOf p) = setterName (formOf q) ↔
      formOf p = setterName (formOf q) :=
    escapeKeyword_eq_iff (not_mem_setterName (by decide) _) (setterName_not_mem_rawKeywords _)
  simp only [fieldNames, setterNames, List.forall_mem_map, ne_eq, hescaped]

theorem nodup_functionNames_iff : (functionNames properties).Nodup ↔ MembersDiffer properties := by
  -- Getters and setters take turns; apart from each other they differ if the forms do.
  rw [(functionNames_perm properties).nodup_iff, List.nodup_cons, List.nodup_append,
    new_not_mem_iff, nodup_fieldNames_iff, nodup_setterNames_iff, fieldName_ne_setterName_iff]
  exact ⟨fun ⟨hnotNew, hforms, _, hnotSetter⟩ => ⟨hforms, hnotNew, hnotSetter⟩,
    fun h => ⟨h.notNew, h.forms, h.forms, h.notSetter⟩⟩

end Names

/-! ## Models of a document -/

/-- The names of the properties of a component schema. -/
def propertyNames (component : String × Document.Schema) : List String :=
  component.2.properties.map Prod.fst

theorem WrittenField.name_ofField (model : String) (f : Model.Field) :
    (WrittenField.ofField model f).name = identifier f.fieldName := by
  rw [WrittenField.ofField]

theorem name_accessorsOf (model : String) (f : Model.Field) :
    (accessorsOf f (.ofField model f)).map WrittenFunction.name =
      [identifier f.fieldName, setterName (memberName f.fieldName)] := by
  have hfield : '(' ∉ (WrittenField.ofField model f).name.toList := by
    rw [WrittenField.name_ofField]
    exact not_mem_identifier (by decide) (by decide) _
  have hsetter : '(' ∉ (setterName (memberName f.fieldName)).toList :=
    not_mem_setterName (by decide) _
  rw [accessorsOf, List.map_cons, List.map_singleton, name_getterOf hfield, name_setterOf hsetter,
    WrittenField.name_ofField]

/-- The names of the members in the file of a component schema. -/
theorem members_modelFrom (info : Document.Info) (scope : String)
    (component : String × Document.Schema) : ∃ fields functions,
      fieldsOf? (modelSource info (modelFrom scope component)).lines = some fields ∧
      functionsOf? (modelSource info (modelFrom scope component)).lines = some functions ∧
      fields.map WrittenField.name = fieldNames (propertyNames component) ∧
      functions.map WrittenFunction.name = functionNames (propertyNames component) := by
  have hfield (property : String × Document.Schema) :
      memberName (fieldFrom scope (requiredKeys component.2) property).fieldName =
        formOf property.1 := by
    rw [fieldFrom, formOf]
  refine ⟨_, _, fieldsOf?_modelFile info _, functionsOf?_modelFile info _, ?_, ?_⟩
  · simp only [Blueprint.fields_modelFrom, List.map_map, fieldNames, propertyNames,
      Function.comp_def, WrittenField.name_ofField, identifier, hfield]
  · simp only [List.map_cons, name_constructorOf, List.map_flatMap, name_accessorsOf, identifier,
      Blueprint.fields_modelFrom, List.flatMap_map, hfield, functionNames, propertyNames]

variable {d : Document} {o : Options} {b : Blueprint}

/-- In the file of every schema with properties, the fields have different names if and only if the
properties have different forms, and the functions if and only if moreover no form is the name of
the constructor or of a setter. -/
theorem member_names_differ_iff (h : (Blueprint.ofDocument d o).result = .ok b) :
    List.Forall₂ (fun component file => ∃ fields functions,
        fieldsOf? file.lines = some fields ∧ functionsOf? file.lines = some functions ∧
        ((fields.map WrittenField.name).Nodup ↔ ((propertyNames component).map formOf).Nodup) ∧
        ((functions.map WrittenFunction.name).Nodup ↔ MembersDiffer (propertyNames component)))
      d.structured (modelSources b) := by
  rw [modelSources, emittedModels_eq h, List.map_map, List.forall₂_map_right_iff, List.forall₂_same]
  intro component _
  obtain ⟨fields, functions, hfields, hfunctions, hfieldNames, hfunctionNames⟩ :=
    members_modelFrom b.info o.modelScope component
  refine ⟨fields, functions, hfields, hfunctions, ?_, ?_⟩
  · rw [hfieldNames, nodup_fieldNames_iff]
  · rw [hfunctionNames, nodup_functionNames_iff]

theorem awkward_member_names : ∃ b,
    (Blueprint.ofDocument awkwardNames ⟨"models", true⟩).result = .ok b ∧
      List.Forall₂ (fun component file => ∃ fields functions,
          fieldsOf? file.lines = some fields ∧ functionsOf? file.lines = some functions ∧
          ((fields.map WrittenField.name).Nodup ↔ ((propertyNames component).map formOf).Nodup) ∧
          ((functions.map WrittenFunction.name).Nodup ↔ MembersDiffer (propertyNames component)))
        awkwardNames.structured (modelSources b) := by
  obtain ⟨b, h⟩ := exists_eq_ok_of_isOk
    (x := (Blueprint.ofDocument awkwardNames ⟨"models", true⟩).result) (by decide)
  exact ⟨b, h, member_names_differ_iff h⟩

/-- A schema with properties that differ in how they are spelled. -/
def spellings : Document where
  format := "3.0.3"
  info := ⟨"Spellings", none, "1"⟩
  paths := []
  components := some ⟨[pet], [], [], []⟩
where
  text : Document.Schema :=
    .inline ⟨some (.single "string"), none, none, none, [], [], none, none⟩
  pet : String × Document.Schema :=
    ("Pet", .inline ⟨some (.single "object"), none, none, none,
      [("petId", text), ("pet-id", text)], [], none, none⟩)

/-- Properties with different names share a field, a getter and a setter. -/
theorem spellings_share_a_member :
    ¬ ∀ (d : Document) (o : Options) (b : Blueprint), (Blueprint.ofDocument d o).result = .ok b →
      ∀ file ∈ modelSources b, ∀ fields functions, fieldsOf? file.lines = some fields →
        functionsOf? file.lines = some functions →
          (fields.map WrittenField.name).Nodup ∧ (functions.map WrittenFunction.name).Nodup := by
  intro hall
  obtain ⟨b, h⟩ := exists_eq_ok_of_isOk
    (x := (Blueprint.ofDocument spellings ⟨"models", true⟩).result) (by decide)
  have hpet : spellings.pet ∈ spellings.structured :=
    List.mem_filter.2 ⟨List.mem_singleton_self _, rfl⟩
  have hfile : modelSource b.info (modelFrom "models" spellings.pet) ∈ modelSources b := by
    rw [modelSources, emittedModels_eq h]
    exact List.mem_map_of_mem (List.mem_map_of_mem hpet)
  obtain ⟨fields, functions, hfields, hfunctions, hnames, -⟩ :=
    members_modelFrom b.info "models" spellings.pet
  obtain ⟨hnodup, -⟩ := hall _ _ b h _ hfile fields functions hfields hfunctions
  rw [hnames, nodup_fieldNames_iff] at hnodup
  exact absurd hnodup (by decide +kernel)

end Source

end ActivityForge
