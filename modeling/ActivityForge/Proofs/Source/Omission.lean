import ActivityForge.Proofs.Source.ModelFiles

/-!
# Fields that are left out

The field of a property that is not required is left out on the wire when it has no value.  The same
is done with the field of a required property if its schema allows `null`, or if it is a reference
to the enclosing schema (`omitted_fields`).  For a reference to the enclosing schema there is no
other way, as a value has to end somewhere; a property that is required to be there, if only as
`null`, is lost (`required_null_is_omitted`).
-/

namespace ActivityForge.Source

open Blueprint (fieldFrom modelFrom requiredKeys)
open Document (Schema)

/-- A property of a component schema is a reference to that schema, by the name of its struct. -/
def RefersToItself (component property : String × Schema) : Prop :=
  ∃ target, property.2 = .ref target ∧
    DataType.referencedName target = (Name.ofText component.1).pascal

/-- The struct in a file has a field for every property of a component schema, in their order. -/
def FieldByField (R : String × Schema → WrittenField → Prop) (component : String × Schema)
    (file : SourceFile) : Prop :=
  ∃ fields, fieldsOf? file.lines = some fields ∧ List.Forall₂ R component.2.properties fields

/-- When the field of a property is left out. -/
structure Omits (component property : String × Schema) (w : WrittenField) : Prop where
  wireName : w.wireName = property.1
  skipped_iff : w.skipped = true ↔ property.1 ∉ requiredKeys component.2 ∨
    DataType.allowsNull property.2 = true ∨ RefersToItself component property

theorem fieldByField_iff {R : String × Schema → WrittenField → Prop} (info : Document.Info)
    (scope : String) (component : String × Schema) :
    FieldByField R component (modelSource info (modelFrom scope component)) ↔
      ∀ property ∈ component.2.properties, R property
        (.ofField (Name.ofText component.1).pascal
          (fieldFrom scope (requiredKeys component.2) property)) := by
  unfold FieldByField modelSource
  rw [fieldsOf?_modelFile, Blueprint.name_modelFrom, Blueprint.fields_modelFrom, List.map_map]
  simp only [Option.some.injEq, exists_eq_left', List.forall₂_map_right_iff, List.forall₂_same,
    Function.comp_apply]

variable {d : Document} {o : Options} {b : Blueprint}

/-- What holds of the fields in the files of a document is what holds of the fields that the
properties become. -/
theorem forall₂_modelSources_iff {R : String × Schema → String × Schema → WrittenField → Prop}
    (h : (Blueprint.ofDocument d o).result = .ok b) :
    List.Forall₂ (fun component => FieldByField (R component) component) d.structured
        (modelSources b) ↔
      ∀ component ∈ d.structured, ∀ property ∈ component.2.properties, R component property
        (.ofField (Name.ofText component.1).pascal
          (fieldFrom o.modelScope (requiredKeys component.2) property)) := by
  rw [modelSources, emittedModels_eq h, List.map_map, List.forall₂_map_right_iff, List.forall₂_same]
  simp only [Function.comp_apply, fieldByField_iff]

theorem skipped_ofField_iff (scope : String) (component property : String × Schema) :
    (WrittenField.ofField (Name.ofText component.1).pascal
        (fieldFrom scope (requiredKeys component.2) property)).skipped = true ↔
      property.1 ∉ requiredKeys component.2 ∨ DataType.allowsNull property.2 = true ∨
        RefersToItself component property := by
  show (DataType.ofField scope (some property.2)
    ((requiredKeys component.2).contains property.1)).isOptionalField _ = true ↔ _
  rw [DataType.isOptionalField_ofField_iff, List.contains_eq_mem, decide_eq_false_iff_not]
  rfl

/-- A field is left out when it has no value if and only if its property is not required, allows
`null`, or is a reference to the enclosing schema. -/
theorem omitted_fields (h : (Blueprint.ofDocument d o).result = .ok b) :
    List.Forall₂ (fun component => FieldByField (Omits component) component) d.structured
      (modelSources b) :=
  (forall₂_modelSources_iff h).2 fun component _ property _ =>
    ⟨rfl, skipped_ofField_iff o.modelScope component property⟩

/-- A schema that requires a property which may be `null`. -/
def nullableRequired : Document where
  format := "3.0.3"
  info := ⟨"Nullable", none, "1"⟩
  paths := []
  components := some ⟨[pet], [], [], []⟩
where
  tag : String × Schema :=
    ("tag", .inline ⟨some (.single "string"), none, none, some true, [], [], none, none⟩)
  pet : String × Schema :=
    ("Pet", .inline ⟨some (.single "object"), none, none, none, [tag], ["tag"], none, none⟩)

theorem nullable_required_omitted : ∃ b,
    (Blueprint.ofDocument nullableRequired ⟨"models", true⟩).result = .ok b ∧
      List.Forall₂ (fun component => FieldByField (Omits component) component)
        nullableRequired.structured (modelSources b) := by
  obtain ⟨b, h⟩ := exists_eq_ok_of_isOk
    (x := (Blueprint.ofDocument nullableRequired ⟨"models", true⟩).result) (by decide)
  exact ⟨b, h, omitted_fields h⟩

/-- A required property is left out although it is no reference to the enclosing schema. -/
theorem required_null_is_omitted :
    ¬ ∀ (d : Document) (o : Options) (b : Blueprint), (Blueprint.ofDocument d o).result = .ok b →
      List.Forall₂ (fun component => FieldByField (fun property w =>
          property.1 ∈ requiredKeys component.2 → ¬ RefersToItself component property →
            w.skipped = false) component)
        d.structured (modelSources b) := by
  intro hall
  obtain ⟨b, h⟩ := exists_eq_ok_of_isOk
    (x := (Blueprint.ofDocument nullableRequired ⟨"models", true⟩).result) (by decide)
  have hpet : nullableRequired.pet ∈ nullableRequired.structured :=
    List.mem_filter.2 ⟨List.mem_singleton_self _, rfl⟩
  have htag : nullableRequired.tag ∈ nullableRequired.pet.2.properties :=
    List.mem_singleton_self _
  have hself : ¬ RefersToItself nullableRequired.pet nullableRequired.tag := by
    rintro ⟨target, href, -⟩
    cases href
  have hkept := (forall₂_modelSources_iff h).1 (hall _ _ b h) _ hpet _ htag (by decide) hself
  have hskipped := (skipped_ofField_iff "models" nullableRequired.pet nullableRequired.tag).2
    (Or.inr (Or.inl (by decide)))
  exact Bool.false_ne_true (hkept.symm.trans hskipped)

end ActivityForge.Source
