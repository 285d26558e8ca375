import ActivityForge.Proofs.DataType.Layers

/-!
# Optional fields

A field is optional if its type is nullable or a reference to the enclosing model.  An optional
field is written as an `Option` (`exists_option_of_isOptionalField`), and no other field of a
property is, unless the module of the models has an angle bracket in its name
(`isOptionalField_of_option`).  Whether the field of a property is optional depends on whether the
property is required only as far as the schema does not make it so (`isOptionalField_ofField_iff`).
-/

namespace ActivityForge.DataType

open Document (Schema)

variable {scope enclosing : String}

theorem isNullable_iff {t : DataType} : t.isNullable = true ↔ ∃ inner, t = .nullable inner := by
  cases t <;> simp [isNullable]

theorem isOptionalField_iff {t : DataType} : t.isOptionalField enclosing = true ↔
    (∃ inner, t = .nullable inner) ∨ ∃ ns, t = .ref ns enclosing := by
  rw [isOptionalField, Bool.or_eq_true, isNullable_iff, refersTo_iff]

/-- A boxed reference is an option of a box. -/
theorem boxed_eq (s : String) :
    "Option<Box<" ++ s ++ ">>" = "Option<" ++ ("Box<" ++ s ++ ">") ++ ">" := by
  simp only [← String.toList_inj, String.toList_append, List.append_assoc]
  rfl

theorem exists_option_of_isOptionalField {t : DataType} (h : t.isOptionalField enclosing = true) :
    ∃ inner, t.fieldText enclosing = "Option<" ++ inner ++ ">" := by
  rcases isOptionalField_iff.1 h with ⟨inner, rfl⟩ | ⟨ns, rfl⟩
  · by_cases hself : inner.refersTo enclosing = true
    · refine ⟨"Box<" ++ inner.text ++ ">", ?_⟩
      rw [← boxed_eq]
      simp only [fieldText, hself, ↓reduceIte]
    · refine ⟨inner.text, ?_⟩
      have hnullable : (nullable inner).refersTo enclosing = false := rfl
      simp only [fieldText, hself, hnullable, Bool.false_eq_true, ↓reduceIte]
      rfl
  · refine ⟨"Box<" ++ (ref ns enclosing).text ++ ">", ?_⟩
    have hself : (ref ns enclosing).refersTo enclosing = true := refersTo_iff.2 ⟨ns, rfl⟩
    rw [← boxed_eq]
    simp only [fieldText, hself, ↓reduceIte]

/-- A reference has an angle bracket in its text only if its module has. -/
theorem text_ofReference_ne_option (hscope : '<' ∉ scope.toList) (target s : String) :
    (ofReference scope target).text ≠ "Option<" ++ s := by
  intro h
  have hname : '<' ∉ (referencedName target).toList := Name.not_mem_pascal (by decide) _
  have htext : '<' ∉ (ofReference scope target).text.toList := by
    rw [ofReference, text_ref, qualify]
    split
    · exact hname
    · simp only [String.toList_append, List.mem_append, not_or]
      exact ⟨⟨hscope, by decide⟩, hname⟩
  rw [h, String.toList_append] at htext
  exact htext (List.mem_append_left _ (by decide))

theorem text_ofSchemaBase_ne_option (hscope : '<' ∉ scope.toList) (schema : Schema) (s : String) :
    (ofSchemaBase scope schema).text ≠ "Option<" ++ s := by
  cases schema with
  | ref target => exact text_ofReference_ne_option hscope target s
  | inline body => exact text_ne_option (ofBody_shape scope body).1 (ofBody_shape scope body).2 s

theorem isOptionalField_of_option (hscope : '<' ∉ scope.toList) {schema : Schema} {required : Bool}
    {s : String} (h : (ofField scope (some schema) required).fieldText enclosing = "Option<" ++ s) :
    (ofField scope (some schema) required).isOptionalField enclosing = true := by
  have hshape := ofField_eq scope schema required
  rw [fieldText_eq (isNullable_ofSchemaBase scope schema) hshape] at h
  rw [isOptionalField, Bool.or_eq_true]
  rcases hshape with heq | heq
  · right
    rw [heq] at h ⊢
    by_contra hself
    rw [if_neg hself] at h
    exact text_ofSchemaBase_ne_option hscope schema s h
  · left
    rw [heq]
    rfl

/-! ## Required properties -/

/-- The schema itself says that there need not be a value: it allows `null`. -/
def allowsNull : Schema → Bool
  | .ref _ => false
  | .inline body => body.isNullable

theorem isNullable_ofSchema (scope : String) (schema : Schema) :
    (ofSchema scope schema).isNullable = allowsNull schema := by
  cases schema with
  | ref target => rfl
  | inline body =>
    rw [ofSchema, allowsNull]
    cases body.isNullable with
    | true => rfl
    | false => exact (ofBody_shape scope body).1

theorem refersTo_ofSchema_iff {schema : Schema} :
    (ofSchema scope schema).refersTo enclosing = true ↔
      ∃ target, schema = .ref target ∧ referencedName target = enclosing := by
  cases schema with
  | ref target => simp [refersTo_iff, ofSchema, ofReference, referencedName]
  | inline body =>
    refine iff_of_false (fun h => ?_) (by simp)
    obtain ⟨ns, href⟩ := refersTo_iff.1 h
    rw [ofSchema] at href
    split at href
    · cases href
    · exact (ofBody_shape scope body).2 _ _ href

theorem isOptionalField_ofField_iff {schema : Schema} {required : Bool} :
    (ofField scope (some schema) required).isOptionalField enclosing = true ↔
      required = false ∨ allowsNull schema = true ∨
        ∃ target, schema = .ref target ∧ referencedName target = enclosing := by
  cases required with
  | false =>
    refine iff_of_true ?_ (Or.inl rfl)
    have hnullable : ((ofSchema scope schema).optional).isNullable = true := by
      unfold optional
      split
      · assumption
      · rfl
    show ((ofSchema scope schema).optional).isOptionalField enclosing = true
    rw [isOptionalField, hnullable, Bool.true_or]
  | true =>
    show (ofSchema scope schema).isOptionalField enclosing = true ↔ _
    rw [isOptionalField, Bool.or_eq_true, isNullable_ofSchema, refersTo_ofSchema_iff]
    simp

end ActivityForge.DataType
