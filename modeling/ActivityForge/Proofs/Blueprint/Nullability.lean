import ActivityForge.Proofs.Blueprint.ModelReferences
import ActivityForge.Proofs.Blueprint.Parameters
import ActivityForge.Proofs.DataType.Nullability

/-!
# Nullable types of a blueprint

Every type of a blueprint is that of a schema, for a value that is required or not
(`exists_ofField_of_hasType`).  So it is nullable where the schemas say so, and the fields and
parameters that are not required are nullable as a whole, but nothing is so twice
(`nullable_exactly_once`).
-/

namespace ActivityForge.Blueprint

open DataType (Nullability Single ofField ofOptional)
open Document (Method MediaType OrRef Schema)

variable {d : Document} {o : Options} {b : Blueprint} {a : Activity}

/-! ## The schemas that types come from -/

/-- Every activity is that of an operation, perhaps under another name. -/
theorem exists_resolveActivity (h : (ofDocument d o).result = .ok b) (ha : a ∈ b.activities) :
    ∃ path ofPath entry draft, (resolveActivity d o path ofPath entry).result = .ok draft ∧
      Activity.Renames draft a := by
  simp only [result_ofDocument, bind_eq_ok_iff, pure_eq_ok_iff] at h
  obtain ⟨models, -, perPath, hpaths, rfl⟩ := h
  obtain ⟨draft, hdraft, hrenames⟩ :=
    exists_mem_of_forall₂ (Activity.forall₂_renames_settleNames [] _) ha
  obtain ⟨drafts, hdrafts, hdraft⟩ := List.mem_flatten.1 hdraft
  obtain ⟨entry, -, hpath⟩ := exists_of_mem_mapM hpaths hdrafts
  simp only [result_resolvePath, bind_eq_ok_iff] at hpath
  obtain ⟨ofPath, -, hoperations⟩ := hpath
  obtain ⟨operation, -, hr⟩ := exists_of_mem_mapM hoperations hdraft
  exact ⟨entry.1, ofPath, operation, draft, hr, hrenames⟩

theorem exists_bodyOf (h : (ofDocument d o).result = .ok b) (ha : a ∈ b.activities)
    {body : Activity.Body} (hbody : a.body = some body) :
    ∃ found, body = bodyOf o.modelScope found := by
  obtain ⟨path, ofPath, entry, draft, hr, hrenames⟩ := exists_resolveActivity h ha
  simp only [result_resolveActivity, bind_eq_ok_iff, pure_eq_ok_iff] at hr
  obtain ⟨own, -, body?, hresolve, response, -, rfl⟩ := hr
  obtain rfl : body? = some body := by
    rw [← hbody, hrenames]
    rfl
  cases hv : entry.2.requestBody with
  | none =>
    rw [hv] at hresolve
    cases hresolve
  | some v =>
    rw [hv] at hresolve
    simp only [resolveBody?, result_resolveBody, bind_eq_ok_iff, pure_eq_ok_iff,
      Option.some.injEq] at hresolve
    obtain ⟨_, ⟨found, -, -, -, rfl⟩, rfl⟩ := hresolve
    exact ⟨found, rfl⟩

theorem exists_content_response (h : (ofDocument d o).result = .ok b) (ha : a ∈ b.activities) :
    ∃ content : Dict MediaType, a.response.content = content.map (payloadOf o.modelScope) := by
  obtain ⟨path, ofPath, entry, draft, hr, hrenames⟩ := exists_resolveActivity h ha
  simp only [result_resolveActivity, bind_eq_ok_iff, pure_eq_ok_iff] at hr
  obtain ⟨own, -, body?, -, response, hresponse, rfl⟩ := hr
  have hcontent : a.response = response := by
    rw [hrenames]
    rfl
  rw [hcontent]
  rw [result_resolveResponse] at hresponse
  split at hresponse
  · obtain rfl := pure_eq_ok_iff.1 hresponse
    exact ⟨[], rfl⟩
  · simp only [bind_eq_ok_iff, pure_eq_ok_iff] at hresponse
    obtain ⟨found, -, -, -, rfl⟩ := hresponse
    exact ⟨found.content, rfl⟩

theorem exists_parameterOf (h : (ofDocument d o).result = .ok b) (ha : a ∈ b.activities)
    {p : Activity.Parameter} (hp : p ∈ a.parameters) :
    ∃ declared, p = parameterOf o.modelScope declared := by
  obtain ⟨e, -, shared, own, -, -, hmerged⟩ := exists_mem_of_forall₂ (merges_of_ofDocument h) ha
  rw [hmerged] at hp
  rcases mem_mergeParameters hp with hp | hp
  · obtain ⟨declared, -, rfl⟩ := List.mem_map.1 hp
    exact ⟨declared, rfl⟩
  · obtain ⟨declared, -, rfl⟩ := List.mem_map.1 hp
    exact ⟨declared, rfl⟩

theorem exists_fieldFrom (h : (ofDocument d o).result = .ok b) {m : Model} (hm : m ∈ b.models)
    {f : Model.Field} (hf : f ∈ m.fields) :
    ∃ required property, f = fieldFrom o.modelScope required property := by
  rw [models_eq h] at hm
  obtain ⟨⟨key, schema⟩, -, rfl⟩ := List.mem_map.1 hm
  cases schema with
  | ref target => cases hf
  | inline body =>
    obtain ⟨property, -, rfl⟩ := List.mem_map.1 hf
    exact ⟨body.required, property, rfl⟩

/-- The type of a media type is that of its schema. -/
theorem exists_ofOptional_of_mem {scope : String} {content : Dict MediaType}
    {entry : String × Activity.Payload} (he : entry ∈ content.map (payloadOf scope)) :
    ∃ schema, entry.2.type = ofField scope schema true := by
  obtain ⟨media, -, rfl⟩ := List.mem_map.1 he
  exact ⟨media.2.schema, rfl⟩

/-- Every type of a blueprint is that of a schema, for a value that is required or not. -/
theorem exists_ofField_of_hasType (h : (ofDocument d o).result = .ok b) {t : DataType}
    (ht : b.HasType t) : ∃ schema required, t = ofField o.modelScope schema required := by
  induction ht with
  | field hm hf =>
    obtain ⟨required, property, rfl⟩ := exists_fieldFrom h hm hf
    exact ⟨_, _, rfl⟩
  | parameter ha hp =>
    obtain ⟨declared, rfl⟩ := exists_parameterOf h ha hp
    exact ⟨_, _, rfl⟩
  | body ha hb he =>
    obtain ⟨found, rfl⟩ := exists_bodyOf h ha hb
    obtain ⟨schema, hschema⟩ := exists_ofOptional_of_mem he
    exact ⟨schema, true, hschema⟩
  | response ha he =>
    obtain ⟨content, hcontent⟩ := exists_content_response h ha
    rw [hcontent] at he
    obtain ⟨schema, hschema⟩ := exists_ofOptional_of_mem he
    exact ⟨schema, true, hschema⟩
  | item _ hi ih =>
    obtain ⟨schema, required, rfl⟩ := ih
    obtain ⟨s, rfl⟩ := DataType.exists_ofOptional_of_item? hi
    exact ⟨s, true, rfl⟩

/-! ## What is nullable -/

/-- The values of a blueprint that need not be there are nullable, and no type is so twice. -/
structure NullableOnce (b : Blueprint) : Prop where
  fields : ∀ m ∈ b.models, ∀ f ∈ m.fields, f.required = false → f.type.isNullable = true
  parameters : ∀ a ∈ b.activities, ∀ p ∈ a.parameters, p.required = false →
    p.type.isNullable = true
  single : ∀ t, b.HasType t → t.Single

theorem isNullable_ofField_false (scope : String) (schema : Option Schema) :
    (ofField scope schema false).isNullable = true := by
  rw [DataType.ofField_false]
  rfl

theorem nullableOnce_of_ofDocument (h : (ofDocument d o).result = .ok b) : b.NullableOnce where
  fields m hm f hf hrequired := by
    obtain ⟨required, property, rfl⟩ := exists_fieldFrom h hm hf
    replace hrequired : required.contains property.1 = false := hrequired
    rw [fieldFrom, hrequired]
    exact isNullable_ofField_false _ _
  parameters a ha p hp hrequired := by
    obtain ⟨declared, rfl⟩ := exists_parameterOf h ha hp
    replace hrequired : declared.required = false := hrequired
    rw [parameterOf, hrequired]
    exact isNullable_ofField_false _ _
  single t ht := by
    obtain ⟨schema, required, rfl⟩ := exists_ofField_of_hasType h ht
    exact DataType.single_ofField schema required

/-- The type of a schema is nullable at the positions at which the schema allows `null`, and
nowhere else; that of a value that is not required is so as a whole besides, once.  What is made of
a document has such types only. -/
theorem nullable_exactly_once :
    (∀ scope schema, Nullability scope schema) ∧
      ∀ (d : Document) (o : Options) (b : Blueprint), (ofDocument d o).result = .ok b →
        b.NullableOnce :=
  ⟨DataType.nullability_ofOptional, fun _ _ _ => nullableOnce_of_ofDocument⟩

theorem petStore_nullable_once : ∃ b,
    (ofDocument Document.petStore ⟨"models", true⟩).result = .ok b ∧ b.NullableOnce := by
  obtain ⟨b, h⟩ := exists_ofDocument_iff.2 Document.accepted_petStore
  exact ⟨b, h, nullable_exactly_once.2 _ _ b h⟩

end ActivityForge.Blueprint
