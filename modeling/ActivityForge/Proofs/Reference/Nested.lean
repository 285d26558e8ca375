import ActivityForge.Proofs.Reference.Target
import ActivityForge.Proofs.Traversal

/-!
# References inside schemas

`Schema.Mentions` says that a reference occurs in a schema: the schema is the reference, or it
occurs in a property, in the items or in the further values, at any depth and without following
references.  `Schema.references` lists these references in the order in which they are checked, so
that checking a schema is checking the members of that list one by one (`Schema.check_eq`).
-/

namespace ActivityForge.Document

/-- A reference occurs in a schema, at whatever depth. -/
inductive Schema.Mentions : Schema → String → Prop
  | ref (target : String) : Mentions (.ref target) target
  | property {body : SchemaBody Schema} {name target : String} {schema : Schema}
      (mem : (name, schema) ∈ body.properties) (h : Mentions schema target) :
      Mentions (.inline body) target
  | items {body : SchemaBody Schema} {target : String} {schema : Schema}
      (mem : body.items = some schema) (h : Mentions schema target) :
      Mentions (.inline body) target
  | additional {body : SchemaBody Schema} {target : String} {schema : Schema}
      (mem : body.additional = some (.values schema)) (h : Mentions schema target) :
      Mentions (.inline body) target

mutual

/-- The references inside a schema: those of its properties, then those of its items, then those
of its further values. -/
def Schema.references : Schema → List String
  | .ref target => [target]
  | .inline { properties, additional, items, .. } =>
    propertyReferences properties ++ itemReferences items ++ additionalReferences additional

def propertyReferences : List (String × Schema) → List String
  | [] => []
  | (_, schema) :: rest => schema.references ++ propertyReferences rest

def itemReferences : Option Schema → List String
  | none => []
  | some schema => schema.references

def additionalReferences : Option (Additional Schema) → List String
  | some (.values schema) => schema.references
  | some (.allowed _) | none => []

end

theorem mem_propertyReferences {target : String} {properties : List (String × Schema)} :
    target ∈ propertyReferences properties ↔
      ∃ property ∈ properties, target ∈ property.2.references := by
  induction properties with
  | nil => simp [propertyReferences]
  | cons p rest ih => simp [propertyReferences, ih]

/-! ## The list holds what is mentioned -/

mutual

theorem Schema.mentions_of_mem {target : String} :
    ∀ schema : Schema, target ∈ schema.references → schema.Mentions target
  | .ref other, h => by
    obtain rfl := List.mem_singleton.1 h
    exact .ref _
  | .inline ⟨type?, format, description, nullable, properties, required, additional, items⟩, h => by
    simp only [Schema.references, List.mem_append] at h
    obtain (h | h) | h := h
    · obtain ⟨⟨name, schema⟩, hmem, hs⟩ := mentions_of_mem_properties properties h
      exact .property hmem hs
    · obtain ⟨schema, hmem, hs⟩ := mentions_of_mem_items items h
      exact .items hmem hs
    · obtain ⟨schema, hmem, hs⟩ := mentions_of_mem_additional additional h
      exact .additional hmem hs

theorem mentions_of_mem_properties {target : String} :
    ∀ properties : List (String × Schema), target ∈ propertyReferences properties →
      ∃ property ∈ properties, property.2.Mentions target
  | [], h => by simp [propertyReferences] at h
  | (name, schema) :: rest, h => by
    simp only [propertyReferences, List.mem_append] at h
    obtain h | h := h
    · exact ⟨_, List.mem_cons_self, schema.mentions_of_mem h⟩
    · obtain ⟨property, hmem, hs⟩ := mentions_of_mem_properties rest h
      exact ⟨property, List.mem_cons_of_mem _ hmem, hs⟩

theorem mentions_of_mem_items {target : String} :
    ∀ items : Option Schema, target ∈ itemReferences items →
      ∃ schema, items = some schema ∧ schema.Mentions target
  | none, h => by simp [itemReferences] at h
  | some schema, h => ⟨schema, rfl, schema.mentions_of_mem h⟩

theorem mentions_of_mem_additional {target : String} :
    ∀ additional : Option (Additional Schema), target ∈ additionalReferences additional →
      ∃ schema, additional = some (.values schema) ∧ schema.Mentions target
  | none, h => by simp [additionalReferences] at h
  | some (.allowed _), h => by simp [additionalReferences] at h
  | some (.values schema), h => ⟨schema, rfl, schema.mentions_of_mem h⟩

end

theorem Schema.mem_references_iff {schema : Schema} {target : String} :
    target ∈ schema.references ↔ schema.Mentions target := by
  refine ⟨schema.mentions_of_mem, fun h => ?_⟩
  induction h with
  | ref => simp [Schema.references]
  | property mem _ ih =>
    simp only [Schema.references, List.mem_append]
    exact Or.inl (Or.inl (mem_propertyReferences.2 ⟨_, mem, ih⟩))
  | items mem _ ih => simp [Schema.references, mem, itemReferences, ih]
  | additional mem _ ih => simp [Schema.references, mem, additionalReferences, ih]

/-! ## The check goes through the list -/

mutual

theorem Schema.check_eq (declared : String → Bool) :
    ∀ schema : Schema, schema.check declared = forM schema.references (checkTarget declared)
  | .ref target => by simp [Schema.check, Schema.references]
  | .inline ⟨type?, format, description, nullable, properties, required, additional, items⟩ => by
    simp only [Schema.check, Schema.references, List.forM_append, bind_assoc,
      checkProperties_eq declared properties, checkItems_eq declared items,
      checkAdditional_eq declared additional]

theorem checkProperties_eq (declared : String → Bool) :
    ∀ properties : List (String × Schema), checkProperties declared properties =
      forM (propertyReferences properties) (checkTarget declared)
  | [] => rfl
  | (_, schema) :: rest => by
    simp only [checkProperties, propertyReferences, List.forM_append, schema.check_eq declared,
      checkProperties_eq declared rest]

theorem checkItems_eq (declared : String → Bool) :
    ∀ items : Option Schema, checkItems declared items =
      forM (itemReferences items) (checkTarget declared)
  | none => rfl
  | some schema => schema.check_eq declared

theorem checkAdditional_eq (declared : String → Bool) :
    ∀ additional : Option (Additional Schema), checkAdditional declared additional =
      forM (additionalReferences additional) (checkTarget declared)
  | none => rfl
  | some (.allowed _) => rfl
  | some (.values schema) => schema.check_eq declared

end

/-! ## Checking one reference -/

theorem checkTarget_eq_ok_iff {defs : Dict Schema} {target : String} :
    checkTarget defs.contains target = .ok () ↔
      ∃ name ∈ defs.keys, target = Section.schemas.reference name := by
  simp only [checkTarget, bind_eq_ok_iff, targetName_eq_ok_iff]
  constructor
  · rintro ⟨name, rfl, h⟩
    split at h
    · next hname => exact ⟨name, Dict.contains_iff.1 hname, rfl⟩
    · simp at h
  · rintro ⟨name, hname, rfl⟩
    exact ⟨name, rfl, by rw [if_pos (Dict.contains_iff.2 hname)]⟩

theorem checkTarget_eq_error_iff {defs : Dict Schema} {target : String} {e : ReferenceError} :
    checkTarget defs.contains target = .error e ↔ Faulty .schemas defs.keys target e := by
  simp only [checkTarget, bind_eq_error_iff, faulty_iff]
  refine or_congr_right (exists_congr fun name => and_congr_right fun _ => ?_)
  rw [← Dict.contains_iff]
  split
  · next hname => simp [hname]
  · next hname => simp [hname, eq_comm]

end ActivityForge.Document
