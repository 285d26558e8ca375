import ActivityForge.Proofs.DataType.Optional

/-!
# Where types are nullable

A position in a data type is reached through the items of arrays and the values of maps; being
nullable takes no step.  The positions of the type of a schema are those of the schema, and the type
at each is that of the schema at it (`at?_ofOptional`).  So the type is nullable at a position
exactly if the schema there allows `null` (`nullableAt_ofOptional_iff`), and as no type of a schema
is nullable twice at a position, no nullable type stands directly inside another (`single_of_at?`).
-/

namespace ActivityForge

/-- A way into a data type. -/
inductive Step
  | item
  | value
deriving DecidableEq, Repr

namespace DataType

open Document (Additional Schema SchemaBody)

/-! ## Positions in data types -/

/-- A type apart from being nullable. -/
def base : DataType → DataType
  | nullable inner => inner
  | t => t

/-- The type of the items of an array, or of the values of a map. -/
def child? : Step → DataType → Option DataType
  | .item, array item => some item
  | .value, map value => some value
  | _, _ => none

/-- The type at a position. -/
def at? (t : DataType) : List Step → Option DataType
  | [] => some t
  | step :: path => (t.base.child? step).bind fun u => u.at? path

/-- The type at a position is nullable. -/
def NullableAt (t : DataType) (path : List Step) : Prop := ∃ inner, t.at? path = some (nullable inner)

/-- A type occurs inside another, or is it. -/
inductive Occurs (t : DataType) : DataType → Prop
  | refl : Occurs t t
  | array {item : DataType} (h : Occurs t item) : Occurs t (array item)
  | map {value : DataType} (h : Occurs t value) : Occurs t (map value)
  | nullable {inner : DataType} (h : Occurs t inner) : Occurs t (nullable inner)

/-- No nullable type stands directly inside another. -/
def Single (t : DataType) : Prop := ∀ inner, ¬ Occurs (nullable (nullable inner)) t

theorem base_of_isNullable {t : DataType} (h : t.isNullable = false) : t.base = t := by
  cases t with
  | nullable => cases h
  | _ => rfl

/-- Behind the first step it does not matter whether a type is nullable. -/
theorem at?_nullable {inner : DataType} (h : inner.isNullable = false) (step : Step)
    (path : List Step) : (nullable inner).at? (step :: path) = inner.at? (step :: path) := by
  rw [at?, at?, base_of_isNullable h]
  rfl

theorem occurs_base (t : DataType) : Occurs t.base t := by
  cases t with
  | nullable inner => exact .nullable .refl
  | _ => exact .refl

/-- Types are nullable once at most if that holds at every position. -/
theorem single_of_at? {t : DataType}
    (h : ∀ path u, t.at? path = some u → u.base.isNullable = false) : t.Single := by
  intro inner hoccurs
  induction hoccurs with
  | refl => exact absurd (h [] _ rfl) (by simp [base, isNullable])
  | array _ ih => exact ih fun path u hu => h (.item :: path) u hu
  | map _ ih => exact ih fun path u hu => h (.value :: path) u hu
  | @nullable t _ ih =>
    have ht : t.isNullable = false := h [] _ rfl
    refine ih fun path u hu => ?_
    cases path with
    | nil =>
      obtain rfl := Option.some.inj hu
      rwa [base_of_isNullable ht]
    | cons step path => exact h (step :: path) u ((at?_nullable ht step path).trans hu)

theorem Single.of_occurs {t u : DataType} (h : t.Single) (hu : Occurs u t) : u.Single := by
  intro inner hinner
  induction hu with
  | refl => exact h inner hinner
  | array _ ih => exact ih fun inner' h' => h inner' (.array h')
  | map _ ih => exact ih fun inner' h' => h inner' (.map h')
  | nullable _ ih => exact ih fun inner' h' => h inner' (.nullable h')

theorem single_nullable_iff {t : DataType} :
    (nullable t).Single ↔ t.isNullable = false ∧ t.Single := by
  constructor
  · intro h
    refine ⟨?_, h.of_occurs (.nullable .refl)⟩
    cases t with
    | nullable inner => exact absurd .refl (h inner)
    | _ => rfl
  · rintro ⟨ht, h⟩ inner hoccurs
    cases hoccurs with
    | refl => cases ht
    | nullable hoccurs => exact h inner hoccurs

/-- Every nullable type inside one without doubled ones stands at a position. -/
theorem exists_at?_of_occurs {t inner : DataType} (h : t.Single)
    (hoccurs : Occurs (nullable inner) t) : ∃ path, t.at? path = some (nullable inner) := by
  induction hoccurs with
  | refl => exact ⟨[], rfl⟩
  | array _ ih =>
    obtain ⟨path, hpath⟩ := ih (h.of_occurs (.array .refl))
    exact ⟨.item :: path, hpath⟩
  | map _ ih =>
    obtain ⟨path, hpath⟩ := ih (h.of_occurs (.map .refl))
    exact ⟨.value :: path, hpath⟩
  | nullable _ ih =>
    obtain ⟨ht, hsingle⟩ := single_nullable_iff.1 h
    obtain ⟨path, hpath⟩ := ih hsingle
    cases path with
    | nil =>
      obtain rfl := Option.some.inj hpath
      cases ht
    | cons step path => exact ⟨step :: path, (at?_nullable ht step path).trans hpath⟩

/-! ## Positions in schemas -/

/-- The schema of the values of a map.  It is absent if the values are untyped: everything is
allowed, and no properties are described. -/
def valuesSchema? (noProperties : Bool) : Option (Additional Schema) → Option (Option Schema)
  | some (.values schema) => some (some schema)
  | some (.allowed b) => if b && noProperties then some none else none
  | none => none

/-- The schema of the items of an array, or of the values of a map. -/
def schemaChild? (body : SchemaBody Schema) : Step → Option (Option Schema)
  | .item => if body.isArray then some body.items else none
  | .value =>
    if body.isArray then none else valuesSchema? body.properties.isEmpty body.additional

/-- The schema at a position; references are not followed. -/
def schemaAt? : Option Schema → List Step → Option (Option Schema)
  | schema, [] => some schema
  | some (.inline body), step :: path => (schemaChild? body step).bind fun s => schemaAt? s path
  | _, _ :: _ => none

/-- A schema allows `null`: it is inline and says so, by its flag or by its list of types. -/
def AllowsNull (schema : Option Schema) : Prop :=
  ∃ body, schema = some (.inline body) ∧
    (body.nullable = some true ∨ ∃ names, body.type? = some (.several names) ∧ "null" ∈ names)

/-! ## The types of schemas -/

variable {scope : String}

theorem isNullable_body_iff {body : SchemaBody Schema} : body.isNullable = true ↔
    body.nullable = some true ∨ ∃ names, body.type? = some (.several names) ∧ "null" ∈ names := by
  rw [SchemaBody.isNullable, Bool.or_eq_true, decide_eq_true_eq]
  refine or_congr_right ?_
  split
  · next names htype => simp [htype]
  · next hother => simpa using fun names htype => absurd htype (hother names)

theorem isNullable_ofOptional_iff {schema : Option Schema} :
    (ofOptional scope schema).isNullable = true ↔ AllowsNull schema := by
  cases schema with
  | none => simp [ofOptional, isNullable, AllowsNull]
  | some schema =>
    rw [ofOptional, isNullable_ofSchema]
    cases schema with
    | ref target => simp [allowsNull, AllowsNull]
    | inline body =>
      rw [allowsNull, isNullable_body_iff]
      simp [AllowsNull]

theorem child?_of_isLeaf {t : DataType} (h : t.isLeaf = true) (step : Step) :
    t.child? step = none := by
  cases t with
  | array | map | ref | nullable => cases h
  | _ => cases step <;> rfl

/-- Plain types have no positions inside. -/
theorem child?_ofPlain {σ : Type} (body : SchemaBody σ) (step : Step) :
    (ofPlain body).child? step = none :=
  child?_of_isLeaf (isLeaf_ofPlain body) step

theorem ofAdditional?_eq (noProperties : Bool) (additional : Option (Additional Schema)) :
    ofAdditional? scope noProperties additional =
      (valuesSchema? noProperties additional).map (ofOptional scope) := by
  rcases additional with _ | ⟨b⟩ | ⟨schema⟩
  · rfl
  · rw [ofAdditional?, valuesSchema?]
    split <;> rfl
  · rfl

/-- The way into the type of a schema is the way into the schema. -/
theorem child?_ofBody (body : SchemaBody Schema) (step : Step) :
    (ofBody scope body).child? step = (schemaChild? body step).map (ofOptional scope) := by
  obtain ⟨type?, format, description, allowsNull, properties, required, additional, items⟩ := body
  simp only [ofBody, ofAdditional?_eq]
  split
  · next harray => cases step <;> simp [child?, schemaChild?, harray]
  · next harray =>
    cases hvalues : valuesSchema? properties.isEmpty additional with
    | none => cases step <;> simp [child?_ofPlain, schemaChild?, harray, hvalues]
    | some schema => cases step <;> simp [child?, schemaChild?, harray, hvalues]

/-- Apart from `null` the type of an inline schema is that of its body. -/
theorem base_ofSchema_inline (body : SchemaBody Schema) :
    (ofSchema scope (.inline body)).base = ofBody scope body := by
  have hbody := (ofBody_shape scope body).1
  rw [ofSchema]
  split
  · rfl
  · exact base_of_isNullable hbody

/-- The type at a position of the type of a schema is that of the schema at this position. -/
theorem at?_ofOptional (schema : Option Schema) (path : List Step) :
    (ofOptional scope schema).at? path = (schemaAt? schema path).map (ofOptional scope) := by
  induction path generalizing schema with
  | nil => cases schema <;> rfl
  | cons step path ih =>
    cases schema with
    | none => cases step <;> rfl
    | some schema =>
      cases schema with
      | ref target => cases step <;> rfl
      | inline body =>
        rw [ofOptional, at?, base_ofSchema_inline, child?_ofBody, schemaAt?]
        cases schemaChild? body step with
        | none => rfl
        | some child => exact ih child

theorem nullableAt_ofOptional_iff {schema : Option Schema} {path : List Step} :
    (ofOptional scope schema).NullableAt path ↔
      ∃ s, schemaAt? schema path = some s ∧ AllowsNull s := by
  have hnull (s : Option Schema) : AllowsNull s ↔ ∃ inner, ofOptional scope s = nullable inner := by
    rw [← isNullable_iff]
    exact isNullable_ofOptional_iff.symm
  simp only [NullableAt, at?_ofOptional, Option.map_eq_some_iff, hnull]
  constructor
  · rintro ⟨inner, s, hs, hinner⟩
    exact ⟨s, hs, inner, hinner⟩
  · rintro ⟨s, hs, inner, hinner⟩
    exact ⟨inner, s, hs, hinner⟩

theorem isNullable_base_ofOptional (schema : Option Schema) :
    (ofOptional scope schema).base.isNullable = false := by
  rcases schema with _ | ⟨target⟩ | ⟨body⟩
  · rfl
  · rfl
  · rw [ofOptional, base_ofSchema_inline]
    exact (ofBody_shape scope body).1

theorem single_ofOptional (schema : Option Schema) : (ofOptional scope schema).Single := by
  refine single_of_at? fun path u hu => ?_
  rw [at?_ofOptional] at hu
  obtain ⟨s, -, rfl⟩ := Option.map_eq_some_iff.1 hu
  exact isNullable_base_ofOptional s

/-! ## The types of fields -/

theorem optional_eq (t : DataType) : t.optional = .nullable t.base := by
  cases t <;> rfl

/-- A value that is not required has one layer more, unless its schema allows `null` anyway. -/
theorem ofField_false (schema : Option Schema) :
    ofField scope schema false = .nullable (ofOptional scope schema).base :=
  optional_eq _

theorem single_ofField (schema : Option Schema) (required : Bool) :
    (ofField scope schema required).Single := by
  have hsingle : (ofOptional scope schema).Single := single_ofOptional schema
  cases required with
  | true => exact hsingle
  | false =>
    rw [ofField_false, single_nullable_iff]
    exact ⟨isNullable_base_ofOptional schema, hsingle.of_occurs (occurs_base _)⟩

/-- Where the type of a schema and those of the fields with this schema are nullable. -/
structure Nullability (scope : String) (schema : Option Schema) : Prop where
  positions : ∀ path, (∃ t, (ofOptional scope schema).at? path = some t) ↔
    ∃ s, schemaAt? schema path = some s
  nullableAt_iff : ∀ path, (ofOptional scope schema).NullableAt path ↔
    ∃ s, schemaAt? schema path = some s ∧ AllowsNull s
  /-- There is no other nullable type inside. -/
  occurs_at : ∀ inner, Occurs (nullable inner) (ofOptional scope schema) →
    ∃ path, (ofOptional scope schema).at? path = some (nullable inner)
  single : (ofOptional scope schema).Single
  required : ofField scope schema true = ofOptional scope schema
  optional : ∃ t, ofField scope schema false = nullable t ∧ t.isNullable = false ∧
    (ofOptional scope schema = t ∨ ofOptional scope schema = nullable t)

theorem eq_base_or (t : DataType) : t = t.base ∨ t = nullable t.base := by
  cases t <;> simp [base]

theorem nullability_ofOptional (scope : String) (schema : Option Schema) :
    Nullability scope schema where
  positions path := by
    rw [at?_ofOptional]
    cases schemaAt? schema path <;> simp
  nullableAt_iff _ := nullableAt_ofOptional_iff
  occurs_at _ := exists_at?_of_occurs (single_ofOptional schema)
  single := single_ofOptional schema
  required := rfl
  optional := ⟨_, ofField_false schema, isNullable_base_ofOptional schema, eq_base_or _⟩

/-- The items of the type of a field have themselves the type of a schema. -/
theorem exists_ofOptional_of_item? {schema : Option Schema} {required : Bool} {item : DataType}
    (h : (ofField scope schema required).item? = some item) :
    ∃ s, item = ofOptional scope s := by
  cases required with
  | false =>
    rw [ofField_false] at h
    cases h
  | true =>
    replace h : (ofOptional scope schema).item? = some item := h
    have hitem : (ofOptional scope schema).at? [.item] = some item := by
      cases htype : ofOptional scope schema <;> rw [htype] at h <;> cases h
      rfl
    rw [at?_ofOptional] at hitem
    obtain ⟨s, -, hs⟩ := Option.map_eq_some_iff.1 hitem
    exact ⟨s, hs.symm⟩

end DataType

end ActivityForge
