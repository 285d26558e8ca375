import ActivityForge.DataType.OfSchema
import ActivityForge.Proofs.Reference.Nested
import Mathlib.Data.List.TakeWhile

/-!
# References inside data types

`DataType.Mentions` says that a reference to a model occurs in a data type, at any depth.  The type
of a schema mentions nothing but what the schema mentions (`mentions_ofSchema`), although the two
are read by different recursions: an array keeps only its items, a map only its further values.
The name of a model comes from the last segment of a reference (`ofReference_reference`).
-/

namespace ActivityForge.DataType

open Document (Additional Schema SchemaBody Section)

/-- A reference to the model `name` of the module `scope` occurs in a data type. -/
inductive Mentions : DataType → String → String → Prop
  | ref (scope name : String) : Mentions (.ref scope name) scope name
  | array {item : DataType} {scope name : String} (h : Mentions item scope name) :
      Mentions (.array item) scope name
  | map {value : DataType} {scope name : String} (h : Mentions value scope name) :
      Mentions (.map value) scope name
  | nullable {inner : DataType} {scope name : String} (h : Mentions inner scope name) :
      Mentions (.nullable inner) scope name

variable {scope ns name : String}

theorem mentions_optional {t : DataType} (h : t.optional.Mentions ns name) :
    t.Mentions ns name := by
  unfold optional at h
  split at h
  · exact h
  · cases h
    assumption

theorem Mentions.of_item? {t item : DataType} (hi : t.item? = some item)
    (h : item.Mentions ns name) : t.Mentions ns name := by
  cases t with
  | array =>
    obtain rfl := Option.some.inj hi
    exact .array h
  | _ => simp [item?] at hi

/-! ## Types of schemas -/

/-- A type without types inside it. -/
def isLeaf : DataType → Bool
  | array _ | map _ | ref _ _ | nullable _ => false
  | _ => true

theorem isLeaf_ofPlain {σ : Type} (body : SchemaBody σ) : (ofPlain body).isLeaf = true := by
  have hformat {typeName format : String} {t : DataType} (h : ofFormat? typeName format = some t) :
      t.isLeaf = true := by
    unfold ofFormat? at h
    split at h <;> cases h <;> rfl
  have htypeName {typeName : String} {t : DataType} (h : ofTypeName? typeName = some t) :
      t.isLeaf = true := by
    unfold ofTypeName? at h
    split at h <;> cases h <;> rfl
  unfold ofPlain
  split
  · rfl
  · next typeName _ =>
    rcases h : (body.format.bind (ofFormat? typeName)).or (ofTypeName? typeName) with _ | t
    · rfl
    · rcases Option.or_eq_some_iff.1 h with h | ⟨-, h⟩
      · obtain ⟨format, -, h⟩ := Option.bind_eq_some_iff.1 h
        exact hformat h
      · exact htypeName h

theorem not_mentions_of_isLeaf {t : DataType} (h : t.isLeaf = true) : ¬ t.Mentions ns name := by
  intro hm
  cases hm <;> cases h

/-- Plain schemas have types without references. -/
theorem not_mentions_ofPlain {σ : Type} (body : SchemaBody σ) :
    ¬ (ofPlain body).Mentions ns name :=
  not_mentions_of_isLeaf (isLeaf_ofPlain body)

mutual

/-- A reference inside the type of a schema is one that the schema mentions. -/
theorem mentions_ofSchema : ∀ schema : Schema, (ofSchema scope schema).Mentions ns name →
    ∃ target, schema.Mentions target ∧ ofReference scope target = .ref ns name
  | .ref target, h => by
    cases h
    exact ⟨target, .ref target, rfl⟩
  | .inline body, h => by
    simp only [ofSchema] at h
    split at h
    · cases h with
      | nullable h => exact mentions_ofBody body h
    · exact mentions_ofBody body h

theorem mentions_ofBody : ∀ body : SchemaBody Schema, (ofBody scope body).Mentions ns name →
    ∃ target, (Schema.inline body).Mentions target ∧ ofReference scope target = .ref ns name
  | ⟨type?, format, description, allowsNull, properties, required, additional, items⟩, h => by
    simp only [ofBody] at h
    split at h
    · cases h with
      | array h =>
        obtain ⟨schema, hs, target, ht, he⟩ := mentions_ofOptional items h
        exact ⟨target, .items hs ht, he⟩
    · split at h
      · next value hvalue =>
        cases h with
        | map h =>
          obtain ⟨schema, hs, target, ht, he⟩ := mentions_ofAdditional? additional hvalue h
          exact ⟨target, .additional hs ht, he⟩
      · exact absurd h (not_mentions_ofPlain _)

theorem mentions_ofOptional : ∀ schema? : Option Schema,
    (ofOptional scope schema?).Mentions ns name → ∃ schema, schema? = some schema ∧
      ∃ target, schema.Mentions target ∧ ofReference scope target = .ref ns name
  | none, h => by cases h
  | some schema, h => ⟨schema, rfl, mentions_ofSchema schema h⟩

theorem mentions_ofAdditional? {noProperties : Bool} {value : DataType} :
    ∀ additional : Option (Additional Schema),
      ofAdditional? scope noProperties additional = some value → value.Mentions ns name →
        ∃ schema, additional = some (.values schema) ∧
          ∃ target, schema.Mentions target ∧ ofReference scope target = .ref ns name
  | none, hv, _ => by simp [ofAdditional?] at hv
  | some (.allowed b), hv, h => by
    simp only [ofAdditional?] at hv
    split at hv
    · obtain rfl := Option.some.inj hv
      cases h
    · simp at hv
  | some (.values schema), hv, h => by
    simp only [ofAdditional?, Option.some.injEq] at hv
    exact ⟨schema, rfl, mentions_ofSchema schema (hv ▸ h)⟩

end

/-- Whether a value is required does not change the references. -/
theorem mentions_ofField {schema? : Option Schema} {required : Bool}
    (h : (ofField scope schema? required).Mentions ns name) :
    (ofOptional scope schema?).Mentions ns name := by
  unfold ofField at h
  split at h
  · exact h
  · exact mentions_optional h

/-! ## Names of models -/

/-- The part of a text behind its last slash, or the whole text if it has none. -/
def IsLastSegment (text segment : String) : Prop :=
  '/' ∉ segment.toList ∧
    (text = segment ∨ ∃ before, text.toList = before ++ '/' :: segment.toList)

theorem lastSegment_append (a b : List Char) : lastSegment (a ++ '/' :: b) = lastSegment b := by
  have hslash : ('/' :: a.reverse).takeWhile (· ≠ '/') = [] := by simp
  rw [lastSegment, lastSegment, List.reverse_append, List.reverse_cons, List.append_assoc,
    List.singleton_append, List.takeWhile_append, hslash, List.append_nil]
  split
  · next hlen => rw [(List.takeWhile_prefix _).eq_of_length hlen]
  · rfl

theorem isLastSegment_lastSegment (text : String) :
    IsLastSegment text (String.ofList (lastSegment text.toList)) := by
  have hsplit := List.takeWhile_append_dropWhile (p := (· ≠ '/')) (l := text.toList.reverse)
  have hplain : '/' ∉ lastSegment text.toList := fun hmem => by
    simpa using List.mem_takeWhile_imp (List.mem_reverse.1 hmem)
  have htext : text.toList =
      (text.toList.reverse.dropWhile (· ≠ '/')).reverse ++ lastSegment text.toList := by
    rw [lastSegment, ← List.reverse_append, hsplit, List.reverse_reverse]
  refine ⟨by rwa [String.toList_ofList], ?_⟩
  rcases hdrop : text.toList.reverse.dropWhile (· ≠ '/') with _ | ⟨c, rest⟩
  · left
    rw [hdrop, List.reverse_nil, List.nil_append] at htext
    rw [← htext, String.ofList_toList]
  · right
    have hc : c = '/' := by
      have hhead := List.head?_dropWhile_not (· ≠ '/') text.toList.reverse
      rw [hdrop] at hhead
      simpa using hhead
    refine ⟨rest.reverse, ?_⟩
    rw [hdrop, hc, List.reverse_cons, List.append_assoc] at htext
    rw [String.toList_ofList]
    exact htext

/-- The reference to a component schema becomes a reference to the model that is named after the
last segment of the component's name. -/
theorem ofReference_reference (key : String) :
    ofReference scope (Section.schemas.reference key) =
      .ref scope (Name.ofText (String.ofList (lastSegment key.toList))).pascal := by
  have htarget : (Section.schemas.reference key).toList =
      (Section.root ++ Section.schemas.text.toList) ++ '/' :: key.toList := by
    rw [Section.reference, String.toList_ofList, Section.referenceChars, List.append_assoc]
  rw [ofReference, htarget, lastSegment_append]

end ActivityForge.DataType
