import ActivityForge.Proofs.Blueprint.ModelReferences
import ActivityForge.Proofs.Blueprint.Parameters
import ActivityForge.Proofs.Name.Characters
import ActivityForge.Proofs.Source.Agreement

/-!
# The names of arguments

The name of an argument is made from the name of a parameter alone: not from its place, and without
the case and the separators of the name.  So parameters that are told apart on the wire may get the
same name, and one of them may get the name of the body.  If the parameters of its path are told
apart, an activity has arguments with different names if and only if neither happens
(`argument_names_differ_iff`).  Nothing keeps it from happening
(`parameters_in_two_places_share_a_name`).
-/

namespace ActivityForge.Source

open Activity (Parameter bodyName)
open Blueprint (Merges)
open Document (Declared)

/-- The names that are declared for an activity: those of the fields of its request object, or those
of the parameters of its method. -/
def declaredNames (a : Activity) : List String :=
  (if a.usesRequest then (Request.ofActivity a).fields.map RequestField.binder
    else a.signature.parameters).map Binder.name

/-- What the name of a parameter becomes, before keywords are escaped. -/
def formOf (name : String) : String := memberName (Name.fieldText name)

/-- The parameters of an activity that are told apart on the wire are so by their forms, and none of
them has the form of the body if there is one. -/
structure ToldApart (a : Activity) : Prop where
  parameters : ∀ p ∈ a.parameters, ∀ q ∈ a.parameters, p.key ≠ q.key →
    formOf p.originalName ≠ formOf q.originalName
  body : a.bodyType?.isSome = true → ∀ p ∈ a.parameters, formOf p.originalName ≠ bodyName

theorem identifier_eq_iff {s t : String} :
    identifier s = identifier t ↔ memberName s = memberName t := by
  have hhash (u : String) : '#' ∉ (memberName u).toList := Name.not_mem_memberName (by decide) u
  constructor
  · exact Name.escapeKeyword_injective (hhash s) (hhash t)
  · intro h
    rw [identifier, identifier, h]

/-- One name is declared for every argument. -/
theorem declaredNames_eq (a : Activity) : declaredNames a = argumentNames a := by
  have hfields : ((Request.ofActivity a).fields.map RequestField.binder).map Binder.name =
      argumentNames a := by
    simp only [Request.ofActivity, argumentNames, List.map_map]
    rfl
  unfold declaredNames
  split
  · exact hfields
  · next h =>
    simp only [Activity.signature, Activity.binders, h, Bool.false_eq_true, ↓reduceIte,
      argumentNames, List.map_map]
    rfl

theorem argumentNames_eq (a : Activity) : argumentNames a =
    (a.parameters.map fun p => identifier p.fieldName) ++
      (a.bodyType?.map fun _ => identifier bodyName).toList := by
  simp only [argumentNames, Activity.arguments, Activity.bodyArgument?, List.map_append,
    List.map_map, ← Option.toList_map, Option.map_map, Function.comp_def, Parameter.argument]

/-! ## Names and forms -/

section Forms

variable {a : Activity} (hfields : ∀ p ∈ a.parameters, p.fieldName = Name.fieldText p.originalName)

include hfields

theorem nodup_parameterNames_iff (hkeys : (a.parameters.map Parameter.key).Nodup) :
    (a.parameters.map fun p => identifier p.fieldName).Nodup ↔
      ∀ p ∈ a.parameters, ∀ q ∈ a.parameters, p.key ≠ q.key →
        formOf p.originalName ≠ formOf q.originalName := by
  have hform {p q : Parameter} (hp : p ∈ a.parameters) (hq : q ∈ a.parameters) :
      identifier p.fieldName = identifier q.fieldName ↔
        formOf p.originalName = formOf q.originalName := by
    rw [identifier_eq_iff, hfields p hp, hfields q hq, formOf, formOf]
  have hkey {p q : Parameter} (hp : p ∈ a.parameters) (hq : q ∈ a.parameters) :
      p = q ↔ p.key = q.key :=
    ⟨congrArg Parameter.key, List.inj_on_of_nodup_map hkeys hp hq⟩
  rw [List.nodup_map_iff_inj_on hkeys.of_map]
  refine forall₂_congr fun p hp => forall₂_congr fun q hq => ?_
  rw [hform hp hq, hkey hp hq]
  exact not_imp_not.symm

theorem body_not_mem_parameterNames_iff :
    identifier bodyName ∉ (a.parameters.map fun p => identifier p.fieldName) ↔
      ∀ p ∈ a.parameters, formOf p.originalName ≠ bodyName := by
  have hbody : memberName bodyName = bodyName := by decide
  simp only [List.mem_map, not_exists, not_and]
  refine forall₂_congr fun p hp => ?_
  rw [identifier_eq_iff, hfields p hp, hbody, formOf]

/-- The names of the arguments differ if and only if the forms of the parameters tell them apart. -/
theorem nodup_argumentNames_iff (hkeys : (a.parameters.map Parameter.key).Nodup) :
    (argumentNames a).Nodup ↔ ToldApart a := by
  have hnames := nodup_parameterNames_iff hfields hkeys
  have hbody := body_not_mem_parameterNames_iff hfields
  rw [argumentNames_eq]
  cases htype : a.bodyType? with
  | none =>
    rw [Option.map_none, Option.toList_none, List.append_nil, hnames]
    exact ⟨fun h => ⟨h, by simp [htype]⟩, fun h => h.parameters⟩
  | some type =>
    rw [Option.map_some, Option.toList_some, List.nodup_append_comm, List.singleton_append,
      List.nodup_cons, hnames, hbody]
    exact ⟨fun h => ⟨h.2, fun _ => h.1⟩, fun h => ⟨h.body (by simp [htype]), h.parameters⟩⟩

end Forms

/-! ## Activities of a document -/

variable {d : Document} {o : Options} {b : Blueprint}

theorem fieldName_of_merges {scope : String} {e : Document.PathItem × Document.Operation}
    {ps : List Parameter} (h : Merges d scope e ps) :
    ∀ p ∈ ps, p.fieldName = Name.fieldText p.originalName := by
  obtain ⟨shared, own, -, -, rfl⟩ := h
  intro p hp
  rcases Blueprint.mem_mergeParameters hp with hp | hp <;>
  · obtain ⟨declared, -, rfl⟩ := List.mem_map.1 hp
    rfl

/-- For every operation whose path does not repeat a parameter: its parameters are not repeated, and
the names of its arguments, which are those that are declared, differ if and only if the parameters
are told apart by their forms. -/
theorem argument_names_differ_iff (h : (Blueprint.ofDocument d o).result = .ok b) :
    List.Forall₂ (fun e a => ∃ shared, List.Forall₂ (Declared d) e.1.parameters shared ∧
        ((shared.map Document.Parameter.key).Nodup → (a.parameters.map Parameter.key).Nodup ∧
          declaredNames a = argumentNames a ∧ ((argumentNames a).Nodup ↔ ToldApart a)))
      d.pathOperations b.activities := by
  refine (Blueprint.merges_of_ofDocument h).imp fun e a hmerges => ?_
  have hfields := fieldName_of_merges hmerges
  obtain ⟨shared, own, hshared, -, hparameters⟩ := hmerges
  refine ⟨shared, hshared, fun hnodup => ?_⟩
  have hkeys : (a.parameters.map Parameter.key).Nodup := by
    rw [hparameters, Blueprint.nodup_keys_mergeParameters_iff, List.map_map]
    exact hnodup
  exact ⟨hkeys, declaredNames_eq a, nodup_argumentNames_iff hfields hkeys⟩

theorem petStore_argument_names : ∃ b,
    (Blueprint.ofDocument Document.petStore ⟨"models", true⟩).result = .ok b ∧
      List.Forall₂ (fun e a => ∃ shared,
          List.Forall₂ (Declared Document.petStore) e.1.parameters shared ∧
          ((shared.map Document.Parameter.key).Nodup → (a.parameters.map Parameter.key).Nodup ∧
            declaredNames a = argumentNames a ∧ ((argumentNames a).Nodup ↔ ToldApart a)))
        Document.petStore.pathOperations b.activities := by
  obtain ⟨b, h⟩ := Blueprint.exists_ofDocument_iff.2 Document.accepted_petStore
  exact ⟨b, h, argument_names_differ_iff h⟩

/-- An operation with parameters of the same name in two places. -/
def twoPlaces : Document where
  format := "3.0.3"
  info := ⟨"Two places", none, "1"⟩
  paths := [("/pets/\x7bid\x7d", ⟨[], some operation, none, none, none, none⟩)]
  components := none
where
  parameter (place : Document.Place) : Document.OrRef Document.Parameter :=
    .inline ⟨"id", place, none, true, none⟩
  operation : Document.Operation :=
    ⟨some "getPet", none, none, [], [parameter .path, parameter .query], none, [], none⟩

/-- Names that are told apart by their places only are not told apart. -/
theorem parameters_in_two_places_share_a_name :
    ¬ ∀ (d : Document) (o : Options) (b : Blueprint), (Blueprint.ofDocument d o).result = .ok b →
      List.Forall₂ (fun e a => ∀ shared, List.Forall₂ (Declared d) e.1.parameters shared →
          (shared.map Document.Parameter.key).Nodup → (argumentNames a).Nodup)
        d.pathOperations b.activities := by
  intro hall
  have hnames : (Blueprint.ofDocument twoPlaces ⟨"models", true⟩).result.map
      (fun b => b.activities.map argumentNames) = .ok [["id", "id"]] := by
    decide +kernel
  obtain ⟨b, h, hb⟩ := map_eq_ok_iff.1 hnames
  obtain ⟨a, ha, hid⟩ := List.map_eq_singleton_iff.1 hb
  have hone := hall _ _ b h
  rw [ha] at hone
  cases hone with
  | cons hdistinct _ =>
    have hnodup := hdistinct [] .nil List.nodup_nil
    rw [hid] at hnodup
    exact absurd hnodup (by decide)

end ActivityForge.Source
