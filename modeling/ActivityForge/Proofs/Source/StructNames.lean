import ActivityForge.Proofs.Blueprint.ModelNames
import ActivityForge.Proofs.Name.TypeNames
import ActivityForge.Proofs.Source.ModuleTree
import ActivityForge.Source.TypeText

/-!
# The names of structs

The struct of a component schema is named after its key in Pascal case, as it is, and so are the
references to the schema, after the last segment of the key.  For an ASCII key these are names that a
type may have, unless they are `Self` (`struct_names_legal_iff`); a schema with the key `self` gets
such a struct (`self_is_no_struct_name`).
-/

namespace ActivityForge.Source

open Blueprint (NamedBehindSlash modelFrom)
open DataType (IsLastSegment)
open Document (Schema)

/-- The last name of a path. -/
def pathEnd (path : String) : String :=
  String.ofList (path.toList.reverse.takeWhile (· ≠ ':')).reverse

/-- The names that are written for a component schema, where models live in the module `scope`. -/
structure NamesType (d : Document) (scope : String) (component : String × Schema)
    (file : SourceFile) : Prop where
  struct : definedStructs file.lines = [(Name.ofText component.1).pascal]
  legal_iff : IsAsciiText component.1 →
    (IsTypeName (Name.ofText component.1).pascal ↔ (Name.ofText component.1).snake ≠ "self")
  /-- A reference to the schema ends in the name of its struct, … -/
  sameName_iff : ∀ target, d.Locates target component.1 →
    (pathEnd (DataType.ofReference scope target).text = (Name.ofText component.1).pascal ↔
      NamedBehindSlash component.1)
  /-- … or else in that of the last segment of its key. -/
  reference : ∀ target, d.Locates target component.1 →
    ∃ segment, IsLastSegment component.1 segment ∧
      pathEnd (DataType.ofReference scope target).text = (Name.ofText segment).pascal ∧
      (IsAsciiText component.1 →
        (IsTypeName (Name.ofText segment).pascal ↔ (Name.ofText segment).snake ≠ "self"))

/-! ## References -/

theorem pathEnd_qualify {name : String} (h : ':' ∉ name.toList) (scope : String) :
    pathEnd (DataType.qualify scope name) = name := by
  have hplain : ∀ c ∈ name.toList.reverse, decide (c ≠ ':') = true := fun c hc => by
    simpa using fun heq : c = ':' => h (heq ▸ List.mem_reverse.1 hc)
  have hend (before : List Char) (hbefore : before.reverse.takeWhile (· ≠ ':') = []) :
      pathEnd (String.ofList (before ++ name.toList)) = name := by
    rw [pathEnd, String.toList_ofList, List.reverse_append, List.takeWhile_append_of_pos hplain,
      hbefore, List.append_nil, List.reverse_reverse, String.ofList_toList]
  unfold DataType.qualify
  split
  · have hwhole := hend [] rfl
    rwa [List.nil_append, String.ofList_toList] at hwhole
  · have hbehind := hend (scope.toList ++ "::".toList) (by simp)
    rwa [← String.toList_append, ← String.toList_append, String.ofList_toList] at hbehind

theorem isAsciiText_of_isLastSegment {text segment : String} (h : IsAsciiText text)
    (hsegment : IsLastSegment text segment) : IsAsciiText segment := by
  obtain ⟨-, rfl | ⟨before, htext⟩⟩ := hsegment
  · exact h
  · exact fun c hc => h c (by rw [htext]; simp [hc])

theorem pathEnd_ofReference {d : Document} {target key : String} (h : d.Locates target key)
    (scope : String) : pathEnd (DataType.ofReference scope target).text =
      (Name.ofText (String.ofList (DataType.lastSegment key.toList))).pascal := by
  obtain ⟨-, rfl⟩ := Document.locates_iff.1 h
  rw [DataType.ofReference_reference]
  exact pathEnd_qualify (Name.not_mem_pascal (by decide) _) scope

/-! ## Structs -/

theorem namesType_modelFrom (d : Document) (info : Document.Info) (scope : String)
    (component : String × Schema) :
    NamesType d scope component (modelSource info (modelFrom scope component)) where
  struct := by rw [modelSource, definedStructs_modelFile, Blueprint.name_modelFrom]
  legal_iff := Name.isTypeName_pascal_iff
  sameName_iff target h := by
    rw [pathEnd_ofReference h]
    exact Blueprint.pascal_lastSegment_iff
  reference target h := by
    have hsegment := DataType.isLastSegment_lastSegment component.1
    exact ⟨_, hsegment, pathEnd_ofReference h scope,
      fun hascii => Name.isTypeName_pascal_iff (isAsciiText_of_isLastSegment hascii hsegment)⟩

/-- The structs of a document are named after the keys of its component schemas, and the name of one
with an ASCII key is that of a type if and only if its snake case form is not `self`.  So it is with
the names at the ends of references. -/
theorem struct_names_legal_iff {d : Document} {o : Options} {b : Blueprint}
    (h : (Blueprint.ofDocument d o).result = .ok b) :
    List.Forall₂ (NamesType d o.modelScope) d.structured (modelSources b) := by
  rw [modelSources, emittedModels_eq h, List.map_map, List.forall₂_map_right_iff, List.forall₂_same]
  exact fun component _ => namesType_modelFrom d b.info o.modelScope component

/-- Component schemas with keywords for keys. -/
def keywordSchemas : Document where
  format := "3.0.3"
  info := ⟨"Keyword schemas", none, "1"⟩
  paths := []
  components := some ⟨[("self", schema), ("struct", schema), ("v1/Self", schema)], [], [], []⟩
where
  schema : Schema :=
    .inline ⟨some (.single "object"), none, none, none,
      [("next", .ref (Document.Section.schemas.reference "self"))], [], none, none⟩

theorem exists_keywordSchemas :
    ∃ b, (Blueprint.ofDocument keywordSchemas ⟨"models", true⟩).result = .ok b :=
  exists_eq_ok_of_isOk (by decide)

theorem keywordSchemas_named : ∃ b,
    (Blueprint.ofDocument keywordSchemas ⟨"models", true⟩).result = .ok b ∧
      List.Forall₂ (NamesType keywordSchemas "models") keywordSchemas.structured
        (modelSources b) := by
  obtain ⟨b, h⟩ := exists_keywordSchemas
  exact ⟨b, h, struct_names_legal_iff h⟩

/-- The struct of a schema with an ASCII key may have a name that no type may have. -/
theorem self_is_no_struct_name :
    ¬ ∀ (d : Document) (o : Options) (b : Blueprint), (Blueprint.ofDocument d o).result = .ok b →
      List.Forall₂ (fun component file => IsAsciiText component.1 →
          ∀ name ∈ definedStructs file.lines, IsTypeName name)
        d.structured (modelSources b) := by
  intro hall
  obtain ⟨b, h⟩ := exists_keywordSchemas
  have hnames := hall _ _ b h
  rw [modelSources, emittedModels_eq h, List.map_map, List.forall₂_map_right_iff,
    List.forall₂_same] at hnames
  have hmem : ("self", keywordSchemas.schema) ∈ keywordSchemas.structured :=
    List.mem_filter.2 ⟨List.mem_cons_self, rfl⟩
  have hself : IsTypeName "Self" := by
    refine hnames _ hmem (List.all_eq_true.1 (by decide)) "Self" ?_
    rw [Function.comp_apply, modelSource, definedStructs_modelFile, Blueprint.name_modelFrom]
    decide
  exact hself.free (by decide)

end ActivityForge.Source
