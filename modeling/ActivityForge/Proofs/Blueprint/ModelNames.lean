import ActivityForge.Proofs.Blueprint.ModelReferences
import ActivityForge.Proofs.Name.Pascal
import ActivityForge.Proofs.Source.Emitted

/-!
# References and the models they are meant for

A reference to a component schema is checked by all that stands behind the section, which has to be
the key of the schema, and the model of the schema is named after the whole key.  The type of the
reference is named after what stands behind its last slash.  The two names are the same unless there
is a word of the key before its last slash (`reference_names_model_iff`); the type of a reference to
`v1/Owner` has the name of no model (`versioned_reference_names_no_model`).
-/

namespace ActivityForge

open Text (isAlphanumeric)

namespace Document

/-- The check accepts the reference, as that of the component schema with the key. -/
structure Locates (d : Document) (target key : String) : Prop where
  accepted : checkSchema d (.ref target) = .ok ()
  found : targetName .schemas target = .ok key

theorem locates_iff {d : Document} {target key : String} :
    d.Locates target key ↔ key ∈ d.schemas.keys ∧ target = Section.schemas.reference key := by
  constructor
  · rintro ⟨haccepted, hfound⟩
    have htarget := targetName_eq_ok_iff.1 hfound
    rw [checkSchema_eq_ok_iff] at haccepted
    obtain ⟨key', hkey', heq⟩ := haccepted target (.ref target)
    have hsame : key = key' := Section.schemas.reference_injective (htarget.symm.trans heq)
    exact ⟨hsame ▸ hkey', htarget⟩
  · rintro ⟨hkey, rfl⟩
    refine ⟨checkSchema_eq_ok_iff.2 ?_, targetName_reference _ key⟩
    rintro _ ⟨⟩
    exact ⟨key, hkey, rfl⟩

end Document

namespace DataType

theorem lastSegment_of_not_mem {cs : List Char} (h : '/' ∉ cs) : lastSegment cs = cs := by
  have hall : ∀ c ∈ cs.reverse, decide (c ≠ '/') = true := fun c hc => by
    simpa using fun heq : c = '/' => h (heq ▸ List.mem_reverse.1 hc)
  rw [lastSegment, List.takeWhile_eq_self_iff.2 hall, List.reverse_reverse]

end DataType

namespace Blueprint

open DataType (lastSegment)

/-- What stands before the last slash of a key has no word, or else nothing behind it has, and the
key has the name of one without words. -/
def NamedBehindSlash (key : String) : Prop :=
  ∀ before rest, key.toList = before ++ '/' :: rest → '/' ∉ rest →
    (∀ c ∈ before, isAlphanumeric c = false) ∨
      ((∀ c ∈ rest, isAlphanumeric c = false) ∧ (Name.ofText key).pascal = "Unnamed")

/-- The last segment of a key is named like the key. -/
theorem pascal_lastSegment_iff {key : String} :
    (Name.ofText (String.ofList (lastSegment key.toList))).pascal = (Name.ofText key).pascal ↔
      NamedBehindSlash key := by
  have hbehind {before : List Char} {rest : String}
      (hkey : key.toList = before ++ '/' :: rest.toList) (hrest : '/' ∉ rest.toList) :
      (Name.ofText (String.ofList (lastSegment key.toList))).pascal = (Name.ofText key).pascal ↔
        (∀ c ∈ before, isAlphanumeric c = false) ∨
          ((∀ c ∈ rest.toList, isAlphanumeric c = false) ∧
            (Name.ofText key).pascal = "Unnamed") := by
    have hsegment : String.ofList (lastSegment key.toList) = rest := by
      rw [hkey, DataType.lastSegment_append, DataType.lastSegment_of_not_mem hrest,
        String.ofList_toList]
    rw [hsegment]
    exact Name.pascal_behind_iff (by decide) hkey
  constructor
  · intro h before rest hkey hrest
    rw [← String.toList_ofList (l := rest)] at hkey hrest ⊢
    exact (hbehind hkey hrest).1 h
  · intro h
    obtain ⟨hplain, heq | ⟨before, hkey⟩⟩ := DataType.isLastSegment_lastSegment key
    · rw [← heq]
    · exact (hbehind hkey hplain).2 (h before _ hkey hplain)

variable {d : Document} {o : Options} {b : Blueprint}

/-- Whatever reference is found as that of a component schema, its type has the name of the model of
that schema if and only if the key of the schema has no word before its last slash. -/
theorem reference_names_model_iff (h : (ofDocument d o).result = .ok b) :
    List.Forall₂ (fun component m => ∀ target, d.Locates target component.1 →
        (DataType.ofReference o.modelScope target = .ref o.modelScope m.name.pascal ↔
          NamedBehindSlash component.1))
      d.schemas b.models := by
  rw [models_eq h, List.forall₂_map_right_iff, List.forall₂_same]
  intro component _ target hlocates
  obtain ⟨-, rfl⟩ := Document.locates_iff.1 hlocates
  rw [DataType.ofReference_reference, name_modelFrom, DataType.ref.injEq, and_iff_right rfl]
  exact pascal_lastSegment_iff

/-- A schema whose key has a slash, and one that refers to it. -/
def versioned : Document where
  format := "3.0.3"
  info := ⟨"Versioned", none, "1"⟩
  paths := []
  components := some ⟨[
    ("v1/Owner", object ("name", .inline ⟨some (.single "string"), none, none, none, [], [], none,
      none⟩)),
    ("Pet", object ("owner", .ref (Document.Section.schemas.reference "v1/Owner")))], [], [], []⟩
where
  object (property : String × Document.Schema) : Document.Schema :=
    .inline ⟨some (.single "object"), none, none, none, [property], [], none, none⟩

theorem versioned_names_iff : ∃ b,
    (ofDocument versioned ⟨"models", true⟩).result = .ok b ∧
      List.Forall₂ (fun component m => ∀ target, versioned.Locates target component.1 →
          (DataType.ofReference "models" target = .ref "models" m.name.pascal ↔
            NamedBehindSlash component.1))
        versioned.schemas b.models := by
  obtain ⟨b, h⟩ := exists_eq_ok_of_isOk
    (x := (ofDocument versioned ⟨"models", true⟩).result) (by decide)
  exact ⟨b, h, reference_names_model_iff h⟩

/-- A reference that is found may have a type that names another model than the one meant, or
none. -/
theorem versioned_reference_names_no_model :
    ¬ ∀ (d : Document) (o : Options) (b : Blueprint), (ofDocument d o).result = .ok b →
      List.Forall₂ (fun component m => ∀ target, d.Locates target component.1 →
          DataType.ofReference o.modelScope target = .ref o.modelScope m.name.pascal)
        d.schemas b.models := by
  intro hall
  obtain ⟨b, h⟩ := exists_eq_ok_of_isOk
    (x := (ofDocument versioned ⟨"models", true⟩).result) (by decide)
  have hnames := hall _ _ b h
  rw [models_eq h] at hnames
  cases hnames with
  | cons howner _ =>
    have htype := howner (Document.Section.schemas.reference "v1/Owner")
      (Document.locates_iff.2 ⟨List.mem_cons_self, rfl⟩)
    exact absurd htype (by decide +kernel)

end Blueprint

end ActivityForge
