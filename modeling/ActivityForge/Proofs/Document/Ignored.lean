import ActivityForge.Proofs.Document.Examples
import ActivityForge.Proofs.Document.Reading
import ActivityForge.Proofs.Document.References
import ActivityForge.Proofs.Document.StableRecord
import ActivityForge.Proofs.Json.Compact

/-!
# What reading a document ignores

A document stays the same under any number of edits (`ofJson_of_edits`): the members of a record are
put in another order, a member is left out that is no field or that is absent, objects are put in
another order in members that are no fields, and in examples unless a key comes twice in them.  Each
shape of a document is stable under one edit, and so the run is an induction over the edits.  In an
example the last of several members with one key counts (`example_order_matters`).
-/

namespace ActivityForge.Document

open Json
open Reading
open Walk

variable {α : Type} {n : Nat}

/-! ## References -/

theorem stable_reference : Stable n Source.keepWhole refFields.ofMap? (.record .reference) :=
  stable_ofMap? rfl fun _ _ => (Chain.make id).required stable_plain

/-- A choice between a reference and a record is stable if the record is. -/
theorem stable_reference_or {β : Type} {inline? : Content → Option α} {refer : String → β}
    {embed : α → β} {k : Record} (hk : refKey ∉ k.keys)
    (h : Stable n Source.keepWhole inline? (.record k)) :
    Stable n Source.keepWhole
      (fun c => ((refFields.ofMap? c).map refer).or ((inline? c).map embed)) (.choice k) := by
  refine stable_whole fun src src' hsrc hsrc' depth t t' c c' hdepth ht hrecast hc hc' b hb => ?_
  have href := isSome_ofMap?_refFields ht hc
  have href' := isSome_ofMap?_refFields (hrecast.isTree ht) hc'
  by_cases his : IsReference t
  · obtain ⟨target, htarget⟩ := Option.isSome_iff_exists.1 (href.2 his)
    have htarget' := stable_reference.eq_some hsrc hsrc' hdepth ht (hrecast.choice.1 his) hc hc'
      htarget
    rw [htarget] at hb
    rw [htarget']
    exact hb
  · have hinner := hrecast.choice.2 his
    have hnone : refFields.ofMap? c = none :=
      Option.not_isSome_iff_eq_none.1 (mt href.1 his)
    have hnone' : refFields.ofMap? c' = none :=
      Option.not_isSome_iff_eq_none.1 fun h => his (isReference_of_recast hk hinner (href'.1 h))
    rw [hnone, Option.map_none, Option.none_or, Option.map_eq_some_iff] at hb
    obtain ⟨a, ha, rfl⟩ := hb
    rw [hnone', Option.map_none, Option.none_or, h.eq_some hsrc hsrc' hdepth ht hinner hc hc' ha,
      Option.map_some]

theorem stable_orRef {inline? : Content → Option α} {k : Record} (hk : refKey ∉ k.keys)
    (h : Stable n Source.keepWhole inline? (.record k)) :
    Stable n Source.keepWhole (orRef? inline?) (.choice k) :=
  stable_reference_or hk h

/-! ## Records that are kept whole -/

/-- A flag, or else a schema. -/
theorem stable_additional {inner : Content → Option Schema}
    (h : Stable n Source.keepWhole inner (.choice .schema)) :
    Stable n Source.keepWhole
      (fun c => (c.flag?.map Additional.allowed).or ((inner c).map Additional.values))
      (.choice .schema) := by
  refine stable_whole fun src src' hsrc hsrc' depth t t' c c' hdepth ht hrecast hc hc' a ha => ?_
  have hflag {src : Source} {t : Tree} {c : Content} (ht : IsTree t)
      (hc : Yields (src.keepWhole depth t) c) (b : Bool) :
      c.flag? = some b ↔ t = scalar (.bool b) := by
    have hatom : IsPlain (.bool b) := trivial
    rw [← eq_contentOf_iff hatom ht hc]
    cases c <;> simp [Content.flag?, contentOf]
  have hsame (b : Bool) : c.flag? = some b ↔ c'.flag? = some b := by
    rw [hflag ht hc, hflag (hrecast.isTree ht) hc', hrecast.eq_scalar_iff]
  rw [← Option.ext hsame]
  rw [Option.or_eq_some_iff] at ha ⊢
  refine ha.imp_right ?_
  rintro ⟨hnone, ha⟩
  refine ⟨hnone, ?_⟩
  rw [Option.map_eq_some_iff] at ha ⊢
  obtain ⟨schema, hschema, rfl⟩ := ha
  exact ⟨schema, h.eq_some hsrc hsrc' hdepth ht hrecast hc hc' hschema, rfl⟩

theorem stable_schema : Stable n Source.keepWhole Schema.ofContent? (.choice .schema) := by
  induction n using Nat.strongRecOn with
  | _ n ih =>
    have hvalue? : Schema.ofContent? = fun c => ((refFields.ofMap? c).map Schema.ref).or
        (((schemaFields Schema.ofContent?).value? c).map Schema.inline) :=
      funext Schema.ofContent?_eq
    rw [hvalue?]
    -- the parts of a schema are nested less deep, and so they are stable by induction
    refine stable_reference_or (by decide) (stable_value? rfl fun m hm => ?_)
    exact Chain.make (m := .whole) SchemaBody.mk
      |>.optional stable_plain
      |>.optional stable_plain
      |>.optional stable_plain
      |>.optional stable_plain
      |>.defaulted (stable_dict_whole (ih m hm))
      |>.defaulted stable_plain
      |>.optional (Stable.optional (stable_additional (ih m hm)))
      |>.optional (Stable.optional (ih m hm))

theorem stable_mediaType : Stable n Source.keepWhole mediaTypeFields.value? (.record .mediaType) :=
  stable_value? rfl fun _ _ => Chain.make (m := .whole) MediaType.mk
    |>.optional (Stable.optional stable_schema)
    |>.optional (Stable.optional stable_example)

theorem stable_contentMap :
    Stable n Source.keepWhole contentMap.value? (.map (.record .mediaType)) :=
  stable_dict_whole stable_mediaType

theorem stable_parameter : Stable n Source.keepWhole parameterFields.value? (.record .parameter) :=
  stable_value? rfl fun _ _ => Chain.make (m := .whole) Parameter.mk
    |>.required stable_plain
    |>.required stable_plain
    |>.optional stable_plain
    |>.defaulted stable_plain
    |>.optional (Stable.optional stable_schema)

theorem stable_requestBody :
    Stable n Source.keepWhole requestBodyFields.value? (.record .requestBody) :=
  stable_value? rfl fun _ _ => Chain.make (m := .whole) RequestBody.mk
    |>.optional stable_plain
    |>.defaulted stable_contentMap
    |>.defaulted stable_plain

theorem stable_response : Stable n Source.keepWhole responseFields.value? (.record .response) :=
  stable_value? rfl fun _ _ => Chain.make (m := .whole) Response.mk
    |>.defaulted stable_plain
    |>.defaulted stable_contentMap

/-! ## Records that are kept member by member -/

theorem stable_info : Stable n Info.shape.keep Info.shape.value? (.record .info) :=
  stable_record rfl fun _ _ => Chain.make (m := .direct) Info.mk
    |>.required stable_text
    |>.optional (stable_optional stable_text)
    |>.required stable_text

theorem stable_operation :
    Stable n Operation.shape.keep Operation.shape.value? (.record .operation) :=
  stable_record rfl fun _ _ => Chain.make (m := .direct) Operation.mk
    |>.optional (stable_optional stable_text)
    |>.optional (stable_optional stable_text)
    |>.optional (stable_optional stable_text)
    |>.defaulted stable_texts
    |>.defaulted (stable_list (stable_choice (stable_orRef (by decide) stable_parameter)))
    |>.optional (stable_optional (stable_choice (stable_orRef (by decide) stable_requestBody)))
    |>.defaulted (stable_dict (stable_choice (stable_orRef (by decide) stable_response)))
    |>.optional (stable_optional stable_flag)

theorem stable_pathItem : Stable n PathItem.shape.keep PathItem.shape.value? (.record .pathItem) :=
  stable_record rfl fun _ _ => Chain.make (m := .direct) PathItem.mk
    |>.defaulted (stable_list (stable_choice (stable_orRef (by decide) stable_parameter)))
    |>.optional (stable_optional stable_operation)
    |>.optional (stable_optional stable_operation)
    |>.optional (stable_optional stable_operation)
    |>.optional (stable_optional stable_operation)
    |>.optional (stable_optional stable_operation)

theorem stable_components :
    Stable n Components.shape.keep Components.shape.value? (.record .components) :=
  stable_record rfl fun _ _ => Chain.make (m := .direct) Components.mk
    |>.defaulted (stable_dict (stable_choice stable_schema))
    |>.defaulted (stable_dict (stable_choice (stable_orRef (by decide) stable_response)))
    |>.defaulted (stable_dict (stable_choice (stable_orRef (by decide) stable_parameter)))
    |>.defaulted (stable_dict (stable_choice (stable_orRef (by decide) stable_requestBody)))

theorem stable_document : Stable n shape.keep shape.value? (.record .document) :=
  stable_record rfl fun _ _ => Chain.make (m := .direct) Document.mk
    |>.required stable_text
    |>.required stable_info
    |>.defaulted (stable_dict stable_pathItem)
    |>.optional (stable_optional stable_components)

/-! ## Texts -/

/-- Any number of edits. -/
def Edits (t t' : Tree) : Prop := Relation.ReflTransGen (Edited (.record .document)) t t'

/-- A text with an edited value is read as the same document. -/
theorem ofJson_of_edits {text text' : String} {d : Document} (h : ofJson text = .ok d)
    (hedits : Edits (source text).root (source text').root)
    (hafter : (source text').after = none) : ofJson text' = .ok d := by
  obtain ⟨-, hversion, c, hc, hd⟩ := ofJson_eq_ok_iff.1 h
  have hroot := isTree_source text
  have hstep (src : Source) (hsrc : src.format.positional = true) {t t' : Tree} (ht : IsTree t)
      (hrecast : Recast (.record .document) t t') {c : Content}
      (hc : Yields (shape.keep src Json.format.maxDepth t) c) (hd : shape.value? c = some d) :
      ∃ c', Yields (shape.keep (source text') Json.format.maxDepth t') c' ∧
        shape.value? c' = some d := by
    have hsrc' : (source text').format.positional = true := rfl
    obtain ⟨c', hc', hsame⟩ := stable_document hsrc hsrc' (Nat.le_refl _) ht hrecast hc
    exact ⟨c', hc', hsame.value d hd⟩
  -- what has been edited so far is still read as the document, with the later text as source
  have hrun : ∀ t, Edits (source text).root t → IsTree t ∧
      ∃ c, Yields (shape.keep (source text') Json.format.maxDepth t) c ∧
        shape.value? c = some d := by
    intro t ht
    induction ht with
    | refl => exact ⟨hroot, hstep (source text) rfl hroot (.refl _ _) hc hd⟩
    | @tail t t' _ hedit ih =>
      obtain ⟨htree, c, hc, hd⟩ := ih
      have hrecast : Recast (.record .document) t t' := Or.inr hedit
      exact ⟨hrecast.isTree htree, hstep (source text') rfl htree hrecast hc hd⟩
  obtain ⟨-, c', hc', hd'⟩ := hrun _ hedits
  exact ofJson_eq_ok_iff.2 ⟨hafter, hversion, c', hc', hd'⟩

/-- A text with one example, whose members are given next to those of `info`. -/
def sample (info : List (String × Value)) (first second : Bool) : Value := .object
  [("openapi", .text "3."), ("info", .object info), ("components", .object [("requestBodies",
    .object [("", .object [("content", .object [("", .object [("example", .object
      [("a", .bool first), ("a", .bool second)])])])])])])]

/-- The document with the example that is read. -/
def sampleDocument (last : Bool) : Document where
  format := "3."
  info := ⟨"", none, ""⟩
  paths := []
  components := some
    { schemas := [], responses := [], parameters := []
      requestBodies := [("", .inline
        { description := none
          content := [("", ⟨none, some (.object [("a", .bool last)])⟩)]
          required := false })] }

def shortInfo : List (String × Value) := [("title", .text ""), ("version", .text "")]

/-- The same, in another order, with a member that is not known and one that is absent. -/
def longInfo : List (String × Value) :=
  [("x", .null), ("version", .text ""), ("description", .null), ("title", .text "")]

theorem isExact_sample {info : List (String × Value)} (h : ∀ m ∈ info, IsExact m.2) (a b : Bool) :
    IsExact (sample info a b) := by
  simpa [sample, IsExact.object_iff, IsExact.text, IsExact.bool] using h

theorem isExact_shortInfo : ∀ m ∈ shortInfo, IsExact m.2 := by
  simp [shortInfo, IsExact.text]

theorem isExact_longInfo : ∀ m ∈ longInfo, IsExact m.2 := by
  simp [longInfo, IsExact.text, IsExact.null]

theorem within_info (info info' : List (String × Value)) (a b : Bool) :
    Within (.record .info) (object (namedTreesOf info)) (object (namedTreesOf info'))
      (.record .document) (treeOf (sample info a b)) (treeOf (sample info' a b)) :=
  @Within.member _ _ _ .document ⟨"info", false, .record .info⟩ _ _ [("openapi", _)] [_] (by decide)
    .here

theorem within_example (info : List (String × Value)) (a b a' b' : Bool) :
    Within .exampleValue
      (object [("a", scalar (.bool a)), ("a", scalar (.bool b))])
      (object [("a", scalar (.bool a')), ("a", scalar (.bool b'))])
      (.record .document) (treeOf (sample info a b)) (treeOf (sample info a' b')) := by
  refine @Within.member _ _ _ .document ⟨"components", true, .record .components⟩ _ _ [_, _] []
    (by decide) ?_
  refine @Within.member _ _ _ _ ⟨"requestBodies", false, .map (.choice .requestBody)⟩ _ _ [] []
    (by decide) (@Within.entry _ _ _ _ _ _ _ [] [] (.inline ?_ ?_))
  · intro h
    obtain ⟨target, h⟩ := isReference_object_iff.1 h
    cases h
  · refine @Within.member _ _ _ _ ⟨"content", false, .map (.record .mediaType)⟩ _ _ [] []
      (by decide) (@Within.entry _ _ _ _ _ _ _ [] [] ?_)
    exact @Within.member _ _ _ _ ⟨"example", true, .exampleValue⟩ _ _ [] [] (by decide) .here

set_option maxRecDepth 4000 in
theorem ofJson_sample :
    ofJson (sample longInfo true false).compact = .ok (sampleDocument false) := by cbv

set_option maxRecDepth 4000 in
theorem ofJson_sample_swapped :
    ofJson (sample longInfo false true).compact = .ok (sampleDocument true) := by cbv

theorem edits_longInfo (a b : Bool) :
    Edits (treeOf (sample longInfo a b)) (treeOf (sample shortInfo a b)) := by
  have hedit (info info' : List (String × Value))
      (h : LocalEdit (.record .info) (object (namedTreesOf info)) (object (namedTreesOf info'))) :
      Edited (.record .document) (treeOf (sample info a b)) (treeOf (sample info' a b)) :=
    ⟨_, _, _, h, within_info info info' a b⟩
  have hdrop := hedit longInfo longInfo.tail
    (@LocalEdit.drop .info "x" _ [] _ (by decide) (by decide))
  have hnull := hedit longInfo.tail shortInfo.reverse
    (@LocalEdit.dropNull .info ⟨"description", true, .plain⟩ [_] [_] (by decide) rfl)
  have hreorder := hedit shortInfo.reverse shortInfo (.reorder (.swap _ _ _))
  exact ((Relation.ReflTransGen.single hdrop).tail hnull).tail hreorder

theorem sample_edited :
    ofJson (sample longInfo true false).compact = .ok (sampleDocument false) ∧
      Edits (source (sample longInfo true false).compact).root
        (source (sample shortInfo true false).compact).root ∧
      (source (sample shortInfo true false).compact).after = none ∧
      ofJson (sample shortInfo true false).compact = .ok (sampleDocument false) := by
  obtain ⟨hroot, -⟩ := source_compact (isExact_sample isExact_longInfo true false)
  obtain ⟨hroot', hafter⟩ := source_compact (isExact_sample isExact_shortInfo true false)
  have hedits : Edits (source (sample longInfo true false).compact).root
      (source (sample shortInfo true false).compact).root := by
    rw [hroot, hroot']
    exact edits_longInfo true false
  exact ⟨ofJson_sample, hedits, hafter, ofJson_of_edits ofJson_sample hedits hafter⟩

/-- The members of an example cannot always be put in another order: if a key is repeated, the last
one counts. -/
theorem example_order_matters :
    ¬ ∀ text text' d, ofJson text = .ok d →
      (∃ x x', Within .exampleValue x x' (.record .document) (source text).root
        (source text').root ∧ Shuffled (fun _ => True) x x') →
      (source text').after = none → ofJson text' = .ok d := by
  intro hall
  obtain ⟨hroot, -⟩ := source_compact (isExact_sample isExact_longInfo true false)
  obtain ⟨hroot', hafter⟩ := source_compact (isExact_sample isExact_longInfo false true)
  have hwithin := within_example longInfo true false false true
  rw [← hroot, ← hroot'] at hwithin
  have hsame := hall _ _ _ ofJson_sample ⟨_, _, hwithin, .here trivial (.swap _ _ _)⟩ hafter
  rw [ofJson_sample_swapped] at hsame
  simp [sampleDocument] at hsame

end ActivityForge.Document
