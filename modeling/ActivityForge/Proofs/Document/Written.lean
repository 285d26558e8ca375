import ActivityForge.Proofs.Document.Printed
import ActivityForge.Proofs.Document.Reading
import ActivityForge.Proofs.Document.References

/-!
# Documents that are written and read again

The compact text of a document is read as the same document, provided that the document has itself
been read and its examples have no floating point numbers (`ofJson_compact_write`).  Part by part,
what has been read at some depth is written such that it is read again at that depth; only a request
body without content takes a level more than it may have had, and is never that deep
(`roundTrips_requestBody`).
-/

namespace ActivityForge.Document

open Json
open Reading
open Walk

variable {α : Type} {depth : Nat} {p : Position}

/-! ## References -/

theorem rereads_reference {β : Type} {value? : Content → Option β} {refer : String → β}
    (hrefer : ∀ c target, refFields.ofMap? c = some target → value? c = some (refer target))
    {d : Nat} (target : String) :
    Rereads (d + 1) Source.keepWhole value? (refer target) (writeRef target) := by
  have hexact : IsExact (writeRef target) := .object (by simpa using .text target)
  refine ⟨hexact, fun src _ => ?_⟩
  have htext : IsPlain (.text target) := trivial
  have hkept : Yields (src.keepWhole (d + 1) (treeOf (writeRef target)))
      (objectContent [(refKey, .text target)]) :=
    (yields_keepWhole_dict (isKey_treeMembers _)).2 ⟨d, [(refKey, textTree target)], _, rfl, rfl,
      rfl, .cons ⟨rfl, (yields_keepWhole_scalar htext).2 rfl⟩ .nil⟩
  exact ⟨_, hkept, hrefer _ _ ((ofMap?_refFields_iff hexact.isTree hkept).2 ⟨_, rfl, rfl⟩)⟩

theorem not_isReference_of_keys {members : List (String × Value)}
    (h : refKey ∉ Dict.keys members) : ¬ IsReference (treeOf (.object members)) := by
  rintro ⟨named, target, heq, hnamed⟩
  obtain rfl := object_inj heq
  have hmem : (refKey, textTree target) ∈ namedTreesOf members :=
    (List.mem_filter.1 (hnamed ▸ List.mem_singleton_self _)).1
  rw [namedTreesOf_eq_map] at hmem
  obtain ⟨m, hm, hkey⟩ := List.mem_map.1 hmem
  exact h (List.mem_map.2 ⟨m, hm, (Prod.mk.inj hkey).1⟩)

/-- What is a reference or else a record is written as the one or the other. -/
theorem roundTrips_reference_or {β : Type} {k : Record} {r : Fields α}
    {writes : α → List (String × Value) → Prop} (writeInline : α → Value) {refer : String → β}
    {embed : α → β} {write : β → Value} (hkeys : r.fields.map Field.key = k.keys)
    (hk : refKey ∉ k.keys)
    (hwrite : ∀ a members, writes a members → writeInline a = .object members)
    (hrefer : ∀ target, write (refer target) = writeRef target)
    (hembed : ∀ a, write (embed a) = writeInline a)
    (h : ∀ d, depth = d + 1 → Printed d .whole r k.slots writes) :
    RoundTrips depth Source.keepWhole
      (fun c => ((refFields.ofMap? c).map refer).or ((r.value? c).map embed)) write
      (.choice k) := by
  intro src hsrc t c b ht hfree hc hb
  have href := isSome_ofMap?_refFields ht hc
  rw [Option.or_eq_some_iff, Option.map_eq_some_iff, Option.map_eq_some_iff] at hb
  rcases hb with ⟨target, htarget, rfl⟩ | ⟨hnone, a, ha, rfl⟩
  · obtain ⟨named, rfl, -⟩ := (ofMap?_refFields_iff ht hc).1 htarget
    obtain ⟨d, _, _, rfl, -⟩ := (yields_keepWhole_dict (isKey_treeMembers named)).1 hc
    rw [hrefer]
    exact ⟨rereads_reference (fun c target h => by rw [h]; rfl) target, nofun⟩
  · have his : ¬ IsReference t := fun his => by
      obtain ⟨target, htarget⟩ := Option.isSome_iff_exists.1 (href.2 his)
      rw [htarget] at hnone
      cases hnone
    obtain ⟨⟨hexact, hkept⟩, members, hmembers, hknown⟩ :=
      rereads_value? hkeys hwrite h hsrc ht (hfree.inline his) hc ha
    -- a record is written with its own keys only, and so it is not taken for a reference
    have hnot : ¬ IsReference (treeOf (writeInline a)) := by
      rw [hmembers]
      exact not_isReference_of_keys fun hmem => hk (hknown _ hmem)
    rw [hembed]
    refine ⟨⟨hexact, fun src' hsrc' => ?_⟩,
      fun hnull => Value.noConfusion (hmembers.symm.trans hnull)⟩
    obtain ⟨c', hc', ha'⟩ := hkept src' hsrc'
    have hnone' : refFields.ofMap? c' = none :=
      Option.not_isSome_iff_eq_none.1 (mt (isSome_ofMap?_refFields hexact.isTree hc').1 hnot)
    exact ⟨c', hc', by rw [hnone', ha']; rfl⟩

theorem roundTrips_orRef {k : Record} {r : Fields α} {writes : α → List (String × Value) → Prop}
    {write : α → Value} (hkeys : r.fields.map Field.key = k.keys) (hk : refKey ∉ k.keys)
    (hwrite : ∀ a members, writes a members → write a = .object members)
    (h : ∀ d, depth = d + 1 → Printed d .whole r k.slots writes) :
    RoundTrips depth Source.keepWhole (orRef? r.value?) (OrRef.write write) (.choice k) :=
  roundTrips_reference_or write hkeys hk hwrite (fun _ => rfl) (fun _ => rfl) h

/-! ## Schemas -/

/-- What a schema is written as that has further values. -/
def Additional.write : Additional Schema → Value
  | .allowed b => .bool b
  | .values schema => schema.write

theorem writeProperties_eq_map (properties : List (String × Schema)) :
    writeProperties properties = properties.map fun m => (m.1, m.2.write) := by
  induction properties with
  | nil => rfl
  | cons m properties ih => rw [writeProperties, ih, List.map_cons]

theorem write_inline (body : SchemaBody Schema) : Schema.write (.inline body) = .object
    (member? "type" TypeSet.write body.type?
      ++ member? "format" .text body.format
      ++ member? "description" .text body.description
      ++ member? "nullable" .bool body.nullable
      ++ dictMember "properties" Schema.write body.properties
      ++ listMember "required" .text body.required
      ++ member? "additionalProperties" Additional.write body.additional
      ++ member? "items" Schema.write body.items) := by
  have hproperties : (if body.properties.isEmpty then []
      else [("properties", Value.object (writeProperties body.properties))]) =
        dictMember "properties" Schema.write body.properties := by
    rw [writeProperties_eq_map]
    cases body.properties <;> rfl
  have hadditional : writeAdditional body.additional =
      member? "additionalProperties" Additional.write body.additional := by
    rcases body.additional with _ | _ | _ <;> rfl
  have hitems : writeItems body.items = member? "items" Schema.write body.items := by
    cases body.items <;> rfl
  rw [Schema.write, hproperties, hadditional, hitems]

theorem roundTrips_additional {inner : Content → Option Schema}
    (hinner : ∀ b, inner (.bool b) = none)
    (h : RoundTrips depth Source.keepWhole inner Schema.write (.choice .schema)) :
    RoundTrips depth Source.keepWhole
      (fun c => (c.flag?.map Additional.allowed).or ((inner c).map Additional.values))
      Additional.write (.choice .schema) := by
  intro src hsrc t c a ht hfree hc ha
  rw [Option.or_eq_some_iff, Option.map_eq_some_iff, Option.map_eq_some_iff] at ha
  rcases ha with ⟨b, -, rfl⟩ | ⟨-, schema, hschema, rfl⟩
  · exact ⟨rereads_flag rfl, nofun⟩
  · obtain ⟨hagain, hnull⟩ := h hsrc ht hfree hc hschema
    refine ⟨hagain.imp fun c' hc' => ?_, hnull⟩
    cases c' with
    | bool b =>
      rw [hinner] at hc'
      cases hc'
    | _ => exact congrArg (Option.map Additional.values) hc'

theorem roundTrips_schema :
    RoundTrips depth Source.keepWhole Schema.ofContent? Schema.write (.choice .schema) := by
  induction depth using Nat.strongRecOn with
  | _ depth ih =>
    have hvalue? : Schema.ofContent? = fun c => ((refFields.ofMap? c).map Schema.ref).or
        (((schemaFields Schema.ofContent?).value? c).map Schema.inline) :=
      funext Schema.ofContent?_eq
    rw [hvalue?]
    -- the parts of a schema are nested less deep, and so the induction is on the depth
    refine roundTrips_reference_or (fun body => Schema.write (.inline body)) rfl (by decide) ?_
      (fun _ => rfl) (fun _ => rfl) fun d hd =>
      have inner {d' : Nat} (h : d' ≤ d) := ih d' (by omega)
      Printed.make (m := .whole) SchemaBody.mk
        |>.optional_whole roundTrips_typeSet
        |>.optional_whole roundTrips_text_whole
        |>.optional_whole roundTrips_text_whole
        |>.optional_whole roundTrips_flag_whole
        |>.dict (roundTrips_dict_whole fun e he => inner (by omega))
        |>.list roundTrips_texts
        |>.optional_whole (roundTrips_additional (fun _ => rfl) (inner (Nat.le_refl d)))
        |>.optional_whole (inner (Nat.le_refl d))
    rintro _ _ ⟨_, _, _, _, _, _, _, _, rfl, rfl⟩
    exact write_inline _

/-! ## Records that are kept whole -/

theorem roundTrips_mediaType : RoundTrips depth Source.keepWhole mediaTypeFields.value?
    MediaType.write (.record .mediaType) := by
  refine roundTrips_value? rfl ?_ fun d hd => Printed.make (m := .whole) MediaType.mk
    |>.optional_whole roundTrips_schema
    |>.optional_whole roundTrips_example
  rintro _ _ ⟨_, _, rfl, rfl⟩
  rfl

theorem roundTrips_contentMap : RoundTrips depth Source.keepWhole contentMap.value?
    (writeDict MediaType.write) (.map (.record .mediaType)) :=
  roundTrips_dict_whole fun _ _ => roundTrips_mediaType

theorem roundTrips_parameter : RoundTrips depth Source.keepWhole (orRef? parameterFields.value?)
    (OrRef.write Parameter.write) (.choice .parameter) := by
  refine roundTrips_orRef rfl (by decide) ?_ fun d hd => Printed.make (m := .whole) Parameter.mk
    |>.required roundTrips_text_whole
    |>.required roundTrips_place
    |>.optional_whole roundTrips_text_whole
    |>.defaulted roundTrips_flag_whole (rereads_flag rfl)
    |>.optional_whole roundTrips_schema
  rintro _ _ ⟨_, _, _, _, _, rfl, rfl⟩
  rfl

theorem rereads_noContent (hdepth : 1 ≤ depth) :
    Rereads depth Source.keepWhole contentMap.value? [] (writeDict MediaType.write []) := by
  obtain ⟨d, rfl⟩ : ∃ d, depth = d + 1 := ⟨depth - 1, by omega⟩
  refine ⟨.object (by simp), fun src _ => ⟨.map [], ?_, rfl⟩⟩
  exact (yields_keepWhole_dict (isKey_treeMembers [])).2 ⟨d, [], [], rfl, rfl, rfl, .nil⟩

/-- The content of a request body is written even if there is none, and so takes a level. -/
theorem roundTrips_requestBody (hdepth : 2 ≤ depth) :
    RoundTrips depth Source.keepWhole (orRef? requestBodyFields.value?)
      (OrRef.write RequestBody.write) (.choice .requestBody) := by
  refine roundTrips_orRef rfl (by decide) ?_ fun d hd =>
    Printed.make (m := .whole) RequestBody.mk
      |>.optional_whole roundTrips_text_whole
      |>.defaulted roundTrips_contentMap (rereads_noContent (by omega))
      |>.defaulted roundTrips_flag_whole (rereads_flag rfl)
  rintro _ _ ⟨required, content, description, rfl, rfl⟩
  cases description <;> rfl

theorem roundTrips_response : RoundTrips depth Source.keepWhole (orRef? responseFields.value?)
    (OrRef.write Response.write) (.choice .response) := by
  refine roundTrips_orRef rfl (by decide) ?_ fun d hd => Printed.make (m := .whole) Response.mk
    |>.defaulted roundTrips_text_whole (rereads_text rfl)
    |>.dict roundTrips_contentMap
  rintro _ _ ⟨_, _, rfl, rfl⟩
  rfl

/-! ## Records that are kept member by member -/

theorem roundTrips_info :
    RoundTrips depth Info.shape.keep Info.shape.value? Info.write (.record .info) := by
  refine roundTrips_record rfl ?_ fun d hd => Printed.make (m := .direct) Info.mk
    |>.required roundTrips_text
    |>.optional rfl roundTrips_text
    |>.required roundTrips_text
  rintro _ _ ⟨_, _, _, rfl, rfl⟩
  rfl

theorem roundTrips_parameters :
    RoundTrips depth Parameter.shape.list.keep Parameter.shape.list.value?
      (fun l => .list (l.map (OrRef.write Parameter.write))) (.list (.choice .parameter)) :=
  roundTrips_list (fun h _ => h.item) fun _ _ => roundTrips_choice roundTrips_parameter

theorem roundTrips_responses :
    RoundTrips depth Response.shape.dict.keep Response.shape.dict.value?
      (writeDict (OrRef.write Response.write)) (.map (.choice .response)) :=
  roundTrips_dict fun _ _ => roundTrips_choice roundTrips_response

theorem roundTrips_operation (hdepth : 3 ≤ depth) : RoundTrips depth Operation.shape.keep
    Operation.shape.value? Operation.write (.record .operation) := by
  refine roundTrips_record rfl ?_ fun d hd => Printed.make (m := .direct) Operation.mk
    |>.optional rfl roundTrips_text
    |>.optional rfl roundTrips_text
    |>.optional rfl roundTrips_text
    |>.list (roundTrips_list (fun _ item _ => .plain item) fun _ _ => roundTrips_text)
    |>.list roundTrips_parameters
    |>.optional rfl (roundTrips_choice (roundTrips_requestBody (by omega)))
    |>.dict roundTrips_responses
    |>.optional rfl roundTrips_flag
  rintro _ _ ⟨_, _, _, _, _, _, _, _, rfl, rfl⟩
  rfl

theorem roundTrips_pathItem (hdepth : 4 ≤ depth) : RoundTrips depth PathItem.shape.keep
    PathItem.shape.value? PathItem.write (.record .pathItem) := by
  refine roundTrips_record rfl ?_ fun d hd =>
    have operation : RoundTrips d Operation.shape.keep Operation.shape.value? Operation.write
        (.record .operation) := roundTrips_operation (by omega)
    Printed.make (m := .direct) PathItem.mk
      |>.list roundTrips_parameters
      |>.optional rfl operation
      |>.optional rfl operation
      |>.optional rfl operation
      |>.optional rfl operation
      |>.optional rfl operation
  rintro _ _ ⟨_, _, _, _, _, _, rfl, rfl⟩
  rfl

theorem roundTrips_components (hdepth : 4 ≤ depth) : RoundTrips depth Components.shape.keep
    Components.shape.value? Components.write (.record .components) := by
  refine roundTrips_record rfl ?_ fun d hd => Printed.make (m := .direct) Components.mk
    |>.dict (roundTrips_dict fun _ _ => roundTrips_choice roundTrips_schema)
    |>.dict roundTrips_responses
    |>.dict (roundTrips_dict fun _ _ => roundTrips_choice roundTrips_parameter)
    |>.dict (roundTrips_dict fun _ _ => roundTrips_choice (roundTrips_requestBody (by omega)))
  rintro _ _ ⟨_, _, _, _, rfl, rfl⟩
  rfl

theorem roundTrips_document (hdepth : 6 ≤ depth) :
    RoundTrips depth shape.keep shape.value? write (.record .document) := by
  refine roundTrips_record rfl ?_ fun d hd => Printed.make (m := .direct) Document.mk
    |>.required roundTrips_text
    |>.required roundTrips_info
    |>.dict (roundTrips_dict fun _ _ => roundTrips_pathItem (by omega))
    |>.optional rfl (roundTrips_components (by omega))
  rintro _ _ ⟨_, _, _, _, rfl, rfl⟩
  rfl

/-! ## Texts -/

/-- The compact text of a document that has been read is read as that document, if its examples have
no floating point numbers. -/
theorem ofJson_compact_write {text : String} {d : Document} (h : ofJson text = .ok d)
    (hfree : FloatFree (.record .document) (source text).root) :
    ofJson d.write.compact = .ok d := by
  obtain ⟨-, hversion, c, hc, hd⟩ := ofJson_eq_ok_iff.1 h
  have hdepth : 6 ≤ Json.format.maxDepth := by decide
  obtain ⟨⟨hexact, hkept⟩, -⟩ :=
    roundTrips_document hdepth rfl (isTree_source text) hfree hc hd
  obtain ⟨hroot, hafter⟩ := source_compact hexact
  obtain ⟨c', hc', hd'⟩ := hkept (source d.write.compact) rfl
  exact ofJson_eq_ok_iff.2 ⟨hafter, hversion, c', hroot ▸ hc', hd'⟩

/-- A text with an example, in which the members are in another order than they are written in and
some are left out or not known. -/
def unordered : Value := .object
  [("x", .null), ("info", .object [("version", .text ""), ("title", .text "")]),
    ("openapi", .text "3."), ("components", .object [("requestBodies", .object [("B", .object
      [("content", .object [("C", .object [("example", .object
        [("b", .list [.bool true]), ("a", .number (.int 1))])])])])])])]

/-- The document that is read. -/
def ordered : Document where
  format := "3."
  info := ⟨"", none, ""⟩
  paths := []
  components := some
    { schemas := [], responses := [], parameters := []
      requestBodies := [("B", .inline
        { description := none
          content := [("C", ⟨none, some (.object
            [("a", .number (.int 1)), ("b", .list [.bool true])])⟩)]
          required := false })] }

theorem isExact_unordered : IsExact unordered := by
  have hone : IsExact (.number (.int 1)) := .int (by decide)
  simp [unordered, IsExact.object_iff, IsExact.list_iff, IsExact.null, IsExact.bool, IsExact.text,
    hone]

set_option maxRecDepth 4000 in
theorem ofJson_unordered : ofJson unordered.compact = .ok ordered := by cbv

theorem ordered_read_again :
    ofJson unordered.compact = .ok ordered ∧
      FloatFree (.record .document) (source unordered.compact).root ∧
      ofJson ordered.write.compact = .ok ordered := by
  have hfree : FloatFree (.record .document) (source unordered.compact).root := by
    rw [(source_compact isExact_unordered).1]
    exact .of_exact isExact_unordered
  exact ⟨ofJson_unordered, hfree, ofJson_compact_write ofJson_unordered hfree⟩

end ActivityForge.Document
