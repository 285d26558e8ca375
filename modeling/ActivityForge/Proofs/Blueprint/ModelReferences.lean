import ActivityForge.Proofs.Activity.Renaming
import ActivityForge.Proofs.Blueprint.Acceptance
import ActivityForge.Proofs.DataType.Mentions

/-!
# References to models

Every reference to a model inside a blueprint is `Traced`: it comes from a reference of the document
that one of its checks looks at, whatever the options (`traced_of_hasType`).  In strict mode those
checks have passed, so each such reference is that of a declared component schema
(`ofDocument_references`).
-/

namespace ActivityForge

namespace Document

/-- A check of the document looks at the reference. -/
def LooksAt (d : Document) (target : String) : Prop :=
  ∃ c ∈ d.checks, ∃ schemas, c.Ends d (.ok schemas) ∧ ∃ schema ∈ schemas, schema.Mentions target

end Document

namespace Blueprint

open Document (Check MediaType Method OrRef ReferenceError Schema Section contentSchemas)

/-- A data type occurs in a blueprint: as the type of a field, of a parameter, or of a media type,
or as the type of the items of one of these. -/
inductive HasType (b : Blueprint) : DataType → Prop
  | field {m : Model} {f : Model.Field} (hm : m ∈ b.models) (hf : f ∈ m.fields) : HasType b f.type
  | parameter {a : Activity} {p : Activity.Parameter} (ha : a ∈ b.activities)
      (hp : p ∈ a.parameters) : HasType b p.type
  | body {a : Activity} {body : Activity.Body} {entry : String × Activity.Payload}
      (ha : a ∈ b.activities) (hb : a.body = some body) (he : entry ∈ body.content) :
      HasType b entry.2.type
  | response {a : Activity} {entry : String × Activity.Payload} (ha : a ∈ b.activities)
      (he : entry ∈ a.response.content) : HasType b entry.2.type
  | item {t item : DataType} (h : HasType b t) (hi : t.item? = some item) : HasType b item

/-- Every reference inside the type comes from a reference that a check looks at. -/
def Traced (d : Document) (scope : String) (t : DataType) : Prop :=
  ∀ ns name, t.Mentions ns name →
    ∃ target, d.LooksAt target ∧ DataType.ofReference scope target = .ref ns name

variable {d : Document} {o : Options} {scope : String}

/-! ## Types of checked schemas -/

theorem traced_ofOptional {schema? : Option Schema}
    (h : ∀ schema, schema? = some schema → ∀ target, schema.Mentions target → d.LooksAt target) :
    Traced d scope (DataType.ofOptional scope schema?) := by
  intro ns name hm
  obtain ⟨schema, hs, target, ht, he⟩ := DataType.mentions_ofOptional schema? hm
  exact ⟨target, h schema hs target ht, he⟩

theorem traced_ofField {schema? : Option Schema} (required : Bool)
    (h : ∀ schema, schema? = some schema → ∀ target, schema.Mentions target → d.LooksAt target) :
    Traced d scope (DataType.ofField scope schema? required) :=
  fun ns name hm => traced_ofOptional h ns name (DataType.mentions_ofField hm)

/-- The fields of the model of a component schema. -/
theorem traced_modelFrom {component : String × Schema} (hc : component ∈ d.schemas)
    {f : Model.Field} (hf : f ∈ (modelFrom scope component).fields) : Traced d scope f.type := by
  obtain ⟨key, schema⟩ := component
  cases schema with
  | ref target => cases hf
  | inline body =>
    obtain ⟨property, hp, rfl⟩ := List.mem_map.1 hf
    refine traced_ofField _ fun schema hs target ht => ?_
    obtain rfl := Option.some.inj hs
    have hcheck : Check.schema (.inline body) ∈ d.checks :=
      List.mem_append_left _ (List.mem_map.2 ⟨_, hc, rfl⟩)
    exact ⟨_, hcheck, _, .schema _, _, List.mem_singleton_self _, .property hp ht⟩

/-- The parameter at the end of a chain that is checked. -/
theorem traced_parameterOf {v : OrRef Document.Parameter} (hv : Check.parameter v ∈ d.checks)
    {p : Document.Parameter} (h : Document.resolveParameter d v = .ok p) :
    Traced d scope (parameterOf scope p).type := by
  refine traced_ofField _ fun schema hs target ht => ?_
  exact ⟨_, hv, _, .parameter (Document.resolve_eq_iff.1 h), schema, Option.mem_toList.2 hs, ht⟩

theorem traced_payloadOf {c : Check} (hc : c ∈ d.checks) {content : Dict MediaType}
    (h : c.Ends d (.ok (contentSchemas content))) {entry : String × Activity.Payload}
    (he : entry ∈ content.map (payloadOf scope)) : Traced d scope entry.2.type := by
  obtain ⟨media, hm, rfl⟩ := List.mem_map.1 he
  refine traced_ofOptional fun schema hs target ht => ?_
  exact ⟨c, hc, _, h, schema, List.mem_filterMap.2 ⟨media, hm, hs⟩, ht⟩

/-! ## Types of activities -/

/-- All types of an activity are traced. -/
structure TracedActivity (d : Document) (scope : String) (a : Activity) : Prop where
  parameters : ∀ p ∈ a.parameters, Traced d scope p.type
  body : ∀ body, a.body = some body → ∀ entry ∈ body.content, Traced d scope entry.2.type
  response : ∀ entry ∈ a.response.content, Traced d scope entry.2.type

theorem mem_mergeParameter {ps : List Activity.Parameter} {p q : Activity.Parameter}
    (h : q ∈ mergeParameter ps p) : q ∈ ps ∨ q = p := by
  induction ps with
  | nil => exact Or.inr (List.mem_singleton.1 h)
  | cons r rest ih =>
    rw [mergeParameter] at h
    split at h
    · rcases List.mem_cons.1 h with h | h
      · exact Or.inr h
      · exact Or.inl (List.mem_cons_of_mem _ h)
    · rcases List.mem_cons.1 h with h | h
      · exact Or.inl (List.mem_cons.2 (Or.inl h))
      · exact (ih h).imp_left (List.mem_cons_of_mem _)

/-- Merging takes every parameter from one side or the other. -/
theorem mem_mergeParameters {ofPath own : List Activity.Parameter} {q : Activity.Parameter}
    (h : q ∈ mergeParameters ofPath own) : q ∈ ofPath ∨ q ∈ own := by
  induction own generalizing ofPath with
  | nil => exact Or.inl h
  | cons p own ih =>
    rcases ih h with h | h
    · exact (mem_mergeParameter h).imp_right fun h => List.mem_cons.2 (Or.inl h)
    · exact Or.inr (List.mem_cons_of_mem _ h)

theorem traced_of_resolveParameter {v : OrRef Document.Parameter} {p : Activity.Parameter}
    (hv : Check.parameter v ∈ d.checks) (h : (resolveParameter d o v).result = .ok p) :
    Traced d o.modelScope p.type := by
  simp only [result_resolveParameter, bind_eq_ok_iff, pure_eq_ok_iff] at h
  obtain ⟨found, hfound, -, -, rfl⟩ := h
  exact traced_parameterOf hv hfound

theorem traced_of_resolveBody? {v? : Option (OrRef Document.RequestBody)} {body : Activity.Body}
    (hv : ∀ v, v? = some v → Check.body v ∈ d.checks) (h : resolveBody? d o v? = .ok (some body)) :
    ∀ entry ∈ body.content, Traced d o.modelScope entry.2.type := by
  cases v? with
  | none => cases h
  | some v =>
    simp only [resolveBody?, result_resolveBody, bind_eq_ok_iff, pure_eq_ok_iff,
      Option.some.injEq] at h
    obtain ⟨_, ⟨found, hfound, -, -, rfl⟩, rfl⟩ := h
    have hends := Check.Ends.body (Document.resolve_eq_iff.1 hfound)
    exact fun entry he => traced_payloadOf (hv v rfl) hends he

theorem traced_of_resolveResponse {op : Document.Operation} {response : Activity.Response}
    (hop : ∀ c ∈ op.checks, c ∈ d.checks) (h : (resolveResponse d o op).result = .ok response) :
    ∀ entry ∈ response.content, Traced d o.modelScope entry.2.type := by
  rw [result_resolveResponse] at h
  split at h
  · obtain rfl := pure_eq_ok_iff.1 h
    exact fun entry he => by cases he
  · next code r hr =>
    simp only [bind_eq_ok_iff, pure_eq_ok_iff] at h
    obtain ⟨found, hfound, -, -, rfl⟩ := h
    have hcheck : Check.response r ∈ d.checks := hop _ <|
      List.mem_append_right _ (List.mem_map.2 ⟨_, Option.mem_toList.2 hr, rfl⟩)
    have hends := Check.Ends.response (Document.resolve_eq_iff.1 hfound)
    exact fun entry he => traced_payloadOf hcheck hends he

theorem tracedActivity_of_resolveActivity {path : String} {ofPath : List Activity.Parameter}
    {entry : Method × Document.Operation} {a : Activity}
    (hop : ∀ c ∈ entry.2.checks, c ∈ d.checks)
    (hpath : ∀ p ∈ ofPath, Traced d o.modelScope p.type)
    (h : (resolveActivity d o path ofPath entry).result = .ok a) :
    TracedActivity d o.modelScope a := by
  simp only [result_resolveActivity, bind_eq_ok_iff, pure_eq_ok_iff] at h
  obtain ⟨own, hown, body, hbody, response, hresponse, rfl⟩ := h
  refine ⟨fun p hp => ?_, ?_, traced_of_resolveResponse hop hresponse⟩
  · rcases mem_mergeParameters hp with hp | hp
    · exact hpath p hp
    · obtain ⟨v, hv, hr⟩ := exists_of_mem_mapM hown hp
      refine traced_of_resolveParameter (hop _ ?_) hr
      exact List.mem_append_left _ (List.mem_append_left _ (List.mem_map_of_mem hv))
  · rintro body rfl
    refine traced_of_resolveBody? (fun v hv => hop _ ?_) hbody
    refine List.mem_append_left _ (List.mem_append_right _ (List.mem_map_of_mem ?_))
    exact Option.mem_toList.2 hv

theorem tracedActivity_of_resolvePath {entry : String × Document.PathItem} {drafts : List Activity}
    (hitem : ∀ c ∈ entry.2.checks, c ∈ d.checks)
    (h : (resolvePath d o entry).result = .ok drafts) :
    ∀ a ∈ drafts, TracedActivity d o.modelScope a := by
  simp only [result_resolvePath, bind_eq_ok_iff] at h
  obtain ⟨ofPath, hofPath, h⟩ := h
  intro a ha
  obtain ⟨e, he, hr⟩ := exists_of_mem_mapM h ha
  refine tracedActivity_of_resolveActivity (fun c hc => hitem c ?_) (fun p hp => ?_) hr
  · exact List.mem_append_right _ (List.mem_flatMap.2 ⟨e, he, hc⟩)
  · obtain ⟨v, hv, hp⟩ := exists_of_mem_mapM hofPath hp
    exact traced_of_resolveParameter (hitem _ (List.mem_append_left _ (List.mem_map_of_mem hv))) hp

/-! ## Types of a blueprint -/

theorem tracedActivity_of_ofDocument {b : Blueprint} (h : (ofDocument d o).result = .ok b) :
    ∀ a ∈ b.activities, TracedActivity d o.modelScope a := by
  simp only [result_ofDocument, bind_eq_ok_iff, pure_eq_ok_iff] at h
  obtain ⟨models, -, perPath, hpaths, rfl⟩ := h
  intro a ha
  obtain ⟨draft, hdraft, hrenames⟩ :=
    exists_mem_of_forall₂ (Activity.forall₂_renames_settleNames [] _) ha
  obtain ⟨drafts, hdrafts, hdraft⟩ := List.mem_flatten.1 hdraft
  obtain ⟨entry, hentry, hr⟩ := exists_of_mem_mapM hpaths hdrafts
  have htraced := tracedActivity_of_resolvePath (fun c hc =>
    List.mem_append_right _ (List.mem_flatMap.2 ⟨entry, hentry, hc⟩)) hr draft hdraft
  -- A draft differs from its activity in its name, which has no type.
  rw [hrenames]
  exact ⟨htraced.parameters, htraced.body, htraced.response⟩

/-- No reference gets into a blueprint but through a place that is checked. -/
theorem traced_of_hasType {b : Blueprint} (h : (ofDocument d o).result = .ok b) {t : DataType}
    (ht : b.HasType t) : Traced d o.modelScope t := by
  have hactivity := tracedActivity_of_ofDocument h
  induction ht with
  | field hm hf =>
    rw [models_eq h] at hm
    obtain ⟨component, hc, rfl⟩ := List.mem_map.1 hm
    exact traced_modelFrom hc hf
  | parameter ha hp => exact (hactivity _ ha).parameters _ hp
  | body ha hb he => exact (hactivity _ ha).body _ hb _ he
  | response ha he => exact (hactivity _ ha).response _ he
  | item _ hi ih => exact fun ns name hm => ih ns name (hm.of_item? hi)

theorem declares_of_looksAt {target : String} (hd : d.Accepted) (h : d.LooksAt target) :
    d.Declares target := by
  obtain ⟨c, hc, schemas, hends, schema, hs, ht⟩ := h
  obtain ⟨schemas', hends', hsound⟩ := Document.accepted_iff.1 hd c hc
  obtain rfl : schemas = schemas' := by
    rw [← Check.opened_eq_iff] at hends hends'
    exact Except.ok.inj (hends.symm.trans hends')
  exact hsound schema hs target ht

/-- Every reference inside a type of a blueprint that was made in strict mode leads into the scope
of the models, and to the model that is named after the last segment of the name of a declared
component schema, whose reference was checked. -/
theorem ofDocument_references {b : Blueprint} (h : (ofDocument d ⟨scope, true⟩).result = .ok b)
    {t : DataType} (ht : b.HasType t) {ns name : String} (hm : t.Mentions ns name) :
    ns = scope ∧ ∃ key ∈ d.schemas.keys, d.LooksAt (Section.schemas.reference key) ∧
      ∃ segment, DataType.IsLastSegment key segment ∧ name = (Name.ofText segment).pascal := by
  obtain ⟨target, hlooks, href⟩ := traced_of_hasType h ht ns name hm
  obtain ⟨key, hkey, rfl⟩ := declares_of_looksAt (exists_ofDocument_iff.1 ⟨b, h⟩) hlooks
  rw [DataType.ofReference_reference] at href
  obtain ⟨rfl, rfl⟩ := DataType.ref.inj href
  exact ⟨rfl, key, hkey, hlooks, _, DataType.isLastSegment_lastSegment key, rfl⟩

/-- The field of a pet for its owner, described by a reference to `v1/Owner`. -/
theorem petStore_references : ∃ b name,
    (ofDocument Document.petStore ⟨"models", true⟩).result = .ok b ∧
      b.HasType (.ref "models" name) ∧
        ∃ key ∈ Document.petStore.schemas.keys, ∃ segment,
          DataType.IsLastSegment key segment ∧ name = (Name.ofText segment).pascal := by
  obtain ⟨b, h⟩ := exists_ofDocument_iff.2 Document.accepted_petStore
  have hmodel : modelFrom "models" Document.petStore.schemas.head! ∈ b.models := by
    rw [models_eq h]
    exact List.mem_cons_self
  have hfield :
      b.HasType (DataType.ofReference "models" (Section.schemas.reference "v1/Owner")) :=
    .field hmodel (f := _) List.mem_cons_self
  obtain ⟨-, key, hkey, -, segment, hsegment⟩ := ofDocument_references h hfield (.ref _ _)
  exact ⟨b, _, h, hfield, key, hkey, segment, hsegment⟩

end Blueprint

end ActivityForge
