import ActivityForge.Proofs.Activity.Renaming
import ActivityForge.Proofs.Blueprint.Acceptance

/-!
# A blueprint enumerates its document

`Enumerates d o b` says that the activities of `b` are the operations of `d`, one for one and in
the order of the document, that each says what the document says of its operation (`Describes`),
apart from the names that collide, and that the models are the component schemas (`Models`).  The
blueprint of a document enumerates it (`ofDocument_enumerates`).
-/

namespace ActivityForge.Blueprint

open Document (Endpoint MediaType Method OrRef ReferenceError Schema SchemaBody LeadsTo
  componentsOf)

/-! ## What the parts say -/

/-- The response that an operation is resolved to: from the one that counts, at the end of its
chain of references, or the plain response if the operation declares none. -/
inductive Answers (d : Document) (scope : String) (op : Document.Operation) :
    Activity.Response → Prop
  | selected {code : String} {r : OrRef Document.Response} {response : Document.Response}
      (h : Selected op code r)
      (leads : LeadsTo .responses (componentsOf d Document.Components.responses) r response) :
      Answers d scope op (responseOf scope code response)
  | plain (h : op.responses = []) : Answers d scope op ⟨"200", some "Success", []⟩

/-- What an activity says of an operation before colliding names are settled. -/
structure Describes (d : Document) (scope : String) (e : Endpoint) (a : Activity) : Prop where
  path : a.path = e.path
  method : a.method = e.method
  idempotent : a.idempotent = true ↔ e.method = .get ∨ e.method = .put ∨ e.method = .delete
  retryPolicy : a.retryPolicy = .ofIdempotency a.idempotent
  name : a.name = Name.ofText a.name.original
  identifier : Identifies e a.name.original
  response : Answers d scope e.operation a.response

/-- What a field of a model says of a property. -/
structure Fields (scope : String) (body : SchemaBody Schema) (property : String × Schema)
    (f : Model.Field) : Prop where
  originalName : f.originalName = property.1
  fieldName : f.fieldName = Name.fieldText property.1
  required : f.required = true ↔ property.1 ∈ body.required
  type : f.type = DataType.ofField scope (some property.2) f.required

/-- What a model says of a component schema. -/
structure Models (scope : String) (component : String × Schema) (m : Model) : Prop where
  name : m.name = Name.ofText component.1
  fields : ∀ body, component.2 = .inline body →
    List.Forall₂ (Fields scope body) body.properties m.fields
  reference : ∀ target, component.2 = .ref target → m.fields = []

/-- A blueprint has the operations and the component schemas of a document, one for one and in
order. -/
structure Enumerates (d : Document) (o : Options) (b : Blueprint) : Prop where
  info : b.info = d.info
  places : (b.activities.map fun a => (a.path, a.method)) = d.places
  /-- A place comes once if paths are not repeated. -/
  distinct : d.paths.keys.Nodup → (b.activities.map fun a => (a.path, a.method)).Nodup
  /-- The activities are those of the operations, some perhaps under another name. -/
  activities : ∃ drafts, List.Forall₂ (Describes d o.modelScope) d.endpoints drafts ∧
    List.Forall₂ Activity.Renames drafts b.activities ∧
    b.activities = Activity.settleNames [] drafts
  models : List.Forall₂ (Models o.modelScope) d.schemas b.models

/-! ## What is built says it -/

theorem models_modelFrom (scope : String) (component : String × Schema) :
    Models scope component (modelFrom scope component) := by
  obtain ⟨key, schema⟩ := component
  cases schema with
  | ref target => exact ⟨rfl, fun _ h => by simp at h, fun _ _ => rfl⟩
  | inline body =>
    refine ⟨rfl, fun body' h => ?_, fun _ h => by simp at h⟩
    obtain rfl := Schema.inline.inj h
    refine List.forall₂_map_right_iff.2 (List.forall₂_same.2 fun property _ => ?_)
    exact ⟨rfl, rfl, by simp [fieldFrom], rfl⟩

theorem isIdempotent_iff (m : Method) :
    m.isIdempotent = true ↔ m = .get ∨ m = .put ∨ m = .delete := by
  cases m <;> decide

theorem describes_draftOf {d : Document} {scope path : String}
    {entry : Method × Document.Operation} {response : Activity.Response}
    (h : Answers d scope entry.2 response) (parameters : List Activity.Parameter)
    (body : Option Activity.Body) :
    Describes d scope ⟨path, entry.1, entry.2⟩ (draftOf path entry parameters body response) where
  path := rfl
  method := rfl
  idempotent := isIdempotent_iff entry.1
  retryPolicy := rfl
  name := rfl
  identifier := identifies_operationName ⟨path, entry.1, entry.2⟩
  response := h

/-! ## What is resolved is built -/

variable {d : Document} {o : Options}

theorem answers_of_resolveResponse {op : Document.Operation} {response : Activity.Response}
    (h : (resolveResponse d o op).result = .ok response) : Answers d o.modelScope op response := by
  rw [result_resolveResponse] at h
  split at h
  · next hnone =>
    obtain rfl := pure_eq_ok_iff.1 h
    exact .plain (selectResponse?_eq_none_iff.1 hnone)
  · next code r hsome =>
    simp only [bind_eq_ok_iff, pure_eq_ok_iff] at h
    obtain ⟨found, hr, -, -, rfl⟩ := h
    cases Document.resolve_eq_iff.1 hr with
    | inline leads => exact .selected (selectResponse?_eq_some_iff.1 hsome) leads

theorem describes_of_resolveActivity {path : String} {ofPath : List Activity.Parameter}
    {entry : Method × Document.Operation} {a : Activity}
    (h : (resolveActivity d o path ofPath entry).result = .ok a) :
    Describes d o.modelScope ⟨path, entry.1, entry.2⟩ a := by
  simp only [result_resolveActivity, bind_eq_ok_iff, pure_eq_ok_iff] at h
  obtain ⟨own, -, body, -, response, hresponse, rfl⟩ := h
  exact describes_draftOf (answers_of_resolveResponse hresponse) _ _

theorem describes_of_resolvePath {entry : String × Document.PathItem} {drafts : List Activity}
    (h : (resolvePath d o entry).result = .ok drafts) :
    List.Forall₂ (Describes d o.modelScope)
      (entry.2.operations.map fun e => ⟨entry.1, e.1, e.2⟩) drafts := by
  simp only [result_resolvePath, bind_eq_ok_iff, mapM_eq_ok_iff] at h
  obtain ⟨ofPath, -, h⟩ := h
  exact List.forall₂_map_left_iff.2 (h.imp fun _ _ => describes_of_resolveActivity)

/-- The activities are those of the operations with their names settled. -/
theorem exists_drafts {b : Blueprint} (h : (ofDocument d o).result = .ok b) : ∃ drafts,
    List.Forall₂ (Describes d o.modelScope) d.endpoints drafts ∧
      b = ⟨d.info, Activity.settleNames [] drafts, b.models⟩ := by
  simp only [result_ofDocument, bind_eq_ok_iff, pure_eq_ok_iff, mapM_eq_ok_iff] at h
  obtain ⟨models, -, perPath, hpaths, rfl⟩ := h
  refine ⟨perPath.flatten, List.rel_flatten (List.forall₂_map_left_iff.2 ?_), rfl⟩
  exact hpaths.imp fun _ _ => describes_of_resolvePath

/-- The blueprint of a document, whatever the options, has an activity for each of its operations
and a model for each of its component schemas. -/
theorem ofDocument_enumerates {b : Blueprint} (h : (ofDocument d o).result = .ok b) :
    Enumerates d o b := by
  have hmodels := models_eq h
  obtain ⟨drafts, hdrafts, hb⟩ := exists_drafts h
  have hplaces : (drafts.map fun a => (a.path, a.method)) = d.places := by
    rw [← d.map_endpoints, ← List.forall₂_eq_eq_eq, List.forall₂_map_left_iff,
      List.forall₂_map_right_iff]
    exact hdrafts.flip.imp fun a e ha => by rw [ha.path, ha.method]
  have hsettled := Activity.map_settleNames (f := fun a => (a.path, a.method))
    (fun a b hab => by rw [hab]) [] drafts
  rw [hb]
  refine ⟨rfl, hsettled.trans hplaces, fun hkeys => ?_, ⟨_, hdrafts, ?_, rfl⟩, ?_⟩
  · exact hsettled.trans hplaces ▸ Document.nodup_places hkeys
  · exact Activity.forall₂_renames_settleNames [] _
  · rw [hmodels, List.forall₂_map_right_iff, List.forall₂_same]
    exact fun component _ => models_modelFrom _ component

theorem petStore_enumerated : ∃ b,
    (ofDocument Document.petStore ⟨"models", true⟩).result = .ok b ∧
      Enumerates Document.petStore ⟨"models", true⟩ b := by
  obtain ⟨b, h⟩ := exists_ofDocument_iff.2 Document.accepted_petStore
  exact ⟨b, h, ofDocument_enumerates h⟩

end ActivityForge.Blueprint
