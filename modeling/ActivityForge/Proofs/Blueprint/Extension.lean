import ActivityForge.Proofs.Blueprint.Acceptance
import Mathlib.Data.List.Infix

/-!
# Documents that are extended

`Document.Extends` says that a document has further paths and components behind those of another
one.  What a chain of references leads to stays what it is (`LeadsTo.of_isPrefix`), so that two
documents of which one extends the other never give different values for one part of the smaller
one: two results are `Related` if their values are, whenever both are there.  Hence the activities
and models of the smaller document come first in the larger one (`ofDocument_isPrefix`), with the
names that they have.
-/

namespace ActivityForge

/-! ## Results that are related -/

/-- The values of two results are related, if both have one. -/
def Related {ε α β : Type} (R : α → β → Prop) (x : Except ε α) (y : Except ε β) : Prop :=
  ∀ a b, x = .ok a → y = .ok b → R a b

namespace Related

variable {ε α β γ δ : Type} {R : α → β → Prop} {S : γ → δ → Prop}

theorem pure {a : α} {b : β} (h : R a b) :
    Related R (Pure.pure a : Except ε α) (Pure.pure b : Except ε β) := by
  intro a' b' ha hb
  rw [pure_eq_ok_iff] at ha hb
  exact ha ▸ hb ▸ h

theorem bind {x : Except ε α} {y : Except ε β} {f : α → Except ε γ} {g : β → Except ε δ}
    (h : Related R x y) (hf : ∀ a b, R a b → Related S (f a) (g b)) :
    Related S (x >>= f) (y >>= g) := by
  intro c e hc he
  obtain ⟨a, hx, ha⟩ := bind_eq_ok_iff.1 hc
  obtain ⟨b, hy, hb⟩ := bind_eq_ok_iff.1 he
  exact hf a b (h a b hx hy) c e ha hb

/-- Results without a value of interest. -/
theorem of_unit {x y : Except ε Unit} : Related Eq x y := fun _ _ _ _ => rfl

theorem mapM {f g : α → Except ε γ} (h : ∀ a, Related Eq (f a) (g a)) (l : List α) :
    Related Eq (l.mapM f) (l.mapM g) := by
  induction l with
  | nil => exact pure rfl
  | cons a l ih =>
    simp only [List.mapM_cons]
    refine (h a).bind ?_
    rintro c _ rfl
    refine ih.bind ?_
    rintro r _ rfl
    exact pure rfl

/-- A longer traversal begins with the values of a shorter one. -/
theorem mapM_isPrefix {f g : α → Except ε γ} (h : ∀ a, Related Eq (f a) (g a)) {l l' : List α}
    (hl : l <+: l') : Related (· <+: ·) (l.mapM f) (l'.mapM g) := by
  obtain ⟨more, rfl⟩ := hl
  intro r r' hr hr'
  rw [List.mapM_append] at hr'
  simp only [bind_eq_ok_iff, pure_eq_ok_iff] at hr'
  obtain ⟨first, hfirst, rest, -, rfl⟩ := hr'
  rw [mapM h l r first hr hfirst]
  exact List.prefix_append first rest

end Related

namespace Document

/-! ## Chains of references in a larger section -/

theorem get?_of_isPrefix {α : Type} {defs defs' : Dict α} (h : defs <+: defs') {name : String}
    {a : α} (ha : defs.get? name = some a) : defs'.get? name = some a := by
  obtain ⟨more, rfl⟩ := h
  rw [Dict.get?] at ha ⊢
  rw [List.lookup_append, ha, Option.some_or]

section

variable {α : Type} {s : Section} {defs defs' : Dict (OrRef α)}

theorem Follows.of_isPrefix (h : defs <+: defs') {v w : OrRef α} {targets : List String}
    (hf : Follows s defs v targets w) : Follows s defs' v targets w := by
  induction hf with
  | refl => exact .refl _
  | step declared _ ih => exact .step (get?_of_isPrefix h declared) ih

theorem resolve_of_isPrefix (h : defs <+: defs') {v : OrRef α} {a : α}
    (ha : v.resolve s defs = .ok a) : v.resolve s defs' = .ok a := by
  rw [resolve_eq_iff, chainEnds_ok_iff] at ha ⊢
  obtain ⟨targets, hf⟩ := ha
  exact ⟨targets, hf.of_isPrefix h⟩

/-- What a reference leads to does not change with further components. -/
theorem related_resolve (h : defs <+: defs') (v : OrRef α) :
    Related Eq (v.resolve s defs) (v.resolve s defs') := fun _ _ ha hb =>
  Except.ok.inj ((resolve_of_isPrefix h ha).symm.trans hb)

end

/-- A document with further paths and components behind those of another one. -/
structure Extends (d' d : Document) : Prop where
  info : d'.info = d.info
  paths : d.paths <+: d'.paths
  schemas : d.schemas <+: d'.schemas
  parameters : componentsOf d Components.parameters <+: componentsOf d' Components.parameters
  requestBodies :
    componentsOf d Components.requestBodies <+: componentsOf d' Components.requestBodies
  responses : componentsOf d Components.responses <+: componentsOf d' Components.responses

/-! ## Checks of an extended document -/

variable {d d' : Document}

/-- What a document declares and what its chains lead to is kept, so that the checks that pass
still do. -/
theorem Check.Passes.of_extends (h : d'.Extends d) {c : Check} (hc : c.Passes d) : c.Passes d' := by
  obtain ⟨schemas, hends, hsound⟩ := hc
  refine ⟨schemas, ?_, fun schema hs target ht => ?_⟩
  · rw [← opened_eq_iff] at hends ⊢
    cases c with
    | schema => exact hends
    | parameter v =>
      obtain ⟨p, hp, rfl⟩ := map_eq_ok_iff.1 hends
      exact map_eq_ok_iff.2 ⟨p, resolve_of_isPrefix h.parameters hp, rfl⟩
    | body v =>
      obtain ⟨b, hb, rfl⟩ := map_eq_ok_iff.1 hends
      exact map_eq_ok_iff.2 ⟨b, resolve_of_isPrefix h.requestBodies hb, rfl⟩
    | response v =>
      obtain ⟨r, hr, rfl⟩ := map_eq_ok_iff.1 hends
      exact map_eq_ok_iff.2 ⟨r, resolve_of_isPrefix h.responses hr, rfl⟩
  · obtain ⟨name, hname, rfl⟩ := hsound schema hs target ht
    exact ⟨name, (h.schemas.map Prod.fst).subset hname, rfl⟩

/-- The pet store with a second version of its operations. -/
def grownPetStore : Document :=
  { petStore with
    paths := petStore.paths ++ [("/v2/pets", {
      parameters := [.ref (Section.parameters.reference "limit")]
      get := some listPets
      post := some createPet
      put := none
      delete := none
      patch := none })]
    components := some {
      schemas := petStore.schemas ++ [("Toy", .ref (Section.schemas.reference "Pet"))]
      responses := []
      parameters := componentsOf petStore Components.parameters ++
        [("page", .inline ⟨"page", .query, none, false, none⟩)]
      requestBodies := [] } }

theorem extends_grownPetStore : grownPetStore.Extends petStore where
  info := rfl
  paths := ⟨_, rfl⟩
  schemas := ⟨_, rfl⟩
  parameters := ⟨_, rfl⟩
  requestBodies := ⟨_, rfl⟩
  responses := ⟨_, rfl⟩

theorem accepted_grownPetStore : grownPetStore.Accepted := by
  refine accepted_iff.2 fun c hc => ?_
  let ofSchemas : List Check := petStore.schemas.map fun component => .schema component.2
  let ofPaths : List Check := petStore.paths.flatMap fun entry => entry.2.checks
  have hchecks : grownPetStore.checks =
      (ofSchemas ++ [.schema (.ref (Section.schemas.reference "Pet"))]) ++ (ofPaths ++ ofPaths) := rfl
  have hmem : c = .schema (.ref (Section.schemas.reference "Pet")) ∨ c ∈ ofSchemas ++ ofPaths := by
    simp only [hchecks, List.mem_append, List.mem_singleton] at hc ⊢
    tauto
  obtain rfl | hmem := hmem
  · exact passes_schema_iff.2 (checkSchema_eq_ok_iff.1 rfl)
  · exact (accepted_iff.1 accepted_petStore c hmem).of_extends extends_grownPetStore

end Document

/-! ## Names in a longer list of activities -/

theorem Activity.settleNames_isPrefix (taken : List String) (l m : List Activity) :
    Activity.settleNames taken l <+: Activity.settleNames taken (l ++ m) := by
  induction l generalizing taken with
  | nil => exact List.nil_prefix
  | cons a l ih => exact List.prefix_cons_inj _ |>.2 (ih _)

namespace Blueprint

open Document (Method OrRef)

section

variable {d d' : Document} (h : d'.Extends d) (o : Options)
include h

theorem related_resolveParameter (v : OrRef Document.Parameter) :
    Related Eq (resolveParameter d o v).result (resolveParameter d' o v).result := by
  rw [result_resolveParameter, result_resolveParameter]
  refine (Document.related_resolve h.parameters v).bind ?_
  rintro p _ rfl
  exact Related.of_unit.bind fun _ _ _ => .pure rfl

theorem related_resolveBody? (v : Option (OrRef Document.RequestBody)) :
    Related Eq (resolveBody? d o v) (resolveBody? d' o v) := by
  cases v with
  | none => exact .pure rfl
  | some v =>
    rw [resolveBody?, resolveBody?, result_resolveBody, result_resolveBody]
    refine Related.bind (R := Eq) ?_ fun _ _ hbody => hbody ▸ .pure rfl
    refine (Document.related_resolve h.requestBodies v).bind ?_
    rintro b _ rfl
    exact Related.of_unit.bind fun _ _ _ => .pure rfl

theorem related_resolveResponse (op : Document.Operation) :
    Related Eq (resolveResponse d o op).result (resolveResponse d' o op).result := by
  rw [result_resolveResponse, result_resolveResponse]
  cases selectResponse? op with
  | none => exact .pure rfl
  | some entry =>
    refine (Document.related_resolve h.responses entry.2).bind ?_
    rintro r _ rfl
    exact Related.of_unit.bind fun _ _ _ => .pure rfl

theorem related_resolveActivity (path : String) (ofPath : List Activity.Parameter)
    (entry : Method × Document.Operation) :
    Related Eq (resolveActivity d o path ofPath entry).result
      (resolveActivity d' o path ofPath entry).result := by
  rw [result_resolveActivity, result_resolveActivity]
  refine (Related.mapM (related_resolveParameter h o) _).bind ?_
  rintro own _ rfl
  refine (related_resolveBody? h o _).bind ?_
  rintro body _ rfl
  refine (related_resolveResponse h o _).bind ?_
  rintro response _ rfl
  exact .pure rfl

theorem related_resolvePath (entry : String × Document.PathItem) :
    Related Eq (resolvePath d o entry).result (resolvePath d' o entry).result := by
  rw [result_resolvePath, result_resolvePath]
  refine (Related.mapM (related_resolveParameter h o) _).bind ?_
  rintro ofPath _ rfl
  exact Related.mapM (related_resolveActivity h o entry.1 ofPath) _

end

/-- What a document has stays as it is when paths and components are put behind its own: the
activities and models of the smaller document are the first of the larger one, with every field and
every name. -/
theorem ofDocument_isPrefix {d d' : Document} {o : Options} {b b' : Blueprint}
    (h : d'.Extends d) (hb : (ofDocument d o).result = .ok b)
    (hb' : (ofDocument d' o).result = .ok b') :
    b'.info = b.info ∧ b.activities <+: b'.activities ∧ b.models <+: b'.models := by
  have hmodels : b.models <+: b'.models := by
    rw [models_eq hb, models_eq hb']
    exact h.schemas.map _
  simp only [result_ofDocument, bind_eq_ok_iff, pure_eq_ok_iff] at hb hb'
  obtain ⟨_, -, drafts, hdrafts, rfl⟩ := hb
  obtain ⟨_, -, drafts', hdrafts', rfl⟩ := hb'
  have hprefix : drafts <+: drafts' :=
    Related.mapM_isPrefix (related_resolvePath h o) h.paths drafts drafts' hdrafts hdrafts'
  obtain ⟨more, hmore⟩ := List.IsPrefix.flatten hprefix
  refine ⟨h.info, ?_, hmodels⟩
  exact hmore ▸ Activity.settleNames_isPrefix [] drafts.flatten more

/-- Two further operations, with the names of those there, and two further components. -/
theorem petStore_grows : ∃ b b',
    Document.grownPetStore.Extends Document.petStore ∧
      (ofDocument Document.petStore ⟨"models", true⟩).result = .ok b ∧
      (ofDocument Document.grownPetStore ⟨"models", true⟩).result = .ok b' ∧
      b'.info = b.info ∧ b.activities <+: b'.activities ∧ b.models <+: b'.models := by
  obtain ⟨b, hb⟩ := exists_ofDocument_iff.2 Document.accepted_petStore
  obtain ⟨b', hb'⟩ := exists_ofDocument_iff.2 Document.accepted_grownPetStore
  exact ⟨b, b', Document.extends_grownPetStore, hb, hb',
    ofDocument_isPrefix Document.extends_grownPetStore hb hb'⟩

end Blueprint

end ActivityForge
