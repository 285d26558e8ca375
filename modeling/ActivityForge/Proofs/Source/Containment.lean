import ActivityForge.Proofs.DataType.Layers
import ActivityForge.Proofs.Source.Emitted
import Mathlib.Logic.Relation

/-!
# Structs that contain structs

A struct contains another by value if one of its fields has the type of the other, bare or under
options only; boxes, lists and maps keep their values elsewhere.  Which struct contains which can
be read off the component schemas: those that refer to a component schema of another name from a
property (`contains_iff`).  No struct contains itself directly, since such references are boxed,
and one contains itself through others if and only if the component schemas refer to each other
in a cycle (`ofDocument_containment`).  Cycles are written as they are
(`mutual_references_contain_themselves`).
-/

namespace ActivityForge

namespace Document

/-- The name of the struct of a component schema. -/
def structName (component : String × Schema) : String := (Name.ofText component.1).pascal

/-- A component schema with properties refers to one with another name, directly from a
property. -/
structure PointsTo (d : Document) (c c' : String × Schema) : Prop where
  source : c ∈ d.structured
  target : c' ∈ d.structured
  other : structName c' ≠ structName c
  property : ∃ property ∈ c.2.properties, ∃ target, property.2 = .ref target ∧
    DataType.referencedName target = structName c'

end Document

namespace Source

open Blueprint (fieldFrom modelFrom)
open Document (Schema structName)
open Relation (ReflTransGen TransGen)

/-- The structs that are written, each in a file of its own. -/
def structs (b : Blueprint) : List ModelFile := (emittedModels b).map (ModelFile.ofModel b.info)

/-- Some field has the type of the other struct, bare or under options only. -/
def ModelFile.Holds (scope : String) (outer inner : ModelFile) : Prop :=
  ∃ f ∈ outer.fields, ∃ n,
    f.binder.type = DataType.optionLayers n (DataType.qualify scope inner.name)

/-- One of the structs contains another by value; `scope` is the module that they live in. -/
structure Contains (b : Blueprint) (scope : String) (F G : ModelFile) : Prop where
  outer : F ∈ structs b
  inner : G ∈ structs b
  holds : F.Holds scope G

/-! ## One struct in another -/

/-- The struct of a component schema. -/
def structOf (info : Document.Info) (scope : String) (component : String × Schema) : ModelFile :=
  .ofModel info (modelFrom scope component)

theorem name_structOf (info : Document.Info) (scope : String) (component : String × Schema) :
    (structOf info scope component).name = structName component := by
  rw [structOf, ModelFile.ofModel, Blueprint.name_modelFrom, structName]

theorem holds_structOf_iff {scope : String} (hscope : scope ∉ DataType.foreignScopes)
    (info : Document.Info) (c c' : String × Schema) :
    (structOf info scope c).Holds scope (structOf info scope c') ↔
      structName c' ≠ structName c ∧ ∃ property ∈ c.2.properties, ∃ target,
        property.2 = .ref target ∧ DataType.referencedName target = structName c' := by
  have hcolon : ':' ∉ (structName c').toList := Name.not_mem_pascal (by decide) _
  have hclose : '>' ∉ (structName c').toList := Name.not_mem_pascal (by decide) _
  have hfields : (structOf info scope c).fields = c.2.properties.map fun property =>
      .ofField (structName c) (fieldFrom scope (Blueprint.requiredKeys c.2) property) := by
    rw [structOf, ModelFile.ofModel, Blueprint.fields_modelFrom, Blueprint.name_modelFrom,
      List.map_map]
    rfl
  rw [ModelFile.Holds, hfields, name_structOf]
  simp only [List.mem_map, exists_exists_and_eq_and]
  constructor
  · rintro ⟨property, hp, hlayers⟩
    obtain ⟨hother, htarget⟩ :=
      (DataType.fieldText_ofField_iff hscope hcolon hclose property.2 _).1 hlayers
    exact ⟨hother, property, hp, htarget⟩
  · rintro ⟨hother, property, hp, htarget⟩
    exact ⟨property, hp,
      (DataType.fieldText_ofField_iff hscope hcolon hclose property.2 _).2 ⟨hother, htarget⟩⟩

/-! ## Chains -/

section Chains

variable {d : Document} {o : Options} {b : Blueprint}
  (h : (Blueprint.ofDocument d o).result = .ok b)
  (hscope : o.modelScope ∉ DataType.foreignScopes)

include h

theorem mem_structs_iff {F : ModelFile} :
    F ∈ structs b ↔ ∃ c ∈ d.structured, structOf b.info o.modelScope c = F := by
  rw [structs, emittedModels_eq h, List.map_map]
  exact List.mem_map

theorem structOf_mem {c : String × Schema} (hc : c ∈ d.structured) :
    structOf b.info o.modelScope c ∈ structs b :=
  (mem_structs_iff h).2 ⟨c, hc, rfl⟩

include hscope

theorem contains_structOf_iff {c c' : String × Schema} (hc : c ∈ d.structured)
    (hc' : c' ∈ d.structured) :
    Contains b o.modelScope (structOf b.info o.modelScope c) (structOf b.info o.modelScope c') ↔
      d.PointsTo c c' := by
  constructor
  · rintro ⟨-, -, hholds⟩
    obtain ⟨hother, hproperty⟩ := (holds_structOf_iff hscope _ c c').1 hholds
    exact ⟨hc, hc', hother, hproperty⟩
  · rintro ⟨-, -, hother, hproperty⟩
    exact ⟨structOf_mem h hc, structOf_mem h hc',
      (holds_structOf_iff hscope _ c c').2 ⟨hother, hproperty⟩⟩

theorem pointsTo_of_contains {F G : ModelFile} (hchain : TransGen (Contains b o.modelScope) F G)
    {c : String × Schema} (hc : c ∈ d.structured) (hF : structOf b.info o.modelScope c = F) :
    ∀ c' ∈ d.structured, structOf b.info o.modelScope c' = G → TransGen d.PointsTo c c' := by
  subst hF
  induction hchain with
  | single hstep =>
    rintro c' hc' rfl
    exact .single ((contains_structOf_iff h hscope hc hc').1 hstep)
  | tail _ hstep ih =>
    rintro c' hc' rfl
    -- The struct in between has a component schema, perhaps one of several.
    obtain ⟨between, hbetween, rfl⟩ := (mem_structs_iff h).1 hstep.outer
    exact .tail (ih between hbetween rfl) ((contains_structOf_iff h hscope hbetween hc').1 hstep)

theorem contains_of_pointsTo {c c' : String × Schema} (hchain : TransGen d.PointsTo c c') :
    TransGen (Contains b o.modelScope) (structOf b.info o.modelScope c)
      (structOf b.info o.modelScope c') :=
  hchain.lift _ fun _ _ hstep =>
    (contains_structOf_iff h hscope hstep.source hstep.target).2 hstep

/-- No struct contains itself directly, and one contains itself through others if and only if its
component schema is on a cycle of references, each from a property to a component schema of
another name. -/
theorem ofDocument_containment :
    (∀ F, ¬ Contains b o.modelScope F F) ∧
      ∀ F, TransGen (Contains b o.modelScope) F F ↔
        ∃ c, structOf b.info o.modelScope c = F ∧ TransGen d.PointsTo c c := by
  refine ⟨fun F hself => ?_, fun F => ⟨fun hchain => ?_, ?_⟩⟩
  · obtain ⟨c, hc, rfl⟩ := (mem_structs_iff h).1 hself.outer
    exact ((contains_structOf_iff h hscope hc hc).1 hself).other rfl
  · obtain ⟨G, hfirst, -⟩ := TransGen.head'_iff.1 hchain
    obtain ⟨c, hc, rfl⟩ := (mem_structs_iff h).1 hfirst.outer
    exact ⟨c, rfl, pointsTo_of_contains h hscope hchain hc rfl c hc rfl⟩
  · rintro ⟨c, rfl, hcycle⟩
    exact contains_of_pointsTo h hscope hcycle

end Chains

/-! ## Two documents -/

/-- Component schemas with one property each, `next`, which refers to another of them. -/
def linked (components : List (String × String)) : Document where
  format := "3.0.3"
  info := ⟨"Links", none, "1"⟩
  paths := []
  components := some ⟨components.map fun (key, next) => (key, schema next), [], [], []⟩
where
  schema (next : String) : Schema :=
    .inline ⟨some (.single "object"), none, none, none,
      [("next", .ref (Document.Section.schemas.reference next))], ["next"], none, none⟩

/-- A list: the node that comes next is boxed, and the list itself is none of its nodes. -/
def linkedList : Document := linked [("List", "Node"), ("Node", "Node")]

theorem structName_of_pointsTo_linkedList {c c' : String × Schema} (h : linkedList.PointsTo c c') :
    structName c' = "Node" := by
  obtain ⟨property, hp, target, ht, hname⟩ := h.property
  have hschema : c.2 = linked.schema "Node" := by
    have hc : c ∈ linkedList.schemas := List.mem_of_mem_filter h.source
    rcases List.mem_cons.1 hc with rfl | hc
    · rfl
    · rw [List.mem_singleton.1 hc]
  rw [hschema] at hp
  obtain rfl := List.mem_singleton.1 hp
  obtain rfl := Schema.ref.inj ht
  rw [← hname]
  decide +kernel

theorem linkedList_is_finite : ∃ b,
    (Blueprint.ofDocument linkedList ⟨"crate::models", true⟩).result = .ok b ∧
      "crate::models" ∉ DataType.foreignScopes ∧
        ∀ F, ¬ TransGen (Contains b "crate::models") F F := by
  obtain ⟨b, h⟩ := exists_eq_ok_of_isOk
    (x := (Blueprint.ofDocument linkedList ⟨"crate::models", true⟩).result) (by decide)
  refine ⟨b, h, by decide, fun F hself => ?_⟩
  obtain ⟨c, -, hcycle⟩ := ((ofDocument_containment h (by decide)).2 F).1 hself
  -- What is referred to is a node, and nodes refer to nothing of another name.
  obtain ⟨c', hfirst, -⟩ := TransGen.head'_iff.1 hcycle
  obtain ⟨c'', -, hlast⟩ := TransGen.tail'_iff.1 hcycle
  exact hfirst.other <|
    (structName_of_pointsTo_linkedList hfirst).trans (structName_of_pointsTo_linkedList hlast).symm

/-- Two component schemas that require each other. -/
def linkedPair : Document := linked [("A", "B"), ("B", "A")]

theorem mutual_references_contain_themselves :
    ¬ ∀ (d : Document) (o : Options) (b : Blueprint),
      (Blueprint.ofDocument d o).result = .ok b → o.modelScope ∉ DataType.foreignScopes →
        ∀ F, ¬ TransGen (Contains b o.modelScope) F F := by
  intro hall
  obtain ⟨b, h⟩ := exists_eq_ok_of_isOk
    (x := (Blueprint.ofDocument linkedPair ⟨"crate::models", true⟩).result) (by decide)
  have hscope : "crate::models" ∉ DataType.foreignScopes := by decide
  have hfirst : ("A", linked.schema "B") ∈ linkedPair.structured := List.mem_cons_self
  have hsecond : ("B", linked.schema "A") ∈ linkedPair.structured :=
    List.mem_cons_of_mem _ List.mem_cons_self
  have hthere : linkedPair.PointsTo ("A", linked.schema "B") ("B", linked.schema "A") :=
    ⟨hfirst, hsecond, by decide +kernel, _, List.mem_cons_self, _, rfl, by decide +kernel⟩
  have hback : linkedPair.PointsTo ("B", linked.schema "A") ("A", linked.schema "B") :=
    ⟨hsecond, hfirst, by decide +kernel, _, List.mem_cons_self, _, rfl, by decide +kernel⟩
  exact hall _ _ b h hscope _ (contains_of_pointsTo h hscope (.tail (.single hthere) hback))

end Source

end ActivityForge
