import ActivityForge.Proofs.Blueprint.Resolution
import ActivityForge.Source.Artifact

/-!
# Component schemas that get a file

A component schema becomes a struct in a file of its own if it is written out and has properties,
whatever its type (`emittedModels_eq`); references and schemas without properties get no file.
-/

namespace ActivityForge

namespace Document

/-- The properties of a schema; a reference has none. -/
def Schema.properties : Schema → List (String × Schema)
  | .ref _ => []
  | .inline body => body.properties

/-- The component schemas with properties, in declared order. -/
def structured (d : Document) : Dict Schema := d.schemas.filter fun c => !c.2.properties.isEmpty

end Document

namespace Blueprint

open Document (Schema)

/-- The keys of the properties that an inline schema requires. -/
def requiredKeys : Schema → List String
  | .ref _ => []
  | .inline body => body.required

theorem name_modelFrom (scope : String) (component : String × Schema) :
    (modelFrom scope component).name = Name.ofText component.1 := by
  unfold modelFrom
  split <;> rfl

theorem fields_modelFrom (scope : String) (component : String × Schema) :
    (modelFrom scope component).fields =
      component.2.properties.map (fieldFrom scope (requiredKeys component.2)) := by
  obtain ⟨key, schema⟩ := component
  cases schema <;> rfl

end Blueprint

namespace Source

open Blueprint (modelFrom)

variable {d : Document} {o : Options} {b : Blueprint}

theorem info_ofDocument (h : (Blueprint.ofDocument d o).result = .ok b) : b.info = d.info := by
  simp only [Blueprint.result_ofDocument, bind_eq_ok_iff, pure_eq_ok_iff] at h
  obtain ⟨models, -, perPath, -, rfl⟩ := h
  rfl

theorem emittedModels_eq (h : (Blueprint.ofDocument d o).result = .ok b) :
    emittedModels b = d.structured.map (modelFrom o.modelScope) := by
  rw [emittedModels, Blueprint.models_eq h, List.filter_map, Document.structured]
  congr 1
  refine List.filter_congr fun component _ => ?_
  rw [Function.comp_apply, Blueprint.fields_modelFrom, List.isEmpty_map]

end Source

end ActivityForge
