import ActivityForge.Document.Reader
import ActivityForge.Proofs.Reading.Walk

/-!
# Reading documents

The shapes of a document are made of steps that follow no alias, and so a JSON text is a document if
the walk over its tree yields one (`ofJson_eq_ok_iff`).
-/

namespace ActivityForge.Document

open Reading Walk

instance : Schema.shape.Still := inferInstanceAs (Shape.choice _ _).Still

instance : Parameter.shape.Still := inferInstanceAs (Shape.choice _ _).Still

instance : RequestBody.shape.Still := inferInstanceAs (Shape.choice _ _).Still

instance : Response.shape.Still := inferInstanceAs (Shape.choice _ _).Still

instance : Operation.shape.Still := inferInstanceAs (Shape.record _ _).Still

instance : PathItem.shape.Still := inferInstanceAs (Shape.record _ _).Still

instance : Components.shape.Still := inferInstanceAs (Shape.record _ _).Still

instance : Info.shape.Still := inferInstanceAs (Shape.record _ _).Still

instance : shape.Still := inferInstanceAs (Shape.record _ _).Still

/-- A JSON text is a document if the walk over its value yields one, which is of format version 3,
and nothing follows. -/
theorem ofJson_eq_ok_iff {text : String} {d : Document} :
    ofJson text = .ok d ↔ (Json.source text).after = none ∧ "3.".isPrefixOf d.format = true ∧
      ∃ c, Yields (shape.keep (Json.source text) Json.format.maxDepth (Json.source text).root) c ∧
        shape.value? c = some d := by
  have hstill := Shape.Still.keep (s := shape) (Json.source text) Json.format.maxDepth
    (Json.source text).root
  have hread : shape.read (Json.source text) = .ok d ↔ (Json.source text).after = none ∧
      ∃ c, Yields (shape.keep (Json.source text) Json.format.maxDepth (Json.source text).root) c ∧
        shape.value? c = some d := by
    rw [Shape.read, bind_eq_ok_iff]
    constructor
    · rintro ⟨⟨c, n⟩, hc, h⟩
      obtain rfl := hstill c n hc
      dsimp only at h
      split at h
      · cases h
      · next hafter hd => exact ⟨hafter, c, hc, hd.trans (congrArg some (Except.ok.inj h))⟩
      · cases h
    · rintro ⟨hafter, c, hc, hd⟩
      refine ⟨(c, 0), hc, ?_⟩
      dsimp only
      rw [hafter, hd]
      rfl
  have hcheck {d' : Document} :
      checkVersion d' = .ok d ↔ d' = d ∧ "3.".isPrefixOf d.format = true := by
    rw [checkVersion]
    split
    · next hversion =>
      refine ⟨fun h => ?_, fun h => congrArg Except.ok h.1⟩
      obtain rfl := Except.ok.inj h
      exact ⟨rfl, hversion⟩
    · next hversion =>
      refine ⟨nofun, fun h => absurd h.2 ?_⟩
      rwa [← h.1]
  rw [and_left_comm, ← hread, ofJson]
  split
  · next d' hd' => rw [hcheck, hd', Except.ok.injEq, and_comm]
  · next f hf => rw [hf]; exact iff_of_false nofun nofun

end ActivityForge.Document
