import ActivityForge.Document.Reader
import ActivityForge.Proofs.Reading.Fields

/-!
# Schemas and examples without a bound

Schemas and examples are matched by recursion on a bound of their depth.  The bound does not matter
as long as it is large enough (`schemaWithin?_eq`, `exampleWithin?_eq`), so both satisfy the
equations one expects (`Schema.ofContent?_eq`, `exampleOf?_list`, `exampleOf?_map`).
-/

namespace ActivityForge

namespace Reading

variable {α β : Type}

theorem mapM_congr {f g : α → Option β} {l : List α} (h : ∀ a ∈ l, f a = g a) :
    l.mapM f = l.mapM g := by
  induction l with
  | nil => rfl
  | cons a l ih =>
    rw [List.forall_mem_cons] at h
    rw [List.mapM_cons, List.mapM_cons, h.1, ih h.2]

theorem dict?_congr {f g : Content → Option α} {c : Content}
    (h : ∀ c', c'.depth < c.depth → f c' = g c') : Content.dict? f c = Content.dict? g c := by
  cases c with
  | map members =>
    have hvalue (m : Content × Content) (hm : m ∈ members) :
        (do let k ← m.1.text?; let v ← f m.2; pure (k, v)) =
          (do let k ← m.1.text?; let v ← g m.2; pure (k, v)) := by
      rw [h m.2 (depth_lt_of_mem_members hm)]
    exact congrArg (fun pairs => pairs.bind fun pairs => some (Dict.ofPairs pairs))
      (mapM_congr hvalue)
  | _ => rfl

theorem optional_value?_congr {s s' : Shape α} {c : Content} (h : s.value? c = s'.value? c) :
    s.optional.value? c = s'.optional.value? c := by
  cases c <;> simp only [Shape.optional, h]

end Reading

namespace Document

open Reading

/-! ## Schemas -/

/-- What is inside of a schema is all that inner schemas are matched with. -/
theorem schemaFields_value?_congr {f g : Content → Option Schema} {c : Content}
    (h : ∀ c', c'.depth < c.depth → f c' = g c') :
    (schemaFields f).value? c = (schemaFields g).value? c := by
  refine Fields.value?_congr rfl fun members hmembers => ?_
  have hwhole {key : String} {c' : Content} (hc : members.lookup key = some c') : f c' = g c' :=
    h c' (hmembers key c' hc)
  have hdict {key : String} {c' : Content} (hc : members.lookup key = some c') :
      Content.dict? f c' = Content.dict? g c' :=
    dict?_congr fun c'' hlt => h c'' (Nat.lt_trans hlt (hmembers key c' hc))
  unfold schemaFields
  refine Fields.build?_withField_congr rfl (Fields.build?_withField_congr rfl
    (Fields.build?_withField_congr rfl (Fields.build?_withField_congr rfl rfl fun c hc => ?_)
      fun c _ => rfl) fun c hc => ?_) fun c hc => ?_
  · exact hdict hc
  · refine optional_value?_congr ?_
    simp only [Shape.whole, hwhole hc]
  · exact optional_value?_congr (hwhole hc)

theorem schemaWithin?_eq {n : Nat} {c : Content} (h : c.depth < n) :
    schemaWithin? n c = Schema.ofContent? c := by
  induction hd : c.depth using Nat.strongRecOn generalizing n c with
  | _ depth ih =>
    subst hd
    obtain ⟨k, rfl⟩ : ∃ k, n = k + 1 := ⟨n - 1, by omega⟩
    have hinner : (schemaFields (schemaWithin? k)).value? c =
        (schemaFields (schemaWithin? c.depth)).value? c := by
      refine schemaFields_value?_congr fun c' hlt => ?_
      rw [ih c'.depth hlt (by omega) rfl, ih c'.depth hlt hlt rfl]
    rw [Schema.ofContent?, schemaWithin?, schemaWithin?, hinner]

/-- A schema is a reference, or else the record of its fields with schemas inside. -/
theorem Schema.ofContent?_eq (c : Content) : Schema.ofContent? c =
    ((refFields.ofMap? c).map Schema.ref).or
      (((schemaFields Schema.ofContent?).value? c).map Schema.inline) := by
  have hinner : (schemaFields (schemaWithin? c.depth)).value? c =
      (schemaFields Schema.ofContent?).value? c :=
    schemaFields_value?_congr fun c' hlt => schemaWithin?_eq hlt
  rw [Schema.ofContent?, schemaWithin?, hinner]

/-! ## Examples -/

/-- The example that a content is. -/
def exampleOf? (c : Content) : Option Json.Value := exampleWithin? (c.depth + 1) c

theorem exampleWithin?_eq {n : Nat} {c : Content} (h : c.depth < n) :
    exampleWithin? n c = exampleOf? c := by
  induction hd : c.depth using Nat.strongRecOn generalizing n c with
  | _ depth ih =>
    subst hd
    obtain ⟨k, rfl⟩ : ∃ k, n = k + 1 := ⟨n - 1, by omega⟩
    have hinner (c' : Content) (hlt : c'.depth < c.depth) :
        exampleWithin? k c' = exampleWithin? c.depth c' := by
      rw [ih c'.depth hlt (by omega) rfl, ih c'.depth hlt hlt rfl]
    rw [exampleOf?]
    cases c with
    | list items =>
      rw [exampleWithin?, exampleWithin?,
        mapM_congr fun c' hc => hinner c' (depth_lt_of_mem_items hc)]
    | map members => rw [exampleWithin?, exampleWithin?, dict?_congr hinner]
    | _ => rfl

theorem exampleOf?_list (items : List Content) :
    exampleOf? (.list items) = (items.mapM exampleOf?).map .list := by
  rw [exampleOf?, exampleWithin?,
    mapM_congr fun c' hc => exampleWithin?_eq (depth_lt_of_mem_items hc)]

theorem exampleOf?_map (members : List (Content × Content)) :
    exampleOf? (.map members) =
      (Content.dict? exampleOf? (.map members)).map fun d => .object (sortMembers d) := by
  rw [exampleOf?, exampleWithin?, dict?_congr fun c' hc => exampleWithin?_eq hc]

end Document

end ActivityForge
