import ActivityForge.Proofs.Dict
import ActivityForge.Reading.Shape

/-!
# Building records

A record is built field by field: `build?_withField_iff` takes the last field off.  What a record is
built from is looked up by the keys of its fields.
-/

namespace ActivityForge.Reading

/-! ## Depth -/

theorem depth_lt_of_mem_items {items : List Content} {c : Content} (h : c ∈ items) :
    c.depth < (Content.list items).depth := by
  rw [Content.depth, Nat.lt_succ_iff]
  induction items with
  | nil => cases h
  | cons item items ih =>
    rw [depthItems]
    rcases List.mem_cons.1 h with rfl | h
    · exact Nat.le_max_left ..
    · exact Nat.le_trans (ih h) (Nat.le_max_right ..)

theorem depth_lt_of_mem_members {members : List (Content × Content)} {m : Content × Content}
    (h : m ∈ members) : m.2.depth < (Content.map members).depth := by
  rw [Content.depth, Nat.lt_succ_iff]
  induction members with
  | nil => cases h
  | cons first members ih =>
    rw [depthMembers]
    rcases List.mem_cons.1 h with rfl | h
    · exact Nat.le_trans (Nat.le_max_left ..) (Nat.le_max_right ..)
    · exact Nat.le_trans (ih h) (Nat.le_trans (Nat.le_max_right ..) (Nat.le_max_right ..))

variable {α β : Type}

/-! ## Building -/

/-- The value of a field from its content, if there is any. -/
def readField (value? : Content → Option α) (missing : Option α) : Option Content → Option α
  | some c => value? c
  | none => missing

namespace Fields

theorem keys_withField (r : Fields (α → β)) (field : Field) (value? : Content → Option α)
    (missing : Option α) : (r.withField field value? missing).fields.map Field.key =
      r.fields.map Field.key ++ [field.key] := by
  rw [withField, List.map_append, List.map_singleton]

theorem build?_withField (r : Fields (α → β)) (field : Field) (value? : Content → Option α)
    (missing : Option α) (members : Dict Content) :
    (r.withField field value? missing).build? members = (r.build? members).bind fun f =>
      (readField value? missing (members.lookup field.key)).map f := by
  simp only [withField]
  cases members.lookup field.key <;> simp only [Option.map_eq_bind] <;> rfl

theorem build?_withField_iff {r : Fields (α → β)} {field : Field} {value? : Content → Option α}
    {missing : Option α} {members : Dict Content} {b : β} :
    (r.withField field value? missing).build? members = some b ↔
      ∃ f a, r.build? members = some f ∧
        readField value? missing (members.lookup field.key) = some a ∧ f a = b := by
  simp only [build?_withField, Option.bind_eq_some_iff, Option.map_eq_some_iff]
  constructor
  · rintro ⟨f, hf, a, ha, rfl⟩
    exact ⟨f, a, hf, ha, rfl⟩
  · rintro ⟨f, a, hf, ha, rfl⟩
    exact ⟨f, hf, a, ha, rfl⟩

/-- A record may be built by other readers that agree on what is found. -/
theorem build?_withField_congr {r r' : Fields (α → β)} {field field' : Field}
    {f g : Content → Option α} {missing : Option α} {members : Dict Content}
    (hkey : field.key = field'.key) (hr : r.build? members = r'.build? members)
    (h : ∀ c, members.lookup field.key = some c → f c = g c) :
    (r.withField field f missing).build? members =
      (r'.withField field' g missing).build? members := by
  rw [build?_withField, build?_withField, hr, ← hkey]
  cases hc : members.lookup field.key with
  | none => rfl
  | some c => rw [readField, readField, h c hc]

/-! ## Members -/

/-- The members that are fields have their values from those of a mapping. -/
theorem mem_of_members? {r : Fields α} {entries : List (Content × Content)} {members : Dict Content}
    (h : r.members? entries = some members) : ∀ m ∈ members, ∃ e ∈ entries, e.2 = m.2 := by
  induction entries generalizing members with
  | nil =>
    obtain rfl := Option.some.inj h
    simp
  | cons e entries ih =>
    obtain ⟨key, value⟩ := e
    simp only [members?, Option.bind_eq_bind, Option.bind_eq_some_iff] at h
    obtain ⟨name, -, others, hothers, h⟩ := h
    have hrest : ∀ m ∈ others, ∃ e ∈ (key, value) :: entries, e.2 = m.2 := fun m hm =>
      let ⟨e, he, heq⟩ := ih hothers m hm
      ⟨e, List.mem_cons_of_mem _ he, heq⟩
    cases name with
    | none =>
      obtain rfl := Option.some.inj h
      exact hrest
    | some k =>
      dsimp only at h
      split at h
      · obtain rfl := Option.some.inj h
        exact List.forall_mem_cons.2 ⟨⟨(key, value), List.mem_cons_self, rfl⟩, hrest⟩
      · obtain rfl := Option.some.inj h
        exact hrest

theorem members?_congr {r r' : Fields α} (hfields : r.fields = r'.fields)
    (entries : List (Content × Content)) : r.members? entries = r'.members? entries := by
  induction entries with
  | nil => rfl
  | cons e entries ih =>
    have hname : r.keyName? = r'.keyName? := by
      funext c
      unfold keyName?
      rw [hfields]
    rw [members?, members?, ih, hfields, hname]

/-- A record is the same for readers that agree on what lies deeper. -/
theorem value?_congr {r r' : Fields α} {c : Content} (hfields : r.fields = r'.fields)
    (h : ∀ members : Dict Content,
      (∀ key c', members.lookup key = some c' → c'.depth < c.depth) →
        r.build? members = r'.build? members) : r.value? c = r'.value? c := by
  cases c with
  | map entries =>
    have hmap : r.ofMap? (.map entries) = r'.ofMap? (.map entries) := by
      rw [ofMap?, ofMap?, members?_congr hfields]
      cases hm : r'.members? entries with
      | none => rfl
      | some members =>
        have hbuild : r.build? members = r'.build? members := h members fun key c' hc => by
          obtain ⟨e, he, heq⟩ := mem_of_members? hm _ (Dict.mem_of_lookup hc)
          have hlt := depth_lt_of_mem_members he
          rwa [heq] at hlt
        simp only [Option.bind_eq_bind, Option.bind_some, hbuild]
    rw [value?, value?, hmap]
    rfl
  | list items =>
    have hbuild : r.build? ((r.fields.map Field.key).zip items) =
        r'.build? ((r.fields.map Field.key).zip items) := h _ fun key c' hc => by
      have hmem := (List.of_mem_zip (Dict.mem_of_lookup hc)).2
      exact depth_lt_of_mem_items hmem
    rw [value?, value?, ofList?, ofList?, hbuild, hfields]
    rfl
  | _ => rfl

end Fields

end ActivityForge.Reading
