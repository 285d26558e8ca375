import ActivityForge.Proofs.Document.Edits

/-!
# What can be kept of an edited document

An edit changes neither whether a value can be skipped (`Shuffled.skip?_eq_none`) nor whether it can
be kept whole (`Recast.canKeep`).
-/

namespace ActivityForge.Document

open Json Reading Walk

variable {src src' : Source} {P : List (Tree × Tree) → Prop} {p q : Position} {t t' : Tree}
  {depth : Nat}

/-! ## Skipping -/

theorem skipItems?_eq_none_iff {items : List Tree} :
    skipItems? items = none ↔ ∀ item ∈ items, item.skip? = none := by
  induction items with
  | nil => simp [skipItems?]
  | cons item items ih => rw [skipItems?, Option.or_eq_none_iff, ih, List.forall_mem_cons]

theorem skipMembers?_eq_none_iff {members : List (Tree × Tree)} :
    skipMembers? members = none ↔ ∀ m ∈ members, m.1.skip? = none ∧ m.2.skip? = none := by
  induction members with
  | nil => simp [skipMembers?]
  | cons m members ih =>
    rw [skipMembers?, Option.or_eq_none_iff, Option.or_eq_none_iff, ih, List.forall_mem_cons,
      and_assoc]

theorem Shuffled.skip?_eq_none (h : Shuffled P t t') (ht : t.skip? = none) : t'.skip? = none := by
  induction h with
  | here _ perm =>
    rw [Tree.skip?, Option.or_eq_none_iff, skipMembers?_eq_none_iff] at ht ⊢
    exact ⟨fun m hm => ht.1 m (perm.mem_iff.2 hm), rfl⟩
  | member _ ih =>
    rw [Tree.skip?, Option.or_eq_none_iff, skipMembers?_eq_none_iff] at ht ⊢
    exact ⟨forall_mem_replaced ht.1 fun hm => ⟨hm.1, ih hm.2⟩, rfl⟩
  | item _ ih =>
    rw [Tree.skip?, Option.or_eq_none_iff, skipItems?_eq_none_iff] at ht ⊢
    exact ⟨forall_mem_replaced ht.1 ih, rfl⟩

/-! ## Keeping whole -/

/-- Whatever text a tree comes from, the same is kept of it. -/
theorem yields_keepWhole_of_source {c : Content} (ht : IsTree t)
    (hc : Yields (src.keepWhole depth t) c) : Yields (src'.keepWhole depth t) c := by
  induction depth generalizing t c with
  | zero =>
    cases ht with
    | scalar ha => exact (yields_keepWhole_scalar ha).2 ((yields_keepWhole_scalar ha).1 hc)
    | _ => exact absurd hc not_yields_stop
  | succ d ih =>
    cases ht with
    | scalar ha => exact (yields_keepWhole_scalar ha).2 ((yields_keepWhole_scalar ha).1 hc)
    | list items =>
      obtain ⟨_, kept, ⟨⟩, rfl, hkept, rfl⟩ := yields_keepWhole_list.1 hc
      refine yields_keepWhole_list.2 ⟨d, kept, rfl, rfl, ?_, rfl⟩
      exact ((List.forall₂_and_left _ _).2 ⟨items, hkept⟩).imp fun _ _ h => ih h.1 h.2
    | dict keys values =>
      obtain ⟨_, named, found, ⟨⟩, heq, rfl, hkept⟩ := (yields_keepWhole_dict keys).1 hc
      have hnamed : ∀ m ∈ named, IsTree m.2 := isTree_object.1 (heq ▸ .dict keys values)
      refine (yields_keepWhole_dict keys).2 ⟨d, named, found, rfl, heq, rfl, ?_⟩
      exact ((List.forall₂_and_left _ _).2 ⟨hnamed, hkept⟩).imp fun _ _ h => ⟨h.2.1, ih h.1 h.2.2⟩
    | flawed => exact absurd hc not_yields_keepWhole_flawed

theorem canKeep_of_source (src' : Source) (ht : IsTree t) (h : CanKeep src depth t) :
    CanKeep src' depth t := by
  obtain ⟨c, hc⟩ := h
  exact ⟨c, yields_keepWhole_of_source ht hc⟩

theorem exists_treeMembers_iff {members : List (Tree × Tree)} :
    (∃ named, members = treeMembers named) ↔ ∀ m ∈ members, ∃ s, m.1 = textTree s := by
  constructor
  · rintro ⟨named, rfl⟩
    rw [treeMembers, List.forall_mem_map]
    exact fun m _ => ⟨m.1, rfl⟩
  · intro h
    induction members with
    | nil => exact ⟨[], rfl⟩
    | cons m members ih =>
      rw [List.forall_mem_cons] at h
      obtain ⟨s, hs⟩ := h.1
      obtain ⟨named, rfl⟩ := ih h.2
      exact ⟨(s, m.2) :: named, congrArg (· :: treeMembers named) (Prod.ext hs rfl)⟩

theorem canKeep_dict_iff {members : List (Tree × Tree)} (hkeys : ∀ m ∈ members, IsKey m.1) :
    CanKeep src depth (.dict members none) ↔
      ∃ d, depth = d + 1 ∧ ∀ m ∈ members, (∃ s, m.1 = textTree s) ∧ CanKeep src d m.2 := by
  constructor
  · rintro ⟨c, hc⟩
    obtain ⟨d, named, _, rfl, heq, -⟩ := (yields_keepWhole_dict hkeys).1 hc
    obtain ⟨_, hd, hnamed⟩ := canKeep_object_iff.1 ⟨c, heq ▸ hc⟩
    cases hd
    obtain ⟨rfl, -⟩ := Tree.dict.inj heq
    refine ⟨d, rfl, fun m hm => ⟨exists_treeMembers_iff.1 ⟨named, rfl⟩ m hm, ?_⟩⟩
    obtain ⟨m', hm', rfl⟩ := List.mem_map.1 hm
    exact hnamed m' hm'
  · rintro ⟨d, rfl, h⟩
    obtain ⟨named, rfl⟩ := exists_treeMembers_iff.2 fun m hm => (h m hm).1
    exact canKeep_object_iff.2 ⟨d, rfl, fun m hm => (h _ (List.mem_map.2 ⟨m, hm, rfl⟩)).2⟩

theorem Shuffled.canKeep (h : Shuffled P t t') (ht : IsTree t) (hkeep : CanKeep src depth t) :
    CanKeep src depth t' := by
  induction h generalizing depth with
  | here _ perm =>
    cases ht with
    | dict keys values =>
      have keys' := fun m hm => keys m (perm.mem_iff.2 hm)
      obtain ⟨d, rfl, h⟩ := (canKeep_dict_iff keys).1 hkeep
      exact (canKeep_dict_iff keys').2 ⟨d, rfl, fun m hm => h m (perm.mem_iff.2 hm)⟩
  | @member key v v' before after _ ih =>
    cases ht with
    | dict keys values =>
      have hv := (List.forall_mem_cons.1 (List.forall_mem_append.1 values).2).1
      have keys' : ∀ m ∈ before ++ (key, v') :: after, IsKey m.1 := forall_mem_replaced keys id
      obtain ⟨d, rfl, h⟩ := (canKeep_dict_iff keys).1 hkeep
      refine (canKeep_dict_iff keys').2 ⟨d, rfl, ?_⟩
      exact forall_mem_replaced h fun hm => ⟨hm.1, ih hv hm.2⟩
  | item _ ih =>
    have hv := (List.forall_mem_cons.1 (List.forall_mem_append.1 ht.of_list).2).1
    obtain ⟨d, rfl, h⟩ := canKeep_list_iff.1 hkeep
    exact canKeep_list_iff.2 ⟨d, rfl, forall_mem_replaced h (ih hv)⟩

theorem LocalEdit.canKeep (h : LocalEdit p t t') (ht : IsTree t) (hkeep : CanKeep src depth t) :
    CanKeep src depth t' := by
  cases h with
  | reorder perm =>
    rw [canKeep_object_iff] at hkeep ⊢
    obtain ⟨d, rfl, h⟩ := hkeep
    exact ⟨d, rfl, fun m hm => h m (perm.mem_iff.2 hm)⟩
  | drop | dropNull =>
    rw [canKeep_object_iff] at hkeep ⊢
    obtain ⟨d, rfl, h⟩ := hkeep
    rw [List.forall_mem_append, List.forall_mem_cons] at h
    exact ⟨d, rfl, List.forall_mem_append.2 ⟨h.1, h.2.2⟩⟩
  | ignored _ shuffled =>
    rw [isTree_object, List.forall_mem_append, List.forall_mem_cons] at ht
    rw [canKeep_object_iff] at hkeep ⊢
    obtain ⟨d, rfl, h⟩ := hkeep
    exact ⟨d, rfl, forall_mem_replaced h (shuffled.canKeep ht.2.1)⟩
  | exampleValue shuffled => exact shuffled.canKeep ht hkeep

theorem Within.canKeep {x x' : Tree} (h : Within q x x' p t t') (ht : IsTree t)
    (hx : ∀ {d}, IsTree x → CanKeep src d x → CanKeep src d x') (hkeep : CanKeep src depth t) :
    CanKeep src depth t' := by
  induction h generalizing depth with
  | here => exact hx ht hkeep
  | member _ _ ih | entry _ ih =>
    rw [isTree_object, List.forall_mem_append, List.forall_mem_cons] at ht
    rw [canKeep_object_iff] at hkeep ⊢
    obtain ⟨d, rfl, h⟩ := hkeep
    exact ⟨d, rfl, forall_mem_replaced h (ih ht.2.1)⟩
  | place _ _ ih | item _ ih =>
    have hv := (List.forall_mem_cons.1 (List.forall_mem_append.1 ht.of_list).2).1
    obtain ⟨d, rfl, h⟩ := canKeep_list_iff.1 hkeep
    exact canKeep_list_iff.2 ⟨d, rfl, forall_mem_replaced h (ih hv)⟩
  | reference _ _ ih => exact ih ht hkeep
  | inline _ _ ih => exact ih ht hkeep

/-- An edited value can still be kept. -/
theorem Recast.canKeep (h : Recast p t t') (ht : IsTree t) (hkeep : CanKeep src depth t) :
    CanKeep src' depth t' := by
  have hkeep' : CanKeep src depth t' := by
    rcases h with rfl | ⟨q, x, x', hlocal, hwithin⟩
    · exact hkeep
    · exact hwithin.canKeep ht hlocal.canKeep hkeep
  exact canKeep_of_source src' (h.isTree ht) hkeep'

end ActivityForge.Document
