import ActivityForge.Proofs.Reference.Endless

/-!
# Resolving component references

What comes of a parameter, a request body or a response that may be given by reference, in every
document, whatever its components are (`components_resolve`): `Resolution` says when resolving gives
a value and when it reports which fault, and that no component is looked up twice on the way.  For
the latter `inspect` follows references as `follow` does and lists the names that it looks up.
-/

namespace ActivityForge.Document

/-! ## Looking up components -/

section Inspect

variable {α : Type} (s : Section) (defs : Dict (OrRef α))

/-- As `follow`, with the names that are looked up, in order. -/
def inspect (seen : List String) : OrRef α → Except ReferenceError α × List String
  | .inline a => (.ok a, [])
  | .ref target =>
    if _hs : seen.contains target then (.error (.cycle target), [])
    else
      match _ht : targetName s target with
      | .error e => (.error e, [])
      | .ok name =>
        match _hd : defs.get? name with
        | none => (.error (.notFound target), [name])
        | some next => (inspect (target :: seen) next).map id (name :: ·)
termination_by (unseen s defs seen).length
decreasing_by exact length_unseen_lt (by simpa using _hs) _ht _hd

variable {s defs}

/-- One step of following references. -/
theorem inspect_ref (seen : List String) (target : String) :
    inspect s defs seen (.ref target) =
      if target ∈ seen then (.error (.cycle target), [])
      else
        match targetName s target with
        | .error e => (.error e, [])
        | .ok name =>
          match defs.get? name with
          | none => (.error (.notFound target), [name])
          | some next => (inspect s defs (target :: seen) next).map id (name :: ·) := by
  rw [inspect]
  simp only [List.contains_eq_mem, decide_eq_true_eq]
  split
  · rfl
  · split
    · next ht => rw [ht]
    · next name ht =>
      rw [ht]
      split
      · next hd => simp only [hd]
      · next next hd => simp only [hd]

theorem fst_inspect (seen : List String) (v : OrRef α) :
    (inspect s defs seen v).1 = follow s defs seen v := by
  induction seen, v using follow.induct s defs with
  | case1 seen a => rw [inspect, follow]
  | case2 seen target hs => rw [inspect, follow, dif_pos hs, dif_pos hs]
  | case3 seen target hs e ht =>
    have hnot : target ∉ seen := by simpa using hs
    rw [inspect_ref, follow_ref, if_neg hnot, if_neg hnot, componentOf, ht]
    rfl
  | case4 seen target hs name ht hd =>
    have hnot : target ∉ seen := by simpa using hs
    rw [inspect_ref, follow_ref, if_neg hnot, if_neg hnot, componentOf, ht, ok_bind]
    simp only [hd]
    rfl
  | case5 seen target hs name ht next hd ih =>
    have hnot : target ∉ seen := by simpa using hs
    rw [inspect_ref, follow_ref, if_neg hnot, if_neg hnot, componentOf, ht, ok_bind]
    simp only [hd]
    exact ih

/-- A reference that has been followed is not followed again, so no name is looked up again. -/
theorem nodup_snd_inspect (seen : List String) (v : OrRef α) :
    (inspect s defs seen v).2.Nodup ∧
      ∀ name ∈ (inspect s defs seen v).2, s.reference name ∉ seen := by
  induction seen, v using follow.induct s defs with
  | case1 seen a => simp [inspect]
  | case2 seen target hs =>
    have hmem : target ∈ seen := by simpa using hs
    simp [inspect_ref, hmem]
  | case3 seen target hs e ht =>
    have hnot : target ∉ seen := by simpa using hs
    simp [inspect_ref, hnot, ht]
  | case4 seen target hs name ht hd =>
    have hnot : target ∉ seen := by simpa using hs
    obtain rfl := targetName_eq_ok_iff.1 ht
    simp [inspect_ref, hnot, ht, hd]
  | case5 seen target hs name ht next hd ih =>
    have hnot : target ∉ seen := by simpa using hs
    obtain rfl := targetName_eq_ok_iff.1 ht
    obtain ⟨hnodup, hfresh⟩ := ih
    have hlist : (inspect s defs seen (.ref (s.reference name))).2 =
        name :: (inspect s defs (s.reference name :: seen) next).2 := by
      simp [inspect_ref, hnot, ht, hd]
    rw [hlist, List.nodup_cons, List.forall_mem_cons]
    refine ⟨⟨fun hmem => hfresh name hmem List.mem_cons_self, hnodup⟩, hnot, fun other hother => ?_⟩
    exact fun hseen => hfresh other hother (List.mem_cons_of_mem _ hseen)

end Inspect

/-! ## What resolving comes to -/

/-- What a value or reference resolves to. -/
structure Resolution {α : Type} (s : Section) (defs : Dict (OrRef α)) (v : OrRef α)
    (r : Except ReferenceError α) : Prop where
  /-- No component is looked up twice, whatever comes of it. -/
  lookups : ∃ names, inspect s defs [] v = (r, names) ∧ names.Nodup
  ok_iff : ∀ a, r = .ok a ↔ LeadsTo s defs v a
  /-- The fault is that of the reference at which the chain ends, or it does not end. -/
  error_iff : ∀ e, r = .error e ↔
    (∃ targets target, Follows s defs v targets (.ref target) ∧ Faulty s defs.keys target e) ∨
      ∃ target, e = .cycle target ∧ MeetsAgain s defs v target
  /-- The form of a reference is to blame only where that reference is not one to the section. -/
  invalid_iff : (∃ e, r = .error e ∧ e.missing? = none) ↔
    ∃ targets target, Follows s defs v targets (.ref target) ∧
      ∀ name, target ≠ s.reference name
  /-- What is reported as missing is a component that is not declared, or the reference that the
  chain meets again. -/
  missing_iff : ∀ text, (∃ e, r = .error e ∧ e.missing? = some text) ↔
    (∃ targets name, Follows s defs v targets (.ref (s.reference name)) ∧ name ∉ defs.keys ∧
        text = s.reference name) ∨
      ∃ target, MeetsAgain s defs v target ∧ text = target ++ " (reference cycle)"
  cycle_iff : (∃ target, r = .error (.cycle target)) ↔ Endless s defs v
  /-- However long a chain is, it is no cycle if it ends. -/
  ending : ∀ targets w, Follows s defs v targets w → IsLast s defs w →
    ∀ target, r ≠ .error (.cycle target)

section Resolve

variable {α : Type} {s : Section} {defs : Dict (OrRef α)} {v : OrRef α}

theorem resolve_eq_error_iff {e : ReferenceError} :
    v.resolve s defs = .error e ↔
      (∃ targets target, Follows s defs v targets (.ref target) ∧ Faulty s defs.keys target e) ∨
        ∃ target, e = .cycle target ∧ MeetsAgain s defs v target := by
  rw [resolve_eq_iff]
  constructor
  · intro h
    cases h with
    | fault hfollows fault => exact Or.inl ⟨_, _, hfollows, fault⟩
    | cycle hfollows distinct again => exact Or.inr ⟨_, rfl, _, hfollows, distinct, again⟩
  · rintro (⟨targets, target, hfollows, fault⟩ | ⟨target, rfl, targets, hfollows, distinct, again⟩)
    · exact .fault hfollows fault
    · exact .cycle hfollows distinct again

theorem resolve_invalid_iff :
    (∃ e, v.resolve s defs = .error e ∧ e.missing? = none) ↔
      ∃ targets target, Follows s defs v targets (.ref target) ∧
        ∀ name, target ≠ s.reference name := by
  constructor
  · rintro ⟨e, he, hnone⟩
    rcases resolve_eq_error_iff.1 he with ⟨targets, target, hfollows, fault⟩ | ⟨target, rfl, -⟩
    · exact ⟨targets, target, hfollows, fault.missing?_eq_none_iff_forall.1 hnone⟩
    · simp [ReferenceError.missing?] at hnone
  · rintro ⟨targets, target, hfollows, foreign⟩
    cases ht : targetName s target with
    | ok name => exact absurd (targetName_eq_ok_iff.1 ht) (foreign name)
    | error e =>
      have fault : Faulty s defs.keys target e := faulty_of_targetName ht
      exact ⟨e, resolve_eq_error_iff.2 (Or.inl ⟨targets, target, hfollows, fault⟩),
        fault.missing?_eq_none_iff_forall.2 foreign⟩

theorem resolve_missing_iff {text : String} :
    (∃ e, v.resolve s defs = .error e ∧ e.missing? = some text) ↔
      (∃ targets name, Follows s defs v targets (.ref (s.reference name)) ∧ name ∉ defs.keys ∧
          text = s.reference name) ∨
        ∃ target, MeetsAgain s defs v target ∧ text = target ++ " (reference cycle)" := by
  constructor
  · rintro ⟨e, he, htext⟩
    rcases resolve_eq_error_iff.1 he with ⟨targets, target, hfollows, fault⟩ | ⟨target, rfl, h⟩
    · cases fault with
      | malformed | wrongSection => cases htext
      | notFound hname missing =>
        subst hname
        exact Or.inl ⟨targets, _, hfollows, missing, (Option.some.inj htext).symm⟩
    · exact Or.inr ⟨target, h, (Option.some.inj htext).symm⟩
  · rintro (⟨targets, name, hfollows, missing, rfl⟩ | ⟨target, h, rfl⟩)
    · have fault : Faulty s defs.keys (s.reference name) (.notFound (s.reference name)) :=
        .notFound rfl missing
      exact ⟨_, resolve_eq_error_iff.2 (Or.inl ⟨targets, _, hfollows, fault⟩), rfl⟩
    · exact ⟨.cycle target, resolve_eq_cycle_iff.2 h, rfl⟩

theorem resolution_resolve : Resolution s defs v (v.resolve s defs) where
  lookups :=
    ⟨(inspect s defs [] v).2, Prod.ext (fst_inspect [] v) rfl, (nodup_snd_inspect [] v).1⟩
  ok_iff _ := resolve_eq_iff.trans chainEnds_ok_iff
  error_iff _ := resolve_eq_error_iff
  invalid_iff := resolve_invalid_iff
  missing_iff _ := resolve_missing_iff
  cycle_iff := by simp only [resolve_eq_cycle_iff, endless_iff]
  ending targets w hfollows hlast target h := by
    have hendless : Endless s defs v := (resolve_eq_cycle_iff.1 h).endless
    exact (hendless.of_follows hfollows).not_isLast hlast

end Resolve

/-- Parameters, request bodies and responses resolve to what their chains of references lead to.
If there is no such value, the error is that of the first reference that names no declared
component, or it reports the first reference that is met again, and this exactly if the chain has
no end. -/
theorem components_resolve (d : Document) :
    (∀ v, Resolution .parameters (componentsOf d Components.parameters) v (resolveParameter d v)) ∧
      (∀ v, Resolution .requestBodies (componentsOf d Components.requestBodies) v
        (resolveRequestBody d v)) ∧
      ∀ v, Resolution .responses (componentsOf d Components.responses) v (resolveResponse d v) :=
  ⟨fun _ => resolution_resolve, fun _ => resolution_resolve, fun _ => resolution_resolve⟩

end ActivityForge.Document
