import ActivityForge.Proofs.Reference.Chain

/-!
# Chains without an end

A chain of references is `Endless` if it leads from one declared component to the next for ever.
There is a first reference in it that has been met before (`MeetsAgain`), and where there is such a
reference the chain goes round for ever (`endless_iff`).  Resolving reports exactly this reference
(`resolve_eq_cycle_iff`), so it tells endless chains from those that end.
-/

namespace ActivityForge.Document

variable {α : Type} {s : Section} {defs : Dict (OrRef α)} {v w : OrRef α} {target : String}

/-- The first is a reference to a declared component, and the second is what is declared. -/
def StepsTo (s : Section) (defs : Dict (OrRef α)) (v w : OrRef α) : Prop :=
  ∃ name, v = .ref (s.reference name) ∧ defs.get? name = some w

/-- References to declared components follow each other for ever. -/
def Endless (s : Section) (defs : Dict (OrRef α)) (v : OrRef α) : Prop :=
  ∃ chain : Nat → OrRef α, chain 0 = v ∧ ∀ n, StepsTo s defs (chain n) (chain (n + 1))

/-- The first reference of a chain that has been met before: those in front of it differ, and it is
one of them. -/
def MeetsAgain (s : Section) (defs : Dict (OrRef α)) (v : OrRef α) (target : String) : Prop :=
  ∃ targets, Follows s defs v targets (.ref target) ∧ targets.Nodup ∧ target ∈ targets

theorem StepsTo.unique {w' : OrRef α} (h : StepsTo s defs v w) (h' : StepsTo s defs v w') :
    w = w' := by
  obtain ⟨name, rfl, hw⟩ := h
  obtain ⟨name', heq, hw'⟩ := h'
  obtain rfl := s.reference_injective (OrRef.ref.inj heq)
  exact Option.some.inj (hw.symm.trans hw')

/-! ## What an endless chain comes through -/

theorem Endless.exists_next (h : Endless s defs v) : ∃ w, StepsTo s defs v w ∧ Endless s defs w := by
  obtain ⟨chain, rfl, hchain⟩ := h
  exact ⟨chain 1, hchain 0, fun n => chain (n + 1), rfl, fun n => hchain (n + 1)⟩

theorem Endless.of_stepsTo (h : Endless s defs v) (hw : StepsTo s defs v w) :
    Endless s defs w := by
  obtain ⟨w', hw', h'⟩ := h.exists_next
  obtain rfl := hw.unique hw'
  exact h'

theorem Endless.of_follows {targets : List String} (h : Endless s defs v)
    (hw : Follows s defs v targets w) : Endless s defs w := by
  induction hw with
  | refl => exact h
  | step declared _ ih => exact ih (h.of_stepsTo ⟨_, rfl, declared⟩)

theorem Endless.not_isLast (h : Endless s defs v) : ¬ IsLast s defs v := by
  obtain ⟨w, ⟨name, rfl, declared⟩, -⟩ := h.exists_next
  exact not_isLast_reference declared

/-! ## What makes a chain endless -/

/-- Where there is always a next component of a kind, there is no end. -/
theorem endless_of_progress {P : OrRef α → Prop}
    (progress : ∀ v, P v → ∃ w, StepsTo s defs v w ∧ P w) (h : P v) : Endless s defs v := by
  choose next hnext using progress
  let chain : Nat → { w // P w } :=
    fun n => n.rec ⟨v, h⟩ fun _ w => ⟨next w.1 w.2, (hnext w.1 w.2).2⟩
  exact ⟨fun n => (chain n).1, rfl, fun n => (hnext (chain n).1 (chain n).2).1⟩

/-- From a reference that is met again the chain goes round. -/
theorem MeetsAgain.endless (h : MeetsAgain s defs v target) : Endless s defs v := by
  obtain ⟨targets, hfollows, -, again⟩ := h
  obtain ⟨before, after, rfl⟩ := List.append_of_mem again
  have hround : Follows s defs (.ref target) (target :: after) (.ref target) := hfollows.drop
  -- What is kept from step to step is that the reference lies ahead.
  refine endless_of_progress (P := fun v => ∃ t ts, Follows s defs v (t :: ts) (.ref target))
    ?_ ?_
  · rintro v ⟨t, ts, hahead⟩
    cases hahead with
    | @step name next _ _ declared rest =>
      refine ⟨next, ⟨name, rfl, declared⟩, ?_⟩
      cases rest with
      | refl => exact ⟨target, after, hround⟩
      | step declared' rest' => exact ⟨_, _, .step declared' rest'⟩
  · cases before with
    | nil => exact ⟨_, _, hfollows⟩
    | cons t ts => exact ⟨_, _, hfollows⟩

theorem resolve_eq_cycle_iff :
    v.resolve s defs = .error (.cycle target) ↔ MeetsAgain s defs v target := by
  rw [resolve_eq_iff]
  constructor
  · intro h
    cases h with
    | fault _ fault => cases fault
    | cycle h distinct again => exact ⟨_, h, distinct, again⟩
  · rintro ⟨targets, h, distinct, again⟩
    exact .cycle h distinct again

/-- A chain that does not end meets a reference again: resolving it comes to a result, and every
other one is that of a chain that ends. -/
theorem endless_iff : Endless s defs v ↔ ∃ target, MeetsAgain s defs v target := by
  refine ⟨fun h => ?_, fun ⟨target, h⟩ => h.endless⟩
  have hends : ∃ r, ChainEnds s defs v r := ⟨v.resolve s defs, resolve_eq_iff.1 rfl⟩
  obtain ⟨r, hends⟩ := hends
  cases hends with
  | inline hleads =>
    obtain ⟨targets, hfollows⟩ := hleads
    exact absurd trivial (h.of_follows hfollows).not_isLast
  | fault hfollows fault => exact absurd ⟨_, fault⟩ (h.of_follows hfollows).not_isLast
  | @cycle targets target hfollows distinct again => exact ⟨target, targets, hfollows, distinct, again⟩

end ActivityForge.Document
