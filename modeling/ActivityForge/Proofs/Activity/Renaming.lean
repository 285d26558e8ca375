import ActivityForge.Activity.Collision
import Mathlib.Data.List.Forall2

/-!
# Settling names changes nothing else

`Activity.Renames` says that two activities differ in their names at most.  Settling names gives
one such activity for each, in the same order (`forall₂_renames_settleNames`).
-/

namespace ActivityForge.Activity

/-- The second activity is the first, perhaps under another name. -/
def Renames (a b : Activity) : Prop := b = { a with name := b.name }

theorem renames_settleName (taken : List String) (a : Activity) :
    Renames a (settleName taken a) := by
  unfold settleName
  split_ifs
  · rfl
  · rfl

theorem forall₂_renames_settleNames (taken : List String) (activities : List Activity) :
    List.Forall₂ Renames activities (settleNames taken activities) := by
  induction activities generalizing taken with
  | nil => exact .nil
  | cons a rest ih => exact .cons (renames_settleName taken a) (ih _)

/-- What does not depend on names is the same for every activity. -/
theorem map_settleNames {β : Type} {f : Activity → β} (hf : ∀ a b, Renames a b → f b = f a)
    (taken : List String) (activities : List Activity) :
    (settleNames taken activities).map f = activities.map f := by
  induction activities generalizing taken with
  | nil => rfl
  | cons a rest ih =>
    rw [settleNames, List.map_cons, List.map_cons, ih, hf _ _ (renames_settleName taken a)]

/-- What one step preserves holds of all settled activities. -/
theorem forall_settleNames {P : Activity → Prop}
    (hstep : ∀ taken a, P a → P (settleName taken a)) (taken : List String)
    {activities : List Activity} (h : ∀ a ∈ activities, P a) :
    ∀ a ∈ settleNames taken activities, P a := by
  induction activities generalizing taken with
  | nil => simp [settleNames]
  | cons a rest ih =>
    rw [List.forall_mem_cons] at h
    rw [settleNames, List.forall_mem_cons]
    exact ⟨hstep taken a h.1, ih _ h.2⟩

end ActivityForge.Activity
