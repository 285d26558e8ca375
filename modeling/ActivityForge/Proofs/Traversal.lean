import ActivityForge.Log
import Mathlib.Data.List.Forall2

/-!
# Traversals that may fail

What it means that a sequence of steps in `Except` succeeds (`bind_eq_ok_iff`, `mapM_eq_ok_iff`,
`forM_eq_ok_iff`), and that the first element that fails decides how a traversal fails
(`forM_eq_error_iff`).  The `outcome` of a computation forgets its value: the outcome of a
traversal that builds something is the traversal that only checks (`outcome_mapM`).  The result of
a logged traversal is the traversal of the results (`Logged.result_mapM`).
-/

namespace ActivityForge

variable {ε α β γ : Type}

/-! ## Success and failure -/

@[simp] theorem ok_bind (a : α) (f : α → Except ε β) : (Except.ok a >>= f) = f a := rfl

theorem bind_eq_ok_iff {x : Except ε α} {f : α → Except ε β} {b : β} :
    (x >>= f) = .ok b ↔ ∃ a, x = .ok a ∧ f a = .ok b := by
  cases x <;> simp [bind, Except.bind]

theorem bind_eq_error_iff {x : Except ε α} {f : α → Except ε β} {e : ε} :
    (x >>= f) = .error e ↔ x = .error e ∨ ∃ a, x = .ok a ∧ f a = .error e := by
  cases x <;> simp [bind, Except.bind]

theorem map_eq_ok_iff {f : α → β} {x : Except ε α} {b : β} :
    x.map f = .ok b ↔ ∃ a, x = .ok a ∧ f a = b := by
  cases x <;> simp [Except.map]

theorem mapError_eq_error_iff {δ : Type} {f : ε → δ} {x : Except ε α} {e : δ} :
    x.mapError f = .error e ↔ ∃ e', x = .error e' ∧ f e' = e := by
  cases x <;> simp [Except.mapError]

theorem mapError_eq_ok_iff {δ : Type} {f : ε → δ} {x : Except ε α} {a : α} :
    x.mapError f = .ok a ↔ x = .ok a := by
  cases x <;> simp [Except.mapError]

theorem pure_eq_ok_iff {a b : α} : (pure a : Except ε α) = .ok b ↔ a = b := by
  simp [pure, Except.pure]

theorem exists_eq_ok_of_isOk {x : Except ε α} (h : x.isOk = true) : ∃ a, x = .ok a := by
  cases x with
  | ok a => exact ⟨a, rfl⟩
  | error e => cases h

/-- A traversal succeeds with the successes of its elements, one for one and in order. -/
theorem mapM_eq_ok_iff {f : α → Except ε β} {l : List α} {r : List β} :
    l.mapM f = .ok r ↔ List.Forall₂ (fun a b => f a = .ok b) l r := by
  induction l generalizing r with
  | nil => rw [List.mapM_nil, pure_eq_ok_iff, List.forall₂_nil_left_iff, eq_comm]
  | cons a l ih =>
    simp only [List.mapM_cons, bind_eq_ok_iff, pure_eq_ok_iff, ih, List.forall₂_cons_left_iff]
    constructor
    · rintro ⟨b, hb, rest, hrest, rfl⟩
      exact ⟨b, rest, hb, hrest, rfl⟩
    · rintro ⟨b, rest, hb, hrest, rfl⟩
      exact ⟨b, hb, rest, hrest, rfl⟩

theorem exists_mem_of_forall₂ {R : α → β → Prop} {l : List α} {r : List β} {b : β}
    (h : List.Forall₂ R l r) (hb : b ∈ r) : ∃ a ∈ l, R a b := by
  induction h with
  | nil => cases hb
  | @cons a c l r hac _ ih =>
    rcases List.mem_cons.1 hb with rfl | hb
    · exact ⟨a, List.mem_cons_self, hac⟩
    · obtain ⟨a', ha', hr⟩ := ih hb
      exact ⟨a', List.mem_cons_of_mem _ ha', hr⟩

/-- A traversal with optional results has one if every element has. -/
theorem mapM_eq_some_iff {f : α → Option β} {l : List α} {r : List β} :
    l.mapM f = some r ↔ List.Forall₂ (fun a b => f a = some b) l r := by
  induction l generalizing r with
  | nil =>
    rw [List.mapM_nil, Option.pure_def, Option.some.injEq, List.forall₂_nil_left_iff, eq_comm]
  | cons a l ih =>
    simp only [List.mapM_cons, Option.bind_eq_bind, Option.bind_eq_some_iff, Option.pure_def,
      Option.some.injEq, ih, List.forall₂_cons_left_iff]
    constructor
    · rintro ⟨b, hb, rest, hrest, rfl⟩
      exact ⟨b, rest, hb, hrest, rfl⟩
    · rintro ⟨b, rest, hb, hrest, rfl⟩
      exact ⟨b, hb, rest, hrest, rfl⟩

theorem exists_of_mem_mapM {f : α → Except ε β} {l : List α} {r : List β} {b : β}
    (h : l.mapM f = .ok r) (hb : b ∈ r) : ∃ a ∈ l, f a = .ok b :=
  exists_mem_of_forall₂ (R := fun a b => f a = .ok b) (mapM_eq_ok_iff.1 h) hb

theorem forM_eq_ok_iff {f : α → Except ε Unit} {l : List α} :
    forM l f = .ok () ↔ ∀ a ∈ l, f a = .ok () := by
  induction l with
  | nil => simp [pure_eq_ok_iff]
  | cons a l ih =>
    rw [List.forM_cons, bind_eq_ok_iff, List.forall_mem_cons, ih]
    exact ⟨fun ⟨_, h⟩ => h, fun h => ⟨(), h⟩⟩

/-- A traversal fails as its first failing element does, and looks at none behind it. -/
theorem forM_eq_error_iff {f : α → Except ε Unit} {l : List α} {e : ε} :
    forM l f = .error e ↔ ∃ before a after, l = before ++ a :: after ∧
      (∀ b ∈ before, f b = .ok ()) ∧ f a = .error e := by
  induction l with
  | nil => simp [pure, Except.pure]
  | cons a l ih =>
    rw [List.forM_cons, bind_eq_error_iff, ih]
    constructor
    · rintro (ha | ⟨⟨⟩, ha, before, b, after, rfl, hbefore, hb⟩)
      · exact ⟨[], a, l, rfl, by simp, ha⟩
      · exact ⟨a :: before, b, after, rfl, by simpa using ⟨ha, hbefore⟩, hb⟩
    · rintro ⟨before, b, after, hl, hbefore, hb⟩
      cases before with
      | nil =>
        obtain ⟨rfl, -⟩ := List.cons.inj hl
        exact Or.inl hb
      | cons c before =>
        obtain ⟨rfl, rfl⟩ := List.cons.inj hl
        rw [List.forall_mem_cons] at hbefore
        exact Or.inr ⟨(), hbefore.1, before, b, after, rfl, hbefore.2, hb⟩

theorem forM_flatMap {m : Type → Type} [Monad m] [LawfulMonad m] {f : β → m Unit}
    {g : α → List β} (l : List α) :
    forM (l.flatMap g) f = forM l fun a => forM (g a) f := by
  induction l with
  | nil => simp
  | cons a l ih => simp [ih]

/-! ## Outcomes -/

/-- Whether a computation succeeds, and how it fails. -/
def outcome : Except ε α → Except ε Unit
  | .ok _ => .ok ()
  | .error e => .error e

@[simp] theorem outcome_ok (a : α) : outcome (.ok a : Except ε α) = .ok () := rfl

@[simp] theorem outcome_error (e : ε) : outcome (.error e : Except ε α) = .error e := rfl

@[simp] theorem outcome_unit (x : Except ε Unit) : outcome x = x := by
  cases x <;> rfl

theorem outcome_eq_ok_iff {x : Except ε α} : outcome x = .ok () ↔ ∃ a, x = .ok a := by
  cases x <;> simp

theorem outcome_eq_error_iff {x : Except ε α} {e : ε} : outcome x = .error e ↔ x = .error e := by
  cases x <;> simp

/-- What follows a step may build on its value, as long as its outcome does not. -/
theorem outcome_bind {x : Except ε α} {f : α → Except ε β} {c : Except ε Unit}
    (h : ∀ a, outcome (f a) = c) : outcome (x >>= f) = outcome x >>= fun _ => c := by
  cases x with
  | error e => rfl
  | ok a => exact h a

theorem outcome_bind_pure {x : Except ε α} {f : α → β} :
    outcome (x >>= fun a => pure (f a)) = outcome x := by
  cases x <;> rfl

theorem outcome_mapM {f : α → Except ε β} (l : List α) :
    outcome (l.mapM f) = forM l fun a => outcome (f a) := by
  induction l with
  | nil => rfl
  | cons a l ih =>
    rw [List.mapM_cons, List.forM_cons, outcome_bind (c := forM l fun a => outcome (f a))]
    intro b
    rw [← ih, outcome_bind_pure]

/-! ## Logged traversals -/

namespace Logged

@[simp] theorem result_ofExcept (r : Except ε α) : (ofExcept r).result = r := rfl

@[simp] theorem result_note (log : Log) : (note log : Logged ε Unit).result = .ok () := rfl

@[simp] theorem result_mapError {δ : Type} (f : ε → δ) (x : Logged ε α) :
    (x.mapError f).result = x.result.mapError f := rfl

@[simp] theorem result_mapM (f : α → Logged ε β) (l : List α) :
    (l.mapM f).result = l.mapM fun a => (f a).result := by
  induction l with
  | nil => rfl
  | cons a l ih =>
    simp only [List.mapM_cons, result_bind, result_pure, ih]
    rfl

end Logged

end ActivityForge
