import ActivityForge.Dict
import Mathlib.Data.List.Nodup

/-!
# Looking up in dictionaries

In a list of pairs in which no key comes twice every pair can be looked up (`lookup_of_nodup`), and
making a map of it changes nothing (`ofPairs_of_nodup`).
-/

namespace ActivityForge.Dict

variable {α : Type} {d : Dict α} {key : String} {value : α}

theorem lookup_of_nodup (h : d.keys.Nodup) (hmem : (key, value) ∈ d) :
    d.lookup key = some value := by
  induction d with
  | nil => cases hmem
  | cons entry rest ih =>
    rw [keys, List.map_cons, List.nodup_cons] at h
    rcases List.mem_cons.1 hmem with rfl | hmem
    · exact List.lookup_cons_self
    · have hne : key ≠ entry.1 := fun heq => h.1 (heq ▸ List.mem_map.2 ⟨_, hmem, rfl⟩)
      rw [List.lookup_cons, beq_false_of_ne hne]
      exact ih h.2 hmem

theorem mem_of_lookup (h : d.lookup key = some value) : (key, value) ∈ d := by
  obtain ⟨before, after, rfl, -⟩ := List.lookup_eq_some_iff.1 h
  simp

theorem lookup_eq_none_iff : d.lookup key = none ↔ key ∉ d.keys := get?_eq_none_iff

theorem put_of_not_mem (h : key ∉ d.keys) : d.put key value = d ++ [(key, value)] := by
  induction d with
  | nil => rfl
  | cons entry rest ih =>
    rw [keys, List.map_cons, List.mem_cons, not_or] at h
    rw [put, if_neg (Ne.symm h.1), ih h.2, List.cons_append]

theorem foldl_put_of_nodup (pairs : List (String × α)) (h : keys (d ++ pairs) |>.Nodup) :
    pairs.foldl (fun d (key, value) => d.put key value) d = d ++ pairs := by
  induction pairs generalizing d with
  | nil => simp
  | cons entry rest ih =>
    obtain ⟨key, value⟩ := entry
    have hnew : key ∉ d.keys := by
      intro hmem
      rw [keys, List.map_append, List.nodup_append] at h
      exact h.2.2 _ hmem _ List.mem_cons_self rfl
    have hnext : (d ++ [(key, value)]) ++ rest = d ++ (key, value) :: rest := by simp
    show rest.foldl (fun d (key, value) => d.put key value) (d.put key value) = _
    rw [put_of_not_mem hnew, ih (hnext ▸ h), hnext]

theorem ofPairs_of_nodup (h : d.keys.Nodup) : ofPairs d = d :=
  foldl_put_of_nodup (d := []) d h

/-- The pairs of a map are among those that it was made of. -/
theorem mem_of_mem_put {entry : String × α} (h : entry ∈ d.put key value) :
    entry = (key, value) ∨ entry ∈ d := by
  induction d with
  | nil => exact Or.inl (List.mem_singleton.1 h)
  | cons first rest ih =>
    rw [put] at h
    split at h
    · next hkey => exact hkey ▸ (List.mem_cons.1 h).imp_right (List.mem_cons_of_mem _)
    · rcases List.mem_cons.1 h with rfl | h
      · exact Or.inr List.mem_cons_self
      · exact (ih h).imp_right (List.mem_cons_of_mem _)

theorem mem_of_mem_ofPairs {pairs : List (String × α)} {entry : String × α}
    (h : entry ∈ ofPairs pairs) : entry ∈ pairs := by
  suffices ∀ d : Dict α, entry ∈ pairs.foldl (fun d (key, value) => d.put key value) d →
      entry ∈ pairs ∨ entry ∈ d from (this [] h).resolve_right List.not_mem_nil
  clear h
  induction pairs with
  | nil => exact fun d h => Or.inr h
  | cons pair rest ih =>
    intro d h
    rcases ih _ h with h | h
    · exact Or.inl (List.mem_cons_of_mem _ h)
    · rcases mem_of_mem_put h with rfl | h
      · exact Or.inl List.mem_cons_self
      · exact Or.inr h

end ActivityForge.Dict
