/-!
# Dictionaries

Maps from texts that keep the order in which their keys first appeared, as lists of pairs.  The
maps that `Dict.ofPairs` builds have no key twice (`nodup_keys_ofPairs`).
-/

namespace ActivityForge

abbrev Dict (α : Type) := List (String × α)

namespace Dict

variable {α : Type}

def keys (d : Dict α) : List String := d.map Prod.fst

def get? (d : Dict α) (key : String) : Option α := d.lookup key

def contains (d : Dict α) (key : String) : Bool := (d.get? key).isSome

/-- Sets the value of a key: in its place if the key is there, else at the end. -/
def put : Dict α → String → α → Dict α
  | [], key, value => [(key, value)]
  | (k, v) :: rest, key, value =>
    if k = key then (k, value) :: rest else (k, v) :: put rest key value

/-- The map of all pairs; of several with one key the last wins, in the place of the first. -/
def ofPairs (pairs : List (String × α)) : Dict α :=
  pairs.foldl (fun d (key, value) => d.put key value) []

theorem get?_eq_none_iff {d : Dict α} {key : String} : d.get? key = none ↔ key ∉ d.keys := by
  simp only [get?, keys, List.lookup_eq_none_iff, List.mem_map, not_exists, not_and, bne_iff_ne]
  exact forall_congr' fun p => forall_congr' fun _ => ne_comm

theorem contains_iff {d : Dict α} {key : String} : d.contains key = true ↔ key ∈ d.keys := by
  rw [contains, Option.isSome_iff_ne_none, ne_eq, get?_eq_none_iff, Decidable.not_not]

theorem mem_keys_put (d : Dict α) (key : String) (value : α) (k : String) :
    k ∈ (d.put key value).keys ↔ k ∈ d.keys ∨ k = key := by
  induction d with
  | nil => simp [put, keys]
  | cons p rest ih =>
    obtain ⟨k', v'⟩ := p
    simp only [put]
    split
    · next h => subst h; simp [keys]; grind
    · simp only [keys, List.map_cons, List.mem_cons] at ih ⊢; grind

theorem nodup_keys_put {d : Dict α} (h : d.keys.Nodup) (key : String) (value : α) :
    (d.put key value).keys.Nodup := by
  induction d with
  | nil => simp [put, keys]
  | cons p rest ih =>
    obtain ⟨k', v'⟩ := p
    simp only [keys, List.map_cons, List.nodup_cons] at h
    simp only [put]
    split
    · simpa [keys] using h
    · next hne =>
      simp only [keys, List.map_cons, List.nodup_cons]
      refine ⟨fun hm => ?_, ih h.2⟩
      rcases (mem_keys_put rest key value k').1 hm with hm | hm
      · exact h.1 hm
      · exact hne hm

theorem nodup_keys_ofPairs (pairs : List (String × α)) : (ofPairs pairs).keys.Nodup := by
  suffices ∀ d : Dict α, d.keys.Nodup →
      (pairs.foldl (fun d (key, value) => d.put key value) d).keys.Nodup from
    this [] (by simp [keys])
  induction pairs with
  | nil => exact fun _ h => h
  | cons p rest ih => exact fun d h => ih _ (nodup_keys_put h p.1 p.2)

end Dict

end ActivityForge
