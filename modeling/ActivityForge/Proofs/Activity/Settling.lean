import ActivityForge.Proofs.Activity.Renaming
import ActivityForge.Proofs.Name.Sanitized
import Mathlib.Data.List.Nodup

/-!
# Settled names

Of the numbered names of an activity one more than there are names taken always includes a free
one, because different numbers give different forms (`exists_firstFree`).  So settling ends at the
first free name, and what it makes of a list of activities is `Settled`: the forms differ, an
activity is renamed exactly if its form is that of an earlier one, each renaming is noted once,
and settling a second time changes nothing (`settleNames_settled`).
-/

namespace ActivityForge.Activity

/-! ## Free names -/

/-- The number `s` is the first from 2 on with a form that is not taken; as many numbers as there
are forms taken and one more are tried at most. -/
structure IsFirstFree (taken : List String) (original : String) (s : Nat) : Prop where
  two_le : 2 ≤ s
  tries : s - 1 ≤ taken.length + 1
  free : (Name.ofText (original ++ "_" ++ toString s)).snake ∉ taken
  least : ∀ r, 2 ≤ r → r < s → (Name.ofText (original ++ "_" ++ toString r)).snake ∈ taken

/-- Not all candidates are taken: there are more of them than forms taken. -/
theorem exists_not_mem_of_candidates (taken : List String) (original : String) :
    ∃ i < taken.length + 1, (suffixed original (i + 2)).snake ∉ taken := by
  by_contra hnone
  push Not at hnone
  let forms := (List.range (taken.length + 1)).map fun i => (suffixed original (i + 2)).snake
  have hinjective : Function.Injective fun i => (suffixed original (i + 2)).snake := by
    intro i j h
    have heq : i + 2 = j + 2 := Name.snake_numbered_injective original h
    omega
  have hnodup : forms.Nodup := List.Nodup.map hinjective List.nodup_range
  have hsubset : forms ⊆ taken := by
    intro form hform
    obtain ⟨i, hi, rfl⟩ := List.mem_map.1 hform
    exact hnone i (List.mem_range.1 hi)
  have hle : forms.length ≤ taken.length := hnodup.length_le_of_subset hsubset
  have hlength : forms.length = taken.length + 1 := by simp [forms]
  omega

theorem exists_firstFree (taken : List String) (original : String) :
    ∃ s, IsFirstFree taken original s ∧ freshName taken original = suffixed original s := by
  obtain ⟨i, hi, hfree⟩ := exists_not_mem_of_candidates taken original
  let isFree := fun i => !taken.contains (suffixed original (i + 2)).snake
  have hsome : ((List.range (taken.length + 1)).find? isFree).isSome := by
    rw [List.find?_isSome]
    exact ⟨i, List.mem_range.2 hi, by simpa [isFree] using hfree⟩
  obtain ⟨j, hj⟩ := Option.isSome_iff_exists.1 hsome
  obtain ⟨hjfree, hjmem, hjleast⟩ := List.find?_range_eq_some.1 hj
  refine ⟨j + 2, ⟨by omega, ?_, ?_, ?_⟩, ?_⟩
  · have hlt := List.mem_range.1 hjmem
    omega
  · simpa [isFree, suffixed] using hjfree
  · intro r hr hrlt
    have hlt : r - 2 < j := by omega
    have hsub : r - 2 + 2 = r := by omega
    have htaken := hjleast (r - 2) hlt
    simpa only [isFree, Bool.not_not, List.contains_iff_mem, hsub, suffixed] using htaken
  · rw [freshName, List.find?_map]
    exact congrArg (fun found => (found.map fun i => suffixed original (i + 2)).getD
      (suffixed original 2)) hj

/-! ## One activity -/

theorem settleName_of_free {taken : List String} {a : Activity} (h : a.name.snake ∉ taken) :
    settleName taken a = a := by
  rw [settleName, if_neg (by simpa using h)]

theorem settleName_of_taken {taken : List String} {a : Activity} (h : a.name.snake ∈ taken) :
    ∃ s, IsFirstFree taken a.name.original s ∧
      settleName taken a = { a with name := suffixed a.name.original s } := by
  obtain ⟨s, hs, hname⟩ := exists_firstFree taken a.name.original
  exact ⟨s, hs, by rw [settleName, if_pos (by simpa using h), hname]⟩

/-- What one step preserves: the forms so far stay different. -/
theorem snake_settleName_not_mem (taken : List String) (a : Activity) :
    (settleName taken a).name.snake ∉ taken := by
  by_cases h : a.name.snake ∈ taken
  · obtain ⟨s, hs, heq⟩ := settleName_of_taken h
    rw [heq]
    exact hs.free
  · rwa [settleName_of_free h]

theorem name_settleName_eq_iff {taken : List String} {a : Activity} :
    (settleName taken a).name = a.name ↔ a.name.snake ∉ taken := by
  constructor
  · intro h
    rw [← h]
    exact snake_settleName_not_mem taken a
  · intro h
    rw [settleName_of_free h]

/-- What becomes of an activity behind others whose forms are `earlier`. -/
structure Settles (earlier : List String) (a b : Activity) : Prop where
  kept : b.name = a.name ↔ a.name.snake ∉ earlier
  renamed : a.name.snake ∈ earlier → ∃ s, IsFirstFree earlier a.name.original s ∧
    b.name = Name.ofText (a.name.original ++ "_" ++ toString s)

/-- The forms are remembered last first; which of them are taken does not depend on that. -/
theorem settles_settleName (earlier : List String) (a : Activity) :
    Settles earlier a (settleName earlier.reverse a) where
  kept := by rw [name_settleName_eq_iff, List.mem_reverse]
  renamed h := by
    obtain ⟨s, hs, heq⟩ := settleName_of_taken (List.mem_reverse.2 h)
    refine ⟨s, ⟨hs.two_le, ?_, ?_, fun r hr hrs => ?_⟩, by rw [heq, suffixed]⟩
    · simpa using hs.tries
    · simpa using hs.free
    · simpa using hs.least r hr hrs

/-! ## All activities -/

/-- The forms of the names of activities. -/
def forms (activities : List Activity) : List String := activities.map fun a => a.name.snake

theorem nodup_forms_settleNames (taken : List String) (activities : List Activity) :
    (forms (settleNames taken activities)).Nodup ∧
      ∀ form ∈ forms (settleNames taken activities), form ∉ taken := by
  induction activities generalizing taken with
  | nil => exact ⟨List.nodup_nil, by simp [forms, settleNames]⟩
  | cons a rest ih =>
    obtain ⟨hnodup, hfree⟩ := ih ((settleName taken a).name.snake :: taken)
    have hhead := snake_settleName_not_mem taken a
    simp only [forms, settleNames, List.map_cons, List.nodup_cons, List.forall_mem_cons]
    refine ⟨⟨fun hmem => hfree _ hmem List.mem_cons_self, hnodup⟩, hhead, fun form hform => ?_⟩
    exact fun htaken => hfree form hform (List.mem_cons_of_mem _ htaken)

theorem settles_settleNames (earlier : List String) (activities : List Activity) {i : Nat}
    {a b : Activity} (ha : activities[i]? = some a)
    (hb : (settleNames earlier.reverse activities)[i]? = some b) :
    Settles (earlier ++ forms ((settleNames earlier.reverse activities).take i)) a b := by
  induction activities generalizing earlier i with
  | nil => simp at ha
  | cons first rest ih =>
    have hnext : (settleName earlier.reverse first).name.snake :: earlier.reverse =
        (earlier ++ [(settleName earlier.reverse first).name.snake]).reverse := by simp
    rw [settleNames] at hb ⊢
    cases i with
    | zero =>
      obtain rfl : first = a := by simpa using ha
      obtain rfl : settleName earlier.reverse first = b := by simpa using hb
      simpa [forms] using settles_settleName earlier first
    | succ i =>
      rw [hnext] at hb ⊢
      have hrest := ih (earlier ++ [(settleName earlier.reverse first).name.snake]) ha hb
      simpa [forms] using hrest

/-- Activities whose forms differ from each other and from those taken keep their names, and
nothing is noted. -/
theorem settleNames_of_nodup {taken : List String} {activities : List Activity}
    (hnodup : (forms activities).Nodup) (hfree : ∀ form ∈ forms activities, form ∉ taken) :
    settleNames taken activities = activities ∧ settleNotes taken activities = [] := by
  induction activities generalizing taken with
  | nil => exact ⟨rfl, rfl⟩
  | cons a rest ih =>
    simp only [forms, List.map_cons, List.nodup_cons, List.forall_mem_cons] at hnodup hfree
    have hnew : ∀ form ∈ forms rest, form ∉ a.name.snake :: taken := fun form hform => by
      rw [List.mem_cons, not_or]
      exact ⟨fun heq => hnodup.1 (heq ▸ hform), hfree.2 form hform⟩
    have hrest := ih hnodup.2 hnew
    have hkept := settleName_of_free hfree.1
    constructor
    · rw [settleNames, hkept, hrest.1]
    · rw [settleNotes, hkept, hrest.2, if_neg (by simpa using hfree.1), List.append_nil]

/-- The pairs of activities before and after settling that have different names. -/
def renamings (activities settled : List Activity) : List (Activity × Activity) :=
  (activities.zip settled).filter fun pair => pair.2.name ≠ pair.1.name

/-- The warning about an activity that has become another. -/
def renamingEntry (pair : Activity × Activity) : Log.Entry :=
  ⟨.warn, "duplicate operation id \x60" ++ pair.1.name.original ++ "\x60 ("
    ++ pair.1.method.text ++ " " ++ pair.1.path ++ "), renamed to \x60" ++ pair.2.name.original
    ++ "\x60"⟩

theorem settleNotes_eq (taken : List String) (activities : List Activity) :
    settleNotes taken activities =
      (renamings activities (settleNames taken activities)).map renamingEntry := by
  induction activities generalizing taken with
  | nil => rfl
  | cons a rest ih =>
    rw [settleNotes, ih, settleNames, renamings, renamings, List.zip_cons_cons]
    by_cases h : a.name.snake ∈ taken
    · have hrenamed : (settleName taken a).name ≠ a.name := by
        rw [ne_eq, name_settleName_eq_iff, not_not]
        exact h
      rw [if_pos (by simpa using h), List.filter_cons_of_pos (by simpa using hrenamed)]
      rfl
    · have hkept : (settleName taken a).name = a.name := name_settleName_eq_iff.2 h
      rw [if_neg (by simpa using h), List.filter_cons_of_neg (by simpa using hkept)]
      rfl

/-- What settling makes of activities, and what it notes. -/
structure Settled (activities settled : List Activity) (log : Log) : Prop where
  distinct : (forms settled).Nodup
  /-- The same activities in the same order, apart from their names. -/
  unchanged : List.Forall₂ Renames activities settled
  settles : ∀ (i : Nat) (a b : Activity), activities[i]? = some a → settled[i]? = some b →
    Settles (forms (settled.take i)) a b
  notes : log = (renamings activities settled).map renamingEntry

/-- Names are settled after one pass: a second one changes and notes nothing. -/
theorem settleNames_settled (activities : List Activity) :
    Settled activities (settleNames [] activities) (settleNotes [] activities) ∧
      settleNames [] (settleNames [] activities) = settleNames [] activities ∧
      settleNotes [] (settleNames [] activities) = [] := by
  have hdistinct := (nodup_forms_settleNames [] activities).1
  refine ⟨⟨hdistinct, forall₂_renames_settleNames [] activities, fun i a b ha hb => ?_,
    settleNotes_eq [] activities⟩, settleNames_of_nodup hdistinct fun _ _ => List.not_mem_nil⟩
  simpa using settles_settleNames [] activities ha hb

end ActivityForge.Activity
