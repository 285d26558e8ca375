import ActivityForge.Name
import ActivityForge.Proofs.Number.Digits
import ActivityForge.Proofs.Text.Ascii
import ActivityForge.Proofs.Text.Words

/-!
# Sanitizing keeps the words of a name

Sanitizing drops the separators of a name and writes one underscore for each gap, so it changes no
word (`words_sanitized`); a name without words becomes `unnamed`.  A number behind an underscore is
a word of its own, and the snake case forms of a name with different numbers differ
(`snake_numbered_injective`).
-/

namespace ActivityForge.Name

open Number (toDigits_injective toList_toString isDigit_of_mem_toDigits)
open Text (isAlphanumeric isAlphanumeric_underscore runWords runsFrom words)

/-! ## Words -/

/-- The words of several runs. -/
def wordsOf (runs : List (List Char)) : List (List Char) := runs.flatMap (runWords [] .uncased)

theorem wordsOf_cons (run : List Char) (runs : List (List Char)) :
    wordsOf (run :: runs) = runWords [] .uncased run ++ wordsOf runs := rfl

/-- An empty run has no words. -/
theorem runWords_nil (m : Text.WordCase) : runWords [] m [] = [] := by simp [runWords]

/-- Once something has been kept, the run in progress goes on, or behind a gap it has ended. -/
theorem wordsOf_joinGaps_started (run cs : List Char) :
    wordsOf (runsFrom run (joinGaps true false cs)) = wordsOf (runsFrom run cs) ∧
      wordsOf (runsFrom run (joinGaps true true cs)) = wordsOf (run.reverse :: runsFrom [] cs) := by
  induction cs generalizing run with
  | nil => exact ⟨rfl, by simp [joinGaps, runsFrom, wordsOf, runWords]⟩
  | cons c cs ih =>
    by_cases hc : isAlphanumeric c = true
    · constructor
      · simpa [joinGaps, runsFrom, hc] using (ih (c :: run)).1
      · have hword : wordsOf (runsFrom [c] (joinGaps true false cs)) = wordsOf (runsFrom [c] cs) :=
          (ih [c]).1
        simpa [joinGaps, runsFrom, hc, isAlphanumeric_underscore, wordsOf_cons] using hword
    · have hgap := (ih run).2
      constructor
      · simpa [joinGaps, runsFrom, hc] using hgap
      · simpa [joinGaps, runsFrom, hc, wordsOf_cons, runWords_nil] using hgap

theorem words_joinGaps (gap : Bool) (cs : List Char) :
    words (joinGaps false gap cs) = words cs := by
  induction cs generalizing gap with
  | nil => rfl
  | cons c cs ih =>
    by_cases hc : isAlphanumeric c = true
    · have hword : wordsOf (runsFrom [c] (joinGaps true false cs)) = wordsOf (runsFrom [c] cs) :=
        (wordsOf_joinGaps_started [c] cs).1
      simpa [joinGaps, words, runsFrom, hc, wordsOf] using hword
    · have hrest : joinGaps false gap (c :: cs) = joinGaps false true cs := by
        simp [joinGaps, hc]
      rw [hrest, ih, Text.words_cons_separator cs (by simpa using hc)]

theorem joinGaps_eq_nil_iff {started gap : Bool} {cs : List Char} :
    joinGaps started gap cs = [] ↔ ∀ c ∈ cs, isAlphanumeric c = false := by
  induction cs generalizing started gap with
  | nil => simp [joinGaps]
  | cons c cs ih =>
    rw [joinGaps, List.forall_mem_cons]
    split
    · next hc =>
      simp only [hc, Bool.true_eq_false, false_and, iff_false]
      split <;> simp
    · next hc => simp [ih, hc]

theorem sanitized_cons (c : Char) (cs : List Char) :
    sanitized (c :: cs) =
      if (joinGaps false false (c :: cs)).isEmpty then "unnamed".toList
      else if c.isDigit then '_' :: joinGaps false false (c :: cs)
      else joinGaps false false (c :: cs) :=
  rfl

/-- Sanitizing changes no word of a name that has any. -/
theorem words_sanitized {cs : List Char} (h : ∃ c ∈ cs, isAlphanumeric c = true) :
    words (sanitized cs) = words cs := by
  have hne : ∀ gap, joinGaps false gap cs ≠ [] := by
    intro gap hnil
    obtain ⟨c, hc, halnum⟩ := h
    rw [joinGaps_eq_nil_iff.1 hnil c hc] at halnum
    exact Bool.false_ne_true halnum
  cases cs with
  | nil => exact absurd rfl (hne false)
  | cons c cs =>
    have hsome : (joinGaps false false (c :: cs)).isEmpty = false := by simpa using hne false
    rw [sanitized_cons, if_neg (by simp [hsome])]
    split
    · rw [Text.words_cons_separator _ isAlphanumeric_underscore, words_joinGaps]
    · exact words_joinGaps false _

/-! ## Numbered names -/

/-- The digits of a number are one word. -/
theorem words_toDigits (n : Nat) : words (Nat.toDigits 10 n) = [Nat.toDigits 10 n] :=
  Text.words_of_run Nat.toDigits_ne_nil
    (fun _ hc => Text.isAlphanumeric_of_isDigit (isDigit_of_mem_toDigits hc))
    (fun _ hc => Text.isUppercase_of_isDigit (isDigit_of_mem_toDigits hc))

theorem lowerWord_toDigits (n : Nat) : Text.lowerWord (Nat.toDigits 10 n) = Nat.toDigits 10 n := by
  have hdigit {c : Char} (hc : c ∈ Nat.toDigits 10 n) := isDigit_of_mem_toDigits hc
  rw [Text.lowerWord_of_isAscii fun c hc => Text.isAscii_of_isDigit (hdigit hc),
    List.map_congr_left fun c hc => Text.toLower_of_isDigit (hdigit hc), List.map_id']

/-- The words of a name in lower case, each with an underscore behind it. -/
def stem (cs : List Char) : List Char := (words cs).flatMap fun w => Text.lowerWord w ++ ['_']

theorem intercalate_append_singleton {α : Type} (sep : List α) (ws : List (List α)) (w : List α) :
    sep.intercalate (ws ++ [w]) = ws.flatMap (· ++ sep) ++ w := by
  induction ws with
  | nil => simp
  | cons v ws ih =>
    obtain ⟨u, us, hcons⟩ : ∃ u us, ws ++ [w] = u :: us :=
      List.exists_cons_of_ne_nil (by simp)
    rw [List.cons_append, hcons, List.intercalate_cons_cons, ← hcons, ih, List.flatMap_cons,
      List.append_assoc, List.append_assoc, List.append_assoc]

theorem toList_numbered (original : String) (n : Nat) :
    (original ++ "_" ++ toString n).toList = original.toList ++ '_' :: Nat.toDigits 10 n := by
  rw [String.toList_append, String.toList_append, toList_toString, List.append_assoc]
  rfl

theorem words_numbered (original : String) (n : Nat) :
    words (sanitized (original ++ "_" ++ toString n).toList) =
      words original.toList ++ [Nat.toDigits 10 n] := by
  obtain ⟨d, ds, hdigits⟩ : ∃ d ds, Nat.toDigits 10 n = d :: ds :=
    List.exists_cons_of_ne_nil Nat.toDigits_ne_nil
  have hd : d.isDigit = true := isDigit_of_mem_toDigits (hdigits ▸ List.mem_cons_self)
  rw [words_sanitized, toList_numbered,
    Text.words_append_separator _ _ isAlphanumeric_underscore, words_toDigits]
  refine ⟨d, ?_, Text.isAlphanumeric_of_isDigit hd⟩
  rw [toList_numbered, hdigits]
  exact List.mem_append_right _ (List.mem_cons_of_mem _ List.mem_cons_self)

theorem snake_numbered (original : String) (n : Nat) :
    (ofText (original ++ "_" ++ toString n)).snake =
      String.ofList (guardDigit (stem original.toList ++ Nat.toDigits 10 n)) := by
  have hsnake : Text.snake (sanitized (original ++ "_" ++ toString n).toList) =
      stem original.toList ++ Nat.toDigits 10 n := by
    rw [Text.snake, words_numbered, List.map_append, List.map_singleton, lowerWord_toDigits,
      intercalate_append_singleton, List.flatMap_map, stem]
  rw [ofText, hsnake]

/-- The guard depends on the stem alone: without one, what follows starts with a digit. -/
theorem guardDigit_append_toDigits_injective (cs : List Char) :
    Function.Injective fun n => guardDigit (cs ++ Nat.toDigits 10 n) := by
  intro m n h
  refine toDigits_injective ?_
  cases cs with
  | nil =>
    have hguard (n : Nat) : guardDigit (Nat.toDigits 10 n) = '_' :: Nat.toDigits 10 n := by
      obtain ⟨d, ds, hdigits⟩ : ∃ d ds, Nat.toDigits 10 n = d :: ds :=
        List.exists_cons_of_ne_nil Nat.toDigits_ne_nil
      have hd : d.isDigit = true := isDigit_of_mem_toDigits (hdigits ▸ List.mem_cons_self)
      rw [hdigits, guardDigit, if_pos hd]
    simpa [hguard] using h
  | cons c cs =>
    by_cases hc : c.isDigit = true
    · simpa [guardDigit, hc] using h
    · simpa [guardDigit, hc] using h

/-- Different numbers behind a name give different forms, whatever the name is. -/
theorem snake_numbered_injective (original : String) :
    Function.Injective fun n : Nat => (ofText (original ++ "_" ++ toString n)).snake := by
  intro m n h
  simp only [snake_numbered, String.ofList_inj] at h
  exact guardDigit_append_toDigits_injective _ h

end ActivityForge.Name
