import ActivityForge.Proofs.Name.Members

/-!
# Two ways to a name in snake case

The snake case form of a name is taken after sanitizing, the name of a member without.  Both have
the same stem (`memberStem_eq`), because sanitizing changes no word and a name without words becomes
`unnamed` either way.  What guards the stem differs for the reserved words in lower case and for
nothing else (`guardReserved_eq`), so the two ways give the same name, or that name behind an
underscore (`memberName_agrees_with_snake`).
-/

namespace ActivityForge.Name

open Text (isAlphanumeric words)

/-! ## Stems -/

theorem snake_ne_nil {cs : List Char} (h : words cs ≠ []) : Text.snake cs ≠ [] := by
  obtain ⟨w, ws, hws⟩ := List.exists_cons_of_ne_nil h
  have hword : Text.lowerWord w ≠ [] :=
    Text.lowerWord_ne_nil (Text.ne_nil_of_mem_words (hws ▸ List.mem_cons_self))
  rw [Text.snake, hws, List.map_cons]
  cases ws <;> simp [List.intercalate_cons_cons, hword]

/-- The stem of a member is the form of the sanitized name. -/
theorem memberStem_eq (text : String) :
    memberStem text = Text.snake (sanitized text.toList) := by
  by_cases h : ∃ c ∈ text.toList, isAlphanumeric c = true
  · have hne : Text.snake text.toList ≠ [] := snake_ne_nil (Text.words_ne_nil h)
    have hwords : Text.snake (sanitized text.toList) = Text.snake text.toList := by
      rw [Text.snake, words_sanitized h, Text.snake]
    rw [memberStem, if_neg (by simpa using hne), hwords]
  · push Not at h
    have hnone : ∀ c ∈ text.toList, isAlphanumeric c = false := by simpa using h
    have hempty : Text.snake text.toList = [] := by
      rw [Text.snake, Text.words_eq_nil hnone]
      rfl
    rw [memberStem, if_pos (by rw [hempty]; rfl), sanitized_of_separators hnone]
    decide

/-! ## Guards -/

/-- The reserved words in lower case. -/
def lowerReserved : List String := ["crate", "self", "super"]

theorem isUpper_of_mem_snake {cs : List Char} {c : Char} (h : c ∈ Text.snake cs) :
    c.isUpper = false := by
  rcases mem_intercalate h with h | ⟨w', hw', hc⟩
  · obtain rfl := List.mem_singleton.1 h
    decide
  · obtain ⟨w, -, rfl⟩ := List.mem_map.1 hw'
    exact Text.isUpper_of_mem_lowerWord hc

/-- The one reserved word with a capital is no form in snake case, in any script. -/
theorem snake_mem_reservedWords_iff {text : String} :
    (ofText text).snake ∈ reservedWords ↔ (ofText text).snake ∈ lowerReserved := by
  have hlower : ∀ c ∈ (ofText text).snake.toList, c.isUpper = false := by
    intro c hc
    simp only [ofText, String.toList_ofList] at hc
    rcases mem_guardDigit hc with rfl | hc
    · decide
    · exact isUpper_of_mem_snake hc
  have hcapital : (ofText text).snake ≠ "Self" := fun heq => by
    have hs : Char.isUpper 'S' = false := hlower 'S' (by rw [heq]; decide)
    cases hs
  simp [reservedWords, lowerReserved, hcapital]

/-- Behind a digit at the start both guards put an underscore; otherwise the one leaves the stem as
it is, and the other looks whether it is reserved. -/
theorem guardReserved_eq {cs : List Char} :
    guardReserved cs =
      if String.ofList (guardDigit cs) ∈ reservedWords then '_' :: guardDigit cs
      else guardDigit cs := by
  have hunderscore (rest : List Char) : String.ofList ('_' :: rest) ∉ reservedWords := by
    have hheads : ∀ word ∈ reservedWords, word.toList.head? ≠ some '_' := by decide
    exact fun hmem => hheads _ hmem (by simp)
  cases cs with
  | nil => decide
  | cons c rest =>
    by_cases hdigit : c.isDigit = true
    · rw [guardReserved, guardDigit, if_pos (by simp [hdigit]), if_pos hdigit,
        if_neg (hunderscore _)]
    · rw [guardReserved, guardDigit, if_neg hdigit]
      simp only [List.head?_cons, Option.any_some, Bool.eq_false_iff.2 hdigit, Bool.false_or,
        List.contains_iff_mem]

/-! ## Names -/

/-- How the name of a member and the snake case form of a name go together. -/
structure SnakeCased (text : String) : Prop where
  agree : memberName text =
    if (ofText text).snake ∈ lowerReserved then "_" ++ (ofText text).snake
    else (ofText text).snake
  /-- Sanitizing keeps the words of a name that has any. -/
  kept : (∃ c ∈ text.toList, isAlphanumeric c = true) →
    words (sanitized text.toList) = words text.toList
  unnamed : (∀ c ∈ text.toList, isAlphanumeric c = false) →
    memberName text = "unnamed" ∧ (ofText text).snake = "unnamed"

/-- Whatever the text, the name of a member is its snake case form, behind an underscore if that is
a reserved word. -/
theorem memberName_agrees_with_snake (text : String) : SnakeCased text where
  agree := by
    have hsnake : (ofText text).snake = String.ofList (guardDigit (memberStem text)) := by
      rw [memberStem_eq]
      rfl
    rw [memberName_eq, guardReserved_eq, ← hsnake]
    by_cases hreserved : (ofText text).snake ∈ lowerReserved
    · rw [if_pos (snake_mem_reservedWords_iff.2 hreserved), if_pos hreserved, hsnake,
        String.ofList_cons]
      rfl
    · rw [if_neg (mt snake_mem_reservedWords_iff.1 hreserved), if_neg hreserved, hsnake]
  kept := words_sanitized
  unnamed h := by
    have hstem : memberStem text = "unnamed".toList := by
      rw [memberStem_eq, sanitized_of_separators h]
      decide
    constructor
    · rw [memberName_eq, hstem]
      decide
    · simp only [ofText, sanitized_of_separators h]
      decide

example : memberName "Crate" = "_crate" ∧ (ofText "Crate").snake = "crate" := by decide

end ActivityForge.Name
