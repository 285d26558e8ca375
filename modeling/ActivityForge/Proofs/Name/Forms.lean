import ActivityForge.Proofs.Name.Sanitized
import Mathlib.Tactic.SplitIfs

/-!
# The forms of an ASCII name

For a name made of ASCII characters the snake case form determines every other form that the
generated source uses, and is determined by it: taking it again changes nothing (`snake_snake`),
the form in capitals is the same in the other case (`snake_eq_map_screaming`), and identifiers made
from different forms differ (`identifier_snake_injective`), guards, reserved words and keywords
included.
-/

namespace ActivityForge.Name

open Text (isAscii isAlphanumeric isUppercase words)

/-! ## Sanitized names -/

theorem mem_joinGaps {started gap : Bool} {cs : List Char} {c : Char}
    (h : c ∈ joinGaps started gap cs) : c = '_' ∨ c ∈ cs := by
  induction cs generalizing started gap with
  | nil => simp [joinGaps] at h
  | cons d cs ih =>
    rw [joinGaps] at h
    split at h
    · rcases List.mem_append.1 h with h | h
      · split at h <;> grind
      · exact (ih h).imp_right (List.mem_cons_of_mem d)
    · exact (ih h).imp_right (List.mem_cons_of_mem d)

/-- A name without letters and numbers is replaced. -/
theorem sanitized_of_separators {cs : List Char} (h : ∀ c ∈ cs, isAlphanumeric c = false) :
    sanitized cs = "unnamed".toList := by
  cases cs with
  | nil => rfl
  | cons c cs =>
    have hnil : joinGaps false false (c :: cs) = [] := joinGaps_eq_nil_iff.2 h
    rw [sanitized_cons, if_pos (by simp [hnil])]

theorem isAscii_sanitized {cs : List Char} (h : ∀ c ∈ cs, isAscii c = true) :
    ∀ c ∈ sanitized cs, isAscii c = true := by
  have hjoined (c : Char) (hc : c ∈ joinGaps false false cs) : isAscii c = true := by
    rcases mem_joinGaps hc with rfl | hc
    · decide
    · exact h c hc
  cases cs with
  | nil => exact List.all_eq_true.1 (by decide)
  | cons d cs =>
    rw [sanitized_cons]
    split
    · exact List.all_eq_true.1 (by decide)
    · split
      · exact List.forall_mem_cons.2 ⟨by decide, hjoined⟩
      · exact hjoined

theorem words_sanitized_ne_nil (cs : List Char) : words (sanitized cs) ≠ [] := by
  by_cases h : ∃ c ∈ cs, isAlphanumeric c = true
  · rw [words_sanitized h]
    exact Text.words_ne_nil h
  · push Not at h
    rw [sanitized_of_separators (by simpa using h)]
    decide

/-! ## Words in one case -/

theorem map_intercalate {α β : Type} (f : α → β) (sep : List α) (ws : List (List α)) :
    (sep.intercalate ws).map f = (sep.map f).intercalate (ws.map (List.map f)) := by
  induction ws with
  | nil => rfl
  | cons w ws ih =>
    cases ws with
    | nil => simp
    | cons v ws =>
      rw [List.intercalate_cons_cons, List.map_append, List.map_append, ih, List.map_cons,
        List.map_cons, List.map_cons, List.intercalate_cons_cons]

theorem mem_intercalate {α : Type} {sep : List α} {ws : List (List α)} {a : α}
    (h : a ∈ sep.intercalate ws) : a ∈ sep ∨ ∃ w ∈ ws, a ∈ w := by
  induction ws with
  | nil => simp at h
  | cons w ws ih =>
    cases ws with
    | nil => exact Or.inr ⟨w, List.mem_cons_self, by simpa using h⟩
    | cons v ws =>
      rw [List.intercalate_cons_cons] at h
      rcases List.mem_append.1 h with h | h
      · rcases List.mem_append.1 h with h | h
        · exact Or.inr ⟨w, List.mem_cons_self, h⟩
        · exact Or.inl h
      · exact (ih h).imp_right fun ⟨u, hu, ha⟩ => ⟨u, List.mem_cons_of_mem w hu, ha⟩

section Ascii

variable {cs : List Char} (hcs : ∀ c ∈ cs, isAscii c = true)

include hcs

theorem snake_of_isAscii :
    Text.snake cs = ['_'].intercalate ((words cs).map (List.map Char.toLower)) := by
  rw [Text.snake, List.map_congr_left fun w hw =>
    Text.lowerWord_of_isAscii fun c hc => hcs c (Text.mem_of_mem_words hw hc).1]

theorem screaming_of_isAscii :
    Text.screaming cs = ['_'].intercalate ((words cs).map (List.map Char.toUpper)) := by
  rw [Text.screaming, List.map_congr_left fun w hw =>
    Text.upperWord_of_isAscii fun c hc => hcs c (Text.mem_of_mem_words hw hc).1]

/-- The words of the snake case form are the words in lower case. -/
theorem words_snake : words (Text.snake cs) = (words cs).map (List.map Char.toLower) := by
  rw [snake_of_isAscii hcs]
  refine Text.words_intercalate ?_ ?_ ?_ <;>
    simp only [List.forall_mem_map]
  · exact fun w hw => by simpa using Text.ne_nil_of_mem_words hw
  · intro w hw c hc
    obtain ⟨hmem, halnum⟩ := Text.mem_of_mem_words hw hc
    rw [Text.isAlphanumeric_toLower (hcs c hmem), halnum]
  · exact fun w hw c hc => Text.isUppercase_toLower (hcs c (Text.mem_of_mem_words hw hc).1)

/-- A form in snake case is its own snake case form. -/
theorem snake_snake : Text.snake (Text.snake cs) = Text.snake cs := by
  have hword (w : List Char) (hw : w ∈ words cs) :
      (Text.lowerWord ∘ List.map Char.toLower) w = w.map Char.toLower := by
    rw [Function.comp_apply]
    have hascii (c : Char) (hc : c ∈ w) := hcs c (Text.mem_of_mem_words hw hc).1
    rw [Text.lowerWord_of_isAscii
      (List.forall_mem_map.2 fun c hc => Text.isAscii_toLower (hascii c hc)), List.map_map]
    exact List.map_congr_left fun c hc => Text.toLower_toLower (hascii c hc)
  rw [Text.snake, words_snake hcs, List.map_map, List.map_congr_left hword, snake_of_isAscii hcs]

theorem map_toLower_screaming : (Text.screaming cs).map Char.toLower = Text.snake cs := by
  rw [screaming_of_isAscii hcs, snake_of_isAscii hcs, map_intercalate, List.map_map]
  congr 1
  refine List.map_congr_left fun w hw => ?_
  rw [Function.comp_apply, List.map_map]
  exact List.map_congr_left fun c hc =>
    Text.toLower_toUpper (hcs c (Text.mem_of_mem_words hw hc).1)

/-- What the characters of the forms come from. -/
theorem exists_of_mem_snake {c : Char} (h : c ∈ Text.snake cs) :
    c = '_' ∨ ∃ d ∈ cs, isAlphanumeric d = true ∧ c = d.toLower := by
  rw [snake_of_isAscii hcs] at h
  refine (mem_intercalate h).imp List.mem_singleton.1 fun ⟨w', hw', hc⟩ => ?_
  obtain ⟨w, hw, rfl⟩ := List.mem_map.1 hw'
  obtain ⟨d, hd, rfl⟩ := List.mem_map.1 hc
  obtain ⟨hmem, halnum⟩ := Text.mem_of_mem_words hw hd
  exact ⟨d, hmem, halnum, rfl⟩

theorem exists_of_mem_screaming {c : Char} (h : c ∈ Text.screaming cs) :
    c = '_' ∨ ∃ d ∈ cs, isAlphanumeric d = true ∧ c = d.toUpper := by
  rw [screaming_of_isAscii hcs] at h
  refine (mem_intercalate h).imp List.mem_singleton.1 fun ⟨w', hw', hc⟩ => ?_
  obtain ⟨w, hw, rfl⟩ := List.mem_map.1 hw'
  obtain ⟨d, hd, rfl⟩ := List.mem_map.1 hc
  obtain ⟨hmem, halnum⟩ := Text.mem_of_mem_words hw hd
  exact ⟨d, hmem, halnum, rfl⟩

theorem isAscii_of_mem_screaming {c : Char} (h : c ∈ Text.screaming cs) : isAscii c = true := by
  rcases exists_of_mem_screaming hcs h with rfl | ⟨d, hd, -, rfl⟩
  · decide
  · exact Text.isAscii_toUpper (hcs d hd)

theorem isAscii_of_mem_snake {c : Char} (h : c ∈ Text.snake cs) : isAscii c = true := by
  rcases exists_of_mem_snake hcs h with rfl | ⟨d, hd, -, rfl⟩
  · decide
  · exact Text.isAscii_toLower (hcs d hd)

theorem mem_snake {c : Char} (h : c ∈ Text.snake cs) : c = '_' ∨ isAlphanumeric c = true := by
  refine (exists_of_mem_snake hcs h).imp_right ?_
  rintro ⟨d, hd, halnum, rfl⟩
  rwa [Text.isAlphanumeric_toLower (hcs d hd)]

/-- The form of a name with words starts with a letter or a number. -/
theorem exists_cons_snake (hwords : words cs ≠ []) :
    ∃ c rest, Text.snake cs = c :: rest ∧ isAlphanumeric c = true := by
  obtain ⟨w, ws, heq⟩ : ∃ w ws, words cs = w :: ws := List.exists_cons_of_ne_nil hwords
  have hw : w ∈ words cs := heq ▸ List.mem_cons_self
  obtain ⟨d, ds, rfl⟩ : ∃ d ds, w = d :: ds :=
    List.exists_cons_of_ne_nil (Text.ne_nil_of_mem_words hw)
  obtain ⟨hmem, halnum⟩ := Text.mem_of_mem_words hw List.mem_cons_self
  refine ⟨d.toLower, (Text.snake cs).tail, ?_, by rwa [Text.isAlphanumeric_toLower (hcs d hmem)]⟩
  rw [snake_of_isAscii hcs, heq]
  cases ws with
  | nil => simp
  | cons v ws => simp [List.intercalate_cons_cons]

end Ascii

/-! ## Names -/

theorem snake_guardDigit (cs : List Char) : Text.snake (guardDigit cs) = Text.snake cs := by
  cases cs with
  | nil => rfl
  | cons c cs =>
    rw [guardDigit]
    split
    · rw [Text.snake, Text.words_cons_separator _ Text.isAlphanumeric_underscore, Text.snake]
    · rfl

/-- Whether a name is guarded does not depend on its case. -/
theorem map_toLower_guardDigit (cs : List Char) (h : ∀ c ∈ cs, isAscii c = true) :
    (guardDigit cs).map Char.toLower = guardDigit (cs.map Char.toLower) := by
  cases cs with
  | nil => rfl
  | cons c cs =>
    have hc : isAscii c = true := h c List.mem_cons_self
    have hdigit : c.toLower.isDigit = c.isDigit := Text.isDigit_toLower hc
    simp only [guardDigit, List.map_cons, hdigit]
    split <;> rfl

section AsciiName

variable {original : String} (h : ∀ c ∈ original.toList, isAscii c = true)

include h

theorem snake_eq_map_screaming :
    (ofText original).snake =
      String.ofList ((ofText original).screaming.toList.map Char.toLower) := by
  have hcs := isAscii_sanitized h
  simp only [ofText, String.toList_ofList]
  rw [map_toLower_guardDigit _ fun c hc => isAscii_of_mem_screaming hcs hc,
    map_toLower_screaming hcs]

/-- A member name is the form itself, or the form behind an underscore. -/
theorem memberName_snake :
    memberName (ofText original).snake = String.ofList (Text.snake (sanitized original.toList)) ∨
      memberName (ofText original).snake =
        String.ofList ('_' :: Text.snake (sanitized original.toList)) := by
  have hcs := isAscii_sanitized h
  obtain ⟨c, rest, hcons, -⟩ := exists_cons_snake hcs (words_sanitized_ne_nil original.toList)
  have hform : Text.snake (ofText original).snake.toList =
      Text.snake (sanitized original.toList) := by
    simp only [ofText, String.toList_ofList, snake_guardDigit, snake_snake hcs]
  rw [memberName, hform, if_neg (by simp [hcons])]
  split
  · exact Or.inr rfl
  · exact Or.inl rfl

end AsciiName

/-- A keyword is escaped by a character that no other identifier has. -/
theorem escapeKeyword_injective {s t : String} (hs : '#' ∉ s.toList) (ht : '#' ∉ t.toList)
    (h : escapeKeyword s = escapeKeyword t) : s = t := by
  have hescaped (u : String) : '#' ∈ ("r#" ++ u).toList := by simp
  unfold escapeKeyword at h
  split_ifs at h with hsk htk htk
  · simpa using h
  · exact absurd (h ▸ hescaped s) ht
  · exact absurd (h ▸ hescaped t) hs
  · exact h

theorem hash_not_mem_memberName {original : String} (h : ∀ c ∈ original.toList, isAscii c = true) :
    '#' ∉ (memberName (ofText original).snake).toList := by
  have hform : '#' ∉ Text.snake (sanitized original.toList) := fun hmem => by
    have hchar := mem_snake (isAscii_sanitized h) hmem
    revert hchar
    decide
  rcases memberName_snake h with heq | heq
  · rw [heq, String.toList_ofList]
    exact hform
  · rw [heq, String.toList_ofList, List.mem_cons, not_or]
    exact ⟨by decide, hform⟩

/-- ASCII names with different forms give different identifiers: an underscore in front comes from
a guard, because no form of a name without guard starts with one. -/
theorem identifier_snake_injective {s t : String} (hs : ∀ c ∈ s.toList, isAscii c = true)
    (ht : ∀ c ∈ t.toList, isAscii c = true)
    (h : identifier (ofText s).snake = identifier (ofText t).snake) :
    (ofText s).snake = (ofText t).snake := by
  have hmember : memberName (ofText s).snake = memberName (ofText t).snake :=
    escapeKeyword_injective (hash_not_mem_memberName hs) (hash_not_mem_memberName ht) h
  obtain ⟨c, cs, hc, hcalnum⟩ :=
    exists_cons_snake (isAscii_sanitized hs) (words_sanitized_ne_nil s.toList)
  obtain ⟨d, ds, hd, hdalnum⟩ :=
    exists_cons_snake (isAscii_sanitized ht) (words_sanitized_ne_nil t.toList)
  have hguard {e : Char} (he : isAlphanumeric e = true) : e ≠ '_' := by
    rintro rfl
    exact absurd he (by decide)
  have hform : Text.snake (sanitized s.toList) = Text.snake (sanitized t.toList) := by
    rcases memberName_snake hs with hs | hs <;> rcases memberName_snake ht with ht | ht <;>
      rw [hs, ht, String.ofList_inj] at hmember
    · exact hmember
    · rw [hc] at hmember
      exact absurd (List.cons.inj hmember).1 (hguard hcalnum)
    · rw [hd] at hmember
      exact absurd (List.cons.inj hmember).1.symm (hguard hdalnum)
    · exact (List.cons.inj hmember).2
  simp only [ofText, hform]

/-- ASCII names with different forms have different forms in capitals. -/
theorem screaming_injective {s t : String} (hs : ∀ c ∈ s.toList, isAscii c = true)
    (ht : ∀ c ∈ t.toList, isAscii c = true)
    (h : (ofText s).screaming = (ofText t).screaming) : (ofText s).snake = (ofText t).snake := by
  rw [snake_eq_map_screaming hs, snake_eq_map_screaming ht, h]

end ActivityForge.Name
