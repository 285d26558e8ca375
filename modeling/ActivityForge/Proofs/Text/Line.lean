import ActivityForge.Source.Comment
import Mathlib.Data.List.Basic

/-!
# Lines of a text

What `splitAt` gives: the pieces of a text that was put together at a separator
(`splitAt_append`), none of which has the separator in it.  So no line of a text has a line feed
in it, and neither has a line that a doc comment is made of (`lineFeed_not_mem_docLines`).
-/

namespace ActivityForge

namespace Text

variable {sep c : Char} {cs : List Char}

/-! ## Pieces -/

theorem splitAt_ne_nil (sep : Char) (cs : List Char) : splitAt sep cs ≠ [] := by
  cases cs with
  | nil => simp [splitAt]
  | cons c cs =>
    rw [splitAt]
    split
    · simp
    · split <;> simp

/-- A character that does not separate belongs to the first piece. -/
theorem splitAt_cons_of_ne (hc : c ≠ sep) {piece : List Char} {pieces : List (List Char)}
    (h : splitAt sep cs = piece :: pieces) : splitAt sep (c :: cs) = (c :: piece) :: pieces := by
  rw [splitAt, if_neg hc, h]

theorem splitAt_append (sep : Char) (as bs : List Char) :
    splitAt sep (as ++ sep :: bs) = splitAt sep as ++ splitAt sep bs := by
  induction as with
  | nil => simp [splitAt]
  | cons a as ih =>
    by_cases ha : a = sep
    · simp [splitAt, ha, ih]
    · obtain ⟨piece, pieces, h⟩ := List.exists_cons_of_ne_nil (splitAt_ne_nil sep as)
      rw [h, List.cons_append] at ih
      rw [splitAt_cons_of_ne ha h, List.cons_append, splitAt_cons_of_ne ha ih, List.cons_append]

theorem splitAt_of_not_mem (h : sep ∉ cs) : splitAt sep cs = [cs] := by
  induction cs with
  | nil => rfl
  | cons c cs ih =>
    rw [List.mem_cons, not_or] at h
    exact splitAt_cons_of_ne (Ne.symm h.1) (ih h.2)

theorem not_mem_of_mem_splitAt {piece : List Char} (h : piece ∈ splitAt sep cs) :
    sep ∉ piece := by
  induction cs generalizing piece with
  | nil =>
    obtain rfl := List.mem_singleton.1 h
    exact List.not_mem_nil
  | cons c cs ih =>
    by_cases hc : c = sep
    · rw [splitAt, if_pos hc, List.mem_cons] at h
      rcases h with rfl | h
      · exact List.not_mem_nil
      · exact ih h
    · obtain ⟨first, pieces, hcs⟩ := List.exists_cons_of_ne_nil (splitAt_ne_nil sep cs)
      rw [splitAt_cons_of_ne hc hcs, List.mem_cons] at h
      rw [hcs] at ih
      rcases h with rfl | h
      · rw [List.mem_cons, not_or]
        exact ⟨Ne.symm hc, ih List.mem_cons_self⟩
      · exact ih (List.mem_cons_of_mem _ h)

/-! ## Lines -/

theorem mem_of_mem_dropReturn (h : c ∈ dropReturn cs) : c ∈ cs := by
  unfold dropReturn at h
  split at h
  · exact (List.dropLast_sublist cs).subset h
  · exact h

theorem mem_of_mem_trimEnd (h : c ∈ trimEnd cs) : c ∈ cs :=
  List.mem_reverse.1 ((List.dropWhile_sublist _).subset (List.mem_reverse.1 h))

theorem exists_piece_of_mem_linesOfPieces {pieces : List (List Char)} {line : List Char}
    (h : line ∈ linesOfPieces pieces) : ∃ piece ∈ pieces, ∀ c ∈ line, c ∈ piece := by
  fun_induction linesOfPieces pieces with
  | case1 => cases h
  | case2 => cases h
  | case3 last =>
    obtain rfl := List.mem_singleton.1 h
    exact ⟨line, List.mem_singleton_self line, fun _ => id⟩
  | case4 piece pieces _ ih =>
    rcases List.mem_cons.1 h with rfl | h
    · exact ⟨piece, List.mem_cons_self, fun _ => mem_of_mem_dropReturn⟩
    · obtain ⟨found, hfound, hline⟩ := ih h
      exact ⟨found, List.mem_cons_of_mem piece hfound, hline⟩

theorem lineFeed_not_mem_of_mem_lines {line : List Char} (h : line ∈ lines cs) : '\n' ∉ line := by
  obtain ⟨piece, hpiece, hline⟩ := exists_piece_of_mem_linesOfPieces h
  exact fun hmem => not_mem_of_mem_splitAt hpiece (hline _ hmem)

end Text

/-! ## Comment lines -/

namespace Source

theorem lineFeed_not_mem_docLines {text line : String} (h : line ∈ docLines text) :
    '\n' ∉ line.toList := by
  obtain ⟨kept, hkept, rfl⟩ := List.mem_map.1 h
  have hplain : '\n' ∉ Text.trimEnd kept := fun hmem =>
    Text.lineFeed_not_mem_of_mem_lines hkept (Text.mem_of_mem_trimEnd hmem)
  dsimp only
  split
  · simp
  · simpa using hplain

theorem lineFeed_not_mem_docLines? {text : Option String} {line : String}
    (h : line ∈ docLines? text) : '\n' ∉ line.toList := by
  cases text with
  | none => cases h
  | some text => exact lineFeed_not_mem_docLines h

end Source

end ActivityForge
