import ActivityForge.Text.Words

/-!
# The words of a text

What `words` finds: all letters and numbers of the text, in order (`flatten_words`), the words on
both sides of a separator (`words_append_separator`), and a run without upper case letters as one
word (`words_of_run`).  So words without upper case letters are found again when they are written
with separators between them (`words_intercalate`).
-/

namespace ActivityForge.Text

/-! ## Runs -/

theorem runsFrom_append_separator (run cs ds : List Char) {sep : Char}
    (hsep : isAlphanumeric sep = false) :
    runsFrom run (cs ++ sep :: ds) = runsFrom run cs ++ runsFrom [] ds := by
  induction cs generalizing run with
  | nil => simp [runsFrom, hsep]
  | cons c cs ih =>
    rw [List.cons_append, runsFrom, runsFrom]
    split
    · exact ih (c :: run)
    · rw [ih, List.cons_append]

theorem runsFrom_of_alphanumeric (run : List Char) {cs : List Char}
    (h : ∀ c ∈ cs, isAlphanumeric c = true) : runsFrom run cs = [run.reverse ++ cs] := by
  induction cs generalizing run with
  | nil => simp [runsFrom]
  | cons c cs ih =>
    rw [List.forall_mem_cons] at h
    rw [runsFrom, if_pos h.1, ih _ h.2]
    simp

theorem flatten_runsFrom (run cs : List Char) :
    (runsFrom run cs).flatten = run.reverse ++ cs.filter isAlphanumeric := by
  induction cs generalizing run with
  | nil => simp [runsFrom]
  | cons c cs ih =>
    rw [runsFrom]
    split
    · next hc => simp [ih, hc]
    · next hc => simp [ih, hc]

/-! ## Words of a run -/

/-- A word is cut off only before an upper case letter or at one. -/
theorem runWords_of_not_uppercase (word : List Char) (m : WordCase) {cs : List Char}
    (h : ∀ c ∈ cs, isUppercase c = false) (hne : word ≠ [] ∨ cs ≠ []) :
    runWords word m cs = [word.reverse ++ cs] := by
  induction cs generalizing word m with
  | nil =>
    have hword : word ≠ [] := hne.resolve_right (by simp)
    simp [runWords, hword]
  | cons c cs ih =>
    rw [List.forall_mem_cons] at h
    cases cs with
    | nil => simp [runWords]
    | cons next rest =>
      have hnext : isUppercase next = false := h.2 next List.mem_cons_self
      rw [runWords, if_neg (by simp [hnext]), if_neg (by simp [h.1]), ih _ _ h.2 (Or.inl (by simp))]
      simp

theorem flatten_runWords (word : List Char) (m : WordCase) (cs : List Char) :
    (runWords word m cs).flatten = word.reverse ++ cs := by
  fun_induction runWords word m cs with
  | case1 word m hnil => simp_all
  | case2 => simp
  | case3 => simp
  | case4 word m c next rest _ ih => simp [ih]
  | case5 word m c next rest _ _ ih => simp [ih]
  | case6 word m c next rest _ _ ih => simp [ih]

/-- A word is never cut off before its first character: the case of an empty word is open. -/
theorem ne_nil_of_mem_runWords {word cs w : List Char} {m : WordCase}
    (hm : m = .uncased ∨ word ≠ []) (hw : w ∈ runWords word m cs) : w ≠ [] := by
  fun_induction runWords word m cs with
  | case1 => simp at hw
  | case2 word m hne => simp_all
  | case3 => simp_all
  | case4 word m c next rest _ ih =>
    rcases List.mem_cons.1 hw with rfl | hw
    · simp
    · exact ih (Or.inl rfl) hw
  | case5 word m c next rest _ hraised ih =>
    rcases List.mem_cons.1 hw with rfl | hw
    · simp_all
    · exact ih (Or.inl rfl) hw
  | case6 word m c next rest _ _ ih => exact ih (Or.inr (by simp)) hw

/-! ## Words -/

theorem words_append_separator (cs ds : List Char) {sep : Char}
    (hsep : isAlphanumeric sep = false) :
    words (cs ++ sep :: ds) = words cs ++ words ds := by
  rw [words, runsFrom_append_separator [] cs ds hsep, List.flatMap_append, words, words]

/-- A separator at the start belongs to no word. -/
theorem words_cons_separator (cs : List Char) {sep : Char} (hsep : isAlphanumeric sep = false) :
    words (sep :: cs) = words cs :=
  words_append_separator [] cs hsep

/-- A run of letters and numbers without upper case letters is one word. -/
theorem words_of_run {cs : List Char} (hne : cs ≠ []) (hrun : ∀ c ∈ cs, isAlphanumeric c = true)
    (hlower : ∀ c ∈ cs, isUppercase c = false) : words cs = [cs] := by
  rw [words, runsFrom_of_alphanumeric [] hrun]
  simp [runWords_of_not_uppercase [] .uncased hlower (Or.inr hne)]

theorem ne_nil_of_mem_words {cs w : List Char} (hw : w ∈ words cs) : w ≠ [] := by
  obtain ⟨run, -, hw⟩ := List.mem_flatMap.1 hw
  exact ne_nil_of_mem_runWords (Or.inl rfl) hw

/-- The words have all letters and numbers of the text, in order. -/
theorem flatten_words (cs : List Char) : (words cs).flatten = cs.filter isAlphanumeric := by
  have hrun (run : List Char) : (runWords [] .uncased run).flatten = run := flatten_runWords ..
  rw [words, List.flatMap_def, List.flatten_flatten, List.map_map]
  simp only [Function.comp_def, hrun, List.map_id', flatten_runsFrom, List.reverse_nil,
    List.nil_append]

theorem mem_of_mem_words {cs w : List Char} (hw : w ∈ words cs) {c : Char} (hc : c ∈ w) :
    c ∈ cs ∧ isAlphanumeric c = true := by
  have hmem : c ∈ (words cs).flatten := List.mem_flatten_of_mem hw hc
  rwa [flatten_words, List.mem_filter] at hmem

theorem words_ne_nil {cs : List Char} (h : ∃ c ∈ cs, isAlphanumeric c = true) : words cs ≠ [] := by
  obtain ⟨c, hc, halnum⟩ := h
  have hmem : c ∈ (words cs).flatten := by
    rw [flatten_words]
    exact List.mem_filter.2 ⟨hc, halnum⟩
  intro hnil
  simp [hnil] at hmem

/-- A text of separators only has no words. -/
theorem words_eq_nil {cs : List Char} (h : ∀ c ∈ cs, isAlphanumeric c = false) : words cs = [] := by
  have hflat : (words cs).flatten = [] := by
    rw [flatten_words, List.filter_eq_nil_iff]
    exact fun c hc => by simp [h c hc]
  cases hws : words cs with
  | nil => rfl
  | cons w ws =>
    rw [hws, List.flatten_cons, List.append_eq_nil_iff] at hflat
    exact absurd hflat.1 (ne_nil_of_mem_words (hws ▸ List.mem_cons_self))

theorem isAlphanumeric_underscore : isAlphanumeric '_' = false := by decide

/-- Words without upper case letters are found again when they are written with underscores. -/
theorem words_intercalate {ws : List (List Char)} (hne : ∀ w ∈ ws, w ≠ [])
    (hrun : ∀ w ∈ ws, ∀ c ∈ w, isAlphanumeric c = true)
    (hlower : ∀ w ∈ ws, ∀ c ∈ w, isUppercase c = false) : words (['_'].intercalate ws) = ws := by
  induction ws with
  | nil => rfl
  | cons w ws ih =>
    rw [List.forall_mem_cons] at hne hrun hlower
    have hw : words w = [w] := words_of_run hne.1 hrun.1 hlower.1
    cases ws with
    | nil => simpa using hw
    | cons v ws =>
      rw [List.intercalate_cons_cons, List.append_assoc, List.singleton_append,
        words_append_separator _ _ isAlphanumeric_underscore, hw, ih hne.2 hrun.2 hlower.2,
        List.singleton_append]

end ActivityForge.Text
