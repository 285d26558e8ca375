import ActivityForge.Proofs.Text.Ascii

/-!
# The characters of words in upper and lower case

A letter or number is no ASCII mark and no white space, and neither is any character of its upper
or lower case, in any script (`isWordChar_of_isAlphanumeric`, `isWordChar_of_mem_upper`,
`isWordChar_of_mem_lower`).  No word vanishes in another case (`lowerWord_ne_nil`,
`capitalWord_ne_nil`), and in lower case none has an ASCII capital (`isUpper_of_mem_lowerWord`).
The tables are opened here only, one row at a time.
-/

namespace ActivityForge.Text

/-- First and last code points of the blocks in which nothing belongs to a word: ASCII marks and
controls, white space, and the surrogates. -/
def Table.wordless : List (Nat × Nat) :=
  [(0, 0x2F), (0x3A, 0x40), (0x5B, 0x60), (0x7B, 0xA0), (0x1680, 0x1680), (0x2000, 0x2030),
   (0x205F, 0x205F), (0x3000, 0x3000), (0xD800, 0xDFFF)]

/-- Whether the code points from `first` to `last` lie outside all those blocks. -/
def outsideWordless (first last : Int) : Bool :=
  Table.wordless.all fun (low, high) => last < low || high < first

/-- A character that may belong to a word, in either case. -/
def isWordChar (c : Char) : Bool := outsideWordless c.toNat c.toNat

theorem outsideWordless_iff {first last : Int} :
    outsideWordless first last = true ↔ ∀ p ∈ Table.wordless, last < p.1 ∨ p.2 < first := by
  simp [outsideWordless]

theorem isWordChar_of_isAscii_of_isAlphanum {c : Char} (hc : isAscii c = true)
    (h : c.isAlphanum = true) : isWordChar c = true :=
  forall_isAscii (P := fun c => c.isAlphanum = true → isWordChar c = true) (by decide) hc h

/-! ## Letters and numbers -/

/-- Membership does not change where no bound lies. -/
theorem inBounds_eq_of_no_bound {bounds : List Nat} {low high n : Nat}
    (h : ∀ b ∈ bounds, b ≤ low ∨ high < b) (hlow : low ≤ n) (hhigh : n ≤ high) :
    inBounds bounds n = inBounds bounds low := by
  induction bounds with
  | nil => rfl
  | cons b rest ih =>
    rw [List.forall_mem_cons] at h
    have hsame : n < b ↔ low < b := by omega
    simp only [inBounds, hsame, ih h.2]

/-- The table of letters and numbers has nothing in a block of characters that belong to no
word. -/
theorem not_inBounds_alphanumeric {p : Nat × Nat} (hp : p ∈ Table.wordless) {n : Nat}
    (hlow : p.1 ≤ n) (hhigh : n ≤ p.2) : inBounds Table.alphanumeric n = false := by
  have hbounds : ∀ p ∈ Table.wordless, (∀ b ∈ Table.alphanumeric, b ≤ p.1 ∨ p.2 < b) ∧
      inBounds Table.alphanumeric p.1 = false := by decide +kernel
  rw [inBounds_eq_of_no_bound (hbounds p hp).1 hlow hhigh, (hbounds p hp).2]

theorem isWordChar_of_isAlphanumeric {c : Char} (h : isAlphanumeric c = true) :
    isWordChar c = true := by
  unfold isAlphanumeric at h
  split at h
  · next hc => exact isWordChar_of_isAscii_of_isAlphanum hc h
  · refine outsideWordless_iff.2 fun p hp => ?_
    by_contra hmem
    rw [not_inBounds_alphanumeric hp (by omega) (by omega)] at h
    exact Bool.false_ne_true h

/-- White space belongs to no word. -/
theorem isBlank_of_isWordChar {c : Char} (h : isWordChar c = true) : isBlank c = false := by
  unfold isBlank
  split
  · next hc =>
    exact forall_isAscii (P := fun c => isWordChar c = true →
      (c = ' ' || ('\t' ≤ c && c ≤ '\r')) = false) (by decide) hc h
  · have hblocks := outsideWordless_iff.1 h
    simp only [Table.wordless, List.forall_mem_cons] at hblocks
    simp only [inBounds, Table.blank]
    grind

/-! ## Upper and lower case -/

/-- Whether all characters that a row maps to may belong to words. -/
def rowInWords (row : Nat × Nat × Nat × Int) : Bool :=
  outsideWordless (row.1 + row.2.2.2) (row.2.1 + row.2.2.2)
    && 0 ≤ row.1 + row.2.2.2 && row.2.1 + row.2.2.2 < 0x110000

theorem toNat_ofNat {n : Nat} (h : n.isValidChar) : (Char.ofNat n).toNat = n := by
  rw [Char.ofNat, dif_pos h]
  rfl

theorem isWordChar_of_row {row : Nat × Nat × Nat × Int} (h : rowInWords row = true) {n : Nat}
    (hfirst : row.1 ≤ n) (hlast : n ≤ row.2.1) :
    isWordChar (Char.ofNat (n + row.2.2.2).toNat) = true := by
  simp only [rowInWords, Bool.and_eq_true, decide_eq_true_eq, outsideWordless_iff] at h
  obtain ⟨⟨hblocks, hzero⟩, hlt⟩ := h
  have hsurrogate := hblocks (0xD800, 0xDFFF) (by decide)
  simp only at hsurrogate
  have hvalid : (n + row.2.2.2).toNat.isValidChar := by
    simp only [Nat.isValidChar]
    omega
  refine outsideWordless_iff.2 fun p hp => ?_
  have hblock := hblocks p hp
  rw [toNat_ofNat hvalid]
  omega

/-- What holds of a character and of all that is listed holds of every image. -/
theorem forall_mem_mapBy {P : Char → Prop} {special : List (Nat × List Nat)}
    {rows : List (Nat × Nat × Nat × Int)}
    (hspecial : ∀ e ∈ special, ∀ n ∈ e.2, P (Char.ofNat n))
    (hrows : ∀ row ∈ rows, ∀ n : Nat, row.1 ≤ n → n ≤ row.2.1 →
      P (Char.ofNat (n + row.2.2.2).toNat))
    {c : Char} (hc : P c) : ∀ d ∈ mapBy special rows c, P d := by
  intro d h
  unfold mapBy at h
  split at h
  · next image hlookup =>
    obtain ⟨n, hn, rfl⟩ := List.mem_map.1 h
    obtain ⟨before, after, rfl, -⟩ := List.lookup_eq_some_iff.1 hlookup
    exact hspecial (c.toNat, image) (by simp) n hn
  · split at h
    · next first last step shift hfind =>
      obtain rfl := List.mem_singleton.1 h
      have hrange := List.find?_some hfind
      simp only [Bool.and_eq_true, decide_eq_true_eq] at hrange
      exact hrows _ (List.mem_of_find?_eq_some hfind) c.toNat hrange.1.1 hrange.1.2
    · obtain rfl := List.mem_singleton.1 h
      exact hc

theorem isWordChar_of_mem_mapBy {special : List (Nat × List Nat)}
    {rows : List (Nat × Nat × Nat × Int)}
    (hspecial : ∀ e ∈ special, ∀ n ∈ e.2, isWordChar (Char.ofNat n) = true)
    (hrows : ∀ row ∈ rows, rowInWords row = true) {c : Char} (hc : isWordChar c = true) {d : Char}
    (h : d ∈ mapBy special rows c) : isWordChar d = true :=
  forall_mem_mapBy (P := fun d => isWordChar d = true) hspecial
    (fun row hrow _ => isWordChar_of_row (hrows row hrow)) hc d h

/-- Both cases are mapped alike: ASCII characters by a rule, all others by the tables. -/
theorem isWordChar_of_mem_cased {f : Char → Char} {special : List (Nat × List Nat)}
    {rows : List (Nat × Nat × Nat × Int)}
    (hascii : ∀ n < 128, (Char.ofNat n).isAlphanum = true → isWordChar (f (Char.ofNat n)) = true)
    (hspecial : ∀ e ∈ special, ∀ n ∈ e.2, isWordChar (Char.ofNat n) = true)
    (hrows : ∀ row ∈ rows, rowInWords row = true) {c : Char} (hc : isAlphanumeric c = true)
    {d : Char} (h : d ∈ if isAscii c then [f c] else mapBy special rows c) :
    isWordChar d = true := by
  split at h
  · next hcascii =>
    obtain rfl := List.mem_singleton.1 h
    rw [isAlphanumeric, if_pos hcascii] at hc
    exact forall_isAscii (P := fun c => c.isAlphanum = true → isWordChar (f c) = true)
      hascii hcascii hc
  · exact isWordChar_of_mem_mapBy hspecial hrows (isWordChar_of_isAlphanumeric hc) h

theorem isWordChar_of_mem_upper {c d : Char} (hc : isAlphanumeric c = true) (h : d ∈ upper c) :
    isWordChar d = true :=
  isWordChar_of_mem_cased (f := Char.toUpper) (by decide) (by decide +kernel) (by decide +kernel)
    hc h

theorem isWordChar_of_mem_lower {c d : Char} (hc : isAlphanumeric c = true) (h : d ∈ lower c) :
    isWordChar d = true :=
  isWordChar_of_mem_cased (f := Char.toLower) (by decide) (by decide +kernel) (by decide +kernel)
    hc h

theorem mapBy_ne_nil {special : List (Nat × List Nat)} (h : ∀ e ∈ special, e.2 ≠ [])
    (rows : List (Nat × Nat × Nat × Int)) (c : Char) : mapBy special rows c ≠ [] := by
  unfold mapBy
  split
  · next image hlookup =>
    obtain ⟨before, after, rfl, -⟩ := List.lookup_eq_some_iff.1 hlookup
    rw [ne_eq, List.map_eq_nil_iff]
    exact h (c.toNat, image) (by simp)
  · split <;> simp

/-- No character vanishes in another case. -/
theorem upper_ne_nil (c : Char) : upper c ≠ [] := by
  unfold upper
  split
  · simp
  · exact mapBy_ne_nil (by decide) _ c

theorem lower_ne_nil (c : Char) : lower c ≠ [] := by
  unfold lower
  split
  · simp
  · exact mapBy_ne_nil (by decide) _ c

/-! ## ASCII capitals -/

/-- Whether no character that a row maps to is an ASCII capital. -/
def rowSparesCapitals (row : Nat × Nat × Nat × Int) : Bool :=
  row.2.1 + row.2.2.2 < 0x41 || 0x5A < row.1 + row.2.2.2

theorem isUpper_ofNat {n : Nat} (h : n < 0x41 ∨ 0x5A < n) : (Char.ofNat n).isUpper = false := by
  by_cases hvalid : n.isValidChar
  · have hn : (Char.ofNat n).toNat = n := toNat_ofNat hvalid
    rw [← hn] at h
    refine decide_eq_false ?_
    change ¬ (0x41 ≤ (Char.ofNat n).toNat ∧ (Char.ofNat n).toNat ≤ 0x5A)
    omega
  · rw [Char.ofNat, dif_neg hvalid]
    decide

theorem isUpper_of_row {row : Nat × Nat × Nat × Int} (h : rowSparesCapitals row = true) {n : Nat}
    (hfirst : row.1 ≤ n) (hlast : n ≤ row.2.1) :
    (Char.ofNat (n + row.2.2.2).toNat).isUpper = false := by
  simp only [rowSparesCapitals, Bool.or_eq_true, decide_eq_true_eq] at h
  exact isUpper_ofNat (by omega)

/-- There are no ASCII capitals in lower case, in any script. -/
theorem isUpper_of_mem_lower {c d : Char} (h : d ∈ lower c) : d.isUpper = false := by
  unfold lower at h
  split at h
  · next hc =>
    obtain rfl := List.mem_singleton.1 h
    exact forall_isAscii (P := fun c => c.toLower.isUpper = false) (by decide) hc
  · next hc =>
    have hbeyond : 128 ≤ c.toNat := by simpa [isAscii] using hc
    have hcapital : c.isUpper = false := by
      rw [← Char.ofNat_toNat c]
      exact isUpper_ofNat (Or.inr (by omega))
    refine forall_mem_mapBy (P := fun d => d.isUpper = false) (by decide +kernel) ?_ hcapital d h
    have hrows : ∀ row ∈ Table.lowerRows, rowSparesCapitals row = true := by decide +kernel
    exact fun row hrow _ => isUpper_of_row (hrows row hrow)

/-! ## Words -/

theorem lowerWord_ne_nil {w : List Char} (h : w ≠ []) : lowerWord w ≠ [] := by
  fun_cases lowerWord w with
  | case1 => exact absurd rfl h
  | case2 => simp
  | case3 c => exact lower_ne_nil c
  | case4 c => simp [lower_ne_nil c]

theorem capitalWord_ne_nil {w : List Char} (h : w ≠ []) : capitalWord w ≠ [] := by
  cases w with
  | nil => exact absurd rfl h
  | cons c rest => simp [capitalWord, upper_ne_nil c]

theorem isWordChar_of_mem_lowerWord {w : List Char} (hw : ∀ c ∈ w, isAlphanumeric c = true)
    {d : Char} (h : d ∈ lowerWord w) : isWordChar d = true := by
  fun_induction lowerWord w with
  | case1 => cases h
  | case2 =>
    -- The final sigma is the one image that no table lists.
    obtain rfl := List.mem_singleton.1 h
    decide
  | case3 c => exact isWordChar_of_mem_lower (hw c List.mem_cons_self) h
  | case4 c rest _ ih =>
    rw [List.forall_mem_cons] at hw
    rcases List.mem_append.1 h with h | h
    · exact isWordChar_of_mem_lower hw.1 h
    · exact ih hw.2 h

theorem isUpper_of_mem_lowerWord {w : List Char} {d : Char} (h : d ∈ lowerWord w) :
    d.isUpper = false := by
  fun_induction lowerWord w with
  | case1 => cases h
  | case2 =>
    obtain rfl := List.mem_singleton.1 h
    decide
  | case3 c => exact isUpper_of_mem_lower h
  | case4 c rest _ ih =>
    rcases List.mem_append.1 h with h | h
    · exact isUpper_of_mem_lower h
    · exact ih h

theorem isWordChar_of_mem_upperWord {w : List Char} (hw : ∀ c ∈ w, isAlphanumeric c = true)
    {d : Char} (h : d ∈ upperWord w) : isWordChar d = true := by
  obtain ⟨c, hc, hd⟩ := List.mem_flatMap.1 h
  exact isWordChar_of_mem_upper (hw c hc) hd

theorem isWordChar_of_mem_capitalWord {w : List Char} (hw : ∀ c ∈ w, isAlphanumeric c = true)
    {d : Char} (h : d ∈ capitalWord w) : isWordChar d = true := by
  cases w with
  | nil => cases h
  | cons c rest =>
    rw [List.forall_mem_cons] at hw
    rcases List.mem_append.1 h with h | h
    · exact isWordChar_of_mem_upper hw.1 h
    · exact isWordChar_of_mem_lowerWord hw.2 h

end ActivityForge.Text
