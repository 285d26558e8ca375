import ActivityForge.Proofs.Json.Kept
import ActivityForge.Proofs.Number.Digits
import Mathlib

/-!
# Compact texts read back

The compact text of a value without floating point numbers reads back as the tree of the value
(`source_compact`).
-/

open ActivityForge.Number (fitsBits hexValue? hexValue?_digitChar natOfDigits natOfDigits_toDigits
  isDigit_of_mem_toDigits spanDigits toList_toString)

namespace ActivityForge.Json

open Reading

/-! ## Trees of values -/

mutual

/-- The tree of the text of a value. -/
def treeOf : Value → Tree
  | .null => scalar .unit
  | .bool b => scalar (.bool b)
  | .number (.int n) => scalar (.int n)
  | .number (.float x) => scalar (.float x)
  | .text s => textTree s
  | .list items => .list (treesOf items) none
  | .object members => object (namedTreesOf members)

def treesOf : List Value → List Tree
  | [] => []
  | item :: items => treeOf item :: treesOf items

def namedTreesOf : List (String × Value) → List (String × Tree)
  | [] => []
  | (key, value) :: members => (key, treeOf value) :: namedTreesOf members

end

theorem treesOf_eq_map (items : List Value) : treesOf items = items.map treeOf := by
  induction items with
  | nil => rfl
  | cons item items ih => rw [treesOf, ih, List.map_cons]

theorem namedTreesOf_eq_map (members : List (String × Value)) :
    namedTreesOf members = members.map fun m => (m.1, treeOf m.2) := by
  induction members with
  | nil => rfl
  | cons m members ih => rw [namedTreesOf, ih, List.map_cons]

/-- The value has no floating point numbers, and its integers fit 64 bits. -/
inductive IsExact : Value → Prop
  | null : IsExact .null
  | bool (b : Bool) : IsExact (.bool b)
  | int {n : Int} (h : fitsBits 64 n = true) : IsExact (.number (.int n))
  | text (s : String) : IsExact (.text s)
  | list {items : List Value} (h : ∀ item ∈ items, IsExact item) : IsExact (.list items)
  | object {members : List (String × Value)} (h : ∀ m ∈ members, IsExact m.2) :
      IsExact (.object members)

theorem IsExact.list_iff {items : List Value} :
    IsExact (.list items) ↔ ∀ item ∈ items, IsExact item :=
  ⟨fun | .list h => h, .list⟩

theorem IsExact.object_iff {members : List (String × Value)} :
    IsExact (.object members) ↔ ∀ m ∈ members, IsExact m.2 :=
  ⟨fun | .object h => h, .object⟩

theorem IsExact.isTree {v : Value} (h : IsExact v) : IsTree (treeOf v) := by
  induction h with
  | null => exact .scalar trivial
  | bool => exact .scalar trivial
  | int h => exact .scalar h
  | text s => exact (IsKey.text s).isTree
  | list _ ih =>
    rw [treeOf, treesOf_eq_map]
    exact .list (List.forall_mem_map.2 ih)
  | object _ ih =>
    rw [treeOf, namedTreesOf_eq_map, isTree_object]
    exact List.forall_mem_map.2 ih

/-! ## Strings -/

theorem readHex_digitChar {a b : Nat} (ha : a < 16) (hb : b < 16) (rest : List Char) :
    readHex ('0' :: '0' :: Nat.digitChar a :: Nat.digitChar b :: rest) =
      .ok (a * 16 + b, rest) := by
  have hzero : hexValue? '0' = some 0 := by decide
  simp [readHex, hzero, hexValue?_digitChar ha, hexValue?_digitChar hb]

theorem readText_cons (kept : Except Fault (List Char)) (fuel : Nat) (c : Char) (cs : List Char) :
    readText kept (fuel + 1) (c :: cs) =
      if c = '"' then
        match kept with
        | .ok text => (textTree (String.ofList text.reverse), some cs)
        | .error f => (.flawed f none, some cs)
      else if c.toNat < 32 then brokenText kept .malformed
      else if c = '\\' then
        match cs with
        | [] => brokenText kept .truncated
        | 'u' :: more =>
          match readHex more with
          | .error f => brokenText kept f
          | .ok (n, rest) =>
            match readUnit n rest with
            | .ok (char, rest) => readText (kept.map (char :: ·)) fuel rest
            | .error f => readText (kept.bind fun _ => .error f) fuel rest
        | e :: rest =>
          match shortEscape? e with
          | some char => readText (kept.map (char :: ·)) fuel rest
          | none => brokenText kept .malformed
      else readText (kept.map (c :: ·)) fuel cs := rfl

/-- Whatever the escape of a character is, it is read as that character. -/
theorem readText_escapeChar (c : Char) (text : List Char) (fuel : Nat) (rest : List Char) :
    readText (.ok text) (fuel + 1) (escapeChar c ++ rest) =
      readText (.ok (c :: text)) fuel rest := by
  have hshort {e : Char} (he : e ≠ 'u') (h : shortEscape? e = some c) :
      readText (.ok text) (fuel + 1) ('\\' :: e :: rest) =
        readText (.ok (c :: text)) fuel rest := by
    rw [readText_cons, if_neg (by decide), if_neg (by decide), if_pos rfl]
    split
    · next heq => cases heq
    · next heq => exact absurd (List.cons.inj heq).1 he
    · next heq =>
      obtain ⟨rfl, rfl⟩ := List.cons.inj heq
      rw [h]
      rfl
  unfold escapeChar
  split_ifs with hquote hbackslash hb ht hn hf hr hcontrol
  · exact hshort (by decide) (by rw [hquote]; rfl)
  · exact hshort (by decide) (by rw [hbackslash]; rfl)
  · exact hshort (by decide) (by rw [hb]; rfl)
  · exact hshort (by decide) (by rw [ht]; rfl)
  · exact hshort (by decide) (by rw [hn]; rfl)
  · exact hshort (by decide) (by rw [hf]; rfl)
  · exact hshort (by decide) (by rw [hr]; rfl)
  · have hlt : c.toNat / 16 < 16 := by omega
    have hhex := readHex_digitChar hlt (Nat.mod_lt c.toNat (by decide)) rest
    have hnat : c.toNat / 16 * 16 + c.toNat % 16 = c.toNat := by omega
    have hunit : readUnit c.toNat rest = .ok (c, rest) := by
      unfold readUnit
      rw [if_pos (by simp; omega), Char.ofNat_toNat]
    rw [hnat] at hhex
    rw [List.cons_append, readText_cons, if_neg (by decide), if_neg (by decide), if_pos rfl]
    simp only [List.cons_append, List.nil_append, hhex, hunit]
    rfl
  · rw [List.singleton_append, readText_cons, if_neg hquote, if_neg hcontrol, if_neg hbackslash]
    rfl

/-- A quoted text is read back behind its opening quote. -/
theorem readText_quoted (cs text : List Char) {fuel : Nat} (hfuel : cs.length < fuel)
    (rest : List Char) : readText (.ok text) fuel (cs.flatMap escapeChar ++ '"' :: rest) =
      (textTree (String.ofList (text.reverse ++ cs)), some rest) := by
  induction cs generalizing text fuel with
  | nil =>
    obtain ⟨fuel, rfl⟩ : ∃ k, fuel = k + 1 := ⟨fuel - 1, by simp at hfuel; omega⟩
    rw [List.flatMap_nil, List.nil_append, readText_cons, if_pos rfl, List.append_nil]
  | cons c cs ih =>
    rw [List.length_cons] at hfuel
    obtain ⟨fuel, rfl⟩ : ∃ k, fuel = k + 1 := ⟨fuel - 1, by omega⟩
    rw [List.flatMap_cons, List.append_assoc, readText_escapeChar, ih _ (by omega)]
    simp

theorem length_le_flatMap_escapeChar (cs : List Char) :
    cs.length ≤ (cs.flatMap escapeChar).length := by
  induction cs with
  | nil => simp
  | cons c cs ih =>
    have hc : 1 ≤ (escapeChar c).length := by
      unfold escapeChar
      split_ifs <;> simp
    rw [List.flatMap_cons, List.length_append, List.length_cons]
    omega

/-! ## Numbers -/

/-- What follows a value in a compact text. -/
def Ends (rest : List Char) : Prop := ∀ c ∈ rest.head?, c = ',' ∨ c = ']' ∨ c = '\x7d'

theorem Ends.not_isDigit {c : Char} {rest : List Char} (h : Ends (c :: rest)) :
    c.isDigit = false := by
  obtain rfl | rfl | rfl := h c rfl <;> decide

/-- Only zero is written with a leading zero. -/
theorem head?_toDigits_ne_zero {n : Nat} (h : 0 < n) : (Nat.toDigits 10 n).head? ≠ some '0' := by
  induction n using Nat.strongRecOn with
  | ind n ih =>
    rw [Nat.toDigits_eq_if (by decide)]
    split
    · next hlt =>
      have hdigit : ∀ d < 10, 0 < d → Nat.digitChar d ≠ '0' := by decide
      simpa using hdigit n hlt h
    · next hge =>
      rw [List.head?_append_of_ne_nil _ Nat.toDigits_ne_nil]
      exact ih (n / 10) (by omega) (by omega)

theorem spanDigits_toDigits (n : Nat) {rest : List Char} (h : Ends rest) :
    spanDigits (Nat.toDigits 10 n ++ rest) = (Nat.toDigits 10 n, rest) := by
  have hdigits : ∀ c ∈ Nat.toDigits 10 n, c.isDigit = true := fun c hc => isDigit_of_mem_toDigits hc
  have hnone : rest.takeWhile Char.isDigit = [] ∧ rest.dropWhile Char.isDigit = rest := by
    cases rest with
    | nil => exact ⟨rfl, rfl⟩
    | cons c rest =>
      simp [h.not_isDigit]
  rw [spanDigits, List.takeWhile_append_of_pos hdigits, List.dropWhile_append_of_pos hdigits,
    hnone.1, hnone.2, List.append_nil]

theorem readWhole_toDigits (n : Nat) {rest : List Char} (h : Ends rest) :
    readWhole (Nat.toDigits 10 n ++ rest) = .ok (Nat.toDigits 10 n, rest) := by
  have hsome : someDigits (Nat.toDigits 10 n ++ rest) = .ok (Nat.toDigits 10 n, rest) := by
    rw [someDigits, spanDigits_toDigits n h]
    split
    · next heq => exact absurd (Prod.mk.inj heq).1 Nat.toDigits_ne_nil
    · next heq => exact absurd (Prod.mk.inj heq).1 Nat.toDigits_ne_nil
    · rfl
  rw [readWhole, hsome, ok_bind]
  split
  · next heq =>
    have hdigits := (Prod.mk.inj heq).1
    rcases Nat.eq_zero_or_pos n with rfl | hpos
    · cases hdigits
    · exact absurd (by rw [hdigits]; rfl) (head?_toDigits_ne_zero hpos)
  · rfl

theorem readFraction_of_ends {rest : List Char} (h : Ends rest) :
    readFraction rest = .ok (none, rest) := by
  cases rest with
  | nil => rfl
  | cons c rest => obtain rfl | rfl | rfl := h c rfl <;> rfl

theorem readExponent_of_ends {rest : List Char} (h : Ends rest) :
    readExponent rest = .ok (none, rest) := by
  cases rest with
  | nil => rfl
  | cons c rest => obtain rfl | rfl | rfl := h c rfl <;> rfl

theorem readNumeral_toDigits (n : Nat) {rest : List Char} (h : Ends rest) :
    readNumeral (Nat.toDigits 10 n ++ rest) =
      .ok (⟨false, Nat.toDigits 10 n, none, none⟩, rest) := by
  have hminus (more : List Char) : Nat.toDigits 10 n ++ rest ≠ '-' :: more := by
    intro heq
    have hne : Nat.toDigits 10 n ≠ [] := Nat.toDigits_ne_nil
    obtain ⟨c, cs, hcons⟩ := List.exists_cons_of_ne_nil hne
    have hdigit : c.isDigit = true := isDigit_of_mem_toDigits (n := n) (by simp [hcons])
    rw [hcons, List.cons_append, List.cons.injEq] at heq
    rw [heq.1] at hdigit
    cases hdigit
  unfold readNumeral
  split
  next negative cs heq =>
  split at heq
  · next hcs => exact absurd hcs (hminus _)
  · obtain ⟨rfl, rfl⟩ := Prod.mk.inj heq
    rw [readWhole_toDigits n h, ok_bind]
    simp only [readFraction_of_ends h, readExponent_of_ends h, ok_bind]
    rfl

theorem readNumeral_minus (n : Nat) {rest : List Char} (h : Ends rest) :
    readNumeral ('-' :: Nat.toDigits 10 n ++ rest) =
      .ok (⟨true, Nat.toDigits 10 n, none, none⟩, rest) := by
  rw [List.cons_append, readNumeral]
  simp only [readWhole_toDigits n h, readFraction_of_ends h, readExponent_of_ends h, ok_bind]
  rfl

theorem value?_toDigits (negative : Bool) (n : Nat) {i : Int}
    (hi : i = if negative then -(n : Int) else n) (hzero : negative = true → n ≠ 0)
    (hfits : fitsBits 64 i = true) :
    Numeral.value? ⟨negative, Nat.toDigits 10 n, none, none⟩ = some (.int i) := by
  have hsign : (negative && decide (n = 0)) = false := by
    cases negative with
    | false => rfl
    | true => simpa using hzero rfl
  unfold Numeral.value?
  dsimp only
  rw [natOfDigits_toDigits, ← hi, hfits, hsign]
  rfl

theorem readNumber_of_value? {cs rest : List Char} {n : Numeral} {i : Int}
    (hnumeral : readNumeral cs = .ok (n, rest)) (hvalue : n.value? = some (.int i)) :
    readNumber cs = (scalar (.int i), some rest) := by
  rw [readNumber, hnumeral]
  dsimp only
  rw [hvalue]

theorem readNumber_toString {n : Int} (hn : fitsBits 64 n = true) {rest : List Char}
    (h : Ends rest) : readNumber ((toString n).toList ++ rest) = (scalar (.int n), some rest) := by
  cases n with
  | ofNat n =>
    have htext : (toString (Int.ofNat n)).toList = Nat.toDigits 10 n := toList_toString n
    have hvalue := value?_toDigits (i := Int.ofNat n) false n rfl nofun hn
    rw [htext]
    exact readNumber_of_value? (readNumeral_toDigits n h) hvalue
  | negSucc n =>
    have htext : (toString (Int.negSucc n)).toList = '-' :: Nat.toDigits 10 (n + 1) := by
      show ("-" ++ toString (n + 1)).toList = _
      rw [String.toList_append, toList_toString]
      rfl
    have hsigned : Int.negSucc n = if true then -((n + 1 : Nat) : Int) else (n + 1 : Nat) := by
      simp [Int.negSucc_eq]
    have hvalue := value?_toDigits true (n + 1) hsigned (fun _ => Nat.succ_ne_zero n) hn
    rw [htext]
    exact readNumber_of_value? (readNumeral_minus (n + 1) h) hvalue

/-! ## Values -/

/-- The value is read back from its compact text, whatever else follows it. -/
def ReadsBack (v : Value) : Prop :=
  ∀ (fuel : Nat) (rest : List Char), v.compactChars.length ≤ fuel → Ends rest →
    readValue fuel (v.compactChars ++ rest) = (treeOf v, some rest)

/-- The first character of a compact text is no blank and does not close a list. -/
def Starts (c : Char) : Prop := c ∉ [' ', '\t', '\n', '\r', ']']

instance (c : Char) : Decidable (Starts c) :=
  inferInstanceAs (Decidable (c ∉ [' ', '\t', '\n', '\r', ']']))

theorem Starts.ne_bracket {c : Char} (h : Starts c) : c ≠ ']' := by
  rintro rfl
  exact h (by decide)

theorem Starts.skipBlanks {c : Char} (h : Starts c) (cs : List Char) :
    skipBlanks (c :: cs) = c :: cs := by
  simp only [Starts, List.mem_cons, not_or] at h
  simp [Json.skipBlanks, h]

theorem starts_of_isDigit {c : Char} (h : c.isDigit = true) : Starts c := by
  have hdigit : ∀ c ∈ [' ', '\t', '\n', '\r', ']'], c.isDigit = false := by simp
  intro hmem
  rw [hdigit c hmem] at h
  cases h

theorem exists_cons_toString (n : Int) :
    ∃ c cs, (toString n).toList = c :: cs ∧ (c = '-' ∨ c.isDigit = true) := by
  cases n with
  | ofNat n =>
    have htext : (toString (Int.ofNat n)).toList = Nat.toDigits 10 n := toList_toString n
    have hne : Nat.toDigits 10 n ≠ [] := Nat.toDigits_ne_nil
    obtain ⟨c, cs, hcons⟩ := List.exists_cons_of_ne_nil hne
    exact ⟨c, cs, htext.trans hcons, Or.inr (isDigit_of_mem_toDigits (n := n) (by simp [hcons]))⟩
  | negSucc n =>
    refine ⟨'-', (toString (n + 1)).toList, ?_, Or.inl rfl⟩
    show ("-" ++ toString (n + 1)).toList = _
    rw [String.toList_append]
    rfl

theorem exists_cons_compactChars {v : Value} (h : IsExact v) :
    ∃ c cs, v.compactChars = c :: cs ∧ Starts c := by
  cases h with
  | null => exact ⟨'n', _, rfl, by decide⟩
  | bool b => cases b <;> exact ⟨_, _, rfl, by decide⟩
  | @int n _ =>
    obtain ⟨c, cs, htext, rfl | hdigit⟩ := exists_cons_toString n
    · exact ⟨_, cs, htext, by decide⟩
    · exact ⟨c, cs, htext, starts_of_isDigit hdigit⟩
  | text s => exact ⟨'"', _, rfl, by decide⟩
  | list => exact ⟨'[', _, rfl, by decide⟩
  | object => exact ⟨'\x7b', _, rfl, by decide⟩

theorem readValue_of_starts {c : Char} (h : Starts c) (fuel : Nat) (rest : List Char) :
    readValue (fuel + 1) (c :: rest) =
      if c = '"' then readText (.ok []) fuel rest
      else if c = '[' then
        match skipBlanks rest with
        | [] => (.list [] (some .truncated), none)
        | ']' :: rest => (.list [] none, some rest)
        | rest => readItems [] fuel rest
      else if c = '\x7b' then
        match skipBlanks rest with
        | '\x7d' :: rest => (.dict [] none, some rest)
        | rest => readMembers [] fuel rest
      else if c = 'n' then readWord .unit "ull".toList rest
      else if c = 't' then readWord (.bool true) "rue".toList rest
      else if c = 'f' then readWord (.bool false) "alse".toList rest
      else if c = '-' || c.isDigit then readNumber (c :: rest)
      else broken .malformed := by
  have hblanks := h.skipBlanks rest
  unfold readValue
  generalize skipBlanks (c :: rest) = cs at hblanks
  subst hblanks
  rfl

theorem quotedChars_append (s : String) (rest : List Char) :
    quotedChars s ++ rest = '"' :: (s.toList.flatMap escapeChar ++ '"' :: rest) := by
  simp [quotedChars]

theorem length_lt_quotedChars (s : String) : s.toList.length + 1 < (quotedChars s).length := by
  have hle := length_le_flatMap_escapeChar s.toList
  simp only [quotedChars, List.length_append, List.length_cons, List.length_nil]
  omega

theorem readText_quotedChars (s : String) {fuel : Nat} (hfuel : s.toList.length < fuel)
    (rest : List Char) : readText (.ok []) fuel (s.toList.flatMap escapeChar ++ '"' :: rest) =
      (textTree s, some rest) := by
  rw [readText_quoted s.toList [] hfuel rest, List.reverse_nil, List.nil_append,
    String.ofList_toList]

theorem readsBack_text (s : String) : ReadsBack (.text s) := by
  intro fuel rest hfuel _
  have hlength := length_lt_quotedChars s
  rw [Value.compactChars] at hfuel ⊢
  obtain ⟨fuel, rfl⟩ : ∃ k, fuel = k + 1 := ⟨fuel - 1, by omega⟩
  have hstarts : Starts '"' := by decide
  rw [quotedChars_append, readValue_of_starts hstarts, if_pos rfl,
    readText_quotedChars s (by omega), treeOf]

theorem readsBack_int {n : Int} (h : fitsBits 64 n = true) : ReadsBack (.number (.int n)) := by
  intro fuel rest hfuel hrest
  obtain ⟨c, cs, htext, hc⟩ := exists_cons_toString n
  have hnumber := readNumber_toString h hrest
  have hchars : (Value.number (.int n)).compactChars = (toString n).toList := rfl
  rw [hchars, htext] at hfuel ⊢
  rw [htext] at hnumber
  rw [List.length_cons] at hfuel
  obtain ⟨fuel, rfl⟩ : ∃ k, fuel = k + 1 := ⟨fuel - 1, by omega⟩
  have hstarts : Starts c := by
    rcases hc with rfl | hdigit
    · decide
    · exact starts_of_isDigit hdigit
  have hother {d : Char} (hminus : d ≠ '-') (hdigit : d.isDigit = false) : c ≠ d := by
    rintro rfl
    rcases hc with hc | hc
    · exact hminus hc
    · rw [hdigit] at hc
      cases hc
  have hstart : (c = '-' || c.isDigit) = true := by simpa using hc
  rw [List.cons_append, readValue_of_starts hstarts, if_neg (hother (by decide) (by decide)),
    if_neg (hother (by decide) (by decide)), if_neg (hother (by decide) (by decide)),
    if_neg (hother (by decide) (by decide)), if_neg (hother (by decide) (by decide)),
    if_neg (hother (by decide) (by decide)), if_pos hstart]
  exact hnumber

theorem ends_of_comma (cs : List Char) : Ends (',' :: cs) := by
  rintro c ⟨⟩
  exact Or.inl rfl

theorem ends_of_bracket (cs : List Char) : Ends (']' :: cs) := by
  rintro c ⟨⟩
  exact Or.inr (Or.inl rfl)

theorem ends_of_brace (cs : List Char) : Ends ('\x7d' :: cs) := by
  rintro c ⟨⟩
  exact Or.inr (Or.inr rfl)

theorem starts_quote : Starts '"' := by decide

section Steps

variable {fuel : Nat} {cs more rest : List Char} {key value : Tree}

theorem readItems_close (before : List Tree) (h : readValue fuel cs = (value, some (']' :: rest))) :
    readItems before (fuel + 1) cs = (.list (before.reverse ++ [value]) none, some rest) := by
  rw [readItems, h, ← List.reverse_cons]
  rfl

theorem readItems_comma (before : List Tree) {c : Char} (hc : Starts c)
    (h : readValue fuel cs = (value, some (',' :: c :: more))) :
    readItems before (fuel + 1) cs = readItems (value :: before) fuel (c :: more) := by
  have hblanks : skipBlanks (',' :: c :: more) = ',' :: c :: more := by simp [skipBlanks]
  rw [readItems, h]
  simp only [hblanks, hc.skipBlanks]
  split
  · next heq => exact absurd (List.cons.inj heq).1 hc.ne_bracket
  · rfl

variable (hkey : readText (.ok []) fuel cs = (key, some (':' :: more)))

include hkey

theorem readMembers_close (before : List (Tree × Tree))
    (h : readValue fuel more = (value, some ('\x7d' :: rest))) :
    readMembers before (fuel + 1) ('"' :: cs) =
      (.dict (before.reverse ++ [(key, value)]) none, some rest) := by
  have hblanks : skipBlanks (':' :: more) = ':' :: more := by simp [skipBlanks]
  have hblanks' : skipBlanks ('\x7d' :: rest) = '\x7d' :: rest := by simp [skipBlanks]
  rw [readMembers, hkey]
  simp only [hblanks, h, hblanks', List.reverse_cons]

theorem readMembers_comma (before : List (Tree × Tree))
    (h : readValue fuel more = (value, some (',' :: '"' :: rest))) :
    readMembers before (fuel + 1) ('"' :: cs) =
      readMembers ((key, value) :: before) fuel ('"' :: rest) := by
  have hblanks : skipBlanks (':' :: more) = ':' :: more := by simp [skipBlanks]
  have hblanks' : skipBlanks (',' :: '"' :: rest) = ',' :: '"' :: rest := by simp [skipBlanks]
  rw [readMembers, hkey]
  simp only [hblanks, h, hblanks', starts_quote.skipBlanks]

end Steps

theorem compactItems_cons_cons (item next : Value) (items : List Value) :
    compactItems (item :: next :: items) =
      item.compactChars ++ ',' :: compactItems (next :: items) := rfl

theorem compactMembers_cons_cons (key : String) (value : Value) (next : String × Value)
    (members : List (String × Value)) :
    compactMembers ((key, value) :: next :: members) =
      quotedChars key ++ ':' :: value.compactChars ++ ',' :: compactMembers (next :: members) := rfl

theorem exists_cons_compactItems {item : Value} (h : IsExact item) (items : List Value) :
    ∃ c cs, compactItems (item :: items) = c :: cs ∧ Starts c := by
  obtain ⟨c, cs, hcs, hc⟩ := exists_cons_compactChars h
  cases items with
  | nil => exact ⟨c, cs, hcs, hc⟩
  | cons next items =>
    rw [compactItems_cons_cons, hcs]
    exact ⟨c, _, rfl, hc⟩

theorem exists_cons_compactMembers (m : String × Value) (members : List (String × Value)) :
    ∃ cs, compactMembers (m :: members) = '"' :: cs := by
  obtain ⟨key, value⟩ := m
  cases members with
  | nil =>
    rw [compactMembers, quotedChars_append]
    exact ⟨_, rfl⟩
  | cons next members =>
    rw [compactMembers_cons_cons, List.append_assoc, quotedChars_append]
    exact ⟨_, rfl⟩

theorem readItems_compactItems {items : List Value} (hexact : ∀ item ∈ items, IsExact item)
    (hread : ∀ item ∈ items, ReadsBack item) (hne : items ≠ []) (before : List Tree) {fuel : Nat}
    (hfuel : (compactItems items).length < fuel) (rest : List Char) :
    readItems before fuel (compactItems items ++ ']' :: rest) =
      (.list (before.reverse ++ treesOf items) none, some rest) := by
  induction items generalizing before fuel with
  | nil => exact absurd rfl hne
  | cons item items ih =>
    rw [List.forall_mem_cons] at hexact hread
    obtain ⟨fuel, rfl⟩ : ∃ k, fuel = k + 1 := ⟨fuel - 1, by omega⟩
    cases items with
    | nil =>
      rw [compactItems] at hfuel ⊢
      rw [readItems_close before (hread.1 fuel _ (by omega) (ends_of_bracket rest))]
      rfl
    | cons next items =>
      rw [compactItems_cons_cons] at hfuel ⊢
      simp only [List.length_append, List.length_cons] at hfuel
      obtain ⟨c, cs, hcs, hc⟩ := exists_cons_compactItems (hexact.2 next List.mem_cons_self) items
      have hitem := hread.1 fuel (',' :: (compactItems (next :: items) ++ ']' :: rest)) (by omega)
        (ends_of_comma _)
      have hfuel' : (compactItems (next :: items)).length < fuel := by omega
      have hrest := ih hexact.2 hread.2 nofun (treeOf item :: before) hfuel'
      rw [hcs, List.cons_append] at hitem hrest
      rw [hcs, List.append_assoc, List.cons_append, List.cons_append,
        readItems_comma before hc hitem, hrest]
      simp [treesOf]

theorem readMembers_compactMembers {members : List (String × Value)}
    (hread : ∀ m ∈ members, ReadsBack m.2) (hne : members ≠ []) (before : List (Tree × Tree))
    {fuel : Nat} (hfuel : (compactMembers members).length < fuel) (rest : List Char) :
    readMembers before fuel (compactMembers members ++ '\x7d' :: rest) =
      (.dict (before.reverse ++ treeMembers (namedTreesOf members)) none, some rest) := by
  induction members generalizing before fuel with
  | nil => exact absurd rfl hne
  | cons m members ih =>
    obtain ⟨key, value⟩ := m
    obtain ⟨hfirst : ReadsBack value, hread⟩ := List.forall_mem_cons.1 hread
    obtain ⟨fuel, rfl⟩ : ∃ k, fuel = k + 1 := ⟨fuel - 1, by omega⟩
    have hkey := length_lt_quotedChars key
    cases members with
    | nil =>
      rw [compactMembers] at hfuel ⊢
      simp only [List.length_append, List.length_cons] at hfuel
      have hvalue := hfirst fuel _ (by omega) (ends_of_brace rest)
      rw [List.append_assoc, quotedChars_append, List.cons_append,
        readMembers_close (readText_quotedChars key (by omega) _) before hvalue]
      rfl
    | cons next members =>
      rw [compactMembers_cons_cons] at hfuel ⊢
      simp only [List.length_append, List.length_cons] at hfuel
      obtain ⟨cs, hcs⟩ := exists_cons_compactMembers next members
      have hvalue := hfirst fuel (',' :: (compactMembers (next :: members) ++ '\x7d' :: rest))
        (by omega) (ends_of_comma _)
      have hfuel' : (compactMembers (next :: members)).length < fuel := by omega
      have hrest := ih hread nofun ((textTree key, treeOf value) :: before) hfuel'
      rw [hcs, List.cons_append] at hvalue hrest
      rw [hcs, List.append_assoc, List.append_assoc, quotedChars_append, List.cons_append,
        List.cons_append, List.cons_append,
        readMembers_comma (readText_quotedChars key (by omega) _) before hvalue, hrest]
      simp [namedTreesOf, treeMembers]

theorem readWord_append (a : Atom) (word rest : List Char) :
    readWord a word (word ++ rest) = (scalar a, some rest) := by
  induction word with
  | nil => cases rest <;> rfl
  | cons w word ih => rw [List.cons_append, readWord, if_pos rfl, ih]

theorem readsBack_list {items : List Value} (hexact : ∀ item ∈ items, IsExact item)
    (hread : ∀ item ∈ items, ReadsBack item) : ReadsBack (.list items) := by
  intro fuel rest hfuel _
  have hstarts : Starts '[' := by decide
  rw [Value.compactChars] at hfuel ⊢
  simp only [List.length_append, List.length_cons] at hfuel
  obtain ⟨fuel, rfl⟩ : ∃ k, fuel = k + 1 := ⟨fuel - 1, by omega⟩
  rw [List.cons_append, List.cons_append, List.append_assoc, readValue_of_starts hstarts,
    if_neg (by decide), if_pos rfl]
  cases items with
  | nil => rfl
  | cons item items =>
    obtain ⟨c, cs, hcs, hc⟩ := exists_cons_compactItems (hexact item List.mem_cons_self) items
    have hfuel' : (compactItems (item :: items)).length < fuel := by omega
    have hitems := readItems_compactItems hexact hread nofun [] hfuel' rest
    rw [hcs, List.cons_append] at hitems
    rw [hcs, List.cons_append, hc.skipBlanks]
    split
    · next heq => cases heq
    · next heq => exact absurd (List.cons.inj heq).1 hc.ne_bracket
    · exact hitems

theorem readsBack_object {members : List (String × Value)} (hread : ∀ m ∈ members, ReadsBack m.2) :
    ReadsBack (.object members) := by
  intro fuel rest hfuel _
  have hstarts : Starts '\x7b' := by decide
  rw [Value.compactChars] at hfuel ⊢
  simp only [List.length_append, List.length_cons] at hfuel
  obtain ⟨fuel, rfl⟩ : ∃ k, fuel = k + 1 := ⟨fuel - 1, by omega⟩
  rw [List.cons_append, List.cons_append, List.append_assoc, readValue_of_starts hstarts,
    if_neg (by decide), if_neg (by decide), if_pos rfl]
  cases members with
  | nil => rfl
  | cons m members =>
    obtain ⟨cs, hcs⟩ := exists_cons_compactMembers m members
    have hfuel' : (compactMembers (m :: members)).length < fuel := by omega
    have hmembers := readMembers_compactMembers hread nofun [] hfuel' rest
    rw [hcs, List.cons_append] at hmembers
    rw [hcs, List.cons_append, starts_quote.skipBlanks]
    exact hmembers

theorem readsBack_word {v : Value} {a : Atom} (c : Char) (word : List Char)
    (hchars : v.compactChars = c :: word) (htree : treeOf v = scalar a)
    (hword : ∀ fuel rest, readValue (fuel + 1) (c :: rest) = readWord a word rest) :
    ReadsBack v := by
  intro fuel rest hfuel _
  rw [hchars, List.length_cons] at hfuel
  obtain ⟨fuel, rfl⟩ : ∃ k, fuel = k + 1 := ⟨fuel - 1, by omega⟩
  rw [hchars, List.cons_append, hword, readWord_append, htree]

theorem IsExact.readsBack {v : Value} (h : IsExact v) : ReadsBack v := by
  have hstarts {c : Char} (h : c = 'n' ∨ c = 't' ∨ c = 'f') : Starts c := by
    obtain rfl | rfl | rfl := h <;> decide
  induction h with
  | null =>
    refine readsBack_word 'n' "ull".toList rfl rfl fun fuel rest => ?_
    rw [readValue_of_starts (hstarts (Or.inl rfl))]
    rfl
  | bool b =>
    cases b with
    | true =>
      refine readsBack_word 't' "rue".toList rfl rfl fun fuel rest => ?_
      rw [readValue_of_starts (hstarts (Or.inr (Or.inl rfl)))]
      rfl
    | false =>
      refine readsBack_word 'f' "alse".toList rfl rfl fun fuel rest => ?_
      rw [readValue_of_starts (hstarts (Or.inr (Or.inr rfl)))]
      rfl
  | int h => exact readsBack_int h
  | text s => exact readsBack_text s
  | list hexact ih => exact readsBack_list hexact ih
  | object _ ih => exact readsBack_object ih

/-- The compact text of a value reads back as its tree, and nothing follows. -/
theorem source_compact {v : Value} (h : IsExact v) :
    (source v.compact).root = treeOf v ∧ (source v.compact).after = none := by
  have htext : v.compact.toList = v.compactChars := String.toList_ofList
  have hread := h.readsBack (2 * v.compactChars.length + 2) [] (by omega) nofun
  rw [List.append_nil] at hread
  have hsource : readValue (2 * v.compact.toList.length + 2) v.compact.toList =
      (treeOf v, some []) := by rw [htext, hread]
  unfold source
  dsimp only
  rw [hsource]
  exact ⟨rfl, rfl⟩

end ActivityForge.Json
