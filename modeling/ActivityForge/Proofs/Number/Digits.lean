import ActivityForge.Number.Digits

/-!
# Numbers in digits

The digits of a number denote it again, in decimal (`natOfDigits_toDigits`) and in any base up to
16 (`natOfBase?_toDigits`).  So different numbers have different digits.
-/

namespace ActivityForge.Number

/-! ## Decimal digits -/

theorem natOfDigits_toDigits (n : Nat) : natOfDigits (Nat.toDigits 10 n) = n := by
  have hfold (ds : List Char) (m : Nat) :
      ds.foldl (fun n d => n * 10 + digitValue d) m = Nat.ofDigitChars 10 ds m := by
    rw [Nat.ofDigitChars]
    congr 1
    funext n d
    rw [Nat.mul_comm, digitValue]
  rw [natOfDigits, hfold, Nat.ofDigitChars_toDigits (by decide) (by decide)]

theorem toDigits_injective : Function.Injective (Nat.toDigits 10) :=
  Function.LeftInverse.injective natOfDigits_toDigits

theorem toList_toString (n : Nat) : (toString n).toList = Nat.toDigits 10 n := by
  rw [Nat.toString_eq_repr, Nat.toList_repr]

theorem isDigit_of_mem_toDigits {n : Nat} {c : Char} (h : c ∈ Nat.toDigits 10 n) :
    c.isDigit = true :=
  Nat.isDigit_of_mem_toDigits (by decide) (by decide) h

/-! ## Digits in any base -/

theorem hexValue?_digitChar {d : Nat} (h : d < 16) : hexValue? (Nat.digitChar d) = some d := by
  revert d
  decide

theorem exists_digitChar_of_mem_toDigits {base : Nat} (hone : 1 < base) {n : Nat} {c : Char}
    (h : c ∈ Nat.toDigits base n) : ∃ d < base, c = Nat.digitChar d := by
  induction n using Nat.strongRecOn with
  | ind n ih =>
    rw [Nat.toDigits_eq_if hone] at h
    split at h
    · next hlt => exact ⟨n, hlt, List.mem_singleton.1 h⟩
    · next hge =>
      have hless : n / base < n := Nat.div_lt_self (by omega) hone
      rcases List.mem_append.1 h with h | h
      · exact ih (n / base) hless h
      · exact ⟨n % base, Nat.mod_lt n (by omega), List.mem_singleton.1 h⟩

/-- The digits of `n` are those of `n / base` and one more. -/
theorem natOfBase?_toDigits {base : Nat} (hone : 1 < base) (hbase : base ≤ 16) (n : Nat) :
    natOfBase? base (Nat.toDigits base n) = some n := by
  let step := fun (n : Nat) (c : Char) => do
    let digit ← hexValue? c
    if digit < base then some (n * base + digit) else none
  suffices hfold : (Nat.toDigits base n).foldlM step 0 = some n by
    rw [natOfBase?, if_neg (by simp [Nat.toDigits_ne_nil])]
    exact hfold
  have hdigit (m d : Nat) (hd : d < base) : step m (Nat.digitChar d) = some (m * base + d) := by
    simp [step, hexValue?_digitChar (Nat.lt_of_lt_of_le hd hbase), hd]
  induction n using Nat.strongRecOn with
  | ind n ih =>
    rw [Nat.toDigits_eq_if hone]
    split
    · next hlt => simp [hdigit 0 n hlt]
    · next hge =>
      have hless : n / base < n := Nat.div_lt_self (by omega) hone
      have hmod : n % base < base := Nat.mod_lt n (by omega)
      have hsplit : n / base * base + n % base = n := Nat.div_add_mod' n base
      rw [List.foldlM_append, ih (n / base) hless]
      simp [hdigit (n / base) (n % base) hmod, hsplit]

end ActivityForge.Number
