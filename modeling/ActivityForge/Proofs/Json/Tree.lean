import ActivityForge.Json.Reader
import ActivityForge.Proofs.Reading.Walk

/-!
# Trees of JSON texts

What is read from a JSON text has no marks and no aliases, its keys are texts, and its integers fit
64 bits (`isTree_source`).
-/

open ActivityForge.Number (fitsBits)

namespace ActivityForge.Json

open Reading

/-- The values of scalars. -/
def IsPlain : Atom → Prop
  | .unit | .bool _ | .float _ | .text _ => True
  | .int n => fitsBits 64 n = true
  | .wide _ | .misfit => False

def textTree (s : String) : Tree := scalar (.text s)

/-- A key is a text, or one that cannot be kept. -/
inductive IsKey : Tree → Prop
  | text (s : String) : IsKey (textTree s)
  | flawed (kept : Fault) (skipped : Option Fault) : IsKey (.flawed kept skipped)

inductive IsTree : Tree → Prop
  | scalar {a : Atom} (h : IsPlain a) : IsTree (scalar a)
  | list {items : List Tree} {cut : Option Fault} (h : ∀ item ∈ items, IsTree item) :
      IsTree (.list items cut)
  | dict {members : List (Tree × Tree)} {cut : Option Fault} (keys : ∀ m ∈ members, IsKey m.1)
      (values : ∀ m ∈ members, IsTree m.2) : IsTree (.dict members cut)
  | flawed (kept : Fault) (skipped : Option Fault) : IsTree (.flawed kept skipped)

theorem IsKey.isTree {tree : Tree} (h : IsKey tree) : IsTree tree := by
  cases h with
  | text s => exact .scalar trivial
  | flawed kept skipped => exact .flawed kept skipped

theorem isKey_readText (kept : Except Fault (List Char)) (fuel : Nat) (cs : List Char) :
    IsKey (readText kept fuel cs).1 := by
  have hbroken (kept : Except Fault (List Char)) (f : Fault) : IsKey (brokenText kept f).1 := by
    cases kept <;> exact .flawed ..
  fun_induction readText kept fuel cs
  all_goals first
    | exact hbroken ..
    | assumption
    | exact .text _
    | exact .flawed ..

theorem isTree_readWord {a : Atom} (ha : IsPlain a) (word cs : List Char) :
    IsTree (readWord a word cs).1 := by
  induction word generalizing cs with
  | nil => exact .scalar ha
  | cons w word ih =>
    cases cs with
    | nil => exact .flawed ..
    | cons c cs =>
      rw [readWord]
      split
      · exact ih cs
      · exact .flawed ..

/-- Integers that do not fit are read as floating point numbers. -/
theorem fitsBits_of_value? {n : Numeral} {i : Int} (h : n.value? = some (.int i)) :
    fitsBits 64 i = true := by
  have hfloat (x : Option Float) : x.map Number.float ≠ some (.int i) := by cases x <;> nofun
  unfold Numeral.value? at h
  dsimp only at h
  generalize (if n.isNegative = true then -(ActivityForge.Number.natOfDigits n.whole : Int)
    else (ActivityForge.Number.natOfDigits n.whole : Int)) = signed at h
  split at h
  · split at h
    · next hfits =>
      rw [Bool.and_eq_true] at hfits
      exact Number.int.inj (Option.some.inj h) ▸ hfits.1
    · exact absurd h (hfloat _)
  · exact absurd h (hfloat _)

theorem isTree_readNumber (cs : List Char) : IsTree (readNumber cs).1 := by
  rw [readNumber]
  repeat' split
  · next h => exact .scalar (fitsBits_of_value? h)
  · exact .scalar trivial
  all_goals exact .flawed ..

theorem isTree_items {items : List Tree} (h : ∀ item ∈ items, IsTree item) (cut : Option Fault) :
    IsTree (.list items.reverse cut) :=
  .list fun item hitem => h item (List.mem_reverse.1 hitem)

theorem isTree_members {members : List (Tree × Tree)}
    (h : ∀ m ∈ members, IsKey m.1 ∧ IsTree m.2) (cut : Option Fault) :
    IsTree (.dict members.reverse cut) :=
  .dict (fun m hm => (h m (List.mem_reverse.1 hm)).1) fun m hm => (h m (List.mem_reverse.1 hm)).2

section Step

variable {fuel : Nat} (hvalue : ∀ cs, IsTree (readValue fuel cs).1)
  (hitems : ∀ items cs, (∀ item ∈ items, IsTree item) → IsTree (readItems items fuel cs).1)
  (hmembers : ∀ members cs, (∀ m ∈ members, IsKey m.1 ∧ IsTree m.2) →
    IsTree (readMembers members fuel cs).1)

include hitems hmembers in
theorem isTree_readValue_succ (cs : List Char) : IsTree (readValue (fuel + 1) cs).1 := by
  rw [readValue]
  repeat' split
  all_goals first
    | exact .flawed ..
    | exact (isKey_readText ..).isTree
    | exact .list (by simp)
    | exact hitems _ _ (by simp)
    | exact .dict (by simp) (by simp)
    | exact hmembers _ _ (by simp)
    | exact isTree_readWord (by trivial) _ _
    | exact isTree_readNumber _

include hvalue hitems in
theorem isTree_readItems_succ {items : List Tree} (h : ∀ item ∈ items, IsTree item)
    (cs : List Char) : IsTree (readItems items (fuel + 1) cs).1 := by
  have hitem := hvalue cs
  rw [readItems]
  generalize readValue fuel cs = found at hitem
  obtain ⟨item, rest⟩ := found
  have hnext : ∀ item' ∈ item :: items, IsTree item' := List.forall_mem_cons.2 ⟨hitem, h⟩
  cases rest with
  | none => exact isTree_items hnext _
  | some rest =>
    dsimp only
    repeat' split
    · exact isTree_items (List.forall_mem_cons.2 ⟨.flawed .., hnext⟩) _
    · exact hitems _ _ hnext
    all_goals exact isTree_items hnext _

include hvalue hmembers in
theorem isTree_readMembers_succ {members : List (Tree × Tree)}
    (h : ∀ m ∈ members, IsKey m.1 ∧ IsTree m.2) (cs : List Char) :
    IsTree (readMembers members (fuel + 1) cs).1 := by
  unfold readMembers
  split
  · next rest =>
    have hkey := isKey_readText (.ok []) fuel rest
    generalize readText (.ok []) fuel rest = found at hkey
    obtain ⟨key, rest⟩ := found
    have hmember {value : Tree} (hv : IsTree value) :
        ∀ m ∈ (key, value) :: members, IsKey m.1 ∧ IsTree m.2 :=
      List.forall_mem_cons.2 ⟨⟨hkey, hv⟩, h⟩
    cases rest with
    | none =>
      have hunit : IsTree (scalar .unit) := .scalar trivial
      exact isTree_members (hmember hunit) _
    | some rest =>
      dsimp only
      split
      · next rest _ =>
        have hv := hvalue rest
        generalize readValue fuel rest = found at hv
        obtain ⟨value, rest⟩ := found
        cases rest with
        | none => exact isTree_members (hmember hv) _
        | some rest =>
          dsimp only
          split
          · exact hmembers _ _ (hmember hv)
          all_goals exact isTree_members (hmember hv) _
      · exact isTree_members (hmember (.flawed ..)) _
  · exact isTree_members h _

end Step

/-- What is read with some fuel, for values, items and members at once. -/
theorem isTree_read (fuel : Nat) :
    (∀ cs, IsTree (readValue fuel cs).1) ∧
      (∀ items cs, (∀ item ∈ items, IsTree item) → IsTree (readItems items fuel cs).1) ∧
      ∀ members cs, (∀ m ∈ members, IsKey m.1 ∧ IsTree m.2) →
        IsTree (readMembers members fuel cs).1 := by
  induction fuel with
  | zero =>
    exact ⟨fun cs => .flawed .., fun items cs h => isTree_items h _,
      fun members cs h => isTree_members h _⟩
  | succ fuel ih =>
    obtain ⟨hvalue, hitems, hmembers⟩ := ih
    exact ⟨isTree_readValue_succ hitems hmembers,
      fun _ cs h => isTree_readItems_succ hvalue hitems h cs,
      fun _ cs h => isTree_readMembers_succ hvalue hmembers h cs⟩

theorem isTree_source (text : String) : IsTree (source text).root :=
  (isTree_read (2 * text.toList.length + 2)).1 text.toList

end ActivityForge.Json
