import ActivityForge.Proofs.Reference.Target
import ActivityForge.Proofs.Traversal
import Mathlib.Data.List.Nodup

/-!
# Chains of references

`Follows` is the relation of following references through the components of a section, with the
references on the way.  A chain that ends in an inline value or at a faulty reference meets no
reference twice (`Follows.nodup`), so looking for cycles on the way never rejects it, and resolving
a value has exactly the outcome of its chain (`resolve_eq_iff`).
-/

namespace ActivityForge.Document

variable {α : Type} {s : Section} {defs : Dict (OrRef α)}

/-- Following the references `targets` one after the other, each to a declared component, leads
from one value or reference to another. -/
inductive Follows (s : Section) (defs : Dict (OrRef α)) :
    OrRef α → List String → OrRef α → Prop
  | refl (v : OrRef α) : Follows s defs v [] v
  | step {name : String} {next v : OrRef α} {targets : List String}
      (declared : defs.get? name = some next) (rest : Follows s defs next targets v) :
      Follows s defs (.ref (s.reference name)) (s.reference name :: targets) v

/-- A value or reference leads to an inline value. -/
def LeadsTo (s : Section) (defs : Dict (OrRef α)) (v : OrRef α) (a : α) : Prop :=
  ∃ targets, Follows s defs v targets (.inline a)

/-- How the chain of references that begins with a value or reference ends. -/
inductive ChainEnds (s : Section) (defs : Dict (OrRef α)) (v : OrRef α) :
    Except ReferenceError α → Prop
  | inline {a : α} (h : LeadsTo s defs v a) : ChainEnds s defs v (.ok a)
  | fault {targets : List String} {target : String} {e : ReferenceError}
      (h : Follows s defs v targets (.ref target)) (fault : Faulty s defs.keys target e) :
      ChainEnds s defs v (.error e)
  /-- The first reference that is met again. -/
  | cycle {targets : List String} {target : String}
      (h : Follows s defs v targets (.ref target)) (distinct : targets.Nodup)
      (again : target ∈ targets) : ChainEnds s defs v (.error (.cycle target))

theorem chainEnds_ok_iff {v : OrRef α} {a : α} :
    ChainEnds s defs v (.ok a) ↔ LeadsTo s defs v a :=
  ⟨fun h => by cases h; assumption, .inline⟩

theorem Follows.trans {v w x : OrRef α} {targets targets' : List String}
    (h : Follows s defs v targets w) (h' : Follows s defs w targets' x) :
    Follows s defs v (targets ++ targets') x := by
  induction h with
  | refl => exact h'
  | step declared _ ih => exact .step declared (ih h')

theorem Follows.mem_of_mem {v w : OrRef α} {targets : List String} {target : String}
    (h : Follows s defs v targets w) (ht : target ∈ targets) :
    ∃ name ∈ defs.keys, target = s.reference name := by
  induction h with
  | refl => simp at ht
  | step declared rest ih =>
    rcases List.mem_cons.1 ht with rfl | ht
    · exact ⟨_, mem_keys_of_get?_eq_some declared, rfl⟩
    · exact ih ht

/-! ## Chains that end -/

/-- No declared component is to be found behind it. -/
def IsLast (s : Section) (defs : Dict (OrRef α)) : OrRef α → Prop
  | .inline _ => True
  | .ref target => ∃ e, Faulty s defs.keys target e

theorem not_isLast_reference {name : String} {next : OrRef α} (h : defs.get? name = some next) :
    ¬ IsLast s defs (.ref (s.reference name)) :=
  fun ⟨_, hf⟩ => not_faulty_reference (mem_keys_of_get?_eq_some h) hf

/-- The way to the end of a chain is determined by its beginning. -/
theorem Follows.eq_of_isLast {v w w' : OrRef α} {targets targets' : List String}
    (h : Follows s defs v targets w) (hw : IsLast s defs w)
    (h' : Follows s defs v targets' w') (hw' : IsLast s defs w') : targets = targets' := by
  induction h generalizing targets' with
  | refl v =>
    cases h' with
    | refl => rfl
    | step declared rest => exact absurd hw (not_isLast_reference declared)
  | @step name next _ targets declared rest ih =>
    generalize hv : (OrRef.ref (s.reference name) : OrRef α) = v at h'
    cases h' with
    | refl => exact absurd (hv ▸ hw') (not_isLast_reference declared)
    | @step name' next' _ targets' declared' rest' =>
      have hname : name = name' := s.reference_injective (OrRef.ref.inj hv)
      subst hname
      obtain rfl := Option.some.inj (declared.symm.trans declared')
      rw [ih hw rest']

/-- The references of a chain lead on from wherever one of them stands. -/
theorem Follows.drop {v w : OrRef α} {before after : List String} {target : String}
    (h : Follows s defs v (before ++ target :: after) w) :
    Follows s defs (.ref target) (target :: after) w := by
  induction before generalizing v with
  | nil =>
    cases h with
    | step declared rest => exact .step declared rest
  | cons t before ih =>
    cases h with
    | step declared rest => exact ih rest

/-- A chain that ends meets no reference twice: what comes behind a reference is determined by it,
so a second meeting would leave as much to come as the first. -/
theorem Follows.nodup {v w : OrRef α} {targets : List String} (h : Follows s defs v targets w)
    (hw : IsLast s defs w) : targets.Nodup := by
  induction h with
  | refl => exact List.nodup_nil
  | @step name next w targets declared rest ih =>
    refine List.nodup_cons.2 ⟨fun hmem => ?_, ih hw⟩
    obtain ⟨before, after, rfl⟩ := List.append_of_mem hmem
    have hlen := congrArg List.length
      ((Follows.step declared rest).eq_of_isLast hw rest.drop hw)
    simp only [List.length_cons, List.length_append] at hlen
    omega

/-! ## Resolving -/

/-- The component that a reference names. -/
def componentOf (s : Section) (defs : Dict (OrRef α)) (target : String) :
    Except ReferenceError (OrRef α) := do
  let name ← targetName s target
  match defs.get? name with
  | none => .error (.notFound target)
  | some next => .ok next

theorem componentOf_eq_ok_iff {target : String} {next : OrRef α} :
    componentOf s defs target = .ok next ↔
      ∃ name, target = s.reference name ∧ defs.get? name = some next := by
  simp only [componentOf, bind_eq_ok_iff, targetName_eq_ok_iff]
  refine exists_congr fun name => and_congr_right fun _ => ?_
  cases defs.get? name <;> simp

theorem componentOf_eq_error_iff {target : String} {e : ReferenceError} :
    componentOf s defs target = .error e ↔ Faulty s defs.keys target e := by
  simp only [componentOf, bind_eq_error_iff, faulty_iff]
  refine or_congr_right (exists_congr fun name => and_congr_right fun _ => ?_)
  rw [← Dict.get?_eq_none_iff]
  cases defs.get? name <;> simp [eq_comm]

theorem follow_inline (seen : List String) (a : α) : follow s defs seen (.inline a) = .ok a := by
  rw [follow]

/-- One step of following references. -/
theorem follow_ref (seen : List String) (target : String) :
    follow s defs seen (.ref target) =
      if target ∈ seen then .error (.cycle target)
      else componentOf s defs target >>= follow s defs (target :: seen) := by
  rw [follow]
  simp only [List.contains_eq_mem, decide_eq_true_eq, componentOf]
  split
  · rfl
  · split
    · next h => simp [h, bind, Except.bind]
    · next name h =>
      rw [h]
      split
      · next hd => simp [hd, bind, Except.bind]
      · next next hd => simp [hd, bind, Except.bind]

/-- Following references over a part of the chain that meets nothing again. -/
theorem Follows.follow_eq {v w : OrRef α} {targets seen : List String}
    (h : Follows s defs v targets w) (distinct : targets.Nodup)
    (fresh : ∀ t ∈ targets, t ∉ seen) :
    follow s defs seen v = follow s defs (targets.reverse ++ seen) w := by
  induction h generalizing seen with
  | refl => rfl
  | @step name next w targets declared rest ih =>
    obtain ⟨hnot, distinct⟩ := List.nodup_cons.1 distinct
    rw [follow_ref, if_neg (fresh _ List.mem_cons_self),
      componentOf_eq_ok_iff.2 ⟨name, rfl, declared⟩, List.reverse_cons, List.append_assoc]
    refine ih distinct fun t ht hseen => ?_
    rcases List.mem_cons.1 hseen with rfl | hseen
    · exact hnot ht
    · exact fresh t (List.mem_cons_of_mem _ ht) hseen

/-- Resolving ends as the chain of references does. -/
theorem ChainEnds.resolve_eq {v : OrRef α} {r : Except ReferenceError α}
    (h : ChainEnds s defs v r) : v.resolve s defs = r := by
  cases h with
  | inline h =>
    obtain ⟨targets, h⟩ := h
    rw [OrRef.resolve, h.follow_eq (h.nodup trivial) (by simp), follow_inline]
  | @fault targets target e h fault =>
    have hlast : IsLast s defs (.ref target) := ⟨e, fault⟩
    rw [OrRef.resolve, h.follow_eq (h.nodup hlast) (by simp), follow_ref,
      componentOf_eq_error_iff.2 fault, if_neg]
    · rfl
    · intro hmem
      obtain ⟨name, hname, rfl⟩ := h.mem_of_mem (by simpa using hmem)
      exact not_faulty_reference hname fault
  | cycle h distinct again =>
    rw [OrRef.resolve, h.follow_eq distinct (by simp), follow_ref, if_pos (by simpa using again)]

/-- Following references from where the references `seen` have led, the latest first, ends as the
chain does. -/
theorem chainEnds_follow {v w : OrRef α} {seen : List String}
    (h : Follows s defs v seen.reverse w) (distinct : seen.Nodup) :
    ChainEnds s defs v (follow s defs seen w) := by
  induction seen, w using follow.induct s defs with
  | case1 seen a =>
    rw [follow_inline]
    exact .inline ⟨_, h⟩
  | case2 seen target hseen =>
    have hmem : target ∈ seen := by simpa using hseen
    rw [follow_ref, if_pos hmem]
    exact .cycle h (List.nodup_reverse.2 distinct) (List.mem_reverse.2 hmem)
  | case3 seen target hseen e ht =>
    have hnot : target ∉ seen := by simpa using hseen
    rw [follow_ref, if_neg hnot, componentOf, ht]
    exact .fault h (faulty_of_targetName ht)
  | case4 seen target hseen name ht hd =>
    have hnot : target ∉ seen := by simpa using hseen
    have hfault := componentOf_eq_error_iff.2
      (.notFound (targetName_eq_ok_iff.1 ht) (Dict.get?_eq_none_iff.1 hd))
    rw [follow_ref, if_neg hnot, hfault]
    exact .fault h (componentOf_eq_error_iff.1 hfault)
  | case5 seen target hseen name ht next hd ih =>
    have hnot : target ∉ seen := by simpa using hseen
    obtain rfl := targetName_eq_ok_iff.1 ht
    rw [follow_ref, if_neg hnot, componentOf_eq_ok_iff.2 ⟨name, rfl, hd⟩]
    refine ih ?_ (List.nodup_cons.2 ⟨hnot, distinct⟩)
    rw [List.reverse_cons]
    exact h.trans (.step hd (.refl next))

/-- A value resolves as its chain of references ends: to the inline value that it leads to, or
with the fault of the first reference that names no declared component, or with the first
reference that is met again. -/
theorem resolve_eq_iff {v : OrRef α} {r : Except ReferenceError α} :
    v.resolve s defs = r ↔ ChainEnds s defs v r :=
  ⟨fun h => h ▸ chainEnds_follow (.refl v) List.nodup_nil, ChainEnds.resolve_eq⟩

end ActivityForge.Document
