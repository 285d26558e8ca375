import ActivityForge.Proofs.Document.Positions
import ActivityForge.Proofs.Json.Whole
import Mathlib.Logic.Relation

/-!
# Edits of a document

A document may be edited in one place at a time (`Edited`): the members of a record are put in
another order, or one is left out that is not looked at.  What becomes of the parts of an edited
value is said by `Recast`: the same, or edited once.
-/

namespace ActivityForge.Document

open Json (IsTree SameKeys knownMembers object object_inj scalar textTree treeMembers)
open Reading

/-- The members of objects are put in another order, one object at a time and anywhere in the tree,
where the members of the object satisfy `P`. -/
inductive Shuffled (P : List (Tree × Tree) → Prop) : Tree → Tree → Prop
  | here {members members' : List (Tree × Tree)} (holds : P members)
      (perm : members.Perm members') :
      Shuffled P (.dict members none) (.dict members' none)
  | member {key v v' : Tree} {before after : List (Tree × Tree)} (inner : Shuffled P v v') :
      Shuffled P (.dict (before ++ (key, v) :: after) none)
        (.dict (before ++ (key, v') :: after) none)
  | item {v v' : Tree} {before after : List Tree} (inner : Shuffled P v v') :
      Shuffled P (.list (before ++ v :: after) none) (.list (before ++ v' :: after) none)

/-- No key comes twice. -/
def DistinctKeys (members : List (Tree × Tree)) : Prop := (members.map Prod.fst).Nodup

/-- One edit of what stands in a position. -/
inductive LocalEdit : Position → Tree → Tree → Prop
  /-- The members of a record are put in another order. -/
  | reorder {k : Record} {named named' : List (String × Tree)} (perm : named.Perm named') :
      LocalEdit (.record k) (object named) (object named')
  /-- A member that is no field is left out. -/
  | drop {k : Record} {key : String} {v : Tree} {before after : List (String × Tree)}
      (unknown : key ∉ k.keys) (notRef : key ≠ refKey) :
      LocalEdit (.record k) (object (before ++ (key, v) :: after)) (object (before ++ after))
  /-- A field that may be absent and is `null` is left out. -/
  | dropNull {k : Record} {s : Slot} {before after : List (String × Tree)} (slot : s ∈ k.slots)
      (optional : s.isOptional = true) :
      LocalEdit (.record k) (object (before ++ (s.key, scalar .unit) :: after))
        (object (before ++ after))
  /-- Objects in a member that is no field are put in another order. -/
  | ignored {k : Record} {key : String} {v v' : Tree} {before after : List (String × Tree)}
      (unknown : key ∉ k.keys) (shuffled : Shuffled (fun _ => True) v v') :
      LocalEdit (.record k) (object (before ++ (key, v) :: after))
        (object (before ++ (key, v') :: after))
  /-- Objects of an example are put in another order, if no key comes twice in them. -/
  | exampleValue {v v' : Tree} (shuffled : Shuffled DistinctKeys v v') :
      LocalEdit .exampleValue v v'

/-- One edit somewhere in what stands in a position. -/
def Edited (p : Position) (t t' : Tree) : Prop :=
  ∃ q x x', LocalEdit q x x' ∧ Within q x x' p t t'

/-- The same, or edited once. -/
def Recast (p : Position) (t t' : Tree) : Prop := t = t' ∨ Edited p t t'

/-! ## Trees that can be edited -/

/-- A list or an object. -/
def IsContainer : Tree → Prop
  | .list .. | .dict .. => True
  | _ => False

theorem IsContainer.ne_scalar {t : Tree} (h : IsContainer t) (a : Atom) : t ≠ scalar a := by
  rintro rfl
  exact h

variable {P : List (Tree × Tree) → Prop} {p q : Position} {x x' t t' : Tree}

theorem Shuffled.isContainer (h : Shuffled P t t') : IsContainer t ∧ IsContainer t' := by
  cases h <;> exact ⟨trivial, trivial⟩

theorem LocalEdit.isContainer (h : LocalEdit p t t') : IsContainer t ∧ IsContainer t' := by
  cases h with
  | exampleValue shuffled => exact shuffled.isContainer
  | _ => exact ⟨trivial, trivial⟩

theorem Within.isContainer (h : Within q x x' p t t') (hx : IsContainer x ∧ IsContainer x') :
    IsContainer t ∧ IsContainer t' := by
  induction h with
  | here => exact hx
  | reference _ _ ih => exact ih
  | inline _ _ ih => exact ih
  | _ => exact ⟨trivial, trivial⟩

theorem Edited.isContainer (h : Edited p t t') : IsContainer t ∧ IsContainer t' := by
  obtain ⟨q, x, x', hlocal, hwithin⟩ := h
  exact hwithin.isContainer hlocal.isContainer

/-- Scalars are not edited. -/
theorem Recast.eq_scalar_iff (h : Recast p t t') (a : Atom) : t = scalar a ↔ t' = scalar a := by
  rcases h with rfl | h
  · rfl
  · exact iff_of_false (h.isContainer.1.ne_scalar a) (h.isContainer.2.ne_scalar a)

/-! ## What becomes of parts -/

theorem Recast.refl (p : Position) (t : Tree) : Recast p t t := Or.inl rfl

theorem Recast.eq_of_plain (h : Recast .plain t t') : t = t' := by
  rcases h with rfl | ⟨q, x, x', hlocal, hwithin⟩
  · rfl
  · cases hwithin
    cases hlocal

theorem forall₂_replace {α : Type} {R : α → α → Prop} (hR : ∀ a, R a a) (before after : List α)
    {a b : α} (h : R a b) : List.Forall₂ R (before ++ a :: after) (before ++ b :: after) := by
  have hsame (l : List α) : List.Forall₂ R l l := List.forall₂_same.2 fun a _ => hR a
  exact List.rel_append (hsame before) (.cons h (hsame after))

theorem Recast.list {items : List Tree} (h : Recast (.list p) (.list items none) t') :
    ∃ items', t' = .list items' none ∧ List.Forall₂ (Recast p) items items' := by
  rcases h with rfl | ⟨q, x, x', hlocal, hwithin⟩
  · exact ⟨items, rfl, List.forall₂_same.2 fun v _ => .refl p v⟩
  · cases hwithin with
    | here => cases hlocal
    | item inner =>
      refine ⟨_, rfl, forall₂_replace (Recast.refl p) _ _ ?_⟩
      exact Or.inr ⟨q, x, x', hlocal, inner⟩

theorem Recast.map {named : List (String × Tree)} (h : Recast (.map p) t t')
    (ht : t = object named) :
    ∃ named', t' = object named' ∧ List.Forall₂ (SameKeys (Recast p)) named named' := by
  rcases h with rfl | ⟨q, x, x', hlocal, hwithin⟩
  · exact ⟨named, ht, List.forall₂_same.2 fun m _ => ⟨rfl, .refl p m.2⟩⟩
  · cases hwithin with
    | here => cases hlocal
    | entry inner =>
      obtain rfl := object_inj ht
      refine ⟨_, rfl, forall₂_replace (fun m => ⟨rfl, .refl p m.2⟩) _ _ ⟨rfl, Or.inr ?_⟩⟩
      exact ⟨q, x, x', hlocal, inner⟩

theorem Recast.eq_or_object (h : Recast (.map p) t t') : t = t' ∨ ∃ named, t = object named := by
  rcases h with rfl | ⟨q, x, x', hlocal, hwithin⟩
  · exact Or.inl rfl
  · cases hwithin with
    | here => cases hlocal
    | entry => exact Or.inr ⟨_, rfl⟩

theorem Recast.choice {k : Record} (h : Recast (.choice k) t t') :
    (IsReference t → Recast (.record .reference) t t') ∧
      (¬ IsReference t → Recast (.record k) t t') := by
  rcases h with rfl | ⟨q, x, x', hlocal, hwithin⟩
  · exact ⟨fun _ => .refl _ t, fun _ => .refl _ t⟩
  · cases hwithin with
    | here => cases hlocal
    | reference is inner =>
      exact ⟨fun _ => Or.inr ⟨q, x, x', hlocal, inner⟩, fun hnot => absurd is hnot⟩
    | inline is inner =>
      exact ⟨fun his => absurd his is, fun _ => Or.inr ⟨q, x, x', hlocal, inner⟩⟩

/-! ## What becomes of the members of a record -/

/-- The members of a record before and after an edit. -/
structure RecastMembers (k : Record) (named named' : List (String × Tree)) : Prop where
  known : ∀ s ∈ k.slots, ∀ v', (s.key, v') ∈ named' →
    ∃ v, (s.key, v) ∈ named ∧ Recast s.position v v'
  unknown : ∀ m' ∈ named', m'.1 ∉ k.keys →
    ∃ v, (m'.1, v) ∈ named ∧ (v = m'.2 ∨ Shuffled (fun _ => True) v m'.2)
  once : ((knownMembers k.keys named).map Prod.fst).Nodup →
    ((knownMembers k.keys named').map Prod.fst).Nodup
  /-- Only what is absent is lost. -/
  lost : ∀ s ∈ k.slots, ∀ v, (s.key, v) ∈ named →
    (∃ v', (s.key, v') ∈ named') ∨ (s.isOptional = true ∧ v = scalar .unit)

theorem Record.nodup_keys (k : Record) : k.keys.Nodup := by
  cases k <;> decide

theorem Record.eq_of_key_eq {k : Record} {s s' : Slot} (hs : s ∈ k.slots) (hs' : s' ∈ k.slots)
    (h : s.key = s'.key) : s = s' :=
  List.inj_on_of_nodup_map k.nodup_keys hs hs' h

theorem Record.mem_keys {k : Record} {s : Slot} (hs : s ∈ k.slots) : s.key ∈ k.keys :=
  List.mem_map.2 ⟨s, hs, rfl⟩

namespace RecastMembers

variable {k : Record} {named named' before after : List (String × Tree)} {key : String}
  {v v' : Tree}

theorem refl (k : Record) (named : List (String × Tree)) : RecastMembers k named named where
  known s _ v hv := ⟨v, hv, .refl s.position v⟩
  unknown m hm _ := ⟨m.2, hm, Or.inl rfl⟩
  once h := h
  lost _ _ v hv := Or.inl ⟨v, hv⟩

theorem of_perm (h : named.Perm named') : RecastMembers k named named' where
  known s _ v hv := ⟨v, h.mem_iff.2 hv, .refl s.position v⟩
  unknown m hm _ := ⟨m.2, h.mem_iff.2 hm, Or.inl rfl⟩
  once hnodup := ((h.filter _).map Prod.fst).nodup hnodup
  lost _ _ v hv := Or.inl ⟨v, h.mem_iff.1 hv⟩

/-- Leaving out a member that is no field, or one that is absent. -/
theorem of_drop (h : ∀ s ∈ k.slots, s.key = key → s.isOptional = true ∧ v = scalar .unit) :
    RecastMembers k (before ++ (key, v) :: after) (before ++ after) := by
  have hsub : (before ++ after).Sublist (before ++ (key, v) :: after) :=
    (List.sublist_cons_self _ after).append_left before
  refine ⟨fun s _ w hw => ⟨w, hsub.subset hw, .refl s.position w⟩,
    fun m hm _ => ⟨m.2, hsub.subset hm, Or.inl rfl⟩,
    fun hnodup => hnodup.sublist ((hsub.filter _).map _), fun s hs w hw => ?_⟩
  rcases List.mem_append.1 hw with hw | hw
  · exact Or.inl ⟨w, List.mem_append_left _ hw⟩
  · rcases List.mem_cons.1 hw with hw | hw
    · obtain ⟨hkey, rfl⟩ := Prod.mk.inj hw
      exact Or.inr (h s hs hkey)
    · exact Or.inl ⟨w, List.mem_append_right _ hw⟩

theorem mem_replaced {m : String × Tree} (h : m ∈ before ++ (key, v) :: after) :
    m = (key, v) ∨ ∀ w, m ∈ before ++ (key, w) :: after := by
  rcases List.mem_append.1 h with h | h
  · exact Or.inr fun w => List.mem_append_left _ h
  · rcases List.mem_cons.1 h with rfl | h
    · exact Or.inl rfl
    · exact Or.inr fun w => List.mem_append_right _ (List.mem_cons_of_mem _ h)

/-- Replacing the value of one member. -/
theorem of_replace (hknown : ∀ s ∈ k.slots, s.key = key → Recast s.position v v')
    (hunknown : key ∉ k.keys → Shuffled (fun _ => True) v v') :
    RecastMembers k (before ++ (key, v) :: after) (before ++ (key, v') :: after) where
  known s hs w hw := by
    rcases mem_replaced hw with heq | hw
    · obtain ⟨hkey, rfl⟩ := Prod.mk.inj heq
      exact ⟨v, by simp [hkey], hknown s hs hkey⟩
    · exact ⟨w, hw v, .refl s.position w⟩
  unknown m hm hkey := by
    rcases mem_replaced hm with rfl | hm
    · exact ⟨v, by simp, Or.inr (hunknown hkey)⟩
    · exact ⟨m.2, hm v, Or.inl rfl⟩
  once hnodup := by
    have hsame : (knownMembers k.keys (before ++ (key, v') :: after)).map Prod.fst =
        (knownMembers k.keys (before ++ (key, v) :: after)).map Prod.fst := by
      simp only [knownMembers, List.filter_append, List.filter_cons, List.map_append]
      split <;> rfl
    exact hsame ▸ hnodup
  lost s hs w hw := by
    rcases mem_replaced hw with heq | hw
    · obtain ⟨hkey, -⟩ := Prod.mk.inj heq
      exact Or.inl ⟨v', by simp [hkey]⟩
    · exact Or.inl ⟨w, hw v'⟩

end RecastMembers

theorem not_mem_keys_of_slot {k : Record} {key : String} (h : key ∉ k.keys) {s : Slot}
    (hs : s ∈ k.slots) : s.key ≠ key :=
  fun heq => h (heq ▸ Record.mem_keys hs)

/-- An edited record is written as it was, as an object … -/
theorem Recast.object {k : Record} {named : List (String × Tree)} (h : Recast (.record k) t t')
    (ht : t = object named) : ∃ named', t' = Json.object named' ∧ RecastMembers k named named' := by
  rcases h with rfl | ⟨q, x, x', hlocal, hwithin⟩
  · exact ⟨named, ht, .refl k named⟩
  · cases hwithin with
    | here =>
      cases hlocal with
      | reorder perm =>
        obtain rfl := object_inj ht
        exact ⟨_, rfl, .of_perm perm⟩
      | drop unknown notRef =>
        obtain rfl := object_inj ht
        exact ⟨_, rfl, .of_drop fun s hs hkey => absurd hkey (not_mem_keys_of_slot unknown hs)⟩
      | @dropNull _ s' _ _ slot optional =>
        obtain rfl := object_inj ht
        refine ⟨_, rfl, .of_drop fun s hs hkey => ?_⟩
        obtain rfl := Record.eq_of_key_eq hs slot hkey
        exact ⟨optional, rfl⟩
      | ignored unknown shuffled =>
        obtain rfl := object_inj ht
        exact ⟨_, rfl, .of_replace
          (fun s hs hkey => absurd hkey (not_mem_keys_of_slot unknown hs)) fun _ => shuffled⟩
    | @member _ s' _ _ _ _ slot inner =>
      obtain rfl := object_inj ht
      refine ⟨_, rfl, .of_replace (fun s hs hkey => ?_)
        fun hkey => absurd (Record.mem_keys slot) hkey⟩
      obtain rfl := Record.eq_of_key_eq hs slot hkey
      exact Or.inr ⟨q, x, x', hlocal, inner⟩
    | place => cases ht

/-- … or as a list. -/
theorem Recast.places {k : Record} {items : List Tree}
    (h : Recast (.record k) (.list items none) t') :
    ∃ items', t' = .list items' none ∧ items'.length = items.length ∧
      RecastMembers k (k.keys.zip items) (k.keys.zip items') := by
  rcases h with rfl | ⟨q, x, x', hlocal, hwithin⟩
  · exact ⟨items, rfl, rfl, .refl k _⟩
  · cases hwithin with
    | here => cases hlocal
    | @place _ s' v v' before after slot inner =>
      refine ⟨_, rfl, by simp, ?_⟩
      obtain ⟨hlt, rfl⟩ := List.getElem?_eq_some_iff.1 slot
      have hkeys : k.keys = k.keys.take before.length ++
          k.slots[before.length].key :: k.keys.drop (before.length + 1) := by
        have hlt' : before.length < k.keys.length := by simpa [Record.keys] using hlt
        have hget : k.keys[before.length] = k.slots[before.length].key := by simp [Record.keys]
        rw [← hget, ← List.drop_eq_getElem_cons hlt', List.take_append_drop]
      have hzip (w : Tree) : k.keys.zip (before ++ w :: after) =
          (k.keys.take before.length).zip before ++
            (k.slots[before.length].key, w) :: (k.keys.drop (before.length + 1)).zip after := by
        have hlength : (k.keys.take before.length).length = before.length := by
          simp [Record.keys, Nat.le_of_lt hlt]
        conv_lhs => rw [hkeys]
        rw [List.zip_append hlength, List.zip_cons_cons]
      rw [hzip, hzip]
      refine .of_replace (fun s hs hkey => ?_) fun hkey => ?_
      · obtain rfl := Record.eq_of_key_eq hs (List.getElem_mem hlt) hkey
        exact Or.inr ⟨q, x, x', hlocal, inner⟩
      · exact absurd (Record.mem_keys (List.getElem_mem hlt)) hkey

/-! ## References -/

theorem isReference_object_iff {named : List (String × Tree)} :
    IsReference (object named) ↔
      ∃ target, named.filter (·.1 = refKey) = [(refKey, textTree target)] := by
  constructor
  · rintro ⟨named', target, heq, h⟩
    obtain rfl := object_inj heq
    exact ⟨target, h⟩
  · rintro ⟨target, h⟩
    exact ⟨named, target, rfl, h⟩

theorem filter_refKey_replaced {before after : List (String × Tree)} {key : String} {v : Tree}
    (h : key ≠ refKey) : (before ++ (key, v) :: after).filter (·.1 = refKey) =
      (before ++ after).filter (·.1 = refKey) := by
  rw [List.filter_append, List.filter_cons_of_neg (by simpa using h), ← List.filter_append]

/-- An edit of a record does not make it a reference: that depends on a member that is no field of
the record, and has to be a text. -/
theorem isReference_of_recast {k : Record} (hk : refKey ∉ k.keys) (h : Recast (.record k) t t')
    (href : IsReference t') : IsReference t := by
  have hslot {s : Slot} (hs : s ∈ k.slots) : s.key ≠ refKey := not_mem_keys_of_slot hk hs
  rcases h with rfl | ⟨q, x, x', hlocal, hwithin⟩
  · exact href
  · cases hwithin with
    | here =>
      cases hlocal with
      | reorder perm =>
        obtain ⟨target, h⟩ := isReference_object_iff.1 href
        refine isReference_object_iff.2 ⟨target, ?_⟩
        exact List.perm_singleton.1 (h ▸ perm.filter _)
      | drop unknown notRef =>
        simpa only [isReference_object_iff, filter_refKey_replaced notRef] using href
      | dropNull slot optional =>
        simpa only [isReference_object_iff, filter_refKey_replaced (hslot slot)] using href
      | @ignored _ key v v' before after unknown shuffled =>
        by_cases hkey : key = refKey
        · obtain ⟨target, h⟩ := isReference_object_iff.1 href
          have hmem : (key, v') ∈ (before ++ (key, v') :: after).filter (·.1 = refKey) := by
            simp [hkey]
          rw [h, List.mem_singleton, Prod.mk.injEq] at hmem
          exact absurd hmem.2 (shuffled.isContainer.2.ne_scalar _)
        · simpa only [isReference_object_iff, filter_refKey_replaced hkey] using href
    | member slot inner =>
      simpa only [isReference_object_iff, filter_refKey_replaced (hslot slot)] using href
    | place =>
      obtain ⟨_, _, heq, -⟩ := href
      cases heq

/-! ## Trees of JSON texts stay such -/

theorem forall_mem_replaced {α : Type} {Q : α → Prop} {before after : List α} {a b : α}
    (h : ∀ c ∈ before ++ a :: after, Q c) (hb : Q a → Q b) : ∀ c ∈ before ++ b :: after, Q c := by
  rw [List.forall_mem_append, List.forall_mem_cons] at h ⊢
  exact ⟨h.1, hb h.2.1, h.2.2⟩

theorem Shuffled.isTree (h : Shuffled P t t') (ht : IsTree t) : IsTree t' := by
  induction h with
  | here _ perm =>
    cases ht with
    | dict keys values =>
      exact .dict (fun m hm => keys m (perm.mem_iff.2 hm)) fun m hm => values m (perm.mem_iff.2 hm)
  | member _ ih =>
    cases ht with
    | dict keys values =>
      exact .dict (forall_mem_replaced keys id) (forall_mem_replaced values ih)
  | item _ ih =>
    cases ht with
    | list items => exact .list (forall_mem_replaced items ih)

theorem LocalEdit.isTree (h : LocalEdit p t t') (ht : IsTree t) : IsTree t' := by
  cases h with
  | reorder perm =>
    rw [Json.isTree_object] at ht ⊢
    exact fun m hm => ht m (perm.mem_iff.2 hm)
  | drop | dropNull =>
    rw [Json.isTree_object, List.forall_mem_append, List.forall_mem_cons] at ht
    rw [Json.isTree_object, List.forall_mem_append]
    exact ⟨ht.1, ht.2.2⟩
  | ignored _ shuffled =>
    rw [Json.isTree_object] at ht ⊢
    exact forall_mem_replaced ht shuffled.isTree
  | exampleValue shuffled => exact shuffled.isTree ht

theorem Within.isTree (h : Within q x x' p t t') (ht : IsTree t) (hx : IsTree x → IsTree x') :
    IsTree t' := by
  induction h with
  | here => exact hx ht
  | member _ _ ih =>
    rw [Json.isTree_object] at ht ⊢
    exact forall_mem_replaced ht ih
  | entry _ ih =>
    rw [Json.isTree_object] at ht ⊢
    exact forall_mem_replaced ht ih
  | place _ _ ih => exact .list (forall_mem_replaced ht.of_list ih)
  | item _ ih => exact .list (forall_mem_replaced ht.of_list ih)
  | reference _ _ ih => exact ih ht
  | inline _ _ ih => exact ih ht

theorem Recast.isTree (h : Recast p t t') (ht : IsTree t) : IsTree t' := by
  rcases h with rfl | ⟨q, x, x', hlocal, hwithin⟩
  · exact ht
  · exact hwithin.isTree ht hlocal.isTree

end ActivityForge.Document
