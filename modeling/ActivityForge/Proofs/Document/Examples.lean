import ActivityForge.Proofs.Document.Stable
import Mathlib.Data.List.Perm.Basic

/-!
# Examples

An example is a value of any kind whose objects have their members sorted by key, so that the order
in which they are written does not matter as long as no key comes twice (`stable_example`).
-/

namespace ActivityForge.Document

open Json
open Reading hiding Fields
open Walk

/-! ## Sorted members -/

theorem sortMembers_perm (d : Dict Value) : (sortMembers d).Perm d := List.mergeSort_perm d _

theorem pairwise_sortMembers (d : Dict Value) : (sortMembers d).Pairwise fun a b => a.1 ≤ b.1 := by
  have htrans (a b c : String × Value) (hab : decide (a.1 ≤ b.1) = true)
      (hbc : decide (b.1 ≤ c.1) = true) : decide (a.1 ≤ c.1) = true :=
    decide_eq_true (String.le_trans (of_decide_eq_true hab) (of_decide_eq_true hbc))
  have htotal (a b : String × Value) : (decide (a.1 ≤ b.1) || decide (b.1 ≤ a.1)) = true := by
    simpa using String.le_total a.1 b.1
  exact (List.pairwise_mergeSort htrans htotal d).imp fun hab => of_decide_eq_true hab

theorem nodup_keys_sortMembers {d : Dict Value} (h : d.keys.Nodup) : (sortMembers d).keys.Nodup :=
  ((sortMembers_perm d).map Prod.fst).nodup_iff.2 h

/-- Members are sorted in one way if no key comes twice. -/
theorem eq_of_perm_of_pairwise {d d' : Dict Value} (h : d.Perm d') (hnodup : d.keys.Nodup)
    (hd : d.Pairwise fun a b => a.1 ≤ b.1) (hd' : d'.Pairwise fun a b => a.1 ≤ b.1) : d = d' := by
  refine h.eq_of_pairwise (fun a b ha hb hab hba => ?_) hd hd'
  exact List.inj_on_of_nodup_map hnodup ha (h.mem_iff.2 hb) (String.le_antisymm hab hba)

theorem sortMembers_eq_of_perm {d d' : Dict Value} (h : d.Perm d') (hnodup : d.keys.Nodup) :
    sortMembers d = sortMembers d' := by
  have hperm := (sortMembers_perm d).trans (h.trans (sortMembers_perm d').symm)
  exact eq_of_perm_of_pairwise hperm (nodup_keys_sortMembers hnodup) (pairwise_sortMembers d)
    (pairwise_sortMembers d')

theorem sortMembers_sortMembers (d : Dict Value) : sortMembers (sortMembers d) = sortMembers d :=
  List.mergeSort_of_pairwise ((pairwise_sortMembers d).imp fun hab => decide_eq_true hab)

/-! ## Matching -/

theorem exampleOf?_list_iff {kept : List Content} {x : Value} :
    exampleOf? (.list kept) = some x ↔
      ∃ items, List.Forall₂ (fun c v => exampleOf? c = some v) kept items ∧ x = .list items := by
  rw [exampleOf?_list, Option.map_eq_some_iff]
  simp only [mapM_eq_some_iff, eq_comm (a := x)]

theorem exampleOf?_object_iff {found : Dict Content} {x : Value} :
    exampleOf? (objectContent found) = some x ↔
      ∃ pairs, List.Forall₂ (SameKeys fun c v => exampleOf? c = some v) found pairs ∧
        x = .object (sortMembers (Dict.ofPairs pairs)) := by
  have hmap : exampleOf? (objectContent found) =
      (Content.dict? exampleOf? (objectContent found)).map fun d => .object (sortMembers d) :=
    exampleOf?_map _
  simp only [hmap, Option.map_eq_some_iff, dict?_objectContent_iff]
  constructor
  · rintro ⟨_, ⟨pairs, h, rfl⟩, rfl⟩
    exact ⟨pairs, h, rfl⟩
  · rintro ⟨pairs, h, rfl⟩
    exact ⟨_, ⟨pairs, h, rfl⟩, rfl⟩

/-- The order of members does not matter if no key comes twice. -/
theorem exampleOf?_of_perm {found found' : Dict Content} (h : found.Perm found')
    (hnodup : found.keys.Nodup) {x : Value} (hx : exampleOf? (objectContent found) = some x) :
    exampleOf? (objectContent found') = some x := by
  obtain ⟨pairs, hpairs, rfl⟩ := exampleOf?_object_iff.1 hx
  obtain ⟨pairs', hpairs', hperm⟩ := List.perm_comp_forall₂ h.symm hpairs
  have hkeys : (Dict.keys pairs).Nodup := keys_eq_of_forall₂ hpairs ▸ hnodup
  have hkeys' : (Dict.keys pairs').Nodup := (hperm.map Prod.fst).nodup_iff.2 hkeys
  refine exampleOf?_object_iff.2 ⟨pairs', hpairs', ?_⟩
  rw [Dict.ofPairs_of_nodup hkeys, Dict.ofPairs_of_nodup hkeys',
    sortMembers_eq_of_perm hperm hkeys']

/-! ## Edits -/

/-- What is kept of the second value has the same example as what is kept of the first. -/
def SameExample (src : Source) (t t' : Tree) : Prop :=
  ∀ d c, Yields (src.keepWhole d t) c →
    ∃ c', Yields (src.keepWhole d t') c' ∧ ∀ x, exampleOf? c = some x → exampleOf? c' = some x

namespace SameExample

variable {src : Source}

theorem refl (src : Source) (t : Tree) : SameExample src t t := fun _ c hc => ⟨c, hc, fun _ h => h⟩

theorem list {items items' : List Tree} (h : List.Forall₂ (SameExample src) items items') :
    SameExample src (.list items none) (.list items' none) := by
  intro depth c hc
  obtain ⟨d, kept, rfl, -, hkept, rfl⟩ := yields_keepWhole_list.1 hc
  obtain ⟨kept', hkept', hsame⟩ := forall₂_transfer
    (S := fun item k => Yields (src.keepWhole d item) k)
    (T := fun c c' => ∀ x, exampleOf? c = some x → exampleOf? c' = some x)
    (fun item _ item' k hitem hk => hitem d k hk) h hkept
  refine ⟨_, yields_keepWhole_list.2 ⟨d, kept', rfl, rfl, hkept', rfl⟩, fun x hx => ?_⟩
  obtain ⟨values, hvalues, rfl⟩ := exampleOf?_list_iff.1 hx
  exact exampleOf?_list_iff.2 ⟨values, forall₂_comp (fun _ _ _ h => h _) hsame hvalues, rfl⟩

theorem object {named named' : List (String × Tree)}
    (h : List.Forall₂ (SameKeys (SameExample src)) named named') :
    SameExample src (object named) (object named') := by
  intro depth c hc
  have hkeys := isKey_treeMembers
  obtain ⟨d, _, found, rfl, heq, rfl, hfound⟩ := (yields_keepWhole_dict (hkeys named)).1 hc
  obtain rfl := object_inj heq
  obtain ⟨found', hfound', hsame⟩ := sameKeys_transfer
    (S := fun v k => Yields (src.keepWhole d v) k)
    (T := fun c c' => ∀ x, exampleOf? c = some x → exampleOf? c' = some x)
    (fun m _ v' k hv' hk => hv' d k hk) h hfound
  refine ⟨_, (yields_keepWhole_dict (hkeys named')).2 ⟨d, named', found', rfl, rfl, rfl, hfound'⟩,
    fun x hx => ?_⟩
  obtain ⟨pairs, hpairs, rfl⟩ := exampleOf?_object_iff.1 hx
  refine exampleOf?_object_iff.2 ⟨pairs, forall₂_comp (fun _ _ _ h hpair => ?_) hsame hpairs, rfl⟩
  exact ⟨h.1.symm.trans hpair.1, h.2 _ hpair.2⟩

theorem perm {named named' : List (String × Tree)} (h : named.Perm named')
    (hnodup : (Dict.keys named).Nodup) :
    SameExample src (Json.object named) (Json.object named') := by
  intro depth c hc
  have hkeys := isKey_treeMembers
  obtain ⟨d, _, found, rfl, heq, rfl, hfound⟩ := (yields_keepWhole_dict (hkeys named)).1 hc
  obtain rfl := object_inj heq
  obtain ⟨found', hfound', hperm⟩ := List.perm_comp_forall₂ h.symm hfound
  refine ⟨_, (yields_keepWhole_dict (hkeys named')).2 ⟨d, named', found', rfl, rfl, rfl, hfound'⟩,
    fun x hx => exampleOf?_of_perm hperm.symm ?_ hx⟩
  exact keys_eq_of_forall₂ hfound ▸ hnodup

end SameExample

theorem forall₂_treeMembers_iff {R : Tree → Tree → Prop} {named named' : List (String × Tree)} :
    List.Forall₂ (SameKeys R) named named' ↔
      List.Forall₂ (fun m m' => m.1 = m'.1 ∧ R m.2 m'.2) (treeMembers named)
        (treeMembers named') := by
  simp only [treeMembers, List.forall₂_map_left_iff, List.forall₂_map_right_iff, textTree_inj]
  rfl

/-- Members that are kept at all have texts as keys. -/
theorem sameExample_dict {src : Source} {members members' : List (Tree × Tree)}
    (hkeys : ∀ m ∈ members, IsKey m.1)
    (hkeys' : ∀ m' ∈ members', ∃ m ∈ members, m.1 = m'.1)
    (h : ∀ named named', members = treeMembers named → members' = treeMembers named' →
      SameExample src (object named) (object named')) :
    SameExample src (.dict members none) (.dict members' none) := by
  intro depth c hc
  obtain ⟨_, named, _, -, heq, -⟩ := (yields_keepWhole_dict hkeys).1 hc
  obtain ⟨rfl, -⟩ := Tree.dict.inj heq
  have htexts : ∀ m' ∈ members', ∃ s, m'.1 = textTree s := fun m' hm' => by
    obtain ⟨m, hm, hkey⟩ := hkeys' m' hm'
    exact hkey ▸ exists_treeMembers_iff.1 ⟨named, rfl⟩ m hm
  obtain ⟨named', rfl⟩ := exists_treeMembers_iff.2 htexts
  exact h named named' rfl rfl depth c hc

theorem Shuffled.sameExample {src : Source} {t t' : Tree} (h : Shuffled DistinctKeys t t')
    (ht : IsTree t) : SameExample src t t' := by
  induction h with
  | here distinct hperm =>
    cases ht with
    | dict keys values =>
      refine sameExample_dict keys (fun m' hm' => ⟨m', hperm.mem_iff.2 hm', rfl⟩) ?_
      rintro named named' rfl rfl
      refine .perm ((List.map_perm_map_iff treeMember_injective).1 hperm) ?_
      rw [DistinctKeys, treeMembers, List.map_map] at distinct
      exact List.Nodup.of_map textTree (by rwa [Dict.keys, List.map_map])
  | @member key v v' before after _ ih =>
    cases ht with
    | dict keys values =>
      have hv := (List.forall_mem_cons.1 (List.forall_mem_append.1 values).2).1
      have hsame : List.Forall₂ (fun m m' => m.1 = m'.1 ∧ SameExample src m.2 m'.2)
          (before ++ (key, v) :: after) (before ++ (key, v') :: after) :=
        forall₂_replace (fun m => ⟨rfl, .refl src m.2⟩) before after ⟨rfl, ih hv⟩
      refine sameExample_dict keys (fun m' hm' => ?_) fun named named' hnamed hnamed' => ?_
      · obtain ⟨m, hm, hkey, -⟩ := exists_mem_of_forall₂ hsame hm'
        exact ⟨m, hm, hkey⟩
      · rw [hnamed, hnamed'] at hsame
        exact .object (forall₂_treeMembers_iff.2 hsame)
  | item _ ih =>
    have hv := (List.forall_mem_cons.1 (List.forall_mem_append.1 ht.of_list).2).1
    exact .list (forall₂_replace (SameExample.refl src) _ _ (ih hv))

/-- The order of the members of an example does not matter where no key comes twice. -/
theorem stable_example {n : Nat} : Stable n Source.keepWhole exampleOf? .exampleValue := by
  refine stable_whole fun src src' _ _ depth t t' c c' _ ht hrecast hc hc' x hx => ?_
  have hsame : SameExample src t t' := by
    rcases hrecast with rfl | ⟨q, y, y', hlocal, hwithin⟩
    · exact .refl src t
    · cases hwithin
      cases hlocal with
      | exampleValue shuffled => exact shuffled.sameExample ht
  obtain ⟨c'', hc'', h⟩ := hsame depth c hc
  rw [hc'.unique (yields_keepWhole_of_source (hrecast.isTree ht) hc'')]
  exact h x hx

end ActivityForge.Document
