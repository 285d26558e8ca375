import ActivityForge.Proofs.Json.Tree
import Mathlib

/-!
# What shapes keep of JSON

For trees of JSON texts it is said declaratively when a shape keeps something of a tree, and what:
`yields_list_iff`, `yields_dict_iff`, … for each way in which shapes are put together, and
`yields_keepWhole_…` for values that are kept whole.
-/

namespace ActivityForge.Json

open Reading Walk

/-- Members whose keys are texts. -/
def treeMembers (named : List (String × Tree)) : List (Tree × Tree) :=
  named.map fun m => (textTree m.1, m.2)

/-- An object whose keys are all texts. -/
def object (named : List (String × Tree)) : Tree := .dict (treeMembers named) none

def contentMembers (found : Dict Content) : List (Content × Content) :=
  found.map fun m => (.text m.1, m.2)

/-- The content of a mapping whose keys are all texts. -/
def objectContent (found : Dict Content) : Content := .map (contentMembers found)

/-- What is kept of the value of a scalar. -/
def contentOf : Atom → Content
  | .unit => .unit
  | .bool b => .bool b
  | .int n => .int n
  | .float x => .float x
  | .text s => .text s
  | .wide _ | .misfit => .unit

/-- Members with the same keys and related values. -/
def SameKeys {α β : Type} (R : α → β → Prop) (m : String × α) (k : String × β) : Prop :=
  m.1 = k.1 ∧ R m.2 k.2

variable {src : Source} {tree : Tree}

theorem isTree_object {named : List (String × Tree)} :
    IsTree (object named) ↔ ∀ m ∈ named, IsTree m.2 := by
  constructor
  · intro h
    cases h with
    | dict keys values =>
      intro m hm
      exact values (textTree m.1, m.2) (List.mem_map.2 ⟨m, hm, rfl⟩)
  · intro h
    refine .dict ?_ ?_ <;> rw [treeMembers, List.forall_mem_map]
    · exact fun m _ => .text m.1
    · exact h

theorem IsTree.of_list {items : List Tree} {cut : Option Fault} (h : IsTree (.list items cut)) :
    ∀ item ∈ items, IsTree item := by
  cases h with
  | list h => exact h

/-! ## Scalars -/

theorem follow_eq (h : IsTree tree) : src.follow tree = pure tree := by
  cases h <;> rfl

theorem settle_eq (h : IsTree tree) : src.settle tree = pure tree := by
  rw [Source.settle, follow_eq h, pure_bind]
  cases h <;> rfl

theorem scalar_inj {a b : Atom} : scalar a = scalar b ↔ a = b := by
  refine ⟨fun h => ?_, fun h => h ▸ rfl⟩
  injection h with h
  injection h

theorem textTree_inj {s t : String} : textTree s = textTree t ↔ s = t := by
  rw [textTree, textTree, scalar_inj, Atom.text.injEq]

theorem textTree_ne_of_atom {a : Atom} (ha : ∀ s, a ≠ .text s) (s : String) :
    scalar a ≠ textTree s :=
  fun h => ha s (scalar_inj.1 h)

theorem yields_keepText_iff (h : IsTree tree) {expected s : String} :
    Yields (src.keepText expected tree) s ↔ tree = textTree s := by
  rw [Source.keepText, settle_eq h, pure_bind]
  cases h with
  | @scalar a _ =>
    cases a with
    | text t => exact yields_pure_iff.trans textTree_inj.symm
    | _ => exact iff_of_false not_yields_stop (textTree_ne_of_atom (by simp) s)
  | _ => exact iff_of_false not_yields_stop nofun

theorem yields_keepFieldName_iff (h : IsTree tree) {s : String} :
    Yields (src.keepFieldName tree) s ↔ tree = textTree s := by
  rw [Source.keepFieldName, settle_eq h, pure_bind]
  cases h with
  | @scalar a _ =>
    cases a with
    | text t => exact yields_pure_iff.trans textTree_inj.symm
    | _ => exact iff_of_false not_yields_stop (textTree_ne_of_atom (by simp) s)
  | _ => exact iff_of_false not_yields_stop nofun

/-! ## Values that are kept whole -/

theorem yields_keepWhole_scalar {a : Atom} (ha : IsPlain a) {depth : Nat} {c : Content} :
    Yields (src.keepWhole depth (scalar a)) c ↔ c = contentOf a := by
  have hkeep : src.keepWhole depth (scalar a) = pure (contentOf a) := by
    cases depth <;> cases a <;> first | rfl | exact ha.elim
  rw [hkeep, yields_pure_iff, eq_comm]

theorem not_yields_keepWhole_flawed {kept : Fault} {skipped : Option Fault} {depth : Nat}
    {c : Content} : ¬ Yields (src.keepWhole depth (.flawed kept skipped)) c := by
  cases depth <;> exact not_yields_stop

theorem yields_keepWhole_list {items : List Tree} {cut : Option Fault} {depth : Nat}
    {c : Content} :
    Yields (src.keepWhole depth (.list items cut)) c ↔ ∃ d kept, depth = d + 1 ∧ cut = none ∧
      List.Forall₂ (fun item k => Yields (src.keepWhole d item) k) items kept ∧ c = .list kept := by
  cases depth with
  | zero => exact iff_of_false not_yields_stop nofun
  | succ d =>
    have hitems : ∀ item ∈ items, Walk.Still (src.keepWhole d item) :=
      fun item _ => src.still_keepWhole d item
    have hkeep : src.keepWhole (d + 1) (.list items cut) = (do
        let kept ← items.mapM (src.keepWhole d)
        Walk.stopIf cut
        pure (.list kept)) := rfl
    simp only [hkeep, yields_bind_iff (still_mapM hitems), yields_mapM_iff hitems,
      yields_bind_iff (still_stopIf cut), yields_stopIf_iff, yields_pure_iff]
    constructor
    · rintro ⟨kept, hkept, -, hcut, rfl⟩
      exact ⟨d, kept, rfl, hcut, hkept, rfl⟩
    · rintro ⟨_, kept, ⟨⟩, hcut, hkept, rfl⟩
      exact ⟨kept, hkept, (), hcut, rfl⟩

/-- Members whose keys are kept as texts are those of an object. -/
theorem forall₂_members_iff {R : Tree → Content → Prop} {members : List (Tree × Tree)}
    {kept : List (Content × Content)} :
    List.Forall₂ (fun m k => (∃ s, m.1 = textTree s ∧ k.1 = .text s) ∧ R m.2 k.2) members kept ↔
      ∃ (named : List (String × Tree)) (found : Dict Content),
        members = treeMembers named ∧ kept = contentMembers found ∧
        List.Forall₂ (SameKeys R) named found := by
  constructor
  · intro h
    induction h with
    | nil => exact ⟨[], [], rfl, rfl, .nil⟩
    | @cons m k _ _ h _ ih =>
      obtain ⟨⟨s, hm, hk⟩, hr⟩ := h
      obtain ⟨named, found, rfl, rfl, hrest⟩ := ih
      refine ⟨(s, m.2) :: named, (s, k.2) :: found, ?_, ?_, .cons ⟨rfl, hr⟩ hrest⟩
      · exact congrArg (· :: treeMembers named) (Prod.ext hm rfl)
      · exact congrArg (· :: contentMembers found) (Prod.ext hk rfl)
  · rintro ⟨named, found, rfl, rfl, h⟩
    refine List.forall₂_map_left_iff.2 (List.forall₂_map_right_iff.2 (h.imp fun m k hmk => ?_))
    exact ⟨⟨m.1, rfl, hmk.1 ▸ rfl⟩, hmk.2⟩

theorem forall₂_iff_of_mem {α β : Type} {R S : α → β → Prop} {l : List α} {r : List β}
    (h : ∀ a ∈ l, ∀ b, R a b ↔ S a b) : List.Forall₂ R l r ↔ List.Forall₂ S l r := by
  induction l generalizing r with
  | nil => rw [List.forall₂_nil_left_iff, List.forall₂_nil_left_iff]
  | cons a l ih =>
    rw [List.forall_mem_cons] at h
    simp only [List.forall₂_cons_left_iff, h.1, ih h.2]

/-- What is kept of an object by a walk over its members. -/
theorem yields_members_iff (value : Tree → Content → Prop)
    {keep : Tree × Tree → Walk (Content × Content)} {members : List (Tree × Tree)}
    {cut : Option Fault} {c : Content}
    (still : ∀ m ∈ members, Walk.Still (keep m))
    (hkeep : ∀ m ∈ members, ∀ k,
      Yields (keep m) k ↔ (∃ s, m.1 = textTree s ∧ k.1 = .text s) ∧ value m.2 k.2) :
    Yields (do
      let kept ← members.mapM keep
      Walk.stopIf cut
      pure (Content.map kept)) c ↔
    ∃ named found, Tree.dict members cut = object named ∧ c = objectContent found ∧
      List.Forall₂ (SameKeys value) named found := by
  have hmembers (kept : List (Content × Content)) : Yields (members.mapM keep) kept ↔
      List.Forall₂ (fun m k => (∃ s, m.1 = textTree s ∧ k.1 = .text s) ∧ value m.2 k.2)
        members kept := by
    rw [yields_mapM_iff still]
    exact forall₂_iff_of_mem hkeep
  simp only [yields_bind_iff (still_mapM still), yields_bind_iff (still_stopIf cut),
    yields_stopIf_iff, yields_pure_iff, hmembers, forall₂_members_iff]
  constructor
  · rintro ⟨_, ⟨named, found, rfl, rfl, h⟩, -, rfl, rfl⟩
    exact ⟨named, found, rfl, rfl, h⟩
  · rintro ⟨named, found, heq, rfl, h⟩
    obtain ⟨rfl, rfl⟩ := Tree.dict.inj heq
    exact ⟨_, ⟨named, found, rfl, rfl, h⟩, (), rfl, rfl⟩

theorem yields_keepWhole_key (h : IsKey tree) {depth : Nat} {k : Content} :
    Yields (src.keepWhole depth tree) k ↔ ∃ s, tree = textTree s ∧ k = .text s := by
  cases h with
  | text s =>
    have hatom : IsPlain (.text s) := trivial
    refine (yields_keepWhole_scalar hatom).trans ⟨fun hk => ⟨s, rfl, hk⟩, ?_⟩
    rintro ⟨t, htree, rfl⟩
    obtain rfl := textTree_inj.1 htree
    rfl
  | flawed => exact iff_of_false not_yields_keepWhole_flawed nofun

theorem yields_keepWhole_dict {members : List (Tree × Tree)} {cut : Option Fault}
    (hkeys : ∀ m ∈ members, IsKey m.1) {depth : Nat} {c : Content} :
    Yields (src.keepWhole depth (.dict members cut)) c ↔ ∃ d named found, depth = d + 1 ∧
      Tree.dict members cut = object named ∧ c = objectContent found ∧
      List.Forall₂ (SameKeys fun v k => Yields (src.keepWhole d v) k) named found := by
  cases depth with
  | zero => exact iff_of_false not_yields_stop nofun
  | succ d =>
    have hkeep : src.keepWhole (d + 1) (.dict members cut) = (do
        let kept ← members.mapM fun m => do
          let k ← src.keepWhole d m.1
          let v ← src.keepWhole d m.2
          pure (k, v)
        Walk.stopIf cut
        pure (.map kept)) := rfl
    have hstep (m : Tree × Tree) (hm : m ∈ members) (k : Content × Content) :
        Yields (do
          let k ← src.keepWhole d m.1
          let v ← src.keepWhole d m.2
          pure (k, v)) k ↔
        (∃ s, m.1 = textTree s ∧ k.1 = .text s) ∧ Yields (src.keepWhole d m.2) k.2 := by
      simp only [yields_bind_iff (src.still_keepWhole d _), yields_pure_iff,
        yields_keepWhole_key (hkeys m hm)]
      constructor
      · rintro ⟨_, ⟨s, hs, rfl⟩, v, hv, rfl⟩
        exact ⟨⟨s, hs, rfl⟩, hv⟩
      · rintro ⟨⟨s, hs, hk⟩, hv⟩
        exact ⟨k.1, ⟨s, hs, hk⟩, k.2, hv, rfl⟩
    rw [hkeep, yields_members_iff (fun v k => Yields (src.keepWhole d v) k) (fun m _ => ?_) hstep]
    · constructor
      · rintro ⟨named, found, heq, hc, h⟩
        exact ⟨d, named, found, rfl, heq, hc, h⟩
      · rintro ⟨_, named, found, ⟨⟩, heq, hc, h⟩
        exact ⟨named, found, heq, hc, h⟩
    · exact (src.still_keepWhole d _).bind fun _ => (src.still_keepWhole d _).bind fun _ =>
        still_pure _

/-! ## Shapes -/

variable {α : Type} {depth : Nat} {c : Content}

theorem yields_text_iff (h : IsTree tree) :
    Yields (Shape.text.keep src depth tree) c ↔ ∃ s, tree = textTree s ∧ c = .text s := by
  simp only [Shape.text, yields_map_iff (src.still_keepText _ tree), yields_keepText_iff h, eq_comm]

theorem yields_flag_iff (h : IsTree tree) :
    Yields (Shape.flag.keep src depth tree) c ↔ ∃ b, tree = scalar (.bool b) ∧ c = .bool b := by
  simp only [Shape.flag, settle_eq h, pure_bind]
  cases h with
  | @scalar a _ =>
    cases a with
    | bool b =>
      refine yields_pure_iff.trans ⟨fun hc => ⟨b, rfl, hc.symm⟩, ?_⟩
      rintro ⟨b', hb, rfl⟩
      rw [Atom.bool.inj (scalar_inj.1 hb)]
    | _ =>
      refine iff_of_false not_yields_stop ?_
      rintro ⟨b, hb, -⟩
      exact absurd (scalar_inj.1 hb) (by simp)
  | _ => exact iff_of_false not_yields_stop (by simp [scalar])

theorem yields_optional_iff (h : IsTree tree) {s : Shape α} :
    Yields (s.optional.keep src depth tree) c ↔ (tree = scalar .unit ∧ c = .unit) ∨
      tree ≠ scalar .unit ∧ Yields (s.keep src depth tree) c := by
  simp only [Shape.optional, follow_eq h, pure_bind]
  cases h with
  | @scalar a _ =>
    cases a with
    | unit => simp [scalar, eq_comm]
    | _ => simp [scalar]
  | _ => simp [scalar]

theorem yields_choice_iff {name : String} {value? : Content → Option α} :
    Yields ((Shape.choice name value?).keep src depth tree) c ↔
      Yields (src.keepWhole depth tree) c ∧ (value? c).isSome := by
  simp only [Shape.choice, yields_bind_iff (src.still_keepWhole depth tree)]
  constructor
  · rintro ⟨kept, hkept, h⟩
    split at h
    · exact absurd h not_yields_stop
    · next hsome =>
      obtain rfl := yields_pure_iff.1 h
      exact ⟨hkept, by simpa [← Option.isSome_iff_ne_none] using hsome⟩
  · rintro ⟨hkept, hsome⟩
    refine ⟨c, hkept, ?_⟩
    rw [if_neg (by simpa [← Option.isSome_iff_ne_none] using hsome)]
    exact yields_pure_iff.2 rfl

theorem yields_list_iff (h : IsTree tree) {s : Shape α} [s.Still] :
    Yields (s.list.keep src depth tree) c ↔ ∃ d items kept, depth = d + 1 ∧
      tree = .list items none ∧
      List.Forall₂ (fun item k => Yields (s.keep src d item) k) items kept ∧ c = .list kept := by
  simp only [Shape.list, settle_eq h, pure_bind]
  cases h with
  | @list items cut _ =>
    cases depth with
    | zero => exact iff_of_false not_yields_stop (by simp)
    | succ d =>
      have hitems : ∀ item ∈ items, Walk.Still (s.keep src d item) :=
        fun item _ => Shape.Still.keep src d item
      simp only [yields_bind_iff (still_mapM hitems), yields_mapM_iff hitems,
        yields_bind_iff (still_stopIf cut), yields_stopIf_iff, yields_pure_iff]
      constructor
      · rintro ⟨kept, hkept, -, rfl, rfl⟩
        exact ⟨d, items, kept, rfl, rfl, hkept, rfl⟩
      · rintro ⟨_, _, kept, ⟨⟩, ⟨⟩, hkept, rfl⟩
        exact ⟨kept, hkept, (), rfl, rfl⟩
  | @scalar a _ =>
    refine iff_of_false ?_ (by simp [scalar])
    exact not_yields_stop
  | _ => exact iff_of_false not_yields_stop (by simp)

theorem yields_dict_iff (h : IsTree tree) {s : Shape α} [s.Still] :
    Yields (s.dict.keep src depth tree) c ↔ ∃ d named found, depth = d + 1 ∧
      tree = object named ∧ c = objectContent found ∧
      List.Forall₂ (SameKeys fun v k => Yields (s.keep src d v) k) named found := by
  simp only [Shape.dict, settle_eq h, pure_bind]
  cases h with
  | @dict members cut keys _ =>
    cases depth with
    | zero => exact iff_of_false not_yields_stop (by simp)
    | succ d =>
      rw [yields_members_iff (fun v k => Yields (s.keep src d v) k)]
      · constructor
        · rintro ⟨named, found, heq, hc, h⟩
          exact ⟨d, named, found, rfl, heq, hc, h⟩
        · rintro ⟨_, named, found, ⟨⟩, heq, hc, h⟩
          exact ⟨named, found, heq, hc, h⟩
      · exact fun m _ => (src.still_keepText _ m.1).bind fun _ =>
          (Shape.Still.keep src d m.2).bind fun _ => still_pure _
      · intro m hm k
        simp only [yields_bind_iff (src.still_keepText _ m.1),
          yields_bind_iff (Shape.Still.keep src d m.2), yields_pure_iff,
          yields_keepText_iff (keys m hm).isTree]
        constructor
        · rintro ⟨t, ht, v, hv, rfl⟩
          exact ⟨⟨t, ht, rfl⟩, hv⟩
        · rintro ⟨⟨t, ht, hk⟩, hv⟩
          exact ⟨t, ht, k.2, hv, by rw [← hk]⟩
  | _ => exact iff_of_false not_yields_stop (by simp [object, scalar])

end ActivityForge.Json
