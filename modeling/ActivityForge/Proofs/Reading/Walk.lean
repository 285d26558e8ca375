import ActivityForge.Proofs.Traversal
import ActivityForge.Reading.Shape

/-!
# Walks that follow no alias

`w.Yields a` says that a walk with no jump left ends with `a`.  Then no alias can be followed, so
no step changes the number of jumps (`Walk.Still`), and a sequence of steps yields what its steps
yield one after the other (`yields_bind_iff`, `yields_mapM_iff`).  All shapes are made of such steps
(`Shape.Still`).
-/

namespace ActivityForge.Reading

namespace Walk

variable {α β : Type}

/-- The walk ends with `a` if no jump is left. -/
def Yields (w : Walk α) (a : α) : Prop := w.run 0 = .ok (a, 0)

/-- Without jumps left there are none left afterwards. -/
def Still (w : Walk α) : Prop := ∀ a n, w.run 0 = .ok (a, n) → n = 0

/-! ## Steps -/

@[simp] theorem yields_pure_iff {a b : α} : Yields (pure a) b ↔ a = b := by
  rw [Yields, StateT.run_pure, pure_eq_ok_iff, Prod.mk.injEq, and_iff_left rfl]

@[simp] theorem not_yields_stop {f : Fault} {a : α} : ¬ Yields (stop f) a := nofun

@[simp] theorem yields_stopIf_iff {f : Option Fault} {u : Unit} :
    Yields (stopIf f) u ↔ f = none := by
  cases f with
  | none => simp [stopIf]
  | some f => simp [stopIf]

theorem still_pure (a : α) : Still (pure a) := by
  intro b n h
  rw [StateT.run_pure, pure_eq_ok_iff, Prod.mk.injEq] at h
  exact h.2.symm

theorem still_stop (f : Fault) : Still (stop f : Walk α) := nofun

theorem still_stopIf (f : Option Fault) : Still (stopIf f) := by
  cases f with
  | none => exact still_pure ()
  | some f => exact still_stop f

theorem Still.bind {w : Walk α} {f : α → Walk β} (hw : Still w) (hf : ∀ a, Still (f a)) :
    Still (w >>= f) := by
  intro b n h
  rw [StateT.run_bind, bind_eq_ok_iff] at h
  obtain ⟨⟨a, m⟩, ha, hb⟩ := h
  obtain rfl := hw a m ha
  exact hf a b n hb

theorem yields_bind_iff {w : Walk α} {f : α → Walk β} {b : β} (hw : Still w) :
    Yields (w >>= f) b ↔ ∃ a, Yields w a ∧ Yields (f a) b := by
  rw [Yields, StateT.run_bind, bind_eq_ok_iff]
  constructor
  · rintro ⟨⟨a, m⟩, ha, hb⟩
    obtain rfl := hw a m ha
    exact ⟨a, ha, hb⟩
  · rintro ⟨a, ha, hb⟩
    exact ⟨(a, 0), ha, hb⟩

theorem Still.map {w : Walk α} (hw : Still w) (f : α → β) : Still (f <$> w) := by
  have hbind : Still (w >>= fun a => pure (f a)) := hw.bind fun a => still_pure (f a)
  rwa [map_eq_pure_bind]

theorem yields_map_iff {w : Walk α} {f : α → β} {b : β} (hw : Still w) :
    Yields (f <$> w) b ↔ ∃ a, Yields w a ∧ f a = b := by
  simp only [map_eq_pure_bind, yields_bind_iff hw, yields_pure_iff]

theorem Yields.unique {w : Walk α} {a b : α} (ha : Yields w a) (hb : Yields w b) : a = b :=
  (Prod.mk.inj (Except.ok.inj (ha.symm.trans hb))).1

theorem still_mapM {f : α → Walk β} {l : List α} (hf : ∀ a ∈ l, Still (f a)) :
    Still (l.mapM f) := by
  induction l with
  | nil =>
    rw [List.mapM_nil]
    exact still_pure []
  | cons a l ih =>
    rw [List.forall_mem_cons] at hf
    rw [List.mapM_cons]
    exact hf.1.bind fun b => (ih hf.2).bind fun bs => still_pure (b :: bs)

/-- The steps of a traversal yield the parts of what it yields. -/
theorem yields_mapM_iff {f : α → Walk β} {l : List α} {r : List β} (hf : ∀ a ∈ l, Still (f a)) :
    Yields (l.mapM f) r ↔ List.Forall₂ (fun a b => Yields (f a) b) l r := by
  induction l generalizing r with
  | nil => rw [List.mapM_nil, yields_pure_iff, List.forall₂_nil_left_iff, eq_comm]
  | cons a l ih =>
    rw [List.forall_mem_cons] at hf
    simp only [List.mapM_cons, yields_bind_iff hf.1, yields_bind_iff (still_mapM hf.2), ih hf.2,
      yields_pure_iff, List.forall₂_cons_left_iff]
    constructor
    · rintro ⟨b, hb, rest, hrest, rfl⟩
      exact ⟨b, rest, hb, hrest, rfl⟩
    · rintro ⟨b, rest, hb, hrest, rfl⟩
      exact ⟨b, hb, rest, hrest, rfl⟩

end Walk

open Walk

/-! ## Values that are kept whole -/

namespace Source

variable (src : Source)

theorem still_follow (tree : Tree) : Still (src.follow tree) := by
  match tree with
  | .alias anchor =>
    -- Following is refused when no jump is left.
    intro a n h
    exact absurd h nofun
  | .scalar _ | .list .. | .dict .. | .tagged _ | .flawed .. => exact still_pure _

theorem still_settle (tree : Tree) : Still (src.settle tree) := by
  refine (src.still_follow tree).bind fun value => ?_
  split <;> exact still_pure _

theorem still_keepText (expected : String) (tree : Tree) : Still (src.keepText expected tree) := by
  refine (src.still_settle tree).bind fun value => ?_
  split
  · exact still_pure _
  · exact still_stop _

theorem still_keepFieldName (tree : Tree) : Still (src.keepFieldName tree) := by
  refine (src.still_settle tree).bind fun value => ?_
  split
  · exact still_pure _
  · exact still_stop _
  · exact still_stop _

theorem still_keepScalar (s : Scalar) : Still (src.keepScalar s) := by
  unfold keepScalar
  split <;> first | exact still_pure _ | exact still_stop _

theorem still_keepBy {inner : Option (Tree → Walk Content)}
    (hinner : ∀ keep, inner = some keep → ∀ tree, Still (keep tree)) (tree : Tree) :
    Still (src.keepBy inner tree) := by
  refine (src.still_follow tree).bind fun value => ?_
  split
  · exact src.still_keepScalar _
  · next keep =>
    exact (still_mapM fun item _ => hinner keep rfl item).bind fun _ =>
      (still_stopIf _).bind fun _ => still_pure _
  · next keep =>
    refine (still_mapM fun (key, value) _ => ?_).bind fun _ =>
      (still_stopIf _).bind fun _ => still_pure _
    exact (hinner keep rfl key).bind fun _ => (hinner keep rfl value).bind fun _ => still_pure _
  all_goals exact still_stop _

theorem still_keepWhole (depth : Nat) (tree : Tree) : Still (src.keepWhole depth tree) := by
  induction depth generalizing tree with
  | zero => exact src.still_keepBy (by simp) tree
  | succ depth ih =>
    refine src.still_keepBy (fun keep hkeep => ?_) tree
    obtain rfl := Option.some.inj hkeep
    exact ih

end Source

/-! ## Shapes -/

class Shape.Still {α : Type} (s : Shape α) : Prop where
  keep : ∀ src depth tree, Walk.Still (s.keep src depth tree)

class Fields.Still {α : Type} (r : Fields α) : Prop where
  keep : ∀ field ∈ r.fields, ∀ src depth tree, Walk.Still (field.keep src depth tree)

namespace Shape

variable {α : Type}

instance : Still text where
  keep src _ tree := (src.still_keepText _ tree).map Content.text

instance : Still flag where
  keep src _ tree := by
    refine (src.still_settle tree).bind fun value => ?_
    split
    · exact still_pure _
    · exact still_stop _

instance (s : Shape α) [s.Still] : Still (optional s) where
  keep src depth tree := by
    refine (src.still_follow tree).bind fun value => ?_
    split
    · exact still_pure _
    · exact still_stop _
    · exact Still.keep src depth value

instance (s : Shape α) [s.Still] : Still (list s) where
  keep src depth tree := by
    refine (src.still_settle tree).bind fun value => ?_
    split
    · exact (still_mapM fun item _ => Still.keep src _ item).bind fun _ =>
        (still_stopIf _).bind fun _ => still_pure _
    · exact still_stop _
    · exact still_pure _
    · exact still_stop _

instance (s : Shape α) [s.Still] : Still (dict s) where
  keep src depth tree := by
    refine (src.still_settle tree).bind fun value => ?_
    split
    · refine (still_mapM fun (key, value) _ => ?_).bind fun _ =>
        (still_stopIf _).bind fun _ => still_pure _
      exact (src.still_keepText _ key).bind fun _ => (Still.keep src _ value).bind fun _ =>
        still_pure _
    · exact still_stop _
    · exact still_pure _
    · exact still_stop _

instance (value? : Content → Option α) : Still (whole value?) where
  keep src depth tree := src.still_keepWhole depth tree

instance (name : String) (value? : Content → Option α) : Still (choice name value?) where
  keep src depth tree := by
    refine (src.still_keepWhole depth tree).bind fun kept => ?_
    dsimp only
    split
    · exact (still_stop _).bind fun _ => still_pure _
    · exact still_pure _

end Shape

namespace Fields

variable {α β : Type}

instance (f : α) : Still (make f) where
  keep := by simp [make]

theorem still_withField (r : Fields (α → β)) [r.Still] {field : Field}
    (hfield : ∀ src depth tree, Walk.Still (field.keep src depth tree))
    (value? : Content → Option α) (missing : Option α) :
    Still (r.withField field value? missing) where
  keep := by
    rw [withField, List.forall_mem_append, List.forall_mem_singleton]
    exact ⟨Still.keep, hfield⟩

instance (r : Fields (α → β)) [r.Still] (key : String) (s : Shape α) [s.Still] :
    Still (r.required key s) :=
  r.still_withField Shape.Still.keep _ _

instance (r : Fields (Option α → β)) [r.Still] (key : String) (s : Shape α) [s.Still] :
    Still (r.optional key s) :=
  r.still_withField (Shape.Still.keep (s := s.optional)) _ _

instance (r : Fields (α → β)) [r.Still] (key : String) (s : Shape α) [s.Still] (value : α) :
    Still (r.defaulted key s value) :=
  r.still_withField Shape.Still.keep _ _

variable {fields : List Field}
  (hfields : ∀ field ∈ fields, ∀ src depth tree, Walk.Still (field.keep src depth tree))

include hfields

theorem still_keepMembers (src : Source) (depth : Nat) (seen : List String)
    (members : List (Tree × Tree)) : Walk.Still (keepMembers fields src depth seen members) := by
  induction members generalizing seen with
  | nil => exact still_pure []
  | cons m rest ih =>
    refine (src.still_keepFieldName m.1).bind fun name => ?_
    dsimp only
    split
    · next field hfield =>
      have hkeep := hfields field (List.mem_of_find?_eq_some hfield) src depth m.2
      have hrest : Walk.Still (do
          let kept ← field.keep src depth m.2
          let others ← keepMembers fields src depth (name :: seen) rest
          pure ((Content.text name, kept) :: others)) :=
        hkeep.bind fun _ => (ih _).bind fun _ => still_pure _
      split
      · exact (still_stop _).bind fun _ => hrest
      · exact hrest
    · exact (still_stopIf _).bind fun _ => ih seen

theorem still_keepPlaces (name : String) (count : Nat) (src : Source) (depth : Nat)
    (cut : Option Fault) (index : Nat) (items : List Tree) :
    Walk.Still (keepPlaces name count src depth cut index fields items) := by
  induction fields generalizing index items with
  | nil =>
    cases items with
    | nil => exact (still_stopIf cut).bind fun _ => still_pure []
    | cons => exact still_stop _
  | cons field fields ih =>
    rw [List.forall_mem_cons] at hfields
    cases items with
    | nil =>
      refine (still_stopIf cut).bind fun _ => ?_
      dsimp only
      split
      · exact (still_stop _).bind fun _ => ih hfields.2 _ _
      · exact ih hfields.2 _ _
    | cons item items =>
      exact (hfields.1 src depth item).bind fun _ => (ih hfields.2 _ _).bind fun _ => still_pure _

end Fields

instance {α : Type} (name : String) (r : Fields α) [r.Still] : (Shape.record name r).Still where
  keep src depth tree := by
    refine (src.still_settle tree).bind fun value => ?_
    split
    · exact (Fields.still_keepMembers Fields.Still.keep src _ _ _).bind fun _ =>
        (still_stopIf _).bind fun _ => (still_stopIf _).bind fun _ => still_pure _
    · split
      · exact (Fields.still_keepPlaces Fields.Still.keep name _ src _ _ 0 _).bind fun _ =>
          still_pure _
      · exact still_stop _
    · exact (still_stopIf _).bind fun _ => still_pure _
    all_goals exact still_stop _

end ActivityForge.Reading
