import ActivityForge.Proofs.Json.Record

/-!
# Records that are kept whole

A value that is kept whole is matched with a record if the fields are found in its members, be it
an object (`ofMap?_iff`) or also a list (`value?_iff`).  Whether a value can be kept at all
(`CanKeep`) depends on its parts alone.
-/

namespace ActivityForge.Json

open Reading Walk

variable {α : Type} {src : Source} {keys : List String} {d : Nat}

/-! ## Values that can be kept -/

/-- The value can be kept whole. -/
def CanKeep (src : Source) (d : Nat) (v : Tree) : Prop := ∃ c, Yields (src.keepWhole d v) c

theorem treeMember_injective : Function.Injective fun m : String × Tree => (textTree m.1, m.2) := by
  intro m m' hm
  obtain ⟨h1, h2⟩ := Prod.mk.inj hm
  exact Prod.ext (textTree_inj.1 h1) h2

theorem object_inj {named named' : List (String × Tree)} (h : object named = object named') :
    named = named' :=
  List.map_injective_iff.2 treeMember_injective (Tree.dict.inj h).1

/-- Members can be kept together if each can be kept. -/
theorem exists_forall₂_iff {β γ : Type} {R : β → γ → Prop} {l : List β} :
    (∃ r, List.Forall₂ R l r) ↔ ∀ b ∈ l, ∃ c, R b c := by
  constructor
  · rintro ⟨r, h⟩ b hb
    obtain ⟨c, -, hc⟩ := exists_mem_of_forall₂ h.flip hb
    exact ⟨c, hc⟩
  · intro h
    induction l with
    | nil => exact ⟨[], .nil⟩
    | cons b l ih =>
      rw [List.forall_mem_cons] at h
      obtain ⟨c, hc⟩ := h.1
      obtain ⟨r, hr⟩ := ih h.2
      exact ⟨c :: r, .cons hc hr⟩

theorem canKeep_list_iff {items : List Tree} {depth : Nat} :
    CanKeep src depth (.list items none) ↔
      ∃ d, depth = d + 1 ∧ ∀ item ∈ items, CanKeep src d item := by
  simp only [CanKeep, yields_keepWhole_list, ← exists_forall₂_iff]
  constructor
  · rintro ⟨_, d, kept, hd, -, hkept, -⟩
    exact ⟨d, hd, kept, hkept⟩
  · rintro ⟨d, hd, kept, hkept⟩
    exact ⟨_, d, kept, hd, trivial, hkept, rfl⟩

theorem isKey_treeMembers (named : List (String × Tree)) : ∀ m ∈ treeMembers named, IsKey m.1 := by
  rw [treeMembers, List.forall_mem_map]
  exact fun m _ => .text m.1

theorem canKeep_object_iff {named : List (String × Tree)} {depth : Nat} :
    CanKeep src depth (object named) ↔ ∃ d, depth = d + 1 ∧ ∀ m ∈ named, CanKeep src d m.2 := by
  have hmembers (d : Nat) : (∀ m ∈ named, CanKeep src d m.2) ↔
      ∃ found : Dict Content, List.Forall₂ (SameKeys fun v k => Yields (src.keepWhole d v) k)
        named found := by
    rw [exists_forall₂_iff]
    exact forall₂_congr fun m _ => ⟨fun ⟨c, hc⟩ => ⟨(m.1, c), rfl, hc⟩, fun ⟨k, _, hk⟩ => ⟨k.2, hk⟩⟩
  constructor
  · rintro ⟨c, hc⟩
    obtain ⟨d, named', found, hd, heq, -, h⟩ :=
      (yields_keepWhole_dict (isKey_treeMembers named)).1 hc
    obtain rfl := object_inj heq
    exact ⟨d, hd, (hmembers d).2 ⟨found, h⟩⟩
  · rintro ⟨d, hd, h⟩
    obtain ⟨found, h⟩ := (hmembers d).1 h
    exact ⟨_, (yields_keepWhole_dict (isKey_treeMembers named)).2
      ⟨d, named, found, hd, rfl, rfl, h⟩⟩

/-! ## Scalars -/

theorem contentOf_inj {a b : Atom} (ha : IsPlain a) (hb : IsPlain b) :
    contentOf a = contentOf b ↔ a = b := by
  cases a <;> cases b <;> simp_all [contentOf, IsPlain]

theorem contentOf_ne_list (a : Atom) (items : List Content) : contentOf a ≠ .list items := by
  cases a <;> nofun

theorem contentOf_ne_map (a : Atom) (members : List (Content × Content)) :
    contentOf a ≠ .map members := by
  cases a <;> nofun

/-- A scalar is kept of that scalar only. -/
theorem eq_contentOf_iff {a : Atom} (ha : IsPlain a) {tree : Tree} (h : IsTree tree) {depth : Nat}
    {c : Content} (hc : Yields (src.keepWhole depth tree) c) :
    c = contentOf a ↔ tree = scalar a := by
  cases h with
  | scalar hb =>
    obtain rfl := (yields_keepWhole_scalar hb).1 hc
    rw [contentOf_inj hb ha, scalar_inj]
  | list =>
    obtain ⟨_, _, -, -, -, rfl⟩ := yields_keepWhole_list.1 hc
    exact iff_of_false (contentOf_ne_list a _).symm nofun
  | dict keys values =>
    obtain ⟨_, _, _, -, -, rfl, -⟩ := (yields_keepWhole_dict keys).1 hc
    exact iff_of_false (contentOf_ne_map a _).symm nofun
  | flawed => exact absurd hc not_yields_keepWhole_flawed

/-! ## Lists and maps -/

theorem list?_list_iff {item? : Content → Option α} {items : List Content} {l : List α} :
    Content.list? item? (.list items) = some l ↔
      List.Forall₂ (fun c a => item? c = some a) items l := by
  rw [Content.list?, mapM_eq_some_iff]

/-- Of an object whose keys are texts the values are matched one by one. -/
theorem dict?_objectContent_iff {value? : Content → Option α} {found : Dict Content} {m : Dict α} :
    Content.dict? value? (objectContent found) = some m ↔
      ∃ pairs, List.Forall₂ (SameKeys fun c a => value? c = some a) found pairs ∧
        Dict.ofPairs pairs = m := by
  simp only [objectContent, Content.dict?, Option.bind_eq_bind, Option.bind_eq_some_iff,
    mapM_eq_some_iff, contentMembers, List.forall₂_map_left_iff, Content.text?, Option.pure_def,
    Option.some.injEq]
  refine exists_congr fun pairs => and_congr_left fun _ => forall₂_iff_of_mem fun m _ pair => ?_
  constructor
  · rintro ⟨_, rfl, a, ha, rfl⟩
    exact ⟨rfl, ha⟩
  · rintro ⟨hkey, ha⟩
    exact ⟨m.1, rfl, pair.2, ha, Prod.ext hkey rfl⟩

/-! ## Records -/

/-- What is kept of the value of a member, whatever its key. -/
def KeptWhole (src : Source) (d : Nat) (_ : String) (v : Tree) (c : Content) : Prop :=
  Yields (src.keepWhole d v) c

variable {r : Fields α} {a : α}

theorem members?_contentMembers (found : Dict Content) :
    r.members? (contentMembers found) = some (knownMembers (r.fields.map Field.key) found) := by
  induction found with
  | nil => rfl
  | cons m found ih =>
    have hstep : r.members? (contentMembers (m :: found)) = (do
        let others ← r.members? (contentMembers found)
        if (r.fields.map Field.key).contains m.1 then some (m :: others) else some others) := rfl
    rw [hstep, ih, Option.bind_eq_bind, Option.bind_some]
    by_cases hkey : m.1 ∈ r.fields.map Field.key
    · rw [knownMembers_cons_of_mem hkey, if_pos (by simpa using hkey)]
    · rw [knownMembers_cons_of_not_mem hkey, if_neg (by simpa using hkey)]

theorem ofMap?_objectContent {found : Dict Content} :
    r.ofMap? (objectContent found) = some a ↔
      (Dict.keys (knownMembers (r.fields.map Field.key) found)).Nodup ∧
        r.build? (knownMembers (r.fields.map Field.key) found) = some a := by
  rw [objectContent, Fields.ofMap?, members?_contentMembers]
  simp only [Option.bind_eq_bind, Option.bind_some]
  split
  · next h => simp [h]
  · next h => simp [h]

/-- What a record keeps is matched as it was found. -/
theorem Finds.ofMap?_eq {known : String → Tree → Content → Prop} {unknown : Tree → Prop}
    {named : List (String × Tree)} {found : Dict Content}
    (h : Finds (r.fields.map Field.key) known unknown named found) :
    r.ofMap? (objectContent found) = some a ↔ r.build? found = some a := by
  have hall : knownMembers (r.fields.map Field.key) found = found := by
    refine knownMembers_of_forall_mem fun k hk => ?_
    obtain ⟨m, hm, hmk, -⟩ := exists_mem_of_forall₂ h.fields hk
    have hkey := (List.mem_filter.1 hm).2
    rw [← hmk]
    simpa using hkey
  rw [ofMap?_objectContent, hall, and_iff_right h.once]

theorem forall₂_knownMembers (keys : List String) {R : String → Tree → Content → Prop}
    {named : List (String × Tree)} {all : Dict Content}
    (h : List.Forall₂ (fun m k => m.1 = k.1 ∧ R m.1 m.2 k.2) named all) :
    List.Forall₂ (fun m k => m.1 = k.1 ∧ R m.1 m.2 k.2) (knownMembers keys named)
      (knownMembers keys all) := by
  induction h with
  | nil => exact .nil
  | @cons m k named all hmk _ ih =>
    by_cases hkey : m.1 ∈ keys
    · rw [knownMembers_cons_of_mem hkey, knownMembers_cons_of_mem (hmk.1 ▸ hkey)]
      exact .cons hmk ih
    · rwa [knownMembers_cons_of_not_mem hkey, knownMembers_cons_of_not_mem (hmk.1 ▸ hkey)]

theorem rightUnique_kept (src : Source) (d : Nat) :
    Relator.RightUnique fun (m : String × Tree) (k : String × Content) =>
      m.1 = k.1 ∧ KeptWhole src d m.1 m.2 k.2 :=
  fun _ _ _ h h' => Prod.ext (h.1.symm.trans h'.1) (h.2.unique h'.2)

theorem forall₂_zip {R : Tree → Content → Prop} (keys : List String) {items : List Tree}
    {kept : List Content} (h : List.Forall₂ R items kept) :
    List.Forall₂ (SameKeys R) (keys.zip items) (keys.zip kept) := by
  induction h generalizing keys with
  | nil => simp
  | cons hr _ ih =>
    cases keys with
    | nil => exact .nil
    | cons key keys => exact .cons ⟨rfl, hr⟩ (ih keys)

section Whole

variable {tree : Tree} (h : IsTree tree) {depth : Nat} {c : Content}
  (hc : Yields (src.keepWhole depth tree) c)

include h hc

/-- An object that is kept whole is a record if its fields are found in it. -/
theorem ofMap?_iff : r.ofMap? c = some a ↔ ∃ d named found, depth = d + 1 ∧
    tree = object named ∧
    Finds (r.fields.map Field.key) (KeptWhole src d) (CanKeep src d) named found ∧
    r.build? found = some a := by
  cases h with
  | @dict members cut keys _ =>
    obtain ⟨d, named, all, rfl, heq, rfl, hall⟩ := (yields_keepWhole_dict keys).1 hc
    have hknown := forall₂_knownMembers (r.fields.map Field.key) (R := KeptWhole src d) hall
    rw [ofMap?_objectContent]
    constructor
    · rintro ⟨honce, hbuild⟩
      refine ⟨d, named, _, rfl, heq, ⟨fun m hm _ => ?_, honce, hknown⟩, hbuild⟩
      obtain ⟨k, -, -, hk⟩ := exists_mem_of_forall₂ hall.flip hm
      exact ⟨k.2, hk⟩
    · rintro ⟨_, named', found, ⟨⟩, heq', hfinds, hbuild⟩
      obtain rfl := object_inj (heq.symm.trans heq')
      obtain rfl := (rightUnique_kept src d).forall₂ hknown hfinds.fields
      exact ⟨hfinds.once, hbuild⟩
  | list =>
    obtain ⟨d, kept, -, -, -, rfl⟩ := yields_keepWhole_list.1 hc
    exact iff_of_false nofun nofun
  | @scalar a ha =>
    obtain rfl := (yields_keepWhole_scalar ha).1 hc
    refine iff_of_false ?_ nofun
    cases a <;> nofun
  | flawed => exact absurd hc not_yields_keepWhole_flawed

theorem ofList?_iff (hkeys : (r.fields.map Field.key).Nodup) : r.ofList? c = some a ↔
    ∃ d items found, depth = d + 1 ∧ tree = .list items none ∧ items.length ≤ r.fields.length ∧
      (r.fields.drop items.length).all Field.mayLack = true ∧
      Finds (r.fields.map Field.key) (KeptWhole src d) (CanKeep src d)
        ((r.fields.map Field.key).zip items) found ∧
      r.build? found = some a := by
  cases h with
  | list =>
    obtain ⟨d, kept, rfl, rfl, hkept, rfl⟩ := yields_keepWhole_list.1 hc
    have hzip := forall₂_zip (r.fields.map Field.key) hkept
    have hlist : r.ofList? (.list kept) = some a ↔
        (kept.length ≤ r.fields.length ∧ (r.fields.drop kept.length).all Field.mayLack = true) ∧
          r.build? ((r.fields.map Field.key).zip kept) = some a := by
      rw [Fields.ofList?, Option.ite_none_right_eq_some, Bool.and_eq_true, decide_eq_true_eq]
    rw [hlist, ← hkept.length_eq]
    constructor
    · rintro ⟨⟨fits, lack⟩, hbuild⟩
      exact ⟨d, _, _, rfl, rfl, fits, lack, (finds_zip_iff hkeys).2 hzip, hbuild⟩
    · rintro ⟨_, _, found, ⟨⟩, ⟨⟩, fits, lack, hfinds, hbuild⟩
      obtain rfl := (rightUnique_kept src d).forall₂ hzip ((finds_zip_iff hkeys).1 hfinds)
      exact ⟨⟨fits, lack⟩, hbuild⟩
  | @dict members cut keys _ =>
    obtain ⟨d, named, all, -, -, rfl, -⟩ := (yields_keepWhole_dict keys).1 hc
    exact iff_of_false nofun nofun
  | @scalar a ha =>
    obtain rfl := (yields_keepWhole_scalar ha).1 hc
    refine iff_of_false ?_ nofun
    cases a <;> nofun
  | flawed => exact absurd hc not_yields_keepWhole_flawed

/-- A value that is kept whole is a record if the fields are found in its members. -/
theorem value?_iff (hkeys : (r.fields.map Field.key).Nodup) : r.value? c = some a ↔
    ∃ d named found, depth = d + 1 ∧ Members r.fields tree named ∧
      Finds (r.fields.map Field.key) (KeptWhole src d) (CanKeep src d) named found ∧
      r.build? found = some a := by
  rw [Fields.value?, Option.or_eq_some_iff]
  constructor
  · rintro (hmap | ⟨-, hlist⟩)
    · obtain ⟨d, named, found, hd, rfl, hfinds, hbuild⟩ := (ofMap?_iff h hc).1 hmap
      exact ⟨d, named, found, hd, .object named, hfinds, hbuild⟩
    · obtain ⟨d, items, found, hd, rfl, fits, lack, hfinds, hbuild⟩ :=
        (ofList?_iff h hc hkeys).1 hlist
      exact ⟨d, _, found, hd, .list items fits lack, hfinds, hbuild⟩
  · rintro ⟨d, named, found, hd, hmembers, hfinds, hbuild⟩
    cases hmembers with
    | object => exact Or.inl ((ofMap?_iff h hc).2 ⟨d, named, found, hd, rfl, hfinds, hbuild⟩)
    | list items fits lack =>
      refine Or.inr ⟨Option.eq_none_iff_forall_ne_some.2 fun b hb => ?_,
        (ofList?_iff h hc hkeys).2 ⟨d, items, found, hd, rfl, fits, lack, hfinds, hbuild⟩⟩
      obtain ⟨_, _, _, -, htree, -⟩ := (ofMap?_iff h hc).1 hb
      cases htree

end Whole

end ActivityForge.Json
