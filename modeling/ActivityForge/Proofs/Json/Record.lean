import ActivityForge.Proofs.Dict
import ActivityForge.Proofs.Json.Kept

/-!
# Records in JSON

A record is written as an object or as the list of its fields in order; `Members` are its members
in either case.  `Finds` says what is found in them: each field once at most, and nothing that is
wrong in a member that is no field.  This is what a record keeps (`yields_record_iff`).
-/

namespace ActivityForge.Json

open Reading Walk

/-! ## Members -/

/-- The members that are fields. -/
def knownMembers {α : Type} (keys : List String) (named : List (String × α)) : List (String × α) :=
  named.filter (·.1 ∈ keys)

/-- What is found in members: `known key v c` if `c` is kept of the value `v` of a field, and
`unknown v` if the value `v` of any other member is no obstacle. -/
structure Finds (keys : List String) (known : String → Tree → Content → Prop)
    (unknown : Tree → Prop) (named : List (String × Tree)) (found : Dict Content) : Prop where
  others : ∀ m ∈ named, m.1 ∉ keys → unknown m.2
  once : found.keys.Nodup
  fields : List.Forall₂ (fun m k => m.1 = k.1 ∧ known m.1 m.2 k.2) (knownMembers keys named) found

variable {α : Type} {src : Source} {keys : List String}

/-- The members of a record, be it an object or a list. -/
inductive Members (fields : List Field) : Tree → List (String × Tree) → Prop
  | object (named : List (String × Tree)) : Members fields (object named) named
  | list (items : List Tree) (fits : items.length ≤ fields.length)
      (lack : (fields.drop items.length).all Field.mayLack = true) :
      Members fields (.list items none) ((fields.map Field.key).zip items)

/-! ## Records that are kept member by member -/

/-- What the field under a key keeps. -/
def KeptField (fields : List Field) (src : Source) (d : Nat) (key : String) (v : Tree)
    (c : Content) : Prop :=
  ∃ field, fields.find? (·.key = key) = some field ∧ Yields (field.keep src d v) c

/-- The walk over the members of an object; `seen` are the fields met before. -/
inductive Keeps (fields : List Field) (src : Source) (d : Nat) :
    List String → List (String × Tree) → Dict Content → Prop
  | nil {seen : List String} : Keeps fields src d seen [] []
  | known {seen : List String} {key : String} {v : Tree} {c : Content}
      {named : List (String × Tree)} {found : Dict Content} (hnew : key ∉ seen)
      (hkeep : KeptField fields src d key v c)
      (rest : Keeps fields src d (key :: seen) named found) :
      Keeps fields src d seen ((key, v) :: named) ((key, c) :: found)
  | unknown {seen : List String} {key : String} {v : Tree} {named : List (String × Tree)}
      {found : Dict Content} (hkey : key ∉ fields.map Field.key) (hskip : v.skip? = none)
      (rest : Keeps fields src d seen named found) :
      Keeps fields src d seen ((key, v) :: named) found

variable {fields : List Field} {d : Nat}

theorem find?_eq_none_iff {key : String} :
    fields.find? (·.key = key) = none ↔ key ∉ fields.map Field.key := by
  simp only [List.find?_eq_none, List.mem_map, decide_eq_true_eq, not_exists, not_and]

section Keeps

variable (hfields : ∀ field ∈ fields, ∀ src depth tree, Walk.Still (field.keep src depth tree))

include hfields

theorem yields_of_keeps {seen : List String} {named : List (String × Tree)} {found : Dict Content}
    (h : Keeps fields src d seen named found) :
    Yields (Fields.keepMembers fields src d seen (treeMembers named)) (contentMembers found) := by
  induction h with
  | nil => exact yields_pure_iff.2 rfl
  | @known seen key v c named found hnew hkeep _ ih =>
    obtain ⟨field, hfind, hkeep⟩ := hkeep
    have hname : Yields (src.keepFieldName (textTree key)) key :=
      (yields_keepFieldName_iff (IsKey.text key).isTree).2 rfl
    have hstill := hfields field (List.mem_of_find?_eq_some hfind) src d v
    refine (yields_bind_iff (src.still_keepFieldName _)).2 ⟨key, hname, ?_⟩
    rw [hfind]
    dsimp only
    rw [if_neg (by simpa using hnew)]
    refine (yields_bind_iff hstill).2 ⟨c, hkeep, ?_⟩
    refine (yields_bind_iff (Fields.still_keepMembers hfields src d _ _)).2 ⟨_, ih, ?_⟩
    exact yields_pure_iff.2 rfl
  | @unknown seen key v named found hkey hskip _ ih =>
    have hname : Yields (src.keepFieldName (textTree key)) key :=
      (yields_keepFieldName_iff (IsKey.text key).isTree).2 rfl
    refine (yields_bind_iff (src.still_keepFieldName _)).2 ⟨key, hname, ?_⟩
    rw [find?_eq_none_iff.2 hkey]
    exact (yields_bind_iff (still_stopIf _)).2 ⟨(), yields_stopIf_iff.2 hskip, ih⟩

theorem keeps_of_yields {members : List (Tree × Tree)} (hkeys : ∀ m ∈ members, IsKey m.1)
    {seen : List String} {kept : List (Content × Content)}
    (h : Yields (Fields.keepMembers fields src d seen members) kept) :
    ∃ named found, members = treeMembers named ∧ kept = contentMembers found ∧
      Keeps fields src d seen named found := by
  induction members generalizing seen kept with
  | nil =>
    obtain rfl := yields_pure_iff.1 h
    exact ⟨[], [], rfl, rfl, .nil⟩
  | cons m members ih =>
    rw [List.forall_mem_cons] at hkeys
    obtain ⟨key, hkey, h⟩ := (yields_bind_iff (src.still_keepFieldName _)).1 h
    rw [yields_keepFieldName_iff hkeys.1.isTree] at hkey
    split at h
    · next field hfind =>
      have hstill := hfields field (List.mem_of_find?_eq_some hfind) src d m.2
      split at h
      · exact absurd ((yields_bind_iff (still_stop _)).1 h) (by simp)
      · next hnew =>
        obtain ⟨c, hc, h⟩ := (yields_bind_iff hstill).1 h
        obtain ⟨others, hothers, h⟩ :=
          (yields_bind_iff (Fields.still_keepMembers hfields src d _ _)).1 h
        obtain rfl := yields_pure_iff.1 h
        obtain ⟨named, found, rfl, rfl, hrest⟩ := ih hkeys.2 hothers
        refine ⟨(key, m.2) :: named, (key, c) :: found, ?_, rfl, ?_⟩
        · exact congrArg (· :: treeMembers named) (Prod.ext hkey rfl)
        · exact .known (by simpa using hnew) ⟨field, hfind, hc⟩ hrest
    · next hfind =>
      obtain ⟨_, hskip, h⟩ := (yields_bind_iff (still_stopIf _)).1 h
      obtain ⟨named, found, rfl, rfl, hrest⟩ := ih hkeys.2 h
      refine ⟨(key, m.2) :: named, found, ?_, rfl, ?_⟩
      · exact congrArg (· :: treeMembers named) (Prod.ext hkey rfl)
      · exact .unknown (find?_eq_none_iff.1 hfind) (yields_stopIf_iff.1 hskip) hrest

end Keeps

theorem KeptField.mem_keys {key : String} {v : Tree} {c : Content}
    (h : KeptField fields src d key v c) : key ∈ fields.map Field.key := by
  obtain ⟨field, hfind, -⟩ := h
  by_contra hkey
  rw [find?_eq_none_iff.2 hkey] at hfind
  cases hfind

theorem knownMembers_cons_of_mem {m : String × α} {named : List (String × α)} (h : m.1 ∈ keys) :
    knownMembers keys (m :: named) = m :: knownMembers keys named :=
  List.filter_cons_of_pos (by simpa using h)

theorem knownMembers_cons_of_not_mem {m : String × α} {named : List (String × α)}
    (h : m.1 ∉ keys) : knownMembers keys (m :: named) = knownMembers keys named :=
  List.filter_cons_of_neg (by simpa using h)

theorem Keeps.finds {seen : List String} {named : List (String × Tree)} {found : Dict Content}
    (h : Keeps fields src d seen named found) :
    Finds (fields.map Field.key) (KeptField fields src d) (·.skip? = none) named found ∧
      ∀ key ∈ found.keys, key ∉ seen := by
  induction h with
  | nil => exact ⟨⟨by simp, List.nodup_nil, .nil⟩, by simp [Dict.keys]⟩
  | known hnew hkeep _ ih =>
    obtain ⟨⟨hothers, honce, hfields⟩, hseen⟩ := ih
    refine ⟨⟨?_, List.nodup_cons.2 ⟨fun hmem => ?_, honce⟩, ?_⟩, List.forall_mem_cons.2 ⟨hnew, ?_⟩⟩
    · exact List.forall_mem_cons.2 ⟨fun hkey => absurd hkeep.mem_keys hkey, hothers⟩
    · exact hseen _ hmem List.mem_cons_self
    · rw [knownMembers_cons_of_mem hkeep.mem_keys]
      exact .cons ⟨rfl, hkeep⟩ hfields
    · exact fun key hkey hmem => hseen key hkey (List.mem_cons_of_mem _ hmem)
  | unknown hkey hskip _ ih =>
    obtain ⟨⟨hothers, honce, hfields⟩, hseen⟩ := ih
    refine ⟨⟨List.forall_mem_cons.2 ⟨fun _ => hskip, hothers⟩, honce, ?_⟩, hseen⟩
    rwa [knownMembers_cons_of_not_mem hkey]

theorem keeps_of_finds {named : List (String × Tree)} {found : Dict Content}
    (h : Finds (fields.map Field.key) (KeptField fields src d) (·.skip? = none) named found)
    {seen : List String} (hseen : ∀ key ∈ found.keys, key ∉ seen) :
    Keeps fields src d seen named found := by
  induction named generalizing found seen with
  | nil =>
    obtain ⟨-, -, hfields⟩ := h
    cases hfields
    exact .nil
  | cons m named ih =>
    obtain ⟨hothers, honce, hfields⟩ := h
    rw [List.forall_mem_cons] at hothers
    by_cases hkey : m.1 ∈ fields.map Field.key
    · rw [knownMembers_cons_of_mem hkey] at hfields
      cases hfields with
      | @cons _ k _ found hmk hrest =>
        obtain ⟨key, c⟩ := k
        obtain ⟨rfl, hkeep⟩ := hmk
        rw [Dict.keys, List.map_cons, List.nodup_cons] at honce
        rw [Dict.keys, List.map_cons, List.forall_mem_cons] at hseen
        refine .known hseen.1 hkeep (ih ⟨hothers.2, honce.2, hrest⟩ fun key hmem => ?_)
        rw [List.mem_cons, not_or]
        exact ⟨fun heq => honce.1 (heq ▸ hmem), hseen.2 key hmem⟩
    · rw [knownMembers_cons_of_not_mem hkey] at hfields
      exact .unknown hkey (hothers.1 hkey) (ih ⟨hothers.2, honce, hfields⟩ hseen)

theorem keys_eq_of_forall₂ {β : Type} {R : String × α → String × β → Prop} {named : Dict α}
    {found : Dict β} (h : List.Forall₂ (fun m k => m.1 = k.1 ∧ R m k) named found) :
    found.keys = named.keys := by
  rw [Dict.keys, Dict.keys, eq_comm, ← List.forall₂_eq_eq_eq, List.forall₂_map_left_iff,
    List.forall₂_map_right_iff]
  exact h.imp fun _ _ hmk => hmk.1

section Finds

variable {known : String → Tree → Content → Prop} {unknown : Tree → Prop}
  {named : List (String × Tree)} {found : Dict Content} {key : String} {v : Tree} {c : Content}

/-- What is found under a key is kept of a member. -/
theorem Finds.exists_member (h : Finds keys known unknown named found)
    (hc : found.lookup key = some c) : ∃ v, (key, v) ∈ named ∧ known key v c := by
  obtain ⟨⟨_, v⟩, hm, rfl, hv⟩ := exists_mem_of_forall₂ h.fields (Dict.mem_of_lookup hc)
  exact ⟨v, (List.mem_filter.1 hm).1, hv⟩

/-- Of a member that is a field something is found. -/
theorem Finds.exists_lookup (h : Finds keys known unknown named found) (hkey : key ∈ keys)
    (hv : (key, v) ∈ named) : ∃ c, found.lookup key = some c ∧ known key v c := by
  have hm : (key, v) ∈ knownMembers keys named :=
    List.mem_filter.2 ⟨hv, decide_eq_true hkey⟩
  obtain ⟨⟨_, c⟩, hk, rfl, hc⟩ := exists_mem_of_forall₂ h.fields.flip hm
  exact ⟨c, Dict.lookup_of_nodup h.once hk, hc⟩

end Finds

/-! ## Records that are written as lists -/

theorem knownMembers_of_forall_mem {named : List (String × α)} (h : ∀ m ∈ named, m.1 ∈ keys) :
    knownMembers keys named = named :=
  List.filter_eq_self.2 fun m hm => by simpa using h m hm

theorem mem_of_mem_zip {m : String × α} {items : List α} (h : m ∈ keys.zip items) : m.1 ∈ keys :=
  (List.of_mem_zip (a := m.1) (b := m.2) h).1

theorem sublist_keys_zip (keys : List String) (items : List α) :
    ((keys.zip items).map Prod.fst).Sublist keys := by
  induction keys generalizing items with
  | nil => simp
  | cons key keys ih =>
    cases items with
    | nil => simp
    | cons item items => exact (ih items).cons_cons key

/-- The places of a list are members under the keys of the fields in order. -/
theorem finds_zip_iff {known : String → Tree → Content → Prop} {unknown : Tree → Prop}
    (hkeys : keys.Nodup) {items : List Tree} {found : Dict Content} :
    Finds keys known unknown (keys.zip items) found ↔
      List.Forall₂ (fun m k => m.1 = k.1 ∧ known m.1 m.2 k.2) (keys.zip items) found := by
  have hall : knownMembers keys (keys.zip items) = keys.zip items :=
    knownMembers_of_forall_mem fun m hm => mem_of_mem_zip hm
  constructor
  · intro h
    simpa only [hall] using h.fields
  · intro h
    refine ⟨fun m hm hkey => absurd (mem_of_mem_zip hm) hkey, ?_, hall.symm ▸ h⟩
    rw [keys_eq_of_forall₂ h]
    exact hkeys.sublist (sublist_keys_zip keys items)

section Places

variable (hfields : ∀ field ∈ fields, ∀ src depth tree, Walk.Still (field.keep src depth tree))

include hfields

variable {name : String} {count index : Nat} {cut : Option Fault} {kept : List (Content × Content)}

omit hfields in
theorem yields_keepPlaces_nil_iff :
    Yields (Fields.keepPlaces name count src d cut index [] []) kept ↔ cut = none ∧ kept = [] := by
  rw [Fields.keepPlaces, yields_bind_iff (still_stopIf cut)]
  simp [eq_comm]

omit hfields in
/-- A field without an item has to be one that may lack. -/
theorem yields_keepPlaces_lacking_iff {field : Field} :
    Yields (Fields.keepPlaces name count src d cut index (field :: fields) []) kept ↔
      cut = none ∧ field.mayLack = true ∧
        Yields (Fields.keepPlaces name count src d cut (index + 1) fields []) kept := by
  rw [Fields.keepPlaces, yields_bind_iff (still_stopIf cut)]
  cases hlack : field.mayLack with
  | true => simp
  | false =>
    refine iff_of_false ?_ fun h => absurd h.2.1 Bool.false_ne_true
    rintro ⟨_, _, h⟩
    exact absurd ((yields_bind_iff (still_stop _)).1 h) (by simp)

theorem yields_keepPlaces_cons_iff {field : Field} (hfield : ∀ src d tree,
      Walk.Still (field.keep src d tree)) {item : Tree} {items : List Tree} :
    Yields (Fields.keepPlaces name count src d cut index (field :: fields) (item :: items)) kept ↔
      ∃ c others, Yields (field.keep src d item) c ∧
        Yields (Fields.keepPlaces name count src d cut (index + 1) fields items) others ∧
        (.text field.key, c) :: others = kept := by
  have hstill := Fields.still_keepPlaces hfields name count src d cut (index + 1) items
  simp only [Fields.keepPlaces, yields_bind_iff (hfield src d item), yields_bind_iff hstill,
    yields_pure_iff, exists_and_left]

theorem yields_keepPlaces_iff {items : List Tree} :
    Yields (Fields.keepPlaces name count src d cut index fields items) kept ↔
      cut = none ∧ items.length ≤ fields.length ∧
      (fields.drop items.length).all Field.mayLack = true ∧
      ∃ found : Dict Content, kept = contentMembers found ∧
        List.Forall₂ (fun p k => p.1.key = k.1 ∧ Yields (p.1.keep src d p.2) k.2)
          (fields.zip items) found := by
  induction fields generalizing index items kept with
  | nil =>
    cases items with
    | nil =>
      rw [yields_keepPlaces_nil_iff]
      simp [contentMembers]
    | cons => exact iff_of_false not_yields_stop fun h => absurd h.2.1 (by simp)
  | cons field fields ih =>
    rw [List.forall_mem_cons] at hfields
    cases items with
    | nil =>
      rw [yields_keepPlaces_lacking_iff, ih hfields.2]
      simp [and_assoc, and_left_comm]
    | cons item items =>
      rw [yields_keepPlaces_cons_iff hfields.2 hfields.1]
      simp only [ih hfields.2, List.length_cons, Nat.add_le_add_iff_right, List.drop_succ_cons,
        List.zip_cons_cons]
      constructor
      · rintro ⟨c, _, hc, ⟨hcut, hlength, hlack, found, rfl, h⟩, rfl⟩
        exact ⟨hcut, hlength, hlack, (field.key, c) :: found, rfl, .cons ⟨rfl, hc⟩ h⟩
      · rintro ⟨hcut, hlength, hlack, _, rfl, h⟩
        cases h with
        | @cons _ k _ found hk hrest =>
          obtain ⟨key, c⟩ := k
          obtain ⟨rfl, hc⟩ := hk
          exact ⟨c, _, hc, ⟨hcut, hlength, hlack, found, rfl, hrest⟩, rfl⟩

end Places

/-! ## Records -/

theorem find?_key_of_mem (hkeys : (fields.map Field.key).Nodup) {field : Field}
    (hfield : field ∈ fields) : fields.find? (·.key = field.key) = some field := by
  induction fields with
  | nil => cases hfield
  | cons first rest ih =>
    rw [List.map_cons, List.nodup_cons] at hkeys
    rcases List.mem_cons.1 hfield with rfl | hfield
    · exact List.find?_cons_of_pos (by simp)
    · have hne : first.key ≠ field.key := fun heq =>
        hkeys.1 (heq ▸ List.mem_map.2 ⟨field, hfield, rfl⟩)
      rw [List.find?_cons_of_neg (by simpa using hne), ih hkeys.2 hfield]

theorem keptField_key_iff (hkeys : (fields.map Field.key).Nodup) {field : Field}
    (hfield : field ∈ fields) {v : Tree} {c : Content} :
    KeptField fields src d field.key v c ↔ Yields (field.keep src d v) c := by
  simp [KeptField, find?_key_of_mem hkeys hfield]

/-- The places of a list keep what the members under the keys of their fields do. -/
theorem forall₂_places_iff (hkeys : (fields.map Field.key).Nodup) {items : List Tree}
    {found : Dict Content} :
    List.Forall₂ (fun p k => p.1.key = k.1 ∧ Yields (p.1.keep src d p.2) k.2)
        (fields.zip items) found ↔
      Finds (fields.map Field.key) (KeptField fields src d) (·.skip? = none)
        ((fields.map Field.key).zip items) found := by
  rw [finds_zip_iff hkeys, List.zip_map_left, List.forall₂_map_left_iff]
  refine forall₂_iff_of_mem fun p hp k => ?_
  have hfield : p.1 ∈ fields := (List.of_mem_zip (a := p.1) (b := p.2) hp).1
  simp only [Prod.map_fst, Prod.map_snd, id_eq, keptField_key_iff hkeys hfield]

theorem firstMissing?_eq_none_iff {found : Dict Content} :
    Fields.firstMissing? fields (contentMembers found) = none ↔
      ∀ field ∈ fields, field.isRequired = true → field.key ∈ found.keys := by
  have hany (key : String) :
      ((contentMembers found).any fun m => m.1.text? = some key) = true ↔ key ∈ found.keys := by
    simp [contentMembers, Content.text?, Dict.keys]
  rw [Fields.firstMissing?, Option.map_eq_none_iff, List.find?_eq_none]
  refine forall₂_congr fun field _ => ?_
  rw [← hany]
  simp

section Record

variable {r : Fields α} [r.Still] {name : String} {depth : Nat} {cut : Option Fault} {c : Content}

theorem yields_record_dict_iff {members : List (Tree × Tree)} (hkeys : ∀ m ∈ members, IsKey m.1)
    (h : IsTree (.dict members cut)) :
    Yields ((Shape.record name r).keep src depth (.dict members cut)) c ↔
      ∃ d named found, depth = d + 1 ∧ cut = none ∧ members = treeMembers named ∧
        Finds (r.fields.map Field.key) (KeptField r.fields src d) (·.skip? = none) named found ∧
        (∀ field ∈ r.fields, field.isRequired = true → field.key ∈ found.keys) ∧
        c = objectContent found := by
  have hstill := Fields.Still.keep (r := r)
  simp only [Shape.record, settle_eq h, pure_bind]
  cases depth with
  | zero => exact iff_of_false not_yields_stop (by simp)
  | succ d =>
    simp only [yields_bind_iff (Fields.still_keepMembers hstill src d [] members),
      yields_bind_iff (still_stopIf _), yields_stopIf_iff, yields_pure_iff]
    constructor
    · rintro ⟨kept, hkept, -, hcut, -, hmissing, rfl⟩
      obtain ⟨named, found, rfl, rfl, hkeeps⟩ := keeps_of_yields hstill hkeys hkept
      exact ⟨d, named, found, rfl, hcut, rfl, hkeeps.finds.1, firstMissing?_eq_none_iff.1 hmissing,
        rfl⟩
    · rintro ⟨_, named, found, ⟨⟩, hcut, rfl, hfinds, hrequired, rfl⟩
      exact ⟨_, yields_of_keeps hstill (keeps_of_finds hfinds (by simp)), (), hcut, (),
        firstMissing?_eq_none_iff.2 hrequired, rfl⟩

theorem yields_record_list_iff (hkeys : (r.fields.map Field.key).Nodup)
    (hsrc : src.format.positional = true) {items : List Tree} (h : IsTree (.list items cut)) :
    Yields ((Shape.record name r).keep src depth (.list items cut)) c ↔
      ∃ d found, depth = d + 1 ∧ cut = none ∧ items.length ≤ r.fields.length ∧
        (r.fields.drop items.length).all Field.mayLack = true ∧
        Finds (r.fields.map Field.key) (KeptField r.fields src d) (·.skip? = none)
          ((r.fields.map Field.key).zip items) found ∧
        c = objectContent found := by
  have hstill := Fields.Still.keep (r := r)
  simp only [Shape.record, settle_eq h, pure_bind]
  cases depth with
  | zero => exact iff_of_false not_yields_stop (by simp)
  | succ d =>
    have hplaces := Fields.still_keepPlaces hstill name r.fields.length src d cut 0 items
    simp only [hsrc, ↓reduceIte, yields_bind_iff hplaces, yields_keepPlaces_iff hstill,
      yields_pure_iff, forall₂_places_iff hkeys]
    constructor
    · rintro ⟨_, ⟨hcut, fits, lack, found, rfl, hfinds⟩, rfl⟩
      exact ⟨d, found, rfl, hcut, fits, lack, hfinds, rfl⟩
    · rintro ⟨_, found, ⟨⟩, hcut, fits, lack, hfinds, rfl⟩
      exact ⟨_, ⟨hcut, fits, lack, found, rfl, hfinds⟩, rfl⟩

/-- A record keeps what is found in its members; an object has to have those that are required. -/
theorem yields_record_iff (hkeys : (r.fields.map Field.key).Nodup)
    (hsrc : src.format.positional = true) {tree : Tree} (h : IsTree tree) :
    Yields ((Shape.record name r).keep src depth tree) c ↔ ∃ d named found, depth = d + 1 ∧
      Members r.fields tree named ∧
      Finds (r.fields.map Field.key) (KeptField r.fields src d) (·.skip? = none) named found ∧
      (tree = object named →
        ∀ field ∈ r.fields, field.isRequired = true → field.key ∈ found.keys) ∧
      c = objectContent found := by
  cases h with
  | dict keys values =>
    rw [yields_record_dict_iff keys (.dict keys values)]
    constructor
    · rintro ⟨d, named, found, hdepth, rfl, rfl, hfinds, hrequired, hc⟩
      exact ⟨d, named, found, hdepth, .object named, hfinds, fun _ => hrequired, hc⟩
    · rintro ⟨d, named, found, hdepth, hmembers, hfinds, hrequired, hc⟩
      cases hmembers with
      | object => exact ⟨d, named, found, hdepth, rfl, rfl, hfinds, hrequired rfl, hc⟩
  | list hitems =>
    rw [yields_record_list_iff hkeys hsrc (.list hitems)]
    constructor
    · rintro ⟨d, found, hdepth, rfl, fits, lack, hfinds, hc⟩
      exact ⟨d, _, found, hdepth, .list _ fits lack, hfinds, nofun, hc⟩
    · rintro ⟨d, named, found, hdepth, hmembers, hfinds, -, hc⟩
      cases hmembers with
      | list _ fits lack => exact ⟨d, found, hdepth, rfl, fits, lack, hfinds, hc⟩
  | scalar =>
    refine iff_of_false not_yields_stop ?_
    rintro ⟨_, _, _, -, hmembers, -⟩
    cases hmembers
  | flawed =>
    refine iff_of_false not_yields_stop ?_
    rintro ⟨_, _, _, -, hmembers, -⟩
    cases hmembers

end Record

end ActivityForge.Json
