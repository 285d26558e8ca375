import ActivityForge.Document.Printer
import ActivityForge.Proofs.Document.Examples
import ActivityForge.Proofs.Json.Compact

/-!
# Values that are written and read again

A way of keeping and matching values `RoundTrips` with a way of writing them if a value that has
been read is read again from what it is written as.  This goes for texts, flags, lists, maps and for
examples without floating point numbers.
-/

namespace ActivityForge.Document

open Json
open Reading hiding Fields
open Walk

/-! ## Examples without floating point numbers -/

/-- The value has a number that is decoded as a floating point number. -/
inductive HasFloat : Tree → Prop
  | here (x : Float) : HasFloat (scalar (.float x))
  | item {items : List Tree} {cut : Option Fault} {item : Tree} (mem : item ∈ items)
      (inner : HasFloat item) : HasFloat (.list items cut)
  | member {members : List (Tree × Tree)} {cut : Option Fault} {m : Tree × Tree} (mem : m ∈ members)
      (inner : HasFloat m.2) : HasFloat (.dict members cut)

theorem hasFloat_object_iff {named : List (String × Tree)} :
    HasFloat (object named) ↔ ∃ m ∈ named, HasFloat m.2 := by
  constructor
  · intro h
    cases h with
    | member mem inner =>
      obtain ⟨m, hm, rfl⟩ := List.mem_map.1 mem
      exact ⟨m, hm, inner⟩
  · rintro ⟨m, hm, inner⟩
    exact .member (List.mem_map.2 ⟨m, hm, rfl⟩) inner

theorem HasFloat.of_within {p q : Position} {x x' t t' : Tree} (h : HasFloat x)
    (hwithin : Within q x x' p t t') : HasFloat t := by
  induction hwithin with
  | here => exact h
  | member _ _ ih | entry _ ih => exact hasFloat_object_iff.2 ⟨_, List.mem_append_cons_self, ih⟩
  | place _ _ ih | item _ ih => exact .item List.mem_append_cons_self ih
  | reference _ _ ih | inline _ _ ih => exact ih

theorem not_hasFloat_treeOf {v : Value} (h : IsExact v) : ¬ HasFloat (treeOf v) := by
  intro hfloat
  induction h with
  | list _ ih =>
    rw [treeOf, treesOf_eq_map] at hfloat
    cases hfloat with
    | item mem inner =>
      obtain ⟨item, hitem, rfl⟩ := List.mem_map.1 mem
      exact ih item hitem inner
  | object _ ih =>
    rw [treeOf, namedTreesOf_eq_map, hasFloat_object_iff] at hfloat
    obtain ⟨_, hm, inner⟩ := hfloat
    obtain ⟨m, hmem, rfl⟩ := List.mem_map.1 hm
    exact ih m hmem inner
  | _ => cases hfloat

/-- No example in what stands in the position has a floating point number. -/
def FloatFree (p : Position) (t : Tree) : Prop :=
  ∀ x, Within .exampleValue x x p t t → ¬ HasFloat x

namespace FloatFree

variable {p : Position} {k : Record}

theorem of_exact {v : Value} (h : IsExact v) : FloatFree p (treeOf v) :=
  fun _ hx hfloat => not_hasFloat_treeOf h (hfloat.of_within hx)

theorem plain (t : Tree) : FloatFree .plain t := by
  intro x hx
  cases hx

theorem item {items : List Tree} (h : FloatFree (.list p) (.list items none)) {v : Tree}
    (hv : v ∈ items) : FloatFree p v := by
  intro x hx
  obtain ⟨before, after, rfl⟩ := List.append_of_mem hv
  exact h x (.item hx)

theorem entry {named : List (String × Tree)} (h : FloatFree (.map p) (object named))
    {m : String × Tree} (hm : m ∈ named) : FloatFree p m.2 := by
  intro x hx
  obtain ⟨before, after, rfl⟩ := List.append_of_mem hm
  exact h x (.entry hx)

theorem inline {t : Tree} (h : FloatFree (.choice k) t) (his : ¬ IsReference t) :
    FloatFree (.record k) t :=
  fun x hx => h x (.inline his hx)

/-- The members of a record have their positions by their keys, also if it is a list. -/
theorem member {fields : List Field} (hkeys : fields.map Field.key = k.keys) {t : Tree}
    {named : List (String × Tree)} (hmembers : Members fields t named)
    (h : FloatFree (.record k) t) {s : Slot} (hs : s ∈ k.slots) {v : Tree}
    (hv : (s.key, v) ∈ named) : FloatFree s.position v := by
  intro x hx
  cases hmembers with
  | object =>
    obtain ⟨before, after, rfl⟩ := List.append_of_mem hv
    exact h x (.member hs hx)
  | list items =>
    rw [hkeys] at hv
    obtain ⟨i, hi, hget⟩ := List.getElem_of_mem hv
    rw [List.getElem_zip] at hget
    obtain ⟨hkey, rfl⟩ := Prod.mk.inj hget
    rw [List.length_zip, Nat.lt_min, Record.keys, List.length_map] at hi
    have hslot : k.slots[i] = s :=
      Record.eq_of_key_eq (List.getElem_mem hi.1) hs (by simpa [Record.keys] using hkey)
    have hlength : (items.take i).length = i := List.length_take_of_le (Nat.le_of_lt hi.2)
    have hplace : k.slots[(items.take i).length]? = some s := by
      rw [hlength, List.getElem?_eq_getElem hi.1, hslot]
    have hwithin : Within .exampleValue x x (.record k)
        (.list (items.take i ++ items[i] :: items.drop (i + 1)) none)
        (.list (items.take i ++ items[i] :: items.drop (i + 1)) none) := .place hplace hx
    rw [← List.drop_eq_getElem_cons hi.2, List.take_append_drop] at hwithin
    exact h x hwithin

end FloatFree

/-! ## Values that are read again -/

/-- What stands for `a` in a text, read where `depth` containers may be nested, is `a`. -/
structure Rereads {α : Type} (depth : Nat) (keep : Source → Nat → Tree → Walk Content)
    (value? : Content → Option α) (a : α) (v : Value) : Prop where
  exact : IsExact v
  kept : ∀ src : Source, src.format.positional = true →
    ∃ c, Yields (keep src depth (treeOf v)) c ∧ value? c = some a

/-- What has been read is read again from what it is written as, and only what is absent is written
as `null`. -/
def RoundTrips {α : Type} (depth : Nat) (keep : Source → Nat → Tree → Walk Content)
    (value? : Content → Option α) (write : α → Value) (p : Position) : Prop :=
  ∀ ⦃src : Source⦄, src.format.positional = true → ∀ ⦃t : Tree⦄ ⦃c : Content⦄ ⦃a : α⦄, IsTree t →
    FloatFree p t → Yields (keep src depth t) c → value? c = some a →
      Rereads depth keep value? a (write a) ∧ (write a = .null → t = scalar .unit)

variable {α : Type} {depth : Nat} {p : Position} {value? : Content → Option α} {write : α → Value}
  {keep : Source → Nat → Tree → Walk Content}

theorem Rereads.imp {β : Type} {a : α} {v : Value} (h : Rereads depth keep value? a v)
    {value'? : Content → Option β} {b : β} (hvalue : ∀ c, value? c = some a → value'? c = some b) :
    Rereads depth keep value'? b v := by
  refine ⟨h.exact, fun src hsrc => ?_⟩
  obtain ⟨c, hc, ha⟩ := h.kept src hsrc
  exact ⟨c, hc, hvalue c ha⟩

/-! ## Values without parts -/

theorem roundTrips_text : RoundTrips depth Shape.text.keep Shape.text.value? .text p := by
  intro src _ t c a ht _ hc ha
  refine ⟨⟨.text a, fun src' _ => ⟨.text a, ?_, rfl⟩⟩, nofun⟩
  exact (yields_text_iff (IsKey.text a).isTree).2 ⟨a, rfl, rfl⟩

theorem roundTrips_flag : RoundTrips depth Shape.flag.keep Shape.flag.value? .bool p := by
  intro src _ t c a ht _ hc ha
  have htree : IsTree (scalar (.bool a)) := .scalar trivial
  refine ⟨⟨.bool a, fun src' _ => ⟨.bool a, ?_, rfl⟩⟩, nofun⟩
  exact (yields_flag_iff htree).2 ⟨a, rfl, rfl⟩

theorem rereads_text {a : α} {s : String} (h : value? (.text s) = some a) :
    Rereads depth Source.keepWhole value? a (.text s) := by
  have hatom : IsPlain (.text s) := trivial
  exact ⟨.text s, fun src _ => ⟨.text s, (yields_keepWhole_scalar hatom).2 rfl, h⟩⟩

theorem rereads_flag {a : α} {b : Bool} (h : value? (.bool b) = some a) :
    Rereads depth Source.keepWhole value? a (.bool b) := by
  have hatom : IsPlain (.bool b) := trivial
  exact ⟨.bool b, fun src _ => ⟨.bool b, (yields_keepWhole_scalar hatom).2 rfl, h⟩⟩

theorem roundTrips_text_whole : RoundTrips depth Source.keepWhole Shape.text.value? .text p :=
  fun _ _ _ _ _ _ _ _ _ => ⟨rereads_text rfl, nofun⟩

theorem roundTrips_flag_whole : RoundTrips depth Source.keepWhole Shape.flag.value? .bool p :=
  fun _ _ _ _ _ _ _ _ _ => ⟨rereads_flag rfl, nofun⟩

/-! ## Lists -/

theorem list_of_keepWhole {src : Source} {t : Tree} {kept : List Content} (ht : IsTree t)
    (hc : Yields (src.keepWhole depth t) (.list kept)) : ∃ d items, depth = d + 1 ∧
      t = .list items none ∧
      List.Forall₂ (fun item k => Yields (src.keepWhole d item) k) items kept := by
  cases ht with
  | scalar ha => exact absurd ((yields_keepWhole_scalar ha).1 hc).symm (contentOf_ne_list _ _)
  | list =>
    obtain ⟨d, _, rfl, rfl, hkept, heq⟩ := yields_keepWhole_list.1 hc
    obtain rfl := Content.list.inj heq
    exact ⟨d, _, rfl, rfl, hkept⟩
  | dict keys values =>
    obtain ⟨_, _, _, -, -, heq, -⟩ := (yields_keepWhole_dict keys).1 hc
    cases heq
  | flawed => exact absurd hc not_yields_keepWhole_flawed

theorem object_of_keepWhole {src : Source} {t : Tree} {members : List (Content × Content)}
    (ht : IsTree t) (hc : Yields (src.keepWhole depth t) (.map members)) :
    ∃ d named found, depth = d + 1 ∧ t = object named ∧ Content.map members = objectContent found ∧
      List.Forall₂ (SameKeys fun v k => Yields (src.keepWhole d v) k) named found := by
  cases ht with
  | scalar ha => exact absurd ((yields_keepWhole_scalar ha).1 hc).symm (contentOf_ne_map _ _)
  | list =>
    obtain ⟨_, _, -, -, -, heq⟩ := yields_keepWhole_list.1 hc
    cases heq
  | dict keys values => exact (yields_keepWhole_dict keys).1 hc
  | flawed => exact absurd hc not_yields_keepWhole_flawed

theorem exists_kept_items {values : List α}
    (h : ∀ a ∈ values, Rereads depth keep value? a (write a)) (src : Source)
    (hsrc : src.format.positional = true) :
    ∃ kept, List.Forall₂ (fun item k => Yields (keep src depth item) k)
      (treesOf (values.map write)) kept ∧ Content.list? value? (.list kept) = some values := by
  obtain ⟨kept, hkept⟩ := exists_forall₂_iff.2 fun a ha => (h a ha).kept src hsrc
  refine ⟨kept, ?_, list?_list_iff.2 (hkept.imp fun _ _ hk => hk.2).flip⟩
  rw [treesOf_eq_map, List.map_map, List.forall₂_map_left_iff]
  exact hkept.imp fun _ _ hk => hk.1

theorem isExact_list {values : List α} (h : ∀ a ∈ values, Rereads depth keep value? a (write a)) :
    IsExact (.list (values.map write)) :=
  .list (List.forall_mem_map.2 fun a ha => (h a ha).exact)

theorem RoundTrips.items (h : RoundTrips depth keep value? write p) {src : Source}
    (hsrc : src.format.positional = true) {items : List Tree} {kept : List Content}
    {values : List α} (ht : ∀ item ∈ items, IsTree item)
    (hfree : ∀ item ∈ items, FloatFree p item)
    (hkept : List.Forall₂ (fun item k => Yields (keep src depth item) k) items kept)
    (hvalues : Content.list? value? (.list kept) = some values) :
    ∀ a ∈ values, Rereads depth keep value? a (write a) := by
  intro a ha
  obtain ⟨k, hk, hka⟩ := exists_mem_of_forall₂ (list?_list_iff.1 hvalues) ha
  obtain ⟨item, hitem, hkeep⟩ := exists_mem_of_forall₂ hkept hk
  exact (h hsrc (ht item hitem) (hfree item hitem) hkeep hka).1

section

variable {q : Position}
  (hfree : ∀ {items : List Tree}, FloatFree q (.list items none) → ∀ item ∈ items, FloatFree p item)

include hfree

theorem roundTrips_list {s : Shape α} [s.Still]
    (h : ∀ d, depth = d + 1 → RoundTrips d s.keep s.value? write p) :
    RoundTrips depth s.list.keep s.list.value? (fun l => .list (l.map write)) q := by
  intro src hsrc t c values ht hfloat hc hvalues
  obtain ⟨d, items, kept, rfl, rfl, hkept, rfl⟩ := (yields_list_iff ht).1 hc
  have hagain := (h d rfl).items hsrc ht.of_list (hfree hfloat) hkept hvalues
  have hexact := isExact_list hagain
  refine ⟨⟨hexact, fun src' hsrc' => ?_⟩, nofun⟩
  obtain ⟨kept', hkept', hvalues'⟩ := exists_kept_items hagain src' hsrc'
  exact ⟨_, (yields_list_iff hexact.isTree).2 ⟨d, _, kept', rfl, rfl, hkept', rfl⟩, hvalues'⟩

theorem roundTrips_list_whole
    (h : ∀ d, depth = d + 1 → RoundTrips d Source.keepWhole value? write p) :
    RoundTrips depth Source.keepWhole (Content.list? value?) (fun l => .list (l.map write)) q := by
  intro src hsrc t c values ht hfloat hc hvalues
  obtain ⟨kept, rfl⟩ : ∃ kept, c = .list kept := by
    cases c with
    | list kept => exact ⟨kept, rfl⟩
    | _ => cases hvalues
  obtain ⟨d, items, rfl, rfl, hkept⟩ := list_of_keepWhole ht hc
  have hagain := (h d rfl).items hsrc ht.of_list (hfree hfloat) hkept hvalues
  refine ⟨⟨isExact_list hagain, fun src' hsrc' => ?_⟩, nofun⟩
  obtain ⟨kept', hkept', hvalues'⟩ := exists_kept_items hagain src' hsrc'
  exact ⟨_, yields_keepWhole_list.2 ⟨d, kept', rfl, rfl, hkept', rfl⟩, hvalues'⟩

end

/-! ## Maps -/

theorem exists_kept_entries {entries : Dict α} (hnodup : entries.keys.Nodup)
    (h : ∀ m ∈ entries, Rereads depth keep value? m.2 (write m.2)) (src : Source)
    (hsrc : src.format.positional = true) :
    ∃ found, List.Forall₂ (SameKeys fun v k => Yields (keep src depth v) k)
      (namedTreesOf (entries.map fun m => (m.1, write m.2))) found ∧
      Content.dict? value? (objectContent found) = some entries := by
  have hkept : ∀ m ∈ entries, ∃ k : String × Content,
      m.1 = k.1 ∧ Yields (keep src depth (treeOf (write m.2))) k.2 ∧ value? k.2 = some m.2 := by
    intro m hm
    obtain ⟨c, hc, ha⟩ := (h m hm).kept src hsrc
    exact ⟨(m.1, c), rfl, hc, ha⟩
  obtain ⟨found, hfound⟩ := exists_forall₂_iff.2 hkept
  refine ⟨found, ?_, dict?_objectContent_iff.2 ⟨entries, ?_, Dict.ofPairs_of_nodup hnodup⟩⟩
  · rw [namedTreesOf_eq_map, List.map_map, List.forall₂_map_left_iff]
    exact hfound.imp fun _ _ hk => ⟨hk.1, hk.2.1⟩
  · exact (hfound.imp fun _ _ hk => ⟨hk.1.symm, hk.2.2⟩).flip

theorem isExact_object {entries : Dict α}
    (h : ∀ m ∈ entries, Rereads depth keep value? m.2 (write m.2)) :
    IsExact (writeDict write entries) :=
  .object (List.forall_mem_map.2 fun m hm => (h m hm).exact)

theorem RoundTrips.entries (h : RoundTrips depth keep value? write p) {src : Source}
    (hsrc : src.format.positional = true) {named : List (String × Tree)} {found : Dict Content}
    {entries : Dict α} (ht : ∀ m ∈ named, IsTree m.2) (hfree : FloatFree (.map p) (object named))
    (hfound : List.Forall₂ (SameKeys fun v k => Yields (keep src depth v) k) named found)
    (hentries : Content.dict? value? (objectContent found) = some entries) :
    entries.keys.Nodup ∧ ∀ m ∈ entries, Rereads depth keep value? m.2 (write m.2) := by
  obtain ⟨pairs, hpairs, rfl⟩ := dict?_objectContent_iff.1 hentries
  refine ⟨Dict.nodup_keys_ofPairs pairs, fun m hm => ?_⟩
  obtain ⟨k, hk, -, hkm⟩ := exists_mem_of_forall₂ hpairs (Dict.mem_of_mem_ofPairs hm)
  obtain ⟨v, hv, -, hkeep⟩ := exists_mem_of_forall₂ hfound hk
  exact (h hsrc (ht v hv) (hfree.entry hv) hkeep hkm).1

theorem roundTrips_dict {s : Shape α} [s.Still]
    (h : ∀ d, depth = d + 1 → RoundTrips d s.keep s.value? write p) :
    RoundTrips depth s.dict.keep s.dict.value? (writeDict write) (.map p) := by
  intro src hsrc t c entries ht hfree hc hentries
  obtain ⟨d, named, found, rfl, rfl, rfl, hfound⟩ := (yields_dict_iff ht).1 hc
  obtain ⟨hnodup, hagain⟩ :=
    (h d rfl).entries hsrc (isTree_object.1 ht) hfree hfound hentries
  have hexact := isExact_object hagain
  refine ⟨⟨hexact, fun src' hsrc' => ?_⟩, nofun⟩
  obtain ⟨found', hfound', hentries'⟩ := exists_kept_entries hnodup hagain src' hsrc'
  exact ⟨_, (yields_dict_iff hexact.isTree).2 ⟨d, _, found', rfl, rfl, rfl, hfound'⟩, hentries'⟩

theorem roundTrips_dict_whole
    (h : ∀ d, depth = d + 1 → RoundTrips d Source.keepWhole value? write p) :
    RoundTrips depth Source.keepWhole (Content.dict? value?) (writeDict write) (.map p) := by
  intro src hsrc t c entries ht hfree hc hentries
  obtain ⟨members, rfl⟩ : ∃ members, c = .map members := by
    cases c with
    | map members => exact ⟨members, rfl⟩
    | _ => cases hentries
  obtain ⟨d, named, found, rfl, rfl, hmembers, hfound⟩ := object_of_keepWhole ht hc
  rw [hmembers] at hentries
  obtain ⟨hnodup, hagain⟩ :=
    (h d rfl).entries hsrc (isTree_object.1 ht) hfree hfound hentries
  refine ⟨⟨isExact_object hagain, fun src' hsrc' => ?_⟩, nofun⟩
  obtain ⟨found', hfound', hentries'⟩ := exists_kept_entries hnodup hagain src' hsrc'
  exact ⟨_, (yields_keepWhole_dict (isKey_treeMembers _)).2
    ⟨d, _, found', rfl, rfl, rfl, hfound'⟩, hentries'⟩

/-! ## Choices -/

theorem roundTrips_choice {name : String}
    (h : RoundTrips depth Source.keepWhole value? write p) :
    RoundTrips depth (Shape.choice name value?).keep value? write p := by
  intro src hsrc t c a ht hfree hc ha
  obtain ⟨⟨hexact, hkept⟩, hnull⟩ := h hsrc ht hfree (yields_choice_iff.1 hc).1 ha
  refine ⟨⟨hexact, fun src' hsrc' => ?_⟩, hnull⟩
  obtain ⟨c', hc', ha'⟩ := hkept src' hsrc'
  exact ⟨c', yields_choice_iff.2 ⟨hc', Option.isSome_iff_exists.2 ⟨a, ha'⟩⟩, ha'⟩

/-! ## Examples -/

theorem rereads_example_list {d : Nat} {values : List Value}
    (h : ∀ x ∈ values, Rereads d Source.keepWhole exampleOf? x x) :
    Rereads (d + 1) Source.keepWhole exampleOf? (.list values) (.list values) := by
  have hsame : ∀ x ∈ values, Rereads d Source.keepWhole exampleOf? x (id x) := h
  have hexact := isExact_list hsame
  have hitems := exists_kept_items hsame
  rw [List.map_id] at hexact hitems
  refine ⟨hexact, fun src hsrc => ?_⟩
  obtain ⟨kept, hkept, hvalues⟩ := hitems src hsrc
  exact ⟨_, yields_keepWhole_list.2 ⟨d, kept, rfl, rfl, hkept, rfl⟩,
    exampleOf?_list_iff.2 ⟨values, list?_list_iff.1 hvalues, rfl⟩⟩

theorem rereads_example_object {d : Nat} {entries : Dict Value} (hnodup : entries.keys.Nodup)
    (hsorted : sortMembers entries = entries)
    (h : ∀ m ∈ entries, Rereads d Source.keepWhole exampleOf? m.2 m.2) :
    Rereads (d + 1) Source.keepWhole exampleOf? (.object entries) (.object entries) := by
  have hsame : ∀ m ∈ entries, Rereads d Source.keepWhole exampleOf? m.2 (id m.2) := h
  have hexact := isExact_object hsame
  have hentries := exists_kept_entries hnodup hsame
  have hmap : (entries.map fun m => (m.1, id m.2)) = entries := List.map_id entries
  rw [writeDict, hmap] at hexact
  rw [hmap] at hentries
  refine ⟨hexact, fun src hsrc => ?_⟩
  obtain ⟨found, hfound, hvalues⟩ := hentries src hsrc
  obtain ⟨pairs, hpairs, hmake⟩ := dict?_objectContent_iff.1 hvalues
  exact ⟨_, (yields_keepWhole_dict (isKey_treeMembers _)).2 ⟨d, _, found, rfl, rfl, rfl, hfound⟩,
    exampleOf?_object_iff.2 ⟨pairs, hpairs, by rw [hmake, hsorted]⟩⟩

theorem rereads_example_scalar {a : Atom} (ha : IsPlain a) (hfree : ¬ HasFloat (scalar a))
    {x : Value} (hx : exampleOf? (contentOf a) = some x) :
    Rereads depth Source.keepWhole exampleOf? x x ∧ (x = .null → scalar a = scalar .unit) := by
  have hsame (v : Value) (hexact : IsExact v) (htree : treeOf v = scalar a)
      (hv : exampleOf? (contentOf a) = some v) :
      Rereads depth Source.keepWhole exampleOf? v v := by
    refine ⟨hexact, fun src _ => ⟨contentOf a, ?_, hv⟩⟩
    rw [htree]
    exact (yields_keepWhole_scalar ha).2 rfl
  cases a with
  | unit =>
    obtain rfl := Option.some.inj hx
    exact ⟨hsame .null .null rfl rfl, fun _ => rfl⟩
  | bool b =>
    obtain rfl := Option.some.inj hx
    exact ⟨hsame _ (.bool b) rfl rfl, nofun⟩
  | int n =>
    obtain rfl := Option.some.inj hx
    exact ⟨hsame _ (.int ha) rfl rfl, nofun⟩
  | float y => exact absurd (.here y) hfree
  | text s =>
    obtain rfl := Option.some.inj hx
    exact ⟨hsame _ (.text s) rfl rfl, nofun⟩
  | wide | misfit => exact ha.elim

theorem rereads_example {src : Source} {t : Tree} {c : Content} {x : Value} (ht : IsTree t)
    (hfree : ¬ HasFloat t) (hc : Yields (src.keepWhole depth t) c) (hx : exampleOf? c = some x) :
    Rereads depth Source.keepWhole exampleOf? x x ∧ (x = .null → t = scalar .unit) := by
  induction depth using Nat.strongRecOn generalizing t c x with
  | _ depth ih =>
    cases ht with
    | scalar ha =>
      obtain rfl := (yields_keepWhole_scalar ha).1 hc
      exact rereads_example_scalar ha hfree hx
    | list items =>
      obtain ⟨d, kept, rfl, rfl, hkept, rfl⟩ := yields_keepWhole_list.1 hc
      obtain ⟨values, hvalues, rfl⟩ := exampleOf?_list_iff.1 hx
      refine ⟨rereads_example_list fun y hy => ?_, nofun⟩
      obtain ⟨k, hk, hky⟩ := exists_mem_of_forall₂ hvalues hy
      obtain ⟨item, hitem, hkeep⟩ := exists_mem_of_forall₂ hkept hk
      have hfree' : ¬ HasFloat item := fun h => hfree (.item hitem h)
      exact (ih d (Nat.lt_succ_self d) (items item hitem) hfree' hkeep hky).1
    | dict keys values =>
      -- the members have been sorted, and so they stay in their order
      obtain ⟨d, named, found, rfl, heq, rfl, hfound⟩ := (yields_keepWhole_dict keys).1 hc
      obtain ⟨pairs, hpairs, rfl⟩ := exampleOf?_object_iff.1 hx
      have hnodup := nodup_keys_sortMembers (Dict.nodup_keys_ofPairs pairs)
      refine ⟨rereads_example_object hnodup (sortMembers_sortMembers _) fun m hm => ?_, nofun⟩
      have hm' := Dict.mem_of_mem_ofPairs ((sortMembers_perm _).mem_iff.1 hm)
      obtain ⟨k, hk, -, hkm⟩ := exists_mem_of_forall₂ hpairs hm'
      obtain ⟨e, he, -, hkeep⟩ := exists_mem_of_forall₂ hfound hk
      have htree : IsTree e.2 := isTree_object.1 (heq ▸ .dict keys values) e he
      have hfree' : ¬ HasFloat e.2 := fun h => hfree <| by
        rw [heq]
        exact hasFloat_object_iff.2 ⟨e, he, h⟩
      exact (ih d (Nat.lt_succ_self d) htree hfree' hkeep hkm).1
    | flawed => exact absurd hc not_yields_keepWhole_flawed

theorem roundTrips_example :
    RoundTrips depth Source.keepWhole exampleOf? id .exampleValue :=
  fun _ _ t _ _ ht hfree hc hx => rereads_example ht (hfree t .here) hc hx

/-! ## Types and places -/

theorem roundTrips_texts : RoundTrips depth Source.keepWhole Shape.text.list.value?
    (fun l => .list (l.map .text)) .plain :=
  roundTrips_list_whole (fun _ item _ => .plain item) fun _ _ => roundTrips_text_whole

theorem roundTrips_typeSet :
    RoundTrips depth Source.keepWhole TypeSet.ofContent? TypeSet.write .plain := by
  intro src hsrc t c types ht _ hc htypes
  rw [TypeSet.ofContent?, Option.or_eq_some_iff, Option.map_eq_some_iff,
    Option.map_eq_some_iff] at htypes
  rcases htypes with ⟨name, -, rfl⟩ | ⟨-, names, hnames, rfl⟩
  · exact ⟨rereads_text rfl, nofun⟩
  · refine ⟨(roundTrips_texts hsrc ht (.plain t) hc hnames).1.imp fun c' hc' => ?_, nofun⟩
    cases c' with
    | list => exact congrArg (Option.map TypeSet.several) hc'
    | _ => cases hc'

theorem roundTrips_place : RoundTrips depth Source.keepWhole Place.ofContent?
    (fun place => .text place.text) .plain := by
  intro src hsrc t c place ht _ hc hplace
  exact ⟨rereads_text (by cases place <;> decide), nofun⟩

end ActivityForge.Document
