import ActivityForge.Proofs.Document.Stable

/-!
# Records of edited documents

A record is stable if its fields are (`stable_record` for one that is kept member by member,
`stable_value?` for one that is kept whole).  A `Chain` follows the fields of a record from the
first to the last, next to the slots that an edit goes by.
-/

namespace ActivityForge.Document

open Json
open Reading
open Walk

/-! ## What is found in edited members -/

/-- What is found under the key of a slot before and after an edit: the same field, which may be
edited, or nothing, or nothing any more where it was absent. -/
inductive Linked (known known' : String → Tree → Content → Prop) (s : Slot) :
    Option Content → Option Content → Prop
  | both {v v' : Tree} {c c' : Content} (tree : IsTree v) (recast : Recast s.position v v')
      (kept : known s.key v c) (kept' : known' s.key v' c') :
      Linked known known' s (some c) (some c')
  | neither : Linked known known' s none none
  | lost {c : Content} (optional : s.isOptional = true) (kept : known s.key (scalar .unit) c) :
      Linked known known' s (some c) none

section Finds

variable {k : Record} {known known' : String → Tree → Content → Prop}
  {unknown unknown' : Tree → Prop} {named named' : List (String × Tree)}
  {found found' : Dict Content}

theorem linked_of_finds (h : RecastMembers k named named') (ht : ∀ m ∈ named, IsTree m.2)
    (hfound : Finds k.keys known unknown named found)
    (hfound' : Finds k.keys known' unknown' named' found') {s : Slot} (hs : s ∈ k.slots) :
    Linked known known' s (found.lookup s.key) (found'.lookup s.key) := by
  have hkey := Record.mem_keys hs
  cases hc' : found'.lookup s.key with
  | some c' =>
    obtain ⟨v', hv', hkept'⟩ := hfound'.exists_member hc'
    obtain ⟨v, hv, hrecast⟩ := h.known s hs v' hv'
    obtain ⟨c, hc, hkept⟩ := hfound.exists_lookup hkey hv
    rw [hc]
    exact .both (ht _ hv) hrecast hkept hkept'
  | none =>
    cases hc : found.lookup s.key with
    | none => exact .neither
    | some c =>
      obtain ⟨v, hv, hkept⟩ := hfound.exists_member hc
      rcases h.lost s hs v hv with ⟨v', hv'⟩ | ⟨hoptional, rfl⟩
      · obtain ⟨c', hsome, -⟩ := hfound'.exists_lookup hkey hv'
        rw [hc'] at hsome
        cases hsome
      · exact .lost hoptional hkept

/-- If fields can be kept after an edit, then so can the members of the record. -/
theorem exists_finds (h : RecastMembers k named named') (ht : ∀ m ∈ named, IsTree m.2)
    (hfound : Finds k.keys known unknown named found)
    (hknown : ∀ s ∈ k.slots, ∀ v v' c, IsTree v → Recast s.position v v' → known s.key v c →
      ∃ c', known' s.key v' c')
    (hunknown : ∀ v, IsTree v → unknown v →
      unknown' v ∧ ∀ v', Shuffled (fun _ => True) v v' → unknown' v') :
    ∃ found', Finds k.keys known' unknown' named' found' := by
  have hkept : ∀ m' ∈ knownMembers k.keys named',
      ∃ e : String × Content, m'.1 = e.1 ∧ known' m'.1 m'.2 e.2 := by
    intro m' hm'
    obtain ⟨hm', hkey⟩ := List.mem_filter.1 hm'
    obtain ⟨s, hs, hskey⟩ := List.mem_map.1 (of_decide_eq_true hkey)
    rw [← hskey]
    obtain ⟨v, hv, hrecast⟩ := h.known s hs m'.2 (by rwa [hskey])
    obtain ⟨c, -, hc⟩ := hfound.exists_lookup (Record.mem_keys hs) hv
    obtain ⟨c', hc'⟩ := hknown s hs v m'.2 c (ht _ hv) hrecast hc
    exact ⟨(s.key, c'), rfl, hc'⟩
  obtain ⟨found', hfields⟩ := exists_forall₂_iff.2 hkept
  refine ⟨found', fun m' hm' hkey => ?_, ?_, hfields⟩
  · obtain ⟨v, hv, hsame⟩ := h.unknown m' hm' hkey
    have hv' := hunknown v (ht _ hv) (hfound.others _ hv hkey)
    rcases hsame with rfl | hshuffled
    · exact hv'.1
    · exact hv'.2 _ hshuffled
  · rw [keys_eq_of_forall₂ hfields]
    have honce := hfound.once
    rw [keys_eq_of_forall₂ hfound.fields] at honce
    exact h.once honce

end Finds

/-- What stands in a slot is read as before. -/
theorem readField_of_linked {α : Type} {n d : Nat} {src src' : Source}
    (hsrc : src.format.positional = true) (hsrc' : src'.format.positional = true) (hd : d ≤ n)
    {known known' : String → Tree → Content → Prop} {s : Slot}
    {keep : Source → Nat → Tree → Walk Content} {value? : Content → Option α} {missing : Option α}
    (hknown : ∀ {v c}, known s.key v c → Yields (keep src d v) c)
    (hknown' : ∀ {v c}, known' s.key v c → Yields (keep src' d v) c)
    (stable : Stable n keep value? s.position)
    (absent : s.isOptional = true → ∀ {c a}, Yields (keep src d (scalar .unit)) c →
      value? c = some a → missing = some a)
    {o o' : Option Content} (h : Linked known known' s o o') {a : α}
    (ha : readField value? missing o = some a) : readField value? missing o' = some a := by
  cases h with
  | both tree recast kept kept' =>
    obtain ⟨c', hc', hsame⟩ := stable hsrc hsrc' hd tree recast (hknown kept)
    rw [(hknown' kept').unique hc']
    exact hsame.value a ha
  | neither => exact ha
  | lost optional kept => exact absent optional (hknown kept) ha

/-! ## Fields next to slots -/

/-- How the values of fields are kept: as their shapes say, or whole. -/
inductive Mode
  | direct
  | whole

def Mode.keep : Mode → Field → Source → Nat → Tree → Walk Content
  | direct, field => field.keep
  | whole, _ => Source.keepWhole

/-- What is kept of the value of a member. -/
def Mode.Kept : Mode → List Field → Source → Nat → String → Tree → Content → Prop
  | direct, fields, src, d => KeptField fields src d
  | whole, _, src, d => KeptWhole src d

theorem Mode.kept_iff {m : Mode} {fields : List Field} (hkeys : (fields.map Field.key).Nodup)
    {field : Field} (hfield : field ∈ fields) {src : Source} {d : Nat} {v : Tree} {c : Content} :
    m.Kept fields src d field.key v c ↔ Yields (m.keep field src d v) c := by
  cases m with
  | direct => exact keptField_key_iff hkeys hfield
  | whole => exact Iff.rfl

/-- The fields of a record are stable in the slots one after the other. -/
inductive Chain (n : Nat) (m : Mode) : ∀ {α : Type}, Fields α → List Slot → Prop
  | make {α : Type} (a : α) : Chain n m (Fields.make a) []
  | field {α β : Type} {r : Fields (α → β)} {slots : List Slot} {field : Field}
      {value? : Content → Option α} {missing : Option α} {s : Slot} (rest : Chain n m r slots)
      (key : field.key = s.key) (required : field.isRequired = true → s.isOptional = false)
      (stable : Stable n (m.keep field) value? s.position)
      (absent : s.isOptional = true → ∀ {src d c a}, Yields (m.keep field src d (scalar .unit)) c →
        value? c = some a → missing = some a) :
      Chain n m (r.withField field value? missing) (slots ++ [s])

namespace Chain

variable {α β : Type} {n : Nat} {m : Mode} {slots : List Slot} {key : String} {p : Position}

theorem required {r : Fields (α → β)} {s : Shape α} (rest : Chain n m r slots)
    (h : Stable n (m.keep ⟨key, true, false, s.keep⟩) s.value? p) :
    Chain n m (r.required key s) (slots ++ [⟨key, false, p⟩]) :=
  .field rest rfl (fun _ => rfl) h nofun

theorem defaulted {r : Fields (α → β)} {s : Shape α} {value : α} (rest : Chain n m r slots)
    (h : Stable n (m.keep ⟨key, false, true, s.keep⟩) s.value? p) :
    Chain n m (r.defaulted key s value) (slots ++ [⟨key, false, p⟩]) :=
  .field rest rfl nofun h nofun

theorem optional {r : Fields (Option α → β)} {s : Shape α} (rest : Chain n m r slots)
    (h : Stable n (m.keep ⟨key, false, false, s.optional.keep⟩) s.optional.value? p) :
    Chain n m (r.optional key s) (slots ++ [⟨key, true, p⟩]) := by
  refine .field rest rfl nofun h fun _ src d c a hc ha => ?_
  have hunit : c = .unit := by
    have htree : IsTree (scalar .unit) := .scalar trivial
    cases m with
    | direct => simpa using (yields_optional_iff htree).1 hc
    | whole => exact (yields_keepWhole_scalar (a := .unit) trivial).1 hc
  rwa [hunit] at ha

theorem keys_eq {r : Fields α} (h : Chain n m r slots) :
    r.fields.map Field.key = slots.map Slot.key := by
  induction h with
  | make => rfl
  | field _ key _ _ _ ih =>
    rw [Fields.keys_withField, List.map_append, ih, List.map_singleton, key]

/-- A required field is in a slot that is not optional. -/
theorem exists_slot {r : Fields α} (h : Chain n m r slots) {f : Field} (hf : f ∈ r.fields)
    (hrequired : f.isRequired = true) : ∃ s ∈ slots, s.key = f.key ∧ s.isOptional = false := by
  induction h with
  | make => cases hf
  | field _ key required _ _ ih =>
    rcases List.mem_append.1 hf with hf | hf
    · obtain ⟨s, hs, h⟩ := ih hf
      exact ⟨s, List.mem_append_left _ hs, h⟩
    · obtain rfl := List.mem_singleton.1 hf
      exact ⟨_, List.mem_append_right _ (List.mem_singleton_self _), key.symm, required hrequired⟩

theorem exists_stable {r : Fields α} (h : Chain n m r slots) {s : Slot} (hs : s ∈ slots) :
    ∃ f ∈ r.fields, f.key = s.key ∧
      ∃ (β : Type) (value? : Content → Option β), Stable n (m.keep f) value? s.position := by
  induction h with
  | make => cases hs
  | @field _ _ _ _ _ value? _ _ _ key _ stable _ ih =>
    rcases List.mem_append.1 hs with hs | hs
    · obtain ⟨f, hf, h⟩ := ih hs
      exact ⟨f, List.mem_append_left _ hf, h⟩
    · obtain rfl := List.mem_singleton.1 hs
      exact ⟨_, List.mem_append_right _ (List.mem_singleton_self _), key, _, value?, stable⟩

section Build

variable {src src' : Source} (hsrc : src.format.positional = true)
  (hsrc' : src'.format.positional = true) {d : Nat} (hd : d ≤ n)
  {known known' : String → Tree → Content → Prop} {found found' : Dict Content}

include hsrc hsrc' hd

/-- What a record is built from may be edited. -/
theorem build?_eq_some {r : Fields α} (h : Chain n m r slots)
    (hknown : ∀ f ∈ r.fields, ∀ {v c}, known f.key v c → Yields (m.keep f src d v) c)
    (hknown' : ∀ f ∈ r.fields, ∀ {v c}, known' f.key v c → Yields (m.keep f src' d v) c)
    (hlinked : ∀ s ∈ slots, Linked known known' s (found.lookup s.key) (found'.lookup s.key))
    {a : α} (ha : r.build? found = some a) : r.build? found' = some a := by
  induction h with
  | make => exact ha
  | @field _ _ r slots f value? missing s _ key _ stable absent ih =>
    rw [List.forall_mem_append, List.forall_mem_singleton] at hlinked
    have hlast : f ∈ (r.withField f value? missing).fields :=
      List.mem_append_right _ (List.mem_singleton_self _)
    obtain ⟨g, b, hg, hb, rfl⟩ := Fields.build?_withField_iff.1 ha
    refine Fields.build?_withField_iff.2 ⟨g, b, ?_, ?_, rfl⟩
    · exact ih (fun f hf => hknown f (List.mem_append_left _ hf))
        (fun f hf => hknown' f (List.mem_append_left _ hf)) hlinked.1 hg
    · rw [key] at hb ⊢
      refine readField_of_linked hsrc hsrc' hd (fun hc => hknown f hlast (key ▸ hc))
        (fun hc => hknown' f hlast (key ▸ hc)) stable (fun hoptional => absent hoptional)
        hlinked.2 hb

/-- What is found in the members of a record is found in the edited members. -/
theorem exists_finds {r : Fields α} {k : Record} (h : Chain n m r k.slots)
    {named named' : List (String × Tree)} (hrecast : RecastMembers k named named')
    (ht : ∀ m ∈ named, IsTree m.2) {unknown unknown' : Tree → Prop}
    (hunknown : ∀ v, IsTree v → unknown v →
      unknown' v ∧ ∀ v', Shuffled (fun _ => True) v v' → unknown' v')
    (hfound : Finds (r.fields.map Field.key) (m.Kept r.fields src d) unknown named found) :
    ∃ found', Finds (r.fields.map Field.key) (m.Kept r.fields src' d) unknown' named' found' ∧
      (∀ f ∈ r.fields, f.isRequired = true → f.key ∈ found.keys → f.key ∈ found'.keys) ∧
      ∀ a, r.build? found = some a → r.build? found' = some a := by
  have hkeys : (r.fields.map Field.key).Nodup := h.keys_eq ▸ k.nodup_keys
  have hkept (src : Source) (f : Field) (hf : f ∈ r.fields) {v : Tree} {c : Content} :
      m.Kept r.fields src d f.key v c → Yields (m.keep f src d v) c :=
    (Mode.kept_iff hkeys hf).1
  have hkeys_eq : r.fields.map Field.key = k.keys := h.keys_eq
  rw [hkeys_eq] at hfound ⊢
  have hknown : ∀ s ∈ k.slots, ∀ v v' c, IsTree v → Recast s.position v v' →
      m.Kept r.fields src d s.key v c → ∃ c', m.Kept r.fields src' d s.key v' c' := by
    intro s hs v v' c hv hvv' hc
    obtain ⟨f, hf, hkey, β, value?, hstable⟩ := h.exists_stable hs
    rw [← hkey] at hc ⊢
    obtain ⟨c', hc', -⟩ := hstable hsrc hsrc' hd hv hvv' (hkept src f hf hc)
    exact ⟨c', (Mode.kept_iff hkeys hf).2 hc'⟩
  obtain ⟨found', hfound'⟩ := Document.exists_finds hrecast ht hfound hknown hunknown
  have hlinked (s : Slot) (hs : s ∈ k.slots) := linked_of_finds hrecast ht hfound hfound' hs
  refine ⟨found', hfound', fun f hf hrequired hmem => ?_, fun a ha => ?_⟩
  · obtain ⟨s, hs, hkey, hoptional⟩ := h.exists_slot hf hrequired
    have hlink := hlinked s hs
    rw [← hkey] at hmem ⊢
    by_contra hnot
    rw [Dict.lookup_eq_none_iff.2 hnot] at hlink
    generalize ho : found.lookup s.key = o at hlink
    cases hlink with
    | neither => exact Dict.lookup_eq_none_iff.1 ho hmem
    | lost hlost => exact absurd hlost (by simp [hoptional])
  · exact h.build?_eq_some hsrc hsrc' hd (hkept src) (hkept src') hlinked ha

end Build

end Chain

/-! ## Records -/

variable {α : Type} {n : Nat} {k : Record} {r : Fields α} {t t' : Tree}
  {named : List (String × Tree)}

theorem Members.isTree {fields : List Field} (h : Members fields t named) (ht : IsTree t) :
    ∀ m ∈ named, IsTree m.2 := by
  cases h with
  | object => exact isTree_object.1 ht
  | list items => exact fun m hm => ht.of_list m.2 (List.of_mem_zip (a := m.1) (b := m.2) hm).2

/-- An edited record has edited members, and is written as before. -/
theorem Recast.members {fields : List Field} (hkeys : fields.map Field.key = k.keys)
    (h : Recast (.record k) t t') (hm : Members fields t named) :
    ∃ named', Members fields t' named' ∧ RecastMembers k named named' ∧
      (t = Json.object named ↔ t' = Json.object named') := by
  cases hm with
  | object =>
    obtain ⟨named', rfl, hrecast⟩ := h.object rfl
    exact ⟨named', .object named', hrecast, iff_of_true rfl rfl⟩
  | list items fits lack =>
    obtain ⟨items', rfl, hlength, hrecast⟩ := h.places
    rw [← hlength] at fits lack
    rw [← hkeys] at hrecast
    exact ⟨_, .list items' fits lack, hrecast, iff_of_false nofun nofun⟩

section

variable (hkeys : r.fields.map Field.key = k.keys)

include hkeys

theorem stable_record {name : String} [r.Still] (h : ∀ m < n, Chain m .direct r k.slots) :
    Stable n (Shape.record name r).keep (Shape.record name r).value? (.record k) := by
  intro src src' hsrc hsrc' depth t t' c hdepth ht hrecast hc
  have hnodup : (r.fields.map Field.key).Nodup := hkeys ▸ k.nodup_keys
  obtain ⟨d, named, found, rfl, hmembers, hfound, hrequired, rfl⟩ :=
    (yields_record_iff hnodup hsrc ht).1 hc
  obtain ⟨named', hmembers', hnamed, hobject⟩ := hrecast.members hkeys hmembers
  have hskip (v : Tree) (_ : IsTree v) (hv : v.skip? = none) :
      v.skip? = none ∧ ∀ v', Shuffled (fun _ => True) v v' → v'.skip? = none :=
    ⟨hv, fun v' hshuffled => hshuffled.skip?_eq_none hv⟩
  obtain ⟨found', hfound', hrequired', hbuild⟩ := (h d hdepth).exists_finds hsrc hsrc'
    (Nat.le_refl d) hnamed (Members.isTree hmembers ht) hskip hfound
  refine ⟨_, (yields_record_iff hnodup hsrc' (hrecast.isTree ht)).2
    ⟨d, named', found', rfl, hmembers', hfound', fun ht' f hf hf' => ?_, rfl⟩, ?_⟩
  · exact hrequired' f hf hf' (hrequired (hobject.2 ht') f hf hf')
  · refine .of_ne nofun nofun fun a ha => ?_
    exact hfound'.ofMap?_eq.2 (hbuild a (hfound.ofMap?_eq.1 ha))

/-- An edited record that is kept whole is built from what is found in the edited members. -/
theorem exists_finds_whole (h : ∀ m < n, Chain m .whole r k.slots) {src src' : Source}
    (hsrc : src.format.positional = true) (hsrc' : src'.format.positional = true) {d : Nat}
    (hd : d < n) (ht : IsTree t) (hrecast : Recast (.record k) t t')
    (hmembers : Members r.fields t named) {found : Dict Content}
    (hfound : Finds (r.fields.map Field.key) (KeptWhole src d) (CanKeep src d) named found) {a : α}
    (ha : r.build? found = some a) :
    ∃ named' found', Members r.fields t' named' ∧
      (t = Json.object named ↔ t' = Json.object named') ∧
      Finds (r.fields.map Field.key) (KeptWhole src' d) (CanKeep src' d) named' found' ∧
      r.build? found' = some a := by
  obtain ⟨named', hmembers', hnamed, hobject⟩ := hrecast.members hkeys hmembers
  have hcan (v : Tree) (hv : IsTree v) (hkeep : CanKeep src d v) :
      CanKeep src' d v ∧ ∀ v', Shuffled (fun _ => True) v v' → CanKeep src' d v' :=
    ⟨canKeep_of_source src' hv hkeep, fun v' hshuffled =>
      canKeep_of_source src' (hshuffled.isTree hv) (hshuffled.canKeep hv hkeep)⟩
  obtain ⟨found', hfound', -, hbuild⟩ := (h d hd).exists_finds hsrc hsrc' (Nat.le_refl d)
    hnamed (Members.isTree hmembers ht) hcan hfound
  exact ⟨named', found', hmembers', hobject, hfound', hbuild a ha⟩

theorem stable_value? (h : ∀ m < n, Chain m .whole r k.slots) :
    Stable n Source.keepWhole r.value? (.record k) := by
  have hnodup : (r.fields.map Field.key).Nodup := hkeys ▸ k.nodup_keys
  refine stable_whole fun src src' hsrc hsrc' depth t t' c c' hdepth ht hrecast hc hc' a ha => ?_
  obtain ⟨d, named, found, rfl, hmembers, hfound, ha⟩ := (value?_iff ht hc hnodup).1 ha
  obtain ⟨named', found', hmembers', -, hfound', ha'⟩ :=
    exists_finds_whole hkeys h hsrc hsrc' hdepth ht hrecast hmembers hfound ha
  exact (value?_iff (hrecast.isTree ht) hc' hnodup).2
    ⟨d, named', found', rfl, hmembers', hfound', ha'⟩

theorem stable_ofMap? (h : ∀ m < n, Chain m .whole r k.slots) :
    Stable n Source.keepWhole r.ofMap? (.record k) := by
  refine stable_whole fun src src' hsrc hsrc' depth t t' c c' hdepth ht hrecast hc hc' a ha => ?_
  obtain ⟨d, named, found, rfl, rfl, hfound, ha⟩ := (ofMap?_iff ht hc).1 ha
  obtain ⟨named', found', -, hobject, hfound', ha'⟩ :=
    exists_finds_whole hkeys h hsrc hsrc' hdepth ht hrecast (.object named) hfound ha
  exact (ofMap?_iff (hrecast.isTree ht) hc').2
    ⟨d, named', found', rfl, hobject.1 rfl, hfound', ha'⟩

end

end ActivityForge.Document
