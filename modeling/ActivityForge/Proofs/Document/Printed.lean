import ActivityForge.Proofs.Document.RoundTrip
import ActivityForge.Proofs.Document.StableRecord

/-!
# Records that are written and read again

A record is written as the object of its fields in order, where some are left out.  It is read again
if each field is (`Printed`), be it that it is kept member by member (`roundTrips_record`) or whole
(`roundTrips_value?`).
-/

namespace ActivityForge.Document

open Json
open Reading
open Walk

/-- What a field with the value `a` is written as: nothing if that stands for `a`, or else a member
that is read as `a`. -/
inductive PrintedField {α : Type} (d : Nat) (keep : Source → Nat → Tree → Walk Content)
    (field : Field) (value? : Content → Option α) (missing : Option α) (a : α) :
    List (String × Value) → Prop
  | absent (optional : field.isRequired = false) (same : missing = some a) :
      PrintedField d keep field value? missing a []
  | present {v : Value} (again : Rereads d keep value? a v) :
      PrintedField d keep field value? missing a [(field.key, v)]

/-- A field that has been read is written such that it is read again. -/
def PrintsField {α : Type} (d : Nat) (keep : Source → Nat → Tree → Walk Content) (field : Field)
    (value? : Content → Option α) (missing : Option α) (write : α → List (String × Value))
    (p : Position) : Prop :=
  ∀ ⦃src : Source⦄, src.format.positional = true → ∀ ⦃found? : Option Content⦄ ⦃a : α⦄,
    (∀ c, found? = some c → ∃ t, IsTree t ∧ FloatFree p t ∧ Yields (keep src d t) c) →
      readField value? missing found? = some a →
        PrintedField d keep field value? missing a (write a)

section

variable {α : Type} {d : Nat} {keep : Source → Nat → Tree → Walk Content} {field : Field}
  {value? : Content → Option α} {missing : Option α} {write : α → Value} {p : Position}

/-- A field that is always written: what is missing is written as what stands for it. -/
theorem RoundTrips.prints (h : RoundTrips d keep value? write p)
    (hmissing : ∀ a, missing = some a → Rereads d keep value? a (write a)) :
    PrintsField d keep field value? missing (fun a => [(field.key, write a)]) p := by
  intro src hsrc found? a hkept hread
  cases found? with
  | none => exact .present (hmissing a hread)
  | some c =>
    obtain ⟨t, ht, hfree, hc⟩ := hkept c rfl
    exact .present (h hsrc ht hfree hc hread).1

/-- A field that is left out if it is what stands for a missing one. -/
theorem RoundTrips.prints_unless (h : RoundTrips d keep value? write p)
    (hoptional : field.isRequired = false) {members : α → List (String × Value)} {empty : α}
    (hempty : members empty = []) (hother : ∀ a, a = empty ∨ members a = [(field.key, write a)]) :
    PrintsField d keep field value? (some empty) members p := by
  intro src hsrc found? a hkept hread
  rcases hother a with rfl | hwrite
  · rw [hempty]
    exact .absent hoptional rfl
  · rw [hwrite]
    cases found? with
    | none =>
      obtain rfl := Option.some.inj hread
      exact absurd hwrite (by simp [hempty])
    | some c =>
      obtain ⟨t, ht, hfree, hc⟩ := hkept c rfl
      exact .present (h hsrc ht hfree hc hread).1

theorem eq_null_of_treeOf {v : Value} (h : treeOf v = scalar .unit) : v = .null := by
  cases v with
  | null => rfl
  | bool => cases scalar_inj.1 h
  | text => cases scalar_inj.1 h
  | number n => cases n <;> cases scalar_inj.1 h
  | list => cases h
  | object => cases h

/-- An optional field that is left out if it is absent.  Where it is kept by `keep'`, `null` is kept
as absent and anything else as by `keep`. -/
theorem RoundTrips.prints_optional {s : Shape α} (h : RoundTrips d keep s.value? write p)
    {keep' : Source → Nat → Tree → Walk Content}
    (hkeep : ∀ {src : Source} {t : Tree} {c : Content}, IsTree t → Yields (keep' src d t) c →
      c ≠ .unit → t ≠ scalar .unit ∧ Yields (keep src d t) c)
    (hkeep' : ∀ {src : Source} {t : Tree} {c : Content} {a : α}, IsTree t → t ≠ scalar .unit →
      Yields (keep src d t) c → s.value? c = some a → Yields (keep' src d t) c ∧ c ≠ .unit)
    (hoptional : field.isRequired = false) :
    PrintsField d keep' field s.optional.value? (some none) (member? field.key write) p := by
  intro src hsrc found? a hkept hread
  cases a with
  | none => exact .absent hoptional rfl
  | some a =>
    cases found? with
    | none => cases Option.some.inj hread
    | some c =>
      obtain ⟨t, ht, hfree, hc⟩ := hkept c rfl
      have hne : c ≠ .unit := by
        rintro rfl
        cases Option.some.inj hread
      have ha : s.value? c = some a := by
        have hsome : (s.value? c).map some = some (some a) := optional_value?_of_ne hne ▸ hread
        obtain ⟨b, hb, hba⟩ := Option.map_eq_some_iff.1 hsome
        rw [hb, hba]
      obtain ⟨hunit, hc⟩ := hkeep ht hc hne
      obtain ⟨hagain, hnull⟩ := h hsrc ht hfree hc ha
      refine .present ⟨hagain.exact, fun src' hsrc' => ?_⟩
      obtain ⟨c', hc', ha'⟩ := hagain.kept src' hsrc'
      have hunit' : treeOf (write a) ≠ scalar .unit :=
        fun heq => hunit (hnull (eq_null_of_treeOf heq))
      obtain ⟨hc', hne'⟩ := hkeep' hagain.exact.isTree hunit' hc' ha'
      exact ⟨c', hc', by rw [optional_value?_of_ne hne', ha', Option.map_some]⟩

end

/-! ## Records -/

/-- A record is written as before, followed by what its last field is written as. -/
inductive Followed {α β : Type} (writes : (α → β) → List (String × Value) → Prop)
    (part : α → List (String × Value)) : β → List (String × Value) → Prop
  | intro {f : α → β} {before : List (String × Value)} (a : α) (rest : writes f before) :
      Followed writes part (f a) (before ++ part a)

/-- The fields of a record, in the slots one after the other, are written such that they are read
again; the relation says with which members a record is written. -/
inductive Printed (d : Nat) (m : Mode) :
    ∀ {α : Type}, Fields α → List Slot → (α → List (String × Value) → Prop) → Prop
  | make {α : Type} (a : α) : Printed d m (Fields.make a) [] fun f members => f = a ∧ members = []
  | field {α β : Type} {r : Fields (α → β)} {slots : List Slot}
      {writes : (α → β) → List (String × Value) → Prop} {field : Field}
      {value? : Content → Option α} {missing : Option α} {write : α → List (String × Value)}
      {s : Slot} (rest : Printed d m r slots writes) (key : field.key = s.key)
      (prints : PrintsField d (m.keep field) field value? missing write s.position) :
      Printed d m (r.withField field value? missing) (slots ++ [s]) (Followed writes write)

namespace Printed

section

variable {α : Type} {d : Nat} {m : Mode} {r : Fields α} {slots : List Slot}
  {writes : α → List (String × Value) → Prop}

/-- Some fields are written as the members, which are read again. -/
structure Written (d : Nat) (m : Mode) (r : Fields α) (a : α) (members : List (String × Value)) :
    Prop where
  exact : ∀ e ∈ members, IsExact e.2
  keys : (Dict.keys members).Sublist (r.fields.map Field.key)
  required : ∀ f ∈ r.fields, f.isRequired = true → f.key ∈ Dict.keys members
  /-- The fields are built from what is kept of the members, whatever else is found. -/
  kept : ∀ src : Source, src.format.positional = true → ∃ found : Dict Content,
    List.Forall₂ (fun e k => e.1 = k.1 ∧
      ∃ f ∈ r.fields, f.key = e.1 ∧ Yields (m.keep f src d (treeOf e.2)) k.2) members found ∧
    ∀ all : Dict Content, (∀ key ∈ r.fields.map Field.key, all.lookup key = found.lookup key) →
      r.build? all = some a

section Part

variable {field : Field} {keep : Source → Nat → Tree → Walk Content} {value? : Content → Option α}
  {missing : Option α} {a : α} {part : List (String × Value)}
  (h : PrintedField d keep field value? missing a part)

include h

theorem sublist_of_part : (Dict.keys part).Sublist [field.key] := by
  cases h <;> simp [Dict.keys]

theorem exact_of_part : ∀ e ∈ part, IsExact e.2 := by
  cases h with
  | absent => simp
  | present again => simpa using again.exact

theorem exists_found_of_part {src : Source} (hsrc : src.format.positional = true) :
    ∃ found : Dict Content,
      List.Forall₂ (fun e k => e.1 = k.1 ∧ field.key = e.1 ∧ Yields (keep src d (treeOf e.2)) k.2)
        part found ∧
      readField value? missing (found.lookup field.key) = some a ∧
      ∀ key, key ≠ field.key → found.lookup key = none := by
  cases h with
  | absent _ same => exact ⟨[], .nil, same, fun _ _ => rfl⟩
  | present again =>
    obtain ⟨c, hc, ha⟩ := again.kept src hsrc
    refine ⟨[(field.key, c)], .cons ⟨rfl, rfl, hc⟩ .nil, ?_, fun key hkey => ?_⟩
    · rw [List.lookup_cons_self]
      exact ha
    · rw [List.lookup_cons, beq_false_of_ne hkey]
      rfl

end Part

theorem Written.append {β : Type} {r : Fields (α → β)} {f : α → β} {before : List (String × Value)}
    (h : Written d m r f before) {field : Field} (hnew : field.key ∉ r.fields.map Field.key)
    {value? : Content → Option α} {missing : Option α} {a : α} {part : List (String × Value)}
    (hpart : PrintedField d (m.keep field) field value? missing a part) :
    Written d m (r.withField field value? missing) (f a) (before ++ part) := by
  have hkeys := r.keys_withField field value? missing
  refine ⟨List.forall_mem_append.2 ⟨h.exact, exact_of_part hpart⟩, ?_, fun g hg hrequired => ?_,
    fun src hsrc => ?_⟩
  · rw [hkeys, Dict.keys, List.map_append]
    exact h.keys.append (sublist_of_part hpart)
  · rw [Dict.keys, List.map_append, List.mem_append]
    rcases List.mem_append.1 hg with hg | hg
    · exact Or.inl (h.required g hg hrequired)
    · obtain rfl := List.mem_singleton.1 hg
      cases hpart with
      | absent optional => exact absurd hrequired (by simp [optional])
      | present => exact Or.inr (List.mem_singleton_self _)
  · obtain ⟨found, hfound, hbuild⟩ := h.kept src hsrc
    obtain ⟨last, hlast, hread, hother⟩ := exists_found_of_part hpart hsrc
    -- the new field is not found before, and nothing else is found in the new part
    have hnone : found.lookup field.key = none := by
      rw [Dict.lookup_eq_none_iff, keys_eq_of_forall₂ hfound]
      exact fun hmem => hnew (h.keys.subset hmem)
    refine ⟨found ++ last, List.rel_append (hfound.imp ?_) (hlast.imp ?_), fun all hall => ?_⟩
    · rintro e k ⟨hkey, g, hg, hrest⟩
      exact ⟨hkey, g, List.mem_append_left _ hg, hrest⟩
    · rintro e k ⟨hkey, hfield, hkept⟩
      exact ⟨hkey, field, List.mem_append_right _ (List.mem_singleton_self _), hfield, hkept⟩
    · rw [hkeys, List.forall_mem_append, List.forall_mem_singleton] at hall
      refine Fields.build?_withField_iff.2 ⟨f, a, hbuild all fun key hkey => ?_, ?_, rfl⟩
      · have hne : key ≠ field.key := fun heq => hnew (heq ▸ hkey)
        rw [hall.1 key hkey, List.lookup_append, hother key hne, Option.or_none]
      · rw [hall.2, List.lookup_append, hnone, Option.none_or]
        exact hread

/-- What a record has been built from is written such that it is read again. -/
theorem exists_written (h : Printed d m r slots writes) (hkeys : (r.fields.map Field.key).Nodup)
    {src : Source} (hsrc : src.format.positional = true) {found : Dict Content}
    (hfound : ∀ f ∈ r.fields, ∀ s ∈ slots, f.key = s.key → ∀ c, found.lookup f.key = some c →
      ∃ t, IsTree t ∧ FloatFree s.position t ∧ Yields (m.keep f src d t) c) {a : α}
    (ha : r.build? found = some a) : ∃ members, writes a members ∧ Written d m r a members := by
  induction h with
  | make =>
    refine ⟨[], ⟨(Option.some.inj ha).symm, rfl⟩, ⟨by simp, by simp [Dict.keys], nofun, ?_⟩⟩
    exact fun src' _ => ⟨[], .nil, fun _ _ => ha⟩
  | @field _ _ r slots writes field value? missing write s _ key prints ih =>
    rw [Fields.keys_withField] at hkeys
    obtain ⟨f, b, hf, hb, rfl⟩ := Fields.build?_withField_iff.1 ha
    have hlast := hfound field (List.mem_append_right _ (List.mem_singleton_self _)) s
      (List.mem_append_right _ (List.mem_singleton_self _)) key
    have hpart := prints hsrc hlast hb
    obtain ⟨before, hbefore, hwritten⟩ := ih (List.nodup_append.1 hkeys).1
      (fun g hg s' hs' => hfound g (List.mem_append_left _ hg) s' (List.mem_append_left _ hs')) hf
    have hnew : field.key ∉ r.fields.map Field.key := fun hmem =>
      (List.nodup_append.1 hkeys).2.2 _ hmem _ (List.mem_singleton_self _) rfl
    exact ⟨_, .intro b hbefore, hwritten.append hnew hpart⟩

/-- What is written of a record is found in the object of its members. -/
theorem Written.exists_finds {members : List (String × Value)} {a : α}
    (h : Written d m r a members) (hkeys : (r.fields.map Field.key).Nodup) (unknown : Tree → Prop)
    {src : Source} (hsrc : src.format.positional = true) :
    ∃ found : Dict Content, knownMembers (r.fields.map Field.key) (namedTreesOf members) =
        namedTreesOf members ∧
      Finds (r.fields.map Field.key) (m.Kept r.fields src d) unknown (namedTreesOf members) found ∧
      found.keys = Dict.keys members ∧ r.build? found = some a := by
  obtain ⟨found, hfound, hbuild⟩ := h.kept src hsrc
  have hknown : ∀ e ∈ namedTreesOf members, e.1 ∈ r.fields.map Field.key := by
    rw [namedTreesOf_eq_map]
    exact List.forall_mem_map.2 fun e he => h.keys.subset (List.mem_map.2 ⟨e, he, rfl⟩)
  have hall := knownMembers_of_forall_mem hknown
  have hsame := keys_eq_of_forall₂ hfound
  -- no member is unknown, so nothing is asked of such members
  refine ⟨found, hall, ⟨fun e he hnot => absurd (hknown e he) hnot, ?_, ?_⟩, hsame,
    hbuild found fun _ _ => rfl⟩
  · rw [hsame]
    exact hkeys.sublist h.keys
  · rw [hall, namedTreesOf_eq_map, List.forall₂_map_left_iff]
    refine hfound.imp fun e k hek => ⟨hek.1, ?_⟩
    obtain ⟨-, f, hf, hkey, hkept⟩ := hek
    show m.Kept r.fields src d e.1 (treeOf e.2) k.2
    rw [← hkey]
    exact (Mode.kept_iff hkeys hf).2 hkept

end

/-! ### Fields of each kind -/

variable {α β : Type} {d : Nat} {m : Mode} {slots : List Slot}
  {key : String} {write : α → Value} {p : Position}

section

variable {r : Fields (α → β)} {s : Shape α} {writes : (α → β) → List (String × Value) → Prop}
  (rest : Printed d m r slots writes)

include rest

theorem required (h : RoundTrips d (m.keep ⟨key, true, false, s.keep⟩) s.value? write p) :
    Printed d m (r.required key s) (slots ++ [⟨key, false, p⟩])
      (Followed writes fun a => [(key, write a)]) :=
  .field rest rfl (h.prints nofun)

/-- A field with a default value that is always written. -/
theorem defaulted {value : α}
    (h : RoundTrips d (m.keep ⟨key, false, true, s.keep⟩) s.value? write p)
    (hvalue : Rereads d (m.keep ⟨key, false, true, s.keep⟩) s.value? value (write value)) :
    Printed d m (r.defaulted key s value) (slots ++ [⟨key, false, p⟩])
      (Followed writes fun a => [(key, write a)]) := by
  refine .field rest rfl (h.prints fun a ha => ?_)
  obtain rfl := Option.some.inj ha
  exact hvalue

end

/-- A list that is left out when empty. -/
theorem list {r : Fields (List α → β)} {s : Shape (List α)}
    {writes : (List α → β) → List (String × Value) → Prop} (rest : Printed d m r slots writes)
    (h : RoundTrips d (m.keep ⟨key, false, true, s.keep⟩) s.value?
      (fun l => .list (l.map write)) p) :
    Printed d m (r.defaulted key s []) (slots ++ [⟨key, false, p⟩])
      (Followed writes (listMember key write)) := by
  refine .field rest rfl (h.prints_unless rfl rfl fun a => ?_)
  cases a with
  | nil => exact Or.inl rfl
  | cons => exact Or.inr rfl

/-- A map that is left out when empty. -/
theorem dict {r : Fields (Dict α → β)} {s : Shape (Dict α)}
    {writes : (Dict α → β) → List (String × Value) → Prop} (rest : Printed d m r slots writes)
    (h : RoundTrips d (m.keep ⟨key, false, true, s.keep⟩) s.value? (writeDict write) p) :
    Printed d m (r.defaulted key s []) (slots ++ [⟨key, false, p⟩])
      (Followed writes (dictMember key write)) := by
  refine .field rest rfl (h.prints_unless rfl rfl fun a => ?_)
  cases a with
  | nil => exact Or.inl rfl
  | cons => exact Or.inr rfl

/-- A field that is left out when absent.  What is there is not kept as `null`. -/
theorem optional {r : Fields (Option α → β)} {s : Shape α}
    {writes : (Option α → β) → List (String × Value) → Prop}
    (rest : Printed d .direct r slots writes) (hunit : s.value? .unit = none)
    (h : RoundTrips d s.keep s.value? write p) :
    Printed d .direct (r.optional key s) (slots ++ [⟨key, true, p⟩])
      (Followed writes (member? key write)) := by
  refine .field rest rfl (h.prints_optional (fun ht hc hne => ?_) (fun ht hne hc ha => ?_) rfl)
  · rcases (yields_optional_iff ht).1 hc with ⟨-, rfl⟩ | hc
    · exact absurd rfl hne
    · exact hc
  · refine ⟨(yields_optional_iff ht).2 (Or.inr ⟨hne, hc⟩), ?_⟩
    rintro rfl
    rw [hunit] at ha
    cases ha

theorem optional_whole {r : Fields (Option α → β)} {s : Shape α}
    {writes : (Option α → β) → List (String × Value) → Prop}
    (rest : Printed d .whole r slots writes) (h : RoundTrips d Source.keepWhole s.value? write p) :
    Printed d .whole (r.optional key s) (slots ++ [⟨key, true, p⟩])
      (Followed writes (member? key write)) := by
  have hunit {src : Source} {t : Tree} {c : Content} (ht : IsTree t)
      (hc : Yields (src.keepWhole d t) c) : c = .unit ↔ t = scalar .unit :=
    eq_contentOf_iff (a := .unit) trivial ht hc
  refine .field rest rfl (h.prints_optional (fun ht hc hne => ?_) (fun ht hne hc _ => ?_) rfl)
  · exact ⟨mt (hunit ht hc).2 hne, hc⟩
  · exact ⟨hc, mt (hunit ht hc).1 hne⟩

end Printed

/-! ## Records -/

section

variable {α : Type} {depth : Nat} {k : Record} {r : Fields α}
  {writes : α → List (String × Value) → Prop} {write : α → Value}
  (hkeys : r.fields.map Field.key = k.keys)
  (hwrite : ∀ a members, writes a members → write a = .object members)

include hkeys

/-- What is found in the members of a record is written such that it is read again. -/
theorem exists_written_of_finds {d : Nat} {m : Mode} (h : Printed d m r k.slots writes)
    {src : Source} (hsrc : src.format.positional = true) {t : Tree} {named : List (String × Tree)}
    (ht : IsTree t) (hfree : FloatFree (.record k) t) (hmembers : Members r.fields t named)
    {unknown : Tree → Prop} {found : Dict Content}
    (hfound : Finds (r.fields.map Field.key) (m.Kept r.fields src d) unknown named found) {a : α}
    (ha : r.build? found = some a) :
    ∃ members, writes a members ∧ Printed.Written d m r a members := by
  have hnodup : (r.fields.map Field.key).Nodup := hkeys ▸ k.nodup_keys
  refine h.exists_written hnodup hsrc (fun f hf s hs hkey c hc => ?_) ha
  obtain ⟨v, hv, hkept⟩ := hfound.exists_member hc
  refine ⟨v, Members.isTree hmembers ht _ hv, ?_, (Mode.kept_iff hnodup hf).1 hkept⟩
  exact FloatFree.member hkeys hmembers hfree hs (hkey ▸ hv)

include hwrite

theorem roundTrips_record {name : String} [r.Still]
    (h : ∀ d, depth = d + 1 → Printed d .direct r k.slots writes) :
    RoundTrips depth (Shape.record name r).keep (Shape.record name r).value? write (.record k) := by
  intro src hsrc t c a ht hfree hc ha
  have hnodup : (r.fields.map Field.key).Nodup := hkeys ▸ k.nodup_keys
  obtain ⟨d, named, found, rfl, hmembers, hfound, -, rfl⟩ := (yields_record_iff hnodup hsrc ht).1 hc
  obtain ⟨members, hwrites, hwritten⟩ := exists_written_of_finds hkeys (h d rfl) hsrc ht hfree
    hmembers hfound (hfound.ofMap?_eq.1 ha)
  have hexact : IsExact (.object members) := .object hwritten.exact
  rw [hwrite a members hwrites]
  refine ⟨⟨hexact, fun src' hsrc' => ?_⟩, nofun⟩
  obtain ⟨found', -, hfound', hsame, hbuild⟩ := hwritten.exists_finds hnodup (·.skip? = none) hsrc'
  refine ⟨_, (yields_record_iff hnodup hsrc' hexact.isTree).2 ⟨d, _, found', rfl, .object _,
    hfound', fun _ f hf hrequired => ?_, rfl⟩, hfound'.ofMap?_eq.2 hbuild⟩
  rw [hsame]
  exact hwritten.required f hf hrequired

/-- A record that has been kept whole is written such that it is read again, and with no members
but its fields. -/
theorem rereads_value? (h : ∀ d, depth = d + 1 → Printed d .whole r k.slots writes) {src : Source}
    (hsrc : src.format.positional = true) {t : Tree} {c : Content} {a : α} (ht : IsTree t)
    (hfree : FloatFree (.record k) t) (hc : Yields (src.keepWhole depth t) c)
    (ha : r.value? c = some a) : Rereads depth Source.keepWhole r.value? a (write a) ∧
      ∃ members, write a = .object members ∧ ∀ key ∈ Dict.keys members, key ∈ k.keys := by
  have hnodup : (r.fields.map Field.key).Nodup := hkeys ▸ k.nodup_keys
  obtain ⟨d, named, found, rfl, hmembers, hfound, hbuild⟩ := (value?_iff ht hc hnodup).1 ha
  obtain ⟨members, hwrites, hwritten⟩ := exists_written_of_finds hkeys (h d rfl) hsrc ht hfree
    hmembers hfound hbuild
  have hexact : IsExact (.object members) := .object hwritten.exact
  rw [hwrite a members hwrites]
  refine ⟨⟨hexact, fun src' hsrc' => ?_⟩, members, rfl, fun key hkey => ?_⟩
  · obtain ⟨found', hall, hfound', -, hbuild'⟩ :=
      hwritten.exists_finds hnodup (CanKeep src' d) hsrc'
    have hfields := hfound'.fields
    rw [hall] at hfields
    have hkept : Yields (src'.keepWhole (d + 1) (treeOf (.object members)))
        (objectContent found') :=
      (yields_keepWhole_dict (isKey_treeMembers _)).2 ⟨d, _, found', rfl, rfl, rfl, hfields⟩
    exact ⟨_, hkept, (value?_iff hexact.isTree hkept hnodup).2
      ⟨d, _, found', rfl, .object _, hfound', hbuild'⟩⟩
  · exact hkeys ▸ hwritten.keys.subset hkey

theorem roundTrips_value? (h : ∀ d, depth = d + 1 → Printed d .whole r k.slots writes) :
    RoundTrips depth Source.keepWhole r.value? write (.record k) := by
  intro src hsrc t c a ht hfree hc ha
  obtain ⟨hagain, members, heq, -⟩ := rereads_value? hkeys hwrite h hsrc ht hfree hc ha
  exact ⟨hagain, fun hnull => Value.noConfusion (heq.symm.trans hnull)⟩

end

end ActivityForge.Document
