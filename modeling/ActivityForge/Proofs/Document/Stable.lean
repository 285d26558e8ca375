import ActivityForge.Proofs.Document.Kept
import ActivityForge.Proofs.Document.Nested

/-!
# What an edited document is read as

A way of keeping and matching values is `Stable` in a position if an edit of what stands there
leaves the result as it is.  Shapes that are put together from stable ones are stable, be it that
they are kept part by part or as a whole.
-/

namespace ActivityForge.Document

open Json
open Reading hiding Fields
open Walk

variable {α : Type} {n : Nat} {p : Position} {value? : Content → Option α}

/-- The contents before and after an edit have the same value, and both or none are absent. -/
structure SameValue (value? : Content → Option α) (c c' : Content) : Prop where
  absent : c = .unit ↔ c' = .unit
  value : ∀ a, value? c = some a → value? c' = some a

/-- An edit in the position does not change what a value is read as.  Values of at most `n` nested
containers are considered; the texts before and after the edit have sources of their own. -/
def Stable (n : Nat) (keep : Source → Nat → Tree → Walk Content) (value? : Content → Option α)
    (p : Position) : Prop :=
  ∀ ⦃src src' : Source⦄, src.format.positional = true → src'.format.positional = true →
    ∀ ⦃depth : Nat⦄ ⦃t t' : Tree⦄ ⦃c : Content⦄, depth ≤ n → IsTree t → Recast p t t' →
      Yields (keep src depth t) c → ∃ c', Yields (keep src' depth t') c' ∧ SameValue value? c c'

theorem SameValue.refl (value? : Content → Option α) (c : Content) : SameValue value? c c :=
  ⟨Iff.rfl, fun _ h => h⟩

theorem SameValue.of_ne {c c' : Content} (hc : c ≠ .unit) (hc' : c' ≠ .unit)
    (h : ∀ a, value? c = some a → value? c' = some a) : SameValue value? c c' :=
  ⟨iff_of_false hc hc', h⟩

theorem optional_value?_of_ne {s : Shape α} {c : Content} (h : c ≠ .unit) :
    s.optional.value? c = (s.value? c).map some := by
  cases c with
  | unit => exact absurd rfl h
  | _ => rfl

theorem Stable.eq_some {keep : Source → Nat → Tree → Walk Content} (h : Stable n keep value? p)
    {src src' : Source} (hsrc : src.format.positional = true)
    (hsrc' : src'.format.positional = true) {depth : Nat} (hdepth : depth ≤ n) {t t' : Tree}
    (ht : IsTree t) (hrecast : Recast p t t') {c c' : Content} (hc : Yields (keep src depth t) c)
    (hc' : Yields (keep src' depth t') c') {a : α} (ha : value? c = some a) :
    value? c' = some a := by
  obtain ⟨c'', hc'', hsame⟩ := h hsrc hsrc' hdepth ht hrecast hc
  rw [hc'.unique hc'']
  exact hsame.value a ha

/-! ## Values without parts -/

theorem stable_text : Stable n Shape.text.keep Shape.text.value? .plain := by
  intro src src' _ _ depth t t' c _ ht h hc
  obtain rfl := h.eq_of_plain
  exact ⟨c, (yields_text_iff ht).2 ((yields_text_iff ht).1 hc), .refl _ c⟩

theorem stable_flag : Stable n Shape.flag.keep Shape.flag.value? .plain := by
  intro src src' _ _ depth t t' c _ ht h hc
  obtain rfl := h.eq_of_plain
  exact ⟨c, (yields_flag_iff ht).2 ((yields_flag_iff ht).1 hc), .refl _ c⟩

theorem stable_plain : Stable n Source.keepWhole value? .plain := by
  intro src src' _ _ depth t t' c _ ht h hc
  obtain rfl := h.eq_of_plain
  exact ⟨c, yields_keepWhole_of_source ht hc, .refl _ c⟩

theorem stable_texts : Stable n Shape.text.list.keep Shape.text.list.value? .plain := by
  intro src src' _ _ depth t t' c _ ht h hc
  obtain rfl := h.eq_of_plain
  obtain ⟨d, items, kept, rfl, rfl, hkept, rfl⟩ := (yields_list_iff ht).1 hc
  refine ⟨_, (yields_list_iff ht).2 ⟨d, items, kept, rfl, rfl, ?_, rfl⟩, .refl _ _⟩
  refine (forall₂_iff_of_mem fun item hitem k => ?_).1 hkept
  rw [yields_text_iff (ht.of_list item hitem), yields_text_iff (ht.of_list item hitem)]

/-! ## Values that are kept whole -/

/-- What is kept whole is kept after an edit; it remains to compare the values. -/
theorem stable_whole
    (h : ∀ src src' : Source, src.format.positional = true → src'.format.positional = true →
      ∀ depth t t' c c', depth ≤ n → IsTree t → Recast p t t' →
        Yields (src.keepWhole depth t) c → Yields (src'.keepWhole depth t') c' →
          ∀ a, value? c = some a → value? c' = some a) :
    Stable n Source.keepWhole value? p := by
  intro src src' hsrc hsrc' depth t t' c hdepth ht hrecast hc
  obtain ⟨c', hc'⟩ : CanKeep src' depth t' := hrecast.canKeep ht ⟨c, hc⟩
  refine ⟨c', hc', ?_, h src src' hsrc hsrc' depth t t' c c' hdepth ht hrecast hc hc'⟩
  have hunit : IsPlain .unit := trivial
  exact (eq_contentOf_iff hunit ht hc).trans <| (hrecast.eq_scalar_iff .unit).trans
    (eq_contentOf_iff hunit (hrecast.isTree ht) hc').symm

/-! ## Lists and maps -/

/-- What can be done with the elements of related lists can be done with the lists. -/
theorem forall₂_transfer {β β' γ γ' : Type} {R : β → β' → Prop} {K : β → γ → Prop}
    {S : β' → γ' → Prop} {T : γ → γ' → Prop} {l : List β} {l' : List β'} {r : List γ}
    (h : ∀ b ∈ l, ∀ b' c, R b b' → K b c → ∃ c', S b' c' ∧ T c c') (hR : List.Forall₂ R l l')
    (hK : List.Forall₂ K l r) : ∃ r', List.Forall₂ S l' r' ∧ List.Forall₂ T r r' := by
  induction hR generalizing r with
  | nil =>
    cases hK
    exact ⟨[], .nil, .nil⟩
  | cons hr _ ih =>
    rw [List.forall_mem_cons] at h
    cases hK with
    | cons hk hrest =>
      obtain ⟨c', hc', ht⟩ := h.1 _ _ hr hk
      obtain ⟨r', hr', hts⟩ := ih h.2 hrest
      exact ⟨c' :: r', .cons hc' hr', .cons ht hts⟩

theorem sameKeys_transfer {β β' γ γ' : Type} {R : β → β' → Prop} {K : β → γ → Prop}
    {S : β' → γ' → Prop} {T : γ → γ' → Prop} {named : Dict β} {named' : Dict β'} {found : Dict γ}
    (h : ∀ m ∈ named, ∀ v' c, R m.2 v' → K m.2 c → ∃ c', S v' c' ∧ T c c')
    (hR : List.Forall₂ (SameKeys R) named named') (hK : List.Forall₂ (SameKeys K) named found) :
    ∃ found', List.Forall₂ (SameKeys S) named' found' ∧
      List.Forall₂ (SameKeys T) found found' := by
  refine forall₂_transfer (fun m hm m' k hmm' hmk => ?_) hR hK
  obtain ⟨c', hc', ht⟩ := h m hm m'.2 k.2 hmm'.2 hmk.2
  exact ⟨(k.1, c'), ⟨hmm'.1.symm.trans hmk.1, hc'⟩, rfl, ht⟩

theorem forall₂_comp {β γ δ : Type} {T : β → γ → Prop} {F : β → δ → Prop} {F' : γ → δ → Prop}
    (h : ∀ b c d, T b c → F b d → F' c d) {l : List β} {l' : List γ} {r : List δ}
    (hT : List.Forall₂ T l l') (hF : List.Forall₂ F l r) : List.Forall₂ F' l' r := by
  induction hT generalizing r with
  | nil =>
    cases hF
    exact .nil
  | cons ht _ ih =>
    cases hF with
    | cons hf hrest => exact .cons (h _ _ _ ht hf) (ih hrest)

theorem sameValue_list {kept kept' : List Content}
    (h : List.Forall₂ (SameValue value?) kept kept') :
    SameValue (Content.list? value?) (.list kept) (.list kept') := by
  refine .of_ne nofun nofun fun l hl => ?_
  rw [list?_list_iff] at hl ⊢
  exact forall₂_comp (fun _ _ a hsame => hsame.value a) h hl

theorem sameValue_dict {found found' : Dict Content}
    (h : List.Forall₂ (SameKeys (SameValue value?)) found found') :
    SameValue (Content.dict? value?) (objectContent found) (objectContent found') := by
  refine .of_ne nofun nofun fun m hm => ?_
  rw [dict?_objectContent_iff] at hm ⊢
  obtain ⟨pairs, hpairs, rfl⟩ := hm
  refine ⟨pairs, forall₂_comp (fun _ _ _ hsame hpair => ?_) h hpairs, rfl⟩
  exact ⟨hsame.1.symm.trans hpair.1, hsame.2.value _ hpair.2⟩

theorem stable_list {s : Shape α} [s.Still] (h : Stable n s.keep s.value? p) :
    Stable n s.list.keep s.list.value? (.list p) := by
  intro src src' hsrc hsrc' depth t t' c hdepth ht hrecast hc
  obtain ⟨d, items, kept, rfl, rfl, hkept, rfl⟩ := (yields_list_iff ht).1 hc
  have ht' := hrecast.isTree ht
  obtain ⟨items', rfl, hitems⟩ := hrecast.list
  obtain ⟨kept', hkept', hsame⟩ := forall₂_transfer
    (S := fun item' k' => Yields (s.keep src' d item') k') (T := SameValue s.value?)
    (fun item hitem item' k hitem' hk =>
      h hsrc hsrc' (Nat.le_of_succ_le hdepth) (ht.of_list item hitem) hitem' hk)
    hitems hkept
  exact ⟨_, (yields_list_iff ht').2 ⟨d, items', kept', rfl, rfl, hkept', rfl⟩, sameValue_list hsame⟩

theorem stable_dict {s : Shape α} [s.Still] (h : Stable n s.keep s.value? p) :
    Stable n s.dict.keep s.dict.value? (.map p) := by
  intro src src' hsrc hsrc' depth t t' c hdepth ht hrecast hc
  obtain ⟨d, named, found, rfl, rfl, rfl, hfound⟩ := (yields_dict_iff ht).1 hc
  have ht' := hrecast.isTree ht
  rw [isTree_object] at ht
  obtain ⟨named', rfl, hnamed⟩ := hrecast.map rfl
  obtain ⟨found', hfound', hsame⟩ := sameKeys_transfer
    (S := fun v' k' => Yields (s.keep src' d v') k') (T := SameValue s.value?)
    (fun m hm v' k hv' hk => h hsrc hsrc' (Nat.le_of_succ_le hdepth) (ht m hm) hv' hk)
    hnamed hfound
  exact ⟨_, (yields_dict_iff ht').2 ⟨d, named', found', rfl, rfl, rfl, hfound'⟩,
    sameValue_dict hsame⟩

theorem stable_dict_whole (h : Stable n Source.keepWhole value? p) :
    Stable n Source.keepWhole (Content.dict? value?) (.map p) := by
  intro src src' hsrc hsrc' depth t t' c hdepth ht hrecast hc
  rcases hrecast.eq_or_object with rfl | ⟨named, rfl⟩
  · exact ⟨c, yields_keepWhole_of_source ht hc, .refl _ c⟩
  · have hkeys := isKey_treeMembers
    obtain ⟨d, _, found, rfl, heq, rfl, hfound⟩ := (yields_keepWhole_dict (hkeys named)).1 hc
    obtain rfl := object_inj heq
    rw [isTree_object] at ht
    obtain ⟨named', rfl, hnamed⟩ := hrecast.map rfl
    obtain ⟨found', hfound', hsame⟩ := sameKeys_transfer
      (S := fun v' k' => Yields (src'.keepWhole d v') k') (T := SameValue value?)
      (fun m hm v' k hv' hk => h hsrc hsrc' (Nat.le_of_succ_le hdepth) (ht m hm) hv' hk)
      hnamed hfound
    exact ⟨_, (yields_keepWhole_dict (hkeys named')).2 ⟨d, named', found', rfl, rfl, rfl, hfound'⟩,
      sameValue_dict hsame⟩

/-! ## Optional values and choices -/

theorem Stable.optional {keep : Source → Nat → Tree → Walk Content} {s : Shape α}
    (h : Stable n keep s.value? p) : Stable n keep s.optional.value? p := by
  intro src src' hsrc hsrc' depth t t' c hdepth ht hrecast hc
  obtain ⟨c', hc', habsent, hvalue⟩ := h hsrc hsrc' hdepth ht hrecast hc
  refine ⟨c', hc', habsent, fun a ha => ?_⟩
  by_cases hunit : c = .unit
  · rw [habsent.1 hunit]
    rwa [hunit] at ha
  · rw [optional_value?_of_ne hunit, Option.map_eq_some_iff] at ha
    obtain ⟨b, hb, rfl⟩ := ha
    rw [optional_value?_of_ne (mt habsent.2 hunit), hvalue b hb, Option.map_some]

theorem stable_optional {s : Shape α} (h : Stable n s.keep s.value? p) :
    Stable n s.optional.keep s.optional.value? p := by
  intro src src' hsrc hsrc' depth t t' c hdepth ht hrecast hc
  have ht' := hrecast.isTree ht
  rcases (yields_optional_iff ht).1 hc with ⟨rfl, rfl⟩ | ⟨hne, hc⟩
  · have hunit := (hrecast.eq_scalar_iff .unit).1 rfl
    exact ⟨.unit, (yields_optional_iff ht').2 (Or.inl ⟨hunit, rfl⟩), .refl _ _⟩
  · obtain ⟨c', hc', hsame⟩ := h.optional hsrc hsrc' hdepth ht hrecast hc
    have hne' := mt (hrecast.eq_scalar_iff .unit).2 hne
    exact ⟨c', (yields_optional_iff ht').2 (Or.inr ⟨hne', hc'⟩), hsame⟩

theorem stable_choice {name : String} (h : Stable n Source.keepWhole value? p) :
    Stable n (Shape.choice name value?).keep value? p := by
  intro src src' hsrc hsrc' depth t t' c hdepth ht hrecast hc
  obtain ⟨hc, hsome⟩ := yields_choice_iff.1 hc
  obtain ⟨a, ha⟩ := Option.isSome_iff_exists.1 hsome
  obtain ⟨c', hc', hsame⟩ := h hsrc hsrc' hdepth ht hrecast hc
  exact ⟨c', yields_choice_iff.2 ⟨hc', Option.isSome_iff_exists.2 ⟨a, hsame.value a ha⟩⟩, hsame⟩

end ActivityForge.Document
