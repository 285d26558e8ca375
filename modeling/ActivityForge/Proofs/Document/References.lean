import ActivityForge.Document.Reader
import ActivityForge.Proofs.Document.Positions
import ActivityForge.Proofs.Json.Whole
import ActivityForge.Proofs.Reading.Fields

/-!
# References in a document

A value is matched as a reference if and only if it is an object with one target
(`ofMap?_refFields_iff`), whatever else it has.
-/

namespace ActivityForge.Document

open Json
open Reading
open Walk

theorem build?_refFields {found : Dict Content} {target : String} :
    refFields.build? found = some target ↔ found.lookup refKey = some (.text target) := by
  have hread (o : Option Content) :
      readField Shape.text.value? none o = some target ↔ o = some (.text target) := by
    match o with
    | none => exact iff_of_false nofun nofun
    | some c => cases c <;> simp [readField, Shape.text, Content.text?]
  rw [refFields, Fields.required, Fields.build?_withField_iff, ← hread]
  constructor
  · rintro ⟨f, a, hf, ha, rfl⟩
    obtain rfl := Option.some.inj hf
    exact ha
  · intro h
    exact ⟨id, target, rfl, h, rfl⟩

theorem knownMembers_refFields {β : Type} (named : List (String × β)) :
    knownMembers (refFields.fields.map Field.key) named = named.filter (·.1 = refKey) :=
  List.filter_congr fun _ _ => decide_eq_decide.2 List.mem_singleton

theorem eq_singleton_of_nodup {β : Type} {key : String} {v : β} {known : Dict β}
    (hnodup : known.keys.Nodup) (hkeys : ∀ m ∈ known, m.1 = key) (hmem : (key, v) ∈ known) :
    known = [(key, v)] := by
  match known with
  | [] => cases hmem
  | [m] => rw [List.mem_singleton.1 hmem]
  | m :: m' :: _ =>
    rw [List.forall_mem_cons, List.forall_mem_cons] at hkeys
    rw [Dict.keys, List.map_cons, List.map_cons, hkeys.1, hkeys.2.1] at hnodup
    exact absurd List.mem_cons_self (List.nodup_cons.1 hnodup).1

/-- A value that is kept whole is matched as a reference if it is one. -/
theorem ofMap?_refFields_iff {src : Source} {depth : Nat} {t : Tree} {c : Content}
    (ht : IsTree t) (hc : Yields (src.keepWhole depth t) c) {target : String} :
    refFields.ofMap? c = some target ↔ ∃ named, t = object named ∧
      named.filter (·.1 = refKey) = [(refKey, textTree target)] := by
  have htext : IsPlain (.text target) := trivial
  simp only [ofMap?_iff ht hc, build?_refFields]
  constructor
  · rintro ⟨d, named, found, rfl, rfl, hfound, htarget⟩
    refine ⟨named, rfl, ?_⟩
    obtain ⟨v, hv, hkept⟩ := hfound.exists_member htarget
    obtain rfl : v = textTree target :=
      (eq_contentOf_iff htext (isTree_object.1 ht _ hv) hkept).1 rfl
    have honce := hfound.once
    rw [keys_eq_of_forall₂ hfound.fields, knownMembers_refFields] at honce
    refine eq_singleton_of_nodup honce (fun m hm => ?_) (List.mem_filter.2 ⟨hv, by simp⟩)
    exact of_decide_eq_true (List.mem_filter.1 hm).2
  · rintro ⟨named, rfl, hnamed⟩
    obtain ⟨d, _, _, rfl, heq, -⟩ := (yields_keepWhole_dict (isKey_treeMembers named)).1 hc
    obtain ⟨_, hd, hkeep⟩ := canKeep_object_iff.1 ⟨c, hc⟩
    cases hd
    refine ⟨d, named, [(refKey, .text target)], rfl, rfl,
      ⟨fun m hm _ => hkeep m hm, List.nodup_singleton _, ?_⟩, List.lookup_cons_self⟩
    rw [knownMembers_refFields, hnamed]
    exact .cons ⟨rfl, (yields_keepWhole_scalar htext).2 rfl⟩ .nil

theorem isSome_ofMap?_refFields {src : Source} {depth : Nat} {t : Tree} {c : Content}
    (ht : IsTree t) (hc : Yields (src.keepWhole depth t) c) :
    (refFields.ofMap? c).isSome ↔ IsReference t := by
  simp only [Option.isSome_iff_exists, ofMap?_refFields_iff ht hc, IsReference]
  rw [exists_comm]

end ActivityForge.Document
