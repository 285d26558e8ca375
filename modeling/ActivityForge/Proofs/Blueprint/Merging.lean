import ActivityForge.Proofs.Blueprint.Parameters

/-!
# Merged parameters

What merging makes of the parameters of a path and those of an operation, without the steps of the
loop: every parameter of the path stays where it is, but the first with each key gives way to the
last that the operation has with that key (`overridden`); behind them stands, for each key that the
path does not have, the last parameter of the operation with it, in the order in which the keys come
up (`added`).  The loop goes through the list that it changes, so what is left to be merged is
carried by the closed form (`closedForm_mergeParameter`).
-/

namespace ActivityForge.Blueprint

open Activity (Parameter)

/-- The last of the parameters that has the key. -/
def lastWith? (own : List Parameter) (key : String × Document.Place) : Option Parameter :=
  own.reverse.find? fun p => p.key = key

/-- The parameters of a path, where the first with each key is replaced by the last of an operation
that has the key. -/
def overridden (ofPath own : List Parameter) : List Parameter :=
  ofPath.mapIdx fun i p =>
    if p.key ∈ (ofPath.map Parameter.key).take i then p else (lastWith? own p.key).getD p

/-- The keys that are not known yet, each once and where it comes first. -/
def newKeys (known keys : List (String × Document.Place)) : List (String × Document.Place) :=
  (keys.filter fun key => key ∉ known).eraseDups

/-- For each key that the path does not have, the last parameter of the operation with it. -/
def added (ofPath own : List Parameter) : List Parameter :=
  (newKeys (ofPath.map Parameter.key) (own.map Parameter.key)).filterMap (lastWith? own)

/-! ## The last parameter with a key -/

section LastWith

variable {own : List Parameter} {p : Parameter} {key : String × Document.Place}

theorem lastWith?_cons : lastWith? (p :: own) key =
    (lastWith? own key).or (if p.key = key then some p else none) := by
  rw [lastWith?, List.reverse_cons, List.find?_append, List.find?_singleton, lastWith?]
  simp only [decide_eq_true_eq]

theorem lastWith?_eq_none_iff : lastWith? own key = none ↔ key ∉ own.map Parameter.key := by
  simp [lastWith?]

/-- A parameter in front does not count where there is another with the key. -/
theorem lastWith?_cons_of_mem (h : key ∈ own.map Parameter.key) :
    lastWith? (p :: own) key = lastWith? own key := by
  obtain ⟨q, hq⟩ := Option.ne_none_iff_exists'.1 (mt lastWith?_eq_none_iff.1 (not_not.2 h))
  rw [lastWith?_cons, hq, Option.some_or]

theorem lastWith?_cons_of_ne (h : p.key ≠ key) : lastWith? (p :: own) key = lastWith? own key := by
  rw [lastWith?_cons, if_neg h, Option.or_none]

theorem lastWith?_cons_self : lastWith? (p :: own) p.key = some ((lastWith? own p.key).getD p) := by
  rw [lastWith?_cons, if_pos rfl]
  cases lastWith? own p.key <;> rfl

end LastWith

/-! ## Keys that come up -/

section NewKeys

variable {known keys : List (String × Document.Place)} {key : String × Document.Place}

theorem mem_of_mem_newKeys (h : key ∈ newKeys known keys) : key ∈ keys :=
  (List.mem_filter.1 (List.mem_eraseDups.1 h)).1

theorem newKeys_cons_of_mem (h : key ∈ known) :
    newKeys known (key :: keys) = newKeys known keys := by
  rw [newKeys, List.filter_cons_of_neg (by simpa using h), newKeys]

/-- A key that comes up is known from then on. -/
theorem newKeys_cons_of_not_mem (h : key ∉ known) :
    newKeys known (key :: keys) = key :: newKeys (known ++ [key]) keys := by
  have hlater : (keys.filter fun other => other ∉ known).filter (fun other => !other == key) =
      keys.filter fun other => other ∉ known ++ [key] := by
    rw [List.filter_filter]
    refine List.filter_congr fun other _ => ?_
    simp [and_comm, beq_eq_decide]
  rw [newKeys, List.filter_cons_of_pos (by simpa using h), List.eraseDups_cons, hlater, newKeys]

end NewKeys

/-! ## One parameter -/

section Step

variable {ps own : List Parameter} {p : Parameter}

theorem mergeParameter_of_not_mem (h : p.key ∉ ps.map Parameter.key) :
    mergeParameter ps p = ps ++ [p] := by
  induction ps with
  | nil => rfl
  | cons q ps ih =>
    rw [List.map_cons, List.mem_cons, not_or] at h
    have hother : ¬ sameParameter q p = true := fun hsame =>
      h.1 ((sameParameter_iff q p).1 hsame).symm
    rw [mergeParameter, if_neg hother, ih h.2, List.cons_append]

/-- A parameter whose key is there takes the place of the first with it. -/
theorem getElem?_mergeParameter (h : p.key ∈ ps.map Parameter.key) (i : Nat) :
    (mergeParameter ps p)[i]? = ps[i]?.map fun q =>
      if q.key = p.key ∧ q.key ∉ (ps.map Parameter.key).take i then p else q := by
  induction ps generalizing i with
  | nil => cases h
  | cons q ps ih =>
    by_cases hq : q.key = p.key
    · rw [mergeParameter, if_pos ((sameParameter_iff q p).2 hq)]
      cases i with
      | zero => simp [hq]
      | succ i =>
        -- The loop stops at `q`, and no parameter behind it is the first with its key.
        have hlater (r : Parameter) :
            ¬ (r.key = p.key ∧ r.key ∉ ((q :: ps).map Parameter.key).take (i + 1)) := by
          rintro ⟨hr, hnew⟩
          exact hnew (by simp [hr, hq])
        simp only [List.getElem?_cons_succ, if_neg (hlater _), Option.map_id']
    · have hother : ¬ sameParameter q p = true := mt (sameParameter_iff q p).1 hq
      rw [List.map_cons, List.mem_cons] at h
      rw [mergeParameter, if_neg hother]
      cases i with
      | zero => simp [hq]
      | succ i =>
        have hfront (r : Parameter) :
            (r.key = p.key ∧ r.key ∉ ((q :: ps).map Parameter.key).take (i + 1)) ↔
              (r.key = p.key ∧ r.key ∉ (ps.map Parameter.key).take i) := by
          refine and_congr_right fun hr => not_congr ?_
          rw [List.map_cons, List.take_succ_cons, List.mem_cons, hr]
          exact or_iff_right (Ne.symm hq)
        simp only [List.getElem?_cons_succ, ih (h.resolve_left (Ne.symm hq)) i, hfront]

theorem getElem?_overridden (i : Nat) : (overridden ps own)[i]? = ps[i]?.map fun q =>
    if q.key ∈ (ps.map Parameter.key).take i then q else (lastWith? own q.key).getD q := by
  rw [overridden, List.getElem?_mapIdx]

theorem overridden_mergeParameter (h : p.key ∈ ps.map Parameter.key) :
    overridden (mergeParameter ps p) own = overridden ps (p :: own) := by
  have hkeys : (mergeParameter ps p).map Parameter.key = ps.map Parameter.key := by
    rw [keys_mergeParameter, if_pos h]
  refine List.ext_getElem? fun i => ?_
  rw [getElem?_overridden, getElem?_overridden, hkeys, getElem?_mergeParameter h, Option.map_map]
  congr 1
  funext q
  rw [Function.comp_apply]
  by_cases hearlier : q.key ∈ (ps.map Parameter.key).take i
  · simp [hearlier]
  · by_cases hq : q.key = p.key
    · rw [hq] at hearlier
      simp [hearlier, hq, lastWith?_cons_self]
    · simp [hearlier, hq, lastWith?_cons_of_ne (Ne.symm hq)]

theorem overridden_append_singleton (h : p.key ∉ ps.map Parameter.key) :
    overridden (ps ++ [p]) own = overridden ps own ++ [(lastWith? own p.key).getD p] := by
  rw [overridden, List.mapIdx_append, overridden]
  congr 1
  · refine List.mapIdx_eq_mapIdx_iff.2 fun i hi => ?_
    rw [List.map_append, List.take_append_of_le_length (by simpa using Nat.le_of_lt hi)]
  · simp [h]

theorem overridden_cons_of_not_mem (h : p.key ∉ ps.map Parameter.key) :
    overridden ps (p :: own) = overridden ps own := by
  refine List.mapIdx_eq_mapIdx_iff.2 fun i hi => ?_
  have hne : p.key ≠ ps[i].key := fun heq => h (heq ▸ List.mem_map_of_mem (List.getElem_mem hi))
  rw [lastWith?_cons_of_ne hne]

/-- The last parameters with keys of the others are the same without the one in front. -/
theorem filterMap_lastWith?_cons (known : List (String × Document.Place)) :
    (newKeys known (own.map Parameter.key)).filterMap (lastWith? (p :: own)) =
      (newKeys known (own.map Parameter.key)).filterMap (lastWith? own) :=
  List.filterMap_congr fun _ hkey => lastWith?_cons_of_mem (mem_of_mem_newKeys hkey)

/-- What the loop does with one parameter, seen from the end of it. -/
theorem closedForm_mergeParameter :
    overridden (mergeParameter ps p) own ++ added (mergeParameter ps p) own =
      overridden ps (p :: own) ++ added ps (p :: own) := by
  by_cases h : p.key ∈ ps.map Parameter.key
  · have hkeys : (mergeParameter ps p).map Parameter.key = ps.map Parameter.key := by
      rw [keys_mergeParameter, if_pos h]
    rw [overridden_mergeParameter h, added, added, hkeys, List.map_cons,
      newKeys_cons_of_mem h, filterMap_lastWith?_cons]
  · rw [mergeParameter_of_not_mem h, overridden_append_singleton h, overridden_cons_of_not_mem h,
      added, added, List.map_append, List.map_singleton, List.map_cons, newKeys_cons_of_not_mem h,
      List.filterMap_cons_some lastWith?_cons_self, filterMap_lastWith?_cons, List.append_assoc,
      List.singleton_append]

end Step

/-! ## All parameters -/

section Merging

variable (ofPath own : List Parameter)

/-- Merging in closed form. -/
theorem mergeParameters_eq :
    mergeParameters ofPath own = overridden ofPath own ++ added ofPath own := by
  induction own generalizing ofPath with
  | nil =>
    have hnone (key : String × Document.Place) : lastWith? [] key = none := rfl
    have hsame : overridden ofPath [] = ofPath :=
      List.ext_getElem? fun i => by simp [getElem?_overridden, hnone]
    rw [hsame, added, List.map_nil, newKeys, List.filter_nil, List.eraseDups_nil,
      List.filterMap_nil, List.append_nil]
    rfl
  | cons p own ih =>
    show mergeParameters (mergeParameter ofPath p) own = _
    rw [ih, closedForm_mergeParameter]

variable {ofPath own}

/-- A parameter of the path whose key the operation does not have stays where it is. -/
theorem getElem?_mergeParameters_of_not_mem {i : Nat} {p : Parameter} (hp : ofPath[i]? = some p)
    (h : p.key ∉ own.map Parameter.key) : (mergeParameters ofPath own)[i]? = some p := by
  have hover : (overridden ofPath own)[i]? = some p := by
    rw [getElem?_overridden, hp, Option.map_some, lastWith?_eq_none_iff.2 h, Option.getD_none,
      ite_self]
  have hi : i < (overridden ofPath own).length := (List.getElem?_eq_some_iff.1 hover).1
  rw [mergeParameters_eq, List.getElem?_append_left hi, hover]

theorem mem_keys_mergeParameters {key : String × Document.Place} :
    key ∈ (mergeParameters ofPath own).map Parameter.key ↔
      key ∈ ofPath.map Parameter.key ∨ key ∈ own.map Parameter.key := by
  induction own generalizing ofPath with
  | nil => simp [mergeParameters]
  | cons p own ih =>
    have hstep : key ∈ (mergeParameter ofPath p).map Parameter.key ↔
        key ∈ ofPath.map Parameter.key ∨ key = p.key := by
      rw [keys_mergeParameter]
      split
      · next hp => exact ⟨Or.inl, fun h => h.elim id fun hkey => hkey ▸ hp⟩
      · rw [List.mem_append, List.mem_singleton]
    show key ∈ (mergeParameters (mergeParameter ofPath p) own).map Parameter.key ↔ _
    rw [ih, hstep, List.map_cons, List.mem_cons, or_assoc]

end Merging

/-- What becomes of the parameters of a path and those of an operation. -/
structure Merged (ofPath own merged : List Parameter) : Prop where
  closed : merged = overridden ofPath own ++ added ofPath own
  distinct : (ofPath.map Parameter.key).Nodup → (merged.map Parameter.key).Nodup
  kept : ∀ (i : Nat) (p : Parameter), ofPath[i]? = some p → p.key ∉ own.map Parameter.key →
    merged[i]? = some p
  present : ∀ p ∈ own, p.key ∈ merged.map Parameter.key

theorem merged_mergeParameters (ofPath own : List Parameter) :
    Merged ofPath own (mergeParameters ofPath own) where
  closed := mergeParameters_eq ofPath own
  distinct := (nodup_keys_mergeParameters_iff ofPath own).2
  kept _ _ := getElem?_mergeParameters_of_not_mem
  present _ hp := mem_keys_mergeParameters.2 (Or.inr (List.mem_map_of_mem hp))

/-- The parameters of an activity are those of its path, whatever they are, merged with those that
its operation declares. -/
theorem parameters_of_resolveActivity {d : Document} {o : Options} {path : String}
    {ofPath : List Parameter} {entry : Document.Method × Document.Operation} {a : Activity}
    (h : (resolveActivity d o path ofPath entry).result = .ok a) :
    ∃ own, (entry.2.parameters.mapM fun v => (resolveParameter d o v).result) = .ok own ∧
      Merged ofPath own a.parameters := by
  simp only [result_resolveActivity, bind_eq_ok_iff, pure_eq_ok_iff] at h
  obtain ⟨own, hown, _, -, _, -, rfl⟩ := h
  exact ⟨own, hown, merged_mergeParameters ofPath own⟩

/-- An operation with a parameter that it repeats by a reference, and a path that repeats it too. -/
def manyLimits : Document where
  format := "3.0.3"
  info := ⟨"Many limits", none, "1"⟩
  paths := []
  components := some ⟨[], [], [("limit", .inline (limit .query "number"))], []⟩
where
  limit (place : Document.Place) (type : String) : Document.Parameter :=
    ⟨"limit", place, none, false,
      some (.inline ⟨some (.single type), none, none, none, [], [], none, none⟩)⟩
  operation : Document.Operation :=
    ⟨none, none, none, [],
      [.inline (limit .query "string"), .inline (limit .cookie "string"),
        .ref "#/components/parameters/limit"],
      none, [], none⟩
  ofPath : List Parameter :=
    [limit .header "boolean", limit .query "boolean", limit .query "integer"].map
      (parameterOf "models")

theorem manyLimits_merged : ∃ a,
    (resolveActivity manyLimits ⟨"models", true⟩ "/pets" manyLimits.ofPath
      (.get, manyLimits.operation)).result = .ok a ∧
      ∃ own, (manyLimits.operation.parameters.mapM fun v =>
          (resolveParameter manyLimits ⟨"models", true⟩ v).result) = .ok own ∧
        Merged manyLimits.ofPath own a.parameters := by
  obtain ⟨a, h⟩ := exists_eq_ok_of_isOk
    (x := (resolveActivity manyLimits ⟨"models", true⟩ "/pets" manyLimits.ofPath
      (.get, manyLimits.operation)).result) (by decide +kernel)
  exact ⟨a, h, parameters_of_resolveActivity h⟩

/-- The first limit in the query gives way to the last of the operation, the second stays. -/
example : (resolveActivity manyLimits ⟨"models", true⟩ "/pets" manyLimits.ofPath
      (.get, manyLimits.operation)).result.map
      (fun a => a.parameters.map fun p => (p.place, p.type)) =
    .ok [(.header, .nullable .boolean), (.query, .nullable .double), (.query, .nullable .int32),
      (.cookie, .nullable .string)] := by
  decide +kernel

end ActivityForge.Blueprint
