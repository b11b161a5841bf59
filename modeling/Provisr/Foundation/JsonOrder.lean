import Provisr.Foundation.JsonNormal

namespace Provisr.Foundation.Json

-- The orders in which the writers of a text put the keys of an object: what one order has made of a value,
-- another one makes of it what it makes of the value itself.
section Orders

variable {ν β κ κ' : Type} [LinearOrder κ] [LinearOrder κ'] {rank : String → κ} {rank' : String → κ'}

theorem Ordered.nodup {fs : List (String × β)} (h : Ordered rank fs) :
    (fs.map Prod.fst).Nodup := by
  rw [List.Nodup, List.pairwise_map]
  refine List.Pairwise.imp ?_ h
  intro f g hlt he
  exact absurd hlt (by rw [he]; exact lt_irrefl _)

theorem lookup_eq_some_iff {fs : List (String × β)} (h : (fs.map Prod.fst).Nodup) {k : String} {v : β} :
    fs.lookup k = some v ↔ (k, v) ∈ fs := by
  induction fs with
  | nil => simp
  | cons f fs ih =>
    obtain ⟨l, w⟩ := f
    rw [List.map_cons, List.nodup_cons] at h
    rw [List.lookup_cons, List.mem_cons, Prod.mk.injEq]
    by_cases hk : k = l
    · subst hk
      have hnot : (k, v) ∉ fs := fun hm => h.1 (List.mem_map.mpr ⟨_, hm, rfl⟩)
      simp [hnot, eq_comm]
    · simp [beq_false_of_ne hk, hk, ih h.2]

theorem lookup_reverse {fs : List (String × β)} (h : (fs.map Prod.fst).Nodup) (k : String) :
    fs.reverse.lookup k = fs.lookup k := by
  have h' : (fs.reverse.map Prod.fst).Nodup := by
    rw [List.map_reverse]
    exact List.nodup_reverse.mpr h
  refine Option.ext fun v => ?_
  rw [lookup_eq_some_iff h, lookup_eq_some_iff h', List.mem_reverse]

theorem lookup_foldl (inj : Function.Injective rank) (fs : List (String × β)) {acc : List (String × β)}
    (h : Ordered rank acc) (k : String) :
    (fs.foldl (fun acc f => insertField rank f.1 f.2 acc) acc).lookup k =
      (fs.reverse.lookup k <|> acc.lookup k) := by
  induction fs generalizing acc with
  | nil => simp
  | cons f fs ih =>
    obtain ⟨l, w⟩ := f
    rw [List.foldl_cons, ih (ordered_insertField inj _ _ h), List.reverse_cons, List.lookup_append,
      lookup_insertField _ _ _ _ h]
    cases fs.reverse.lookup k with
    | some v => simp
    | none =>
      by_cases hk : k = l
      · simp [hk]
      · simp [hk, List.lookup_cons, beq_false_of_ne hk]

theorem lookup_sortFields (inj : Function.Injective rank) (fs : List (String × β)) (k : String) :
    (sortFields rank fs).lookup k = fs.reverse.lookup k := by
  unfold sortFields
  rw [lookup_foldl inj fs List.Pairwise.nil]
  simp

theorem mem_sortFields_iff (inj : Function.Injective rank) {fs : List (String × β)} (h : (fs.map Prod.fst).Nodup)
    {f : String × β} : f ∈ sortFields rank fs ↔ f ∈ fs := by
  obtain ⟨k, v⟩ := f
  rw [← lookup_eq_some_iff (ordered_sortFields inj fs).nodup, lookup_sortFields inj, lookup_reverse h,
    lookup_eq_some_iff h]

theorem Ordered.ext {fs gs : List (String × β)} (hf : Ordered rank fs)
    (hg : Ordered rank gs) (h : ∀ k, fs.lookup k = gs.lookup k) : fs = gs := by
  have mem : ∀ f, f ∈ fs ↔ f ∈ gs := by
    rintro ⟨k, v⟩
    rw [← lookup_eq_some_iff (hf.nodup), ← lookup_eq_some_iff (hg.nodup), h]
  have perm : fs.Perm gs :=
    (List.perm_ext_iff_of_nodup (hf.nodup).of_map (hg.nodup).of_map).mpr mem
  refine perm.eq_of_pairwise ?_ hf hg
  intro f g _ _ hlt hgt
  exact absurd hlt (lt_asymm hgt)

theorem sortFields_sortFields (inj : Function.Injective rank) (inj' : Function.Injective rank')
    (fs : List (String × β)) : sortFields rank (sortFields rank' fs) = sortFields rank fs := by
  refine Ordered.ext (ordered_sortFields inj _) (ordered_sortFields inj _) ?_
  intro k
  rw [lookup_sortFields inj, lookup_sortFields inj,
    lookup_reverse ((ordered_sortFields inj' fs).nodup), lookup_sortFields inj']

theorem insertField_map {γ : Type} (f : β → γ) (k : String) (v : β) (fs : List (String × β)) :
    insertField rank k (f v) (fs.map (Prod.map id f)) = (insertField rank k v fs).map (Prod.map id f) := by
  induction fs with
  | nil => rfl
  | cons g fs ih =>
    obtain ⟨l, w⟩ := g
    simp only [List.map_cons, Prod.map, id, insertField]
    by_cases hk : k = l
    · simp [hk]
    · by_cases hlt : rank k < rank l
      · simp [hk, hlt]
      · simp only [hk, hlt, if_false, List.map_cons]
        exact congrArg _ ih

theorem sortFields_map {γ : Type} (f : β → γ) (fs : List (String × β)) :
    sortFields rank (fs.map (Prod.map id f)) = (sortFields rank fs).map (Prod.map id f) := by
  have fold : ∀ acc : List (String × β),
      (fs.map (Prod.map id f)).foldl (fun acc f => insertField rank f.1 f.2 acc) (acc.map (Prod.map id f)) =
        (fs.foldl (fun acc f => insertField rank f.1 f.2 acc) acc).map (Prod.map id f) := by
    induction fs with
    | nil => exact fun _ => rfl
    | cons g fs ih =>
      intro acc
      rw [List.map_cons, List.foldl_cons, List.foldl_cons, ← ih, ← insertField_map]
      rfl
  exact fold []

theorem normalizeFields_eq_map (fs : List (String × Json ν)) :
    normalizeFields rank fs = fs.map (Prod.map id (normalize rank)) := by
  induction fs with
  | nil => rfl
  | cons f fs ih =>
    obtain ⟨k, v⟩ := f
    rw [normalizeFields, ih]
    rfl

theorem normalizeItems_eq_map (xs : List (Json ν)) : normalizeItems rank xs = xs.map (normalize rank) := by
  induction xs with
  | nil => rfl
  | cons x xs ih => rw [normalizeItems, ih, List.map_cons]

theorem lookup_normalized (inj : Function.Injective rank) {fs : List (String × Json ν)}
    (nodup : (fs.map Prod.fst).Nodup) (k : String) :
    (sortFields rank (normalizeFields rank fs)).lookup k = (fs.lookup k).map (normalize rank) := by
  have keys : ((fs.map (Prod.map id (normalize rank))).map Prod.fst).Nodup := by
    rwa [List.map_map, show (Prod.fst ∘ Prod.map id (normalize rank) : String × Json ν → String) = Prod.fst from rfl]
  rw [normalizeFields_eq_map, lookup_sortFields inj, lookup_reverse keys]
  refine Option.ext fun v => ?_
  rw [lookup_eq_some_iff keys, Option.map_eq_some_iff, List.mem_map]
  constructor
  · rintro ⟨⟨l, w⟩, mem, he⟩
    obtain ⟨rfl, rfl⟩ := Prod.mk.inj he
    exact ⟨w, (lookup_eq_some_iff nodup).mpr mem, rfl⟩
  · rintro ⟨w, found, rfl⟩
    exact ⟨(k, w), (lookup_eq_some_iff nodup).mp found, rfl⟩

mutual

theorem normalize_normalize (inj : Function.Injective rank) (inj' : Function.Injective rank') :
    ∀ j : Json ν, normalize rank (normalize rank' j) = normalize rank j
  | .null | .bool _ | .num _ | .str _ => by simp [normalize]
  | .arr items => by
    rw [normalize, normalize, normalize, normalizeItems_normalizeItems inj inj' items]
  | .obj fields => by
    rw [normalize, normalize, normalize, normalizeFields_eq_map (sortFields rank' _), ← sortFields_map,
      ← normalizeFields_eq_map, normalizeFields_normalizeFields inj inj' fields,
      sortFields_sortFields inj inj']

theorem normalizeItems_normalizeItems (inj : Function.Injective rank) (inj' : Function.Injective rank') :
    ∀ xs : List (Json ν), normalizeItems rank (normalizeItems rank' xs) = normalizeItems rank xs
  | [] => rfl
  | x :: xs => by
    rw [normalizeItems, normalizeItems, normalizeItems, normalize_normalize inj inj' x,
      normalizeItems_normalizeItems inj inj' xs]

theorem normalizeFields_normalizeFields (inj : Function.Injective rank) (inj' : Function.Injective rank') :
    ∀ fs : List (String × Json ν), normalizeFields rank (normalizeFields rank' fs) = normalizeFields rank fs
  | [] => rfl
  | (k, v) :: fs => by
    rw [normalizeFields, normalizeFields, normalizeFields, normalize_normalize inj inj' v,
      normalizeFields_normalizeFields inj inj' fs]

end

theorem normalize_eq_iff (inj : Function.Injective rank) (inj' : Function.Injective rank') {a b : Json ν} :
    normalize rank a = normalize rank b ↔ normalize rank' a = normalize rank' b := by
  constructor
  · intro h
    rw [← normalize_normalize inj' inj a, h, normalize_normalize inj' inj]
  · intro h
    rw [← normalize_normalize inj inj' a, h, normalize_normalize inj inj']

end Orders

end Provisr.Foundation.Json
