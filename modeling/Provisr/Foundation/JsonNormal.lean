import Provisr.Foundation.JsonText
import Provisr.Foundation.JsText
import Mathlib.Data.Prod.Lex
import Mathlib.Data.String.Basic

namespace Provisr.Foundation.Json

-- A store that does not keep the order of object keys returns them ordered by some rank, each key
-- once, with the value it was last given.
section Normal

variable {ν β κ : Type} [LinearOrder κ] (rank : String → κ)

def insertField (k : String) (v : β) : List (String × β) → List (String × β)
  | [] => [(k, v)]
  | (l, w) :: rest =>
    if k = l then (k, v) :: rest
    else if rank k < rank l then (k, v) :: (l, w) :: rest
    else (l, w) :: insertField k v rest

def sortFields (fs : List (String × β)) : List (String × β) :=
  fs.foldl (fun acc f => insertField rank f.1 f.2 acc) []

mutual

def normalize : Json ν → Json ν
  | .null => .null
  | .bool b => .bool b
  | .num n => .num n
  | .str s => .str s
  | .arr items => .arr (normalizeItems items)
  | .obj fields => .obj (sortFields rank (normalizeFields fields))

def normalizeItems : List (Json ν) → List (Json ν)
  | [] => []
  | x :: xs => normalize x :: normalizeItems xs

def normalizeFields : List (String × Json ν) → List (String × Json ν)
  | [] => []
  | (k, v) :: fs => (k, normalize v) :: normalizeFields fs

end

def Ordered (fs : List (String × β)) : Prop := fs.Pairwise (fun f g => rank f.1 < rank g.1)

instance (fs : List (String × β)) : Decidable (Ordered rank fs) :=
  inferInstanceAs (Decidable (fs.Pairwise _))

mutual

def Normal : Json ν → Prop
  | .null | .bool _ | .num _ | .str _ => True
  | .arr items => NormalItems items
  | .obj fields => Ordered rank fields ∧ NormalFields fields

def NormalItems : List (Json ν) → Prop
  | [] => True
  | x :: xs => Normal x ∧ NormalItems xs

def NormalFields : List (String × Json ν) → Prop
  | [] => True
  | (_, v) :: fs => Normal v ∧ NormalFields fs

end

variable {rank}

theorem mem_insertField {k : String} {v : β} {fs : List (String × β)}
    {f : String × β} (h : f ∈ insertField rank k v fs) : f = (k, v) ∨ f ∈ fs := by
  induction fs with
  | nil => exact Or.inl (by simpa [insertField] using h)
  | cons g fs ih =>
    obtain ⟨l, w⟩ := g
    unfold insertField at h
    split at h
    · rcases List.mem_cons.mp h with h | h
      · exact Or.inl h
      · exact Or.inr (List.mem_cons_of_mem _ h)
    · split at h
      · rcases List.mem_cons.mp h with h | h
        · exact Or.inl h
        · exact Or.inr h
      · rcases List.mem_cons.mp h with h | h
        · exact Or.inr (h ▸ List.mem_cons_self ..)
        · rcases ih h with h | h
          · exact Or.inl h
          · exact Or.inr (List.mem_cons_of_mem _ h)

theorem ordered_insertField (inj : Function.Injective rank) (k : String) (v : β)
    {fs : List (String × β)} (h : Ordered rank fs) : Ordered rank (insertField rank k v fs) := by
  induction fs with
  | nil => simp [insertField, Ordered]
  | cons g fs ih =>
    obtain ⟨l, w⟩ := g
    obtain ⟨hhead, htail⟩ := List.pairwise_cons.mp h
    unfold insertField
    split
    · rename_i hk
      subst hk
      exact List.pairwise_cons.mpr ⟨hhead, htail⟩
    · rename_i hk
      split
      · rename_i hlt
        refine List.pairwise_cons.mpr ⟨?_, h⟩
        intro f hf
        rcases List.mem_cons.mp hf with rfl | hf
        · exact hlt
        · exact hlt.trans (hhead f hf)
      · rename_i hlt
        have hgt : rank l < rank k :=
          lt_of_le_of_ne (not_lt.mp hlt) (fun e => hk (inj e).symm)
        refine List.pairwise_cons.mpr ⟨?_, ih htail⟩
        intro f hf
        rcases mem_insertField hf with rfl | hf
        · exact hgt
        · exact hhead f hf

theorem ordered_foldl (inj : Function.Injective rank) (fs : List (String × β))
    {acc : List (String × β)} (h : Ordered rank acc) :
    Ordered rank (fs.foldl (fun acc f => insertField rank f.1 f.2 acc) acc) := by
  induction fs generalizing acc with
  | nil => exact h
  | cons f fs ih => exact ih (ordered_insertField inj f.1 f.2 h)

theorem ordered_sortFields (inj : Function.Injective rank) (fs : List (String × β)) :
    Ordered rank (sortFields rank fs) :=
  ordered_foldl inj fs List.Pairwise.nil

theorem insertField_of_last {k : String} {v : β} {fs : List (String × β)}
    (h : ∀ f ∈ fs, rank f.1 < rank k) : insertField rank k v fs = fs ++ [(k, v)] := by
  induction fs with
  | nil => rfl
  | cons g fs ih =>
    obtain ⟨l, w⟩ := g
    have hl : rank l < rank k := h (l, w) (by simp)
    have hne : k ≠ l := fun e => lt_irrefl _ (e ▸ hl)
    unfold insertField
    rw [if_neg hne, if_neg (not_lt.mpr hl.le), ih (fun f hf => h f (by simp [hf]))]
    rfl

theorem foldl_of_ordered {fs acc : List (String × β)} (h : Ordered rank (acc ++ fs)) :
    fs.foldl (fun acc f => insertField rank f.1 f.2 acc) acc = acc ++ fs := by
  induction fs generalizing acc with
  | nil => simp
  | cons f fs ih =>
    have hlast : ∀ g ∈ acc, rank g.1 < rank f.1 := fun g hg =>
      (List.pairwise_append.mp h).2.2 g hg f (by simp)
    rw [List.foldl_cons, insertField_of_last hlast, ih (by simpa using h), List.append_assoc]
    rfl

theorem sortFields_of_ordered {fs : List (String × β)} (h : Ordered rank fs) :
    sortFields rank fs = fs := by
  have hfold : sortFields rank fs = [] ++ fs := foldl_of_ordered (by simpa using h)
  rwa [List.nil_append] at hfold

theorem sortFields_eq_self_iff (inj : Function.Injective rank) {fs : List (String × β)} :
    sortFields rank fs = fs ↔ Ordered rank fs :=
  ⟨fun h => h ▸ ordered_sortFields inj fs, sortFields_of_ordered⟩

theorem lookup_insertField (k l : String) (v : β) (fs : List (String × β))
    (h : Ordered rank fs) :
    (insertField rank k v fs).lookup l = if l = k then some v else fs.lookup l := by
  induction fs with
  | nil =>
    by_cases hl : l = k
    · simp [insertField, hl]
    · simp [insertField, List.lookup_cons, hl, beq_false_of_ne hl]
  | cons g fs ih =>
    obtain ⟨m, w⟩ := g
    have ih := ih (List.pairwise_cons.mp h).2
    unfold insertField
    by_cases hkm : k = m
    · subst hkm
      by_cases hl : l = k
      · simp [hl]
      · simp [List.lookup_cons, hl, beq_false_of_ne hl]
    · rw [if_neg hkm]
      split
      · by_cases hl : l = k
        · simp [hl]
        · rw [List.lookup_cons, beq_false_of_ne hl, if_neg hl]
      · rw [List.lookup_cons, List.lookup_cons, ih]
        by_cases hl : l = m
        · subst hl
          simp [Ne.symm hkm]
        · rw [beq_false_of_ne hl]

theorem mem_normalizeFields {fs : List (String × Json ν)} {f : String × Json ν}
    (h : f ∈ normalizeFields rank fs) : ∃ v, (f.1, v) ∈ fs ∧ f.2 = normalize rank v := by
  induction fs with
  | nil => simp [normalizeFields] at h
  | cons g fs ih =>
    obtain ⟨k, v⟩ := g
    rw [normalizeFields] at h
    rcases List.mem_cons.mp h with rfl | h
    · exact ⟨v, by simp, rfl⟩
    · obtain ⟨w, hw, he⟩ := ih h
      exact ⟨w, List.mem_cons_of_mem _ hw, he⟩

theorem normalFields_iff {fs : List (String × Json ν)} :
    NormalFields rank fs ↔ ∀ f ∈ fs, Normal rank f.2 := by
  induction fs with
  | nil => simp [NormalFields]
  | cons f fs ih =>
    obtain ⟨k, v⟩ := f
    simp [NormalFields, ih]

theorem mem_foldl_insertField {fs acc : List (String × β)} {f : String × β}
    (h : f ∈ fs.foldl (fun acc f => insertField rank f.1 f.2 acc) acc) : f ∈ acc ∨ f ∈ fs := by
  induction fs generalizing acc with
  | nil => exact Or.inl h
  | cons g fs ih =>
    rcases ih h with h | h
    · rcases mem_insertField h with rfl | h
      · exact Or.inr (by simp)
      · exact Or.inl h
    · exact Or.inr (List.mem_cons_of_mem _ h)

theorem mem_sortFields {fs : List (String × β)} {f : String × β}
    (h : f ∈ sortFields rank fs) : f ∈ fs := by
  rcases mem_foldl_insertField h with h | h
  · simp at h
  · exact h

mutual

theorem normal_normalize (inj : Function.Injective rank) : ∀ j : Json ν, Normal rank (normalize rank j)
  | .null | .bool _ | .num _ | .str _ => by simp [normalize, Normal]
  | .arr items => by
    rw [normalize, Normal]
    exact normalItems_normalize inj items
  | .obj fields => by
    rw [normalize, Normal]
    refine ⟨ordered_sortFields inj _, normalFields_iff.mpr ?_⟩
    intro f hf
    exact normalFields_iff.mp (normalFields_normalize inj fields) f (mem_sortFields hf)

theorem normalItems_normalize (inj : Function.Injective rank) :
    ∀ xs : List (Json ν), NormalItems rank (normalizeItems rank xs)
  | [] => by simp [normalizeItems, NormalItems]
  | x :: xs => by
    rw [normalizeItems, NormalItems]
    exact ⟨normal_normalize inj x, normalItems_normalize inj xs⟩

theorem normalFields_normalize (inj : Function.Injective rank) :
    ∀ fs : List (String × Json ν), NormalFields rank (normalizeFields rank fs)
  | [] => by simp [normalizeFields, NormalFields]
  | (k, v) :: fs => by
    rw [normalizeFields, NormalFields]
    exact ⟨normal_normalize inj v, normalFields_normalize inj fs⟩

end

mutual

theorem normalize_of_normal : ∀ {j : Json ν}, Normal rank j → normalize rank j = j
  | .null, _ | .bool _, _ | .num _, _ | .str _, _ => by simp [normalize]
  | .arr items, h => by
    rw [normalize, normalizeItems_of_normal (by simpa [Normal] using h)]
  | .obj fields, h => by
    rw [Normal] at h
    rw [normalize, normalizeFields_of_normal h.2, sortFields_of_ordered h.1]

theorem normalizeItems_of_normal : ∀ {xs : List (Json ν)}, NormalItems rank xs →
    normalizeItems rank xs = xs
  | [], _ => by simp [normalizeItems]
  | x :: xs, h => by
    rw [NormalItems] at h
    rw [normalizeItems, normalize_of_normal h.1, normalizeItems_of_normal h.2]

theorem normalizeFields_of_normal : ∀ {fs : List (String × Json ν)}, NormalFields rank fs →
    normalizeFields rank fs = fs
  | [], _ => by simp [normalizeFields]
  | (k, v) :: fs, h => by
    rw [NormalFields] at h
    rw [normalizeFields, normalize_of_normal h.1, normalizeFields_of_normal h.2]

end

theorem normalize_idempotent (inj : Function.Injective rank) (j : Json ν) :
    normalize rank (normalize rank j) = normalize rank j :=
  normalize_of_normal (normal_normalize inj j)

end Normal

-- PostgreSQL jsonb: shorter keys first, keys of one length by their bytes.
def jsonbRank (k : String) : Nat ×ₗ String := toLex (k.utf8ByteSize, k)

theorem jsonbRank_injective : Function.Injective jsonbRank := by
  intro a b h
  exact (Prod.mk.inj (toLex.injective h)).2

def jsonb {ν : Type} (j : Json ν) : Json ν := normalize jsonbRank j

theorem jsonb_idempotent {ν : Type} (j : Json ν) : jsonb (jsonb j) = jsonb j :=
  normalize_idempotent jsonbRank_injective j

section Numerals

variable {ν μ ξ : Type} (f : ν → μ) (g : ξ → μ)

mutual

def mapNum : Json ν → Json μ
  | .null => .null
  | .bool b => .bool b
  | .num n => .num (f n)
  | .str s => .str s
  | .arr items => .arr (mapItems items)
  | .obj fields => .obj (mapFields fields)

def mapItems : List (Json ν) → List (Json μ)
  | [] => []
  | x :: xs => mapNum x :: mapItems xs

def mapFields : List (String × Json ν) → List (String × Json μ)
  | [] => []
  | (k, v) :: fs => (k, mapNum v) :: mapFields fs

end

variable {f g}

theorem insertField_mapFields {κ : Type} [LinearOrder κ] (rank : String → κ) (k : String) (v : Json ν) :
    ∀ fs : List (String × Json ν),
      insertField rank k (mapNum f v) (mapFields f fs) = mapFields f (insertField rank k v fs)
  | [] => rfl
  | (l, w) :: rest => by
    have ih := insertField_mapFields rank k v rest
    simp only [mapFields, insertField]
    split
    · rfl
    · split
      · rfl
      · rw [ih]
        rfl

theorem foldl_mapFields {κ : Type} [LinearOrder κ] (rank : String → κ) :
    ∀ (fs acc : List (String × Json ν)),
      (mapFields f fs).foldl (fun acc p => insertField rank p.1 p.2 acc) (mapFields f acc) =
        mapFields f (fs.foldl (fun acc p => insertField rank p.1 p.2 acc) acc)
  | [], _ => rfl
  | (k, v) :: fs, acc => by
    have ih := foldl_mapFields rank fs (insertField rank k v acc)
    rw [mapFields, List.foldl_cons, insertField_mapFields, ih, List.foldl_cons]

mutual

theorem normalize_mapNum {κ : Type} [LinearOrder κ] (rank : String → κ) :
    ∀ j : Json ν, normalize rank (mapNum f j) = mapNum f (normalize rank j)
  | .null | .bool _ | .num _ | .str _ => by simp [normalize, mapNum]
  | .arr items => by
    have ih := normalizeItems_mapItems rank items
    simp only [normalize, mapNum, ih]
  | .obj fields => by
    have ih := normalizeFields_mapFields rank fields
    simp only [normalize, mapNum, ih]
    exact congrArg Json.obj (foldl_mapFields rank _ [])

theorem normalizeItems_mapItems {κ : Type} [LinearOrder κ] (rank : String → κ) :
    ∀ xs : List (Json ν), normalizeItems rank (mapItems f xs) = mapItems f (normalizeItems rank xs)
  | [] => by simp [normalizeItems, mapItems]
  | x :: xs => by
    have hx := normalize_mapNum rank x
    have hxs := normalizeItems_mapItems rank xs
    simp only [normalizeItems, mapItems, hx, hxs]

theorem normalizeFields_mapFields {κ : Type} [LinearOrder κ] (rank : String → κ) :
    ∀ fs : List (String × Json ν), normalizeFields rank (mapFields f fs) = mapFields f (normalizeFields rank fs)
  | [] => by simp [normalizeFields, mapFields]
  | (k, v) :: fs => by
    have hv := normalize_mapNum rank v
    have hfs := normalizeFields_mapFields rank fs
    simp only [normalizeFields, mapFields, hv, hfs]

end

theorem jsonb_mapNum (j : Json ν) : jsonb (mapNum f j) = mapNum f (jsonb j) :=
  normalize_mapNum jsonbRank j

end Numerals

section Spellings

variable {ν μ : Type} {f g : ν → μ}

mutual

theorem mapNum_injective (agree : ∀ m n, f m = g n → m = n) :
    ∀ {a b : Json ν}, mapNum f a = mapNum g b → a = b
  | a, b, h => by
    cases a <;> cases b <;> simp only [mapNum, reduceCtorEq, Json.bool.injEq, Json.num.injEq, Json.str.injEq,
      Json.arr.injEq, Json.obj.injEq] at h ⊢
    · exact h
    · exact agree _ _ h
    · exact h
    · exact mapItems_injective agree h
    · exact mapFields_injective agree h

theorem mapItems_injective (agree : ∀ m n, f m = g n → m = n) :
    ∀ {xs ys : List (Json ν)}, mapItems f xs = mapItems g ys → xs = ys
  | [], [], _ => rfl
  | [], _ :: _, h => by simp [mapItems] at h
  | _ :: _, [], h => by simp [mapItems] at h
  | x :: xs, y :: ys, h => by
    simp only [mapItems, List.cons.injEq] at h
    rw [mapNum_injective agree h.1, mapItems_injective agree h.2]

theorem mapFields_injective (agree : ∀ m n, f m = g n → m = n) :
    ∀ {fs gs : List (String × Json ν)}, mapFields f fs = mapFields g gs → fs = gs
  | [], [], _ => rfl
  | [], _ :: _, h => by simp [mapFields] at h
  | _ :: _, [], h => by simp [mapFields] at h
  | (k, v) :: fs, (l, w) :: gs, h => by
    simp only [mapFields, List.cons.injEq, Prod.mk.injEq] at h
    rw [h.1.1, mapNum_injective agree h.1.2, mapFields_injective agree h.2]

end

end Spellings

section Storable

variable {ν : Type}

-- PostgreSQL stores no U+0000, neither in text nor in jsonb.
def storableText (s : String) : Bool := !s.toList.contains (Char.ofNat 0)

mutual

def storable : Json ν → Bool
  | .null | .bool _ | .num _ => true
  | .str s => storableText s
  | .arr items => storableItems items
  | .obj fields => storableFields fields

def storableItems : List (Json ν) → Bool
  | [] => true
  | x :: xs => storable x && storableItems xs

def storableFields : List (String × Json ν) → Bool
  | [] => true
  | (k, v) :: fs => storableText k && storable v && storableFields fs

end

theorem storableText_of_uuid {s : String} (h : JsText.isUuid s = true) : storableText s = true := by
  have hex := JsText.isUuid_chars h
  unfold storableText
  simp only [Bool.not_eq_true', List.contains_eq_mem, decide_eq_false_iff_not]
  intro hm
  rcases hex _ hm with hc | hc
  · exact absurd hc (by decide)
  · exact absurd hc (by decide)

theorem storableText_append (s t : String) : storableText (s ++ t) = (storableText s && storableText t) := by
  unfold storableText
  rw [String.toList_append, List.contains_append, Bool.not_or]

theorem storableItems_iff {xs : List (Json ν)} : storableItems xs = true ↔ ∀ x ∈ xs, storable x = true := by
  induction xs with
  | nil => simp [storableItems]
  | cons x xs ih => simp [storableItems, ih]

theorem storableFields_iff {fs : List (String × Json ν)} :
    storableFields fs = true ↔ ∀ f ∈ fs, storableText f.1 = true ∧ storable f.2 = true := by
  induction fs with
  | nil => simp [storableFields]
  | cons f fs ih => simp [storableFields, ih, and_assoc]

mutual

theorem storable_normalize {κ : Type} [LinearOrder κ] (rank : String → κ) :
    ∀ j : Json ν, storable j = true → storable (normalize rank j) = true
  | .null, _ | .bool _, _ | .num _, _ => rfl
  | .str _, h => h
  | .arr items, h => storableItems_normalize rank items h
  | .obj fields, h => by
    have all := storableFields_iff.mp (storableFields_normalize rank fields h)
    exact storableFields_iff.mpr fun f hf => all f (mem_sortFields hf)

theorem storableItems_normalize {κ : Type} [LinearOrder κ] (rank : String → κ) :
    ∀ xs : List (Json ν), storableItems xs = true → storableItems (normalizeItems rank xs) = true
  | [], _ => rfl
  | x :: xs, h => by
    rw [storableItems, Bool.and_eq_true] at h
    rw [normalizeItems, storableItems, storable_normalize rank x h.1, storableItems_normalize rank xs h.2]
    rfl

theorem storableFields_normalize {κ : Type} [LinearOrder κ] (rank : String → κ) :
    ∀ fs : List (String × Json ν), storableFields fs = true → storableFields (normalizeFields rank fs) = true
  | [], _ => rfl
  | (k, v) :: fs, h => by
    rw [storableFields, Bool.and_eq_true, Bool.and_eq_true] at h
    rw [normalizeFields, storableFields, h.1.1, storable_normalize rank v h.1.2, storableFields_normalize rank fs h.2]
    rfl

end

theorem storableText_ofList {cs : List Char} (h : cs.contains (Char.ofNat 0) = false) :
    storableText (String.ofList cs) = true := by
  rw [storableText, String.toList_ofList, h]
  rfl

theorem storableText_stringify [NumberText ν] (j : Json ν) : storableText (stringify j) = true := by
  have absent : Char.ofNat 0 ∉ write j := fun h => absurd (write_printable j _ h) (by decide)
  simp [storableText, stringify, absent]

end Storable

end Provisr.Foundation.Json
