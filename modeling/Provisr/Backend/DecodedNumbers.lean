import Provisr.Backend.PolicyEvaluator
import Provisr.Foundation.JsonbText
import Mathlib.Tactic.Ring

namespace Provisr.Backend.SourceMetadata

open Provisr.Foundation
open Provisr.Backend.Policy (float64Of inRange decodes decodesItems decodesFields nesting nestingItems nestingFields)

section Shortest

def zeroLiteral (negative : Bool) : Literal := ⟨negative, ['0'], [], none, rfl⟩

-- A number as json.Marshal writes it once it has been decoded as a float64.
def shortest (l : Literal) : Literal :=
  if float64Of l = 0 then zeroLiteral l.negative
  else
    let spellings := (Float64.decimals l.negative (float64Of l)).filterMap fun n => (JsonReader.readNumber n.text).map Prod.fst
    (spellings.find? fun s => float64Of s == float64Of l).getD l

theorem float64Of_zero (negative : Bool) : float64Of (zeroLiteral negative) = 0 := by
  cases negative <;> decide +kernel

theorem float64Of_shortest (l : Literal) : float64Of (shortest l) = float64Of l := by
  unfold shortest
  split
  · rename_i zero
    rw [float64Of_zero, zero]
  · dsimp only
    generalize (Float64.decimals l.negative (float64Of l)).filterMap _ = spellings
    cases found : spellings.find? fun s => float64Of s == float64Of l with
    | none => rfl
    | some s => simpa using List.find?_some found

theorem inRange_shortest (l : Literal) : inRange (shortest l) = inRange l := by
  unfold inRange
  rw [float64Of_shortest]

end Shortest

section Numeric

theorem roundHalfEven_mul {c : Nat} (positive : 0 < c) (p q : Nat) :
    Float64.roundHalfEven (c * p) (c * q) = Float64.roundHalfEven p q := by
  unfold Float64.roundHalfEven
  rw [Nat.mul_div_mul_left _ _ positive, Nat.mul_mod_mul_left]
  have half : 2 * (c * (p % q)) = c * (2 * (p % q)) := by ring
  have less : c * (2 * (p % q)) < c * q ↔ 2 * (p % q) < q := Nat.mul_lt_mul_left positive
  have equal : c * (2 * (p % q)) = c * q ↔ 2 * (p % q) = q := Nat.mul_right_inj (by omega)
  rw [half]
  simp only [less, equal]

theorem round_mul {c : Nat} (positive : 0 < c) (p q : Nat) : Float64.round (c * p) (c * q) = Float64.round p q := by
  unfold Float64.round
  dsimp only
  rw [Nat.mul_div_mul_left _ _ positive, Nat.mul_assoc, roundHalfEven_mul positive]

theorem float64Of_numeric (l : Literal) : float64Of l.numeric = float64Of l := by
  obtain ⟨k, mantissa, scale⟩ := l.numeric_mantissa
  unfold float64Of
  rw [mantissa, scale]
  generalize l.mantissa = m
  generalize l.numeric.scale = s
  generalize Float64.scale = u
  have power : 0 < 10 ^ k := Nat.pow_pos (by omega)
  dsimp only
  by_cases whole : 0 ≤ s
  · have shifted : 10 ^ k * m * u * 10 ^ s.toNat = m * u * 10 ^ (s + k).toNat := by
      rw [show (s + k).toNat = s.toNat + k by omega, pow_add]
      ring
    rw [if_pos whole, if_pos (by omega), shifted]
  · rw [if_neg whole]
    by_cases above : 0 ≤ s + k
    · have split : 10 ^ k = 10 ^ (-s).toNat * 10 ^ (s + k).toNat := by
        rw [← pow_add, show (-s).toNat + (s + k).toNat = k by omega]
      have divided : Float64.round (10 ^ (-s).toNat * (m * u * 10 ^ (s + k).toNat)) (10 ^ (-s).toNat * 1) =
          Float64.round (m * u * 10 ^ (s + k).toNat) 1 := round_mul (Nat.pow_pos (by omega)) _ _
      have shifted : 10 ^ k * m * u = 10 ^ (-s).toNat * (m * u * 10 ^ (s + k).toNat) := by
        rw [split]
        ring
      rw [if_pos above, ← divided, shifted, Nat.mul_one]
    · have split : 10 ^ (-s).toNat = 10 ^ k * 10 ^ (-(s + k)).toNat := by
        rw [← pow_add, show k + (-(s + k)).toNat = (-s).toNat by omega]
      rw [if_neg above, split, Nat.mul_assoc (10 ^ k), round_mul power]

theorem inRange_numeric (l : Literal) : inRange l.numeric = inRange l := by
  unfold inRange
  rw [float64Of_numeric]

end Numeric

section Trees

variable {κ : Type} [LinearOrder κ] {rank : String → κ} {p : Literal → Bool}

theorem allItems_iff {xs : List (Json Literal)} : Json.allItems p xs = true ↔ ∀ x ∈ xs, Json.allNum p x = true := by
  induction xs with
  | nil => simp [Json.allItems]
  | cons x xs ih => rw [Json.allItems, Bool.and_eq_true, ih, List.forall_mem_cons]

theorem allFields_iff {fs : List (String × Json Literal)} :
    Json.allFields p fs = true ↔ ∀ f ∈ fs, Json.allNum p f.2 = true := by
  induction fs with
  | nil => simp [Json.allFields]
  | cons f fs ih =>
    obtain ⟨k, v⟩ := f
    rw [Json.allFields, Bool.and_eq_true, ih, List.forall_mem_cons]

theorem nestingItems_le_iff {n : Nat} {xs : List (Json Literal)} : nestingItems xs ≤ n ↔ ∀ x ∈ xs, nesting x ≤ n := by
  induction xs with
  | nil => simp [nestingItems]
  | cons x xs ih => rw [nestingItems, Nat.max_le, ih, List.forall_mem_cons]

theorem nestingFields_le_iff {n : Nat} {fs : List (String × Json Literal)} :
    nestingFields fs ≤ n ↔ ∀ f ∈ fs, nesting f.2 ≤ n := by
  induction fs with
  | nil => simp [nestingFields]
  | cons f fs ih =>
    obtain ⟨k, v⟩ := f
    rw [nestingFields, Nat.max_le, ih, List.forall_mem_cons]

mutual

theorem decodes_eq : ∀ j : Json Literal, decodes j = Json.allNum inRange j
  | .null | .bool _ | .str _ | .num _ => by simp [decodes, Json.allNum]
  | .arr items => by rw [decodes, Json.allNum, decodesItems_eq items]
  | .obj fields => by rw [decodes, Json.allNum, decodesFields_eq fields]

theorem decodesItems_eq : ∀ xs : List (Json Literal), decodesItems xs = Json.allItems inRange xs
  | [] => rfl
  | x :: xs => by rw [decodesItems, Json.allItems, decodes_eq x, decodesItems_eq xs]

theorem decodesFields_eq : ∀ fs : List (String × Json Literal), decodesFields fs = Json.allFields inRange fs
  | [] => rfl
  | (k, v) :: fs => by rw [decodesFields, Json.allFields, decodes_eq v, decodesFields_eq fs]

end

mutual

theorem allNum_mapNum (f : Literal → Literal) : ∀ j : Json Literal,
    Json.allNum p (Json.mapNum f j) = Json.allNum (fun l => p (f l)) j
  | .null | .bool _ | .str _ | .num _ => by simp [Json.mapNum, Json.allNum]
  | .arr items => by rw [Json.mapNum, Json.allNum, Json.allNum, allItems_mapItems f items]
  | .obj fields => by rw [Json.mapNum, Json.allNum, Json.allNum, allFields_mapFields f fields]

theorem allItems_mapItems (f : Literal → Literal) : ∀ xs : List (Json Literal),
    Json.allItems p (Json.mapItems f xs) = Json.allItems (fun l => p (f l)) xs
  | [] => rfl
  | x :: xs => by rw [Json.mapItems, Json.allItems, Json.allItems, allNum_mapNum f x, allItems_mapItems f xs]

theorem allFields_mapFields (f : Literal → Literal) : ∀ fs : List (String × Json Literal),
    Json.allFields p (Json.mapFields f fs) = Json.allFields (fun l => p (f l)) fs
  | [] => rfl
  | (k, v) :: fs => by rw [Json.mapFields, Json.allFields, Json.allFields, allNum_mapNum f v, allFields_mapFields f fs]

end

mutual

theorem nesting_mapNum (f : Literal → Literal) : ∀ j : Json Literal, nesting (Json.mapNum f j) = nesting j
  | .null | .bool _ | .str _ | .num _ => by simp [Json.mapNum, nesting]
  | .arr items => by rw [Json.mapNum, nesting, nesting, nestingItems_mapItems f items]
  | .obj fields => by rw [Json.mapNum, nesting, nesting, nestingFields_mapFields f fields]

theorem nestingItems_mapItems (f : Literal → Literal) : ∀ xs : List (Json Literal),
    nestingItems (Json.mapItems f xs) = nestingItems xs
  | [] => rfl
  | x :: xs => by rw [Json.mapItems, nestingItems, nestingItems, nesting_mapNum f x, nestingItems_mapItems f xs]

theorem nestingFields_mapFields (f : Literal → Literal) : ∀ fs : List (String × Json Literal),
    nestingFields (Json.mapFields f fs) = nestingFields fs
  | [] => rfl
  | (k, v) :: fs => by
    rw [Json.mapFields, nestingFields, nestingFields, nesting_mapNum f v, nestingFields_mapFields f fs]

end

mutual

theorem allNum_normalize : ∀ j : Json Literal, Json.allNum p j = true → Json.allNum p (Json.normalize rank j) = true
  | .null | .bool _ | .str _ | .num _ => fun all => by simpa [Json.normalize] using all
  | .arr items => fun all => by
    rw [Json.normalize, Json.allNum, Json.normalizeItems_eq_map, allItems_iff]
    rw [Json.allNum] at all
    exact List.forall_mem_map.mpr (allItems_normalize items all)
  | .obj fields => fun all => by
    rw [Json.normalize, Json.allNum, allFields_iff]
    rw [Json.allNum] at all
    intro f member
    obtain ⟨v, inside, same⟩ := Json.mem_normalizeFields (Json.mem_sortFields member)
    rw [same]
    exact allFields_normalize fields all (f.1, v) inside

theorem allItems_normalize : ∀ xs : List (Json Literal), Json.allItems p xs = true →
    ∀ x ∈ xs, Json.allNum p (Json.normalize rank x) = true
  | [], _ => by simp
  | x :: xs, all => by
    rw [Json.allItems, Bool.and_eq_true] at all
    exact List.forall_mem_cons.mpr ⟨allNum_normalize x all.1, allItems_normalize xs all.2⟩

theorem allFields_normalize : ∀ fs : List (String × Json Literal), Json.allFields p fs = true →
    ∀ f ∈ fs, Json.allNum p (Json.normalize rank f.2) = true
  | [], _ => by simp
  | (k, v) :: fs, all => by
    rw [Json.allFields, Bool.and_eq_true] at all
    exact List.forall_mem_cons.mpr ⟨allNum_normalize v all.1, allFields_normalize fs all.2⟩

end

mutual

theorem nesting_normalize : ∀ j : Json Literal, nesting (Json.normalize rank j) ≤ nesting j
  | .null | .bool _ | .str _ | .num _ => by simp [Json.normalize]
  | .arr items => by
    rw [Json.normalize, nesting, nesting, Json.normalizeItems_eq_map, Nat.add_le_add_iff_right, nestingItems_le_iff]
    exact List.forall_mem_map.mpr (nestingItems_normalize items)
  | .obj fields => by
    rw [Json.normalize, nesting, nesting, Nat.add_le_add_iff_right, nestingFields_le_iff]
    intro f member
    obtain ⟨v, inside, same⟩ := Json.mem_normalizeFields (Json.mem_sortFields member)
    rw [same]
    exact nestingFields_normalize fields (f.1, v) inside

theorem nestingItems_normalize : ∀ xs : List (Json Literal),
    ∀ x ∈ xs, nesting (Json.normalize rank x) ≤ nestingItems xs
  | [] => by simp
  | x :: xs => by
    have head := nesting_normalize x
    have tail := nestingItems_normalize xs
    rw [nestingItems, List.forall_mem_cons]
    exact ⟨head.trans (Nat.le_max_left _ _), fun y member => (tail y member).trans (Nat.le_max_right _ _)⟩

theorem nestingFields_normalize : ∀ fs : List (String × Json Literal),
    ∀ f ∈ fs, nesting (Json.normalize rank f.2) ≤ nestingFields fs
  | [] => by simp
  | (k, v) :: fs => by
    have head := nesting_normalize v
    have tail := nestingFields_normalize fs
    rw [nestingFields, List.forall_mem_cons]
    exact ⟨head.trans (Nat.le_max_left _ _), fun f member => (tail f member).trans (Nat.le_max_right _ _)⟩

end

end Trees

section Rounding

mutual

-- A value as it comes out of interface values: a number without a float64 is left nil.
def rounded : Json Literal → Json Literal
  | .num l => if inRange l then .num (shortest l) else .null
  | .arr items => .arr (roundedItems items)
  | .obj fields => .obj (roundedFields fields)
  | .null => .null
  | .bool b => .bool b
  | .str s => .str s

def roundedItems : List (Json Literal) → List (Json Literal)
  | [] => []
  | x :: xs => rounded x :: roundedItems xs

def roundedFields : List (String × Json Literal) → List (String × Json Literal)
  | [] => []
  | (k, v) :: fs => (k, rounded v) :: roundedFields fs

end

def exact (l : Literal) : Bool := inRange l && decide ((shortest l).value = l.value)

theorem roundedFields_eq_map (fs : List (String × Json Literal)) : roundedFields fs = fs.map (Prod.map id rounded) := by
  induction fs with
  | nil => rfl
  | cons f fs ih =>
    obtain ⟨k, v⟩ := f
    rw [roundedFields, ih]
    rfl

variable {κ : Type} [LinearOrder κ] {rank : String → κ}

mutual

theorem normalize_rounded : ∀ j : Json Literal, Json.normalize rank (rounded j) = rounded (Json.normalize rank j)
  | .null | .bool _ | .str _ => by simp [Json.normalize, rounded]
  | .num l => by
    simp only [Json.normalize, rounded]
    split <;> simp [Json.normalize]
  | .arr items => by
    rw [rounded, Json.normalize, Json.normalize, rounded, normalizeItems_rounded items]
  | .obj fields => by
    rw [rounded, Json.normalize, Json.normalize, rounded, normalizeFields_rounded fields, roundedFields_eq_map,
      roundedFields_eq_map, Json.sortFields_map]

theorem normalizeItems_rounded : ∀ xs : List (Json Literal),
    Json.normalizeItems rank (roundedItems xs) = roundedItems (Json.normalizeItems rank xs)
  | [] => rfl
  | x :: xs => by
    rw [roundedItems, Json.normalizeItems, Json.normalizeItems, roundedItems, normalize_rounded x,
      normalizeItems_rounded xs]

theorem normalizeFields_rounded : ∀ fs : List (String × Json Literal),
    Json.normalizeFields rank (roundedFields fs) = roundedFields (Json.normalizeFields rank fs)
  | [] => rfl
  | (k, v) :: fs => by
    rw [roundedFields, Json.normalizeFields, Json.normalizeFields, roundedFields, normalize_rounded v,
      normalizeFields_rounded fs]

end

mutual

theorem rounded_inRange : ∀ j : Json Literal, Json.allNum inRange (rounded j) = true
  | .null | .bool _ | .str _ => by simp [rounded, Json.allNum]
  | .num l => by
    rw [rounded]
    split
    · rename_i inside
      rw [Json.allNum, inRange_shortest, inside]
    · rfl
  | .arr items => by
    rw [rounded, Json.allNum]
    exact roundedItems_inRange items
  | .obj fields => by
    rw [rounded, Json.allNum]
    exact roundedFields_inRange fields

theorem roundedItems_inRange : ∀ xs : List (Json Literal), Json.allItems inRange (roundedItems xs) = true
  | [] => rfl
  | x :: xs => by rw [roundedItems, Json.allItems, rounded_inRange x, roundedItems_inRange xs, Bool.and_self]

theorem roundedFields_inRange : ∀ fs : List (String × Json Literal),
    Json.allFields inRange (roundedFields fs) = true
  | [] => rfl
  | (k, v) :: fs => by rw [roundedFields, Json.allFields, rounded_inRange v, roundedFields_inRange fs, Bool.and_self]

end

mutual

theorem nesting_rounded : ∀ j : Json Literal, nesting (rounded j) = nesting j
  | .null | .bool _ | .str _ => by simp [rounded]
  | .num l => by
    rw [rounded]
    split <;> simp [nesting]
  | .arr items => by rw [rounded, nesting, nesting, nestingItems_rounded items]
  | .obj fields => by rw [rounded, nesting, nesting, nestingFields_rounded fields]

theorem nestingItems_rounded : ∀ xs : List (Json Literal), nestingItems (roundedItems xs) = nestingItems xs
  | [] => rfl
  | x :: xs => by rw [roundedItems, nestingItems, nestingItems, nesting_rounded x, nestingItems_rounded xs]

theorem nestingFields_rounded : ∀ fs : List (String × Json Literal),
    nestingFields (roundedFields fs) = nestingFields fs
  | [] => rfl
  | (k, v) :: fs => by rw [roundedFields, nestingFields, nestingFields, nesting_rounded v, nestingFields_rounded fs]

end

mutual

theorem values_rounded_iff : ∀ j : Json Literal,
    Json.mapNum Literal.value (rounded j) = Json.mapNum Literal.value j ↔ Json.allNum exact j = true
  | .null | .bool _ | .str _ => by simp [rounded, Json.allNum]
  | .num l => by
    rw [rounded, Json.allNum]
    unfold exact
    cases inRange l <;> simp [Json.mapNum]
  | .arr items => by
    rw [rounded, Json.mapNum, Json.mapNum, Json.arr.injEq, Json.allNum]
    exact itemValues_rounded_iff items
  | .obj fields => by
    rw [rounded, Json.mapNum, Json.mapNum, Json.obj.injEq, Json.allNum]
    exact fieldValues_rounded_iff fields

theorem itemValues_rounded_iff : ∀ xs : List (Json Literal),
    Json.mapItems Literal.value (roundedItems xs) = Json.mapItems Literal.value xs ↔ Json.allItems exact xs = true
  | [] => by simp [roundedItems, Json.allItems]
  | x :: xs => by
    rw [roundedItems, Json.mapItems, Json.mapItems, List.cons.injEq, Json.allItems, Bool.and_eq_true]
    exact and_congr (values_rounded_iff x) (itemValues_rounded_iff xs)

theorem fieldValues_rounded_iff : ∀ fs : List (String × Json Literal),
    Json.mapFields Literal.value (roundedFields fs) = Json.mapFields Literal.value fs ↔ Json.allFields exact fs = true
  | [] => by simp [roundedFields, Json.allFields]
  | (k, v) :: fs => by
    rw [roundedFields, Json.mapFields, Json.mapFields, List.cons.injEq, Prod.mk.injEq, Json.allFields, Bool.and_eq_true]
    exact and_congr ((and_iff_right rfl).trans (values_rounded_iff v)) (fieldValues_rounded_iff fs)

end

theorem denotation_normalize (j : Json Literal) : Json.denotation (Json.normalize id j) = Json.denotation j := by
  unfold Json.denotation
  rw [← Json.normalize_mapNum, Json.normalize_idempotent Function.injective_id]

theorem denotation_rounded_iff (j : Json Literal) :
    Json.denotation (Json.normalize id (rounded j)) = Json.denotation j ↔
      Json.allNum exact (Json.normalize id j) = true := by
  rw [denotation_normalize]
  unfold Json.denotation
  rw [Json.normalize_mapNum, Json.normalize_mapNum, normalize_rounded]
  exact values_rounded_iff _

end Rounding

end Provisr.Backend.SourceMetadata
