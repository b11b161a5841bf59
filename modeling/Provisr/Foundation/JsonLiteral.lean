import Provisr.Foundation.JsonNormal
import Provisr.Foundation.JsNumber
import Mathlib.Algebra.Field.Rat
import Mathlib.Algebra.GroupWithZero.Basic

namespace Provisr.Foundation

structure Exponent where
  mark : Char
  sign : Option Char
  digits : List Char
  deriving DecidableEq

namespace Exponent

def valid (e : Exponent) : Bool :=
  (e.mark == 'e' || e.mark == 'E') && e.sign.all (fun c => c == '+' || c == '-') && !e.digits.isEmpty &&
    e.digits.all Char.isDigit

def text (e : Exponent) : List Char := e.mark :: (e.sign.toList ++ e.digits)

def value (e : Exponent) : Int :=
  if e.sign = some '-' then -(Nat.ofDigitChars 10 e.digits 0 : Int) else Nat.ofDigitChars 10 e.digits 0

end Exponent

def wholeNumber (cs : List Char) : Bool :=
  !cs.isEmpty && cs.all Char.isDigit && (cs.head?.all (fun c => !isZero c) || cs == ['0'])

-- A number as a JSON text spells it. Without a point it has no fraction.
structure Literal where
  negative : Bool
  whole : List Char
  fraction : List Char
  exponent : Option Exponent
  valid : (wholeNumber whole && fraction.all Char.isDigit && exponent.all Exponent.valid) = true
  deriving DecidableEq

namespace Literal

def pointText (l : Literal) : List Char := if l.fraction = [] then [] else '.' :: l.fraction

def exponentText (l : Literal) : List Char := (l.exponent.map Exponent.text).getD []

def text (l : Literal) : List Char :=
  (if l.negative then ['-'] else []) ++ (l.whole ++ (l.pointText ++ l.exponentText))

def digits (l : Literal) : List Char := l.whole ++ l.fraction

def shift (l : Literal) : Int := (l.exponent.map Exponent.value).getD 0

def mantissa (l : Literal) : Nat := Nat.ofDigitChars 10 l.digits 0

def scale (l : Literal) : Int := l.shift - l.fraction.length

def value (l : Literal) : Rat := (if l.negative then -1 else 1) * l.mantissa * 10 ^ l.scale

variable (l : Literal)

theorem whole_valid : wholeNumber l.whole = true := by
  have valid := l.valid
  simp only [Bool.and_eq_true] at valid
  exact valid.1.1

theorem fraction_digits : l.fraction.all Char.isDigit = true := by
  have valid := l.valid
  simp only [Bool.and_eq_true] at valid
  exact valid.1.2

theorem exponent_valid {e : Exponent} (h : l.exponent = some e) : e.valid = true := by
  have valid := l.valid
  rw [h] at valid
  simp only [Bool.and_eq_true] at valid
  exact valid.2

theorem whole_ne_nil : l.whole ≠ [] := by
  have valid := l.whole_valid
  simp only [wholeNumber, Bool.and_eq_true] at valid
  simpa using valid.1.1

theorem whole_digits : l.whole.all Char.isDigit = true := by
  have valid := l.whole_valid
  simp only [wholeNumber, Bool.and_eq_true] at valid
  exact valid.1.2

theorem digits_digits : l.digits.all Char.isDigit = true := by
  rw [digits, List.all_append, l.whole_digits, l.fraction_digits]
  rfl

section Numeric

def unpadded (cs : List Char) : List Char :=
  match cs.dropWhile isZero with
  | [] => ['0']
  | ds => ds

theorem unpadded_valid {cs : List Char} (h : cs.all Char.isDigit = true) : wholeNumber (unpadded cs) = true := by
  unfold unpadded
  have digits := JsNumber.all_dropWhile (p := isZero) h
  cases hd : cs.dropWhile isZero with
  | nil => rfl
  | cons d ds =>
    have front := List.head?_dropWhile_not isZero cs
    rw [hd] at front digits
    have first : isZero d = false := by simpa using front
    simp only [wholeNumber, Bool.and_eq_true, Bool.or_eq_true]
    exact ⟨⟨rfl, digits⟩, Or.inl (by simp [first])⟩

theorem unpadded_of_valid {cs : List Char} (h : wholeNumber cs = true) : unpadded cs = cs := by
  simp only [wholeNumber, Bool.and_eq_true, Bool.or_eq_true] at h
  obtain ⟨⟨nonempty, -⟩, front | zero⟩ := h
  · cases cs with
    | nil => cases nonempty
    | cons c cs =>
      have first : isZero c = false := by simpa using front
      rw [unpadded, List.dropWhile_cons_of_neg (by simp [first])]
  · rw [beq_iff_eq] at zero
    rw [zero]
    rfl

theorem ofDigitChars_zeros {cs : List Char} (h : cs.all isZero = true) : Nat.ofDigitChars 10 cs 0 = 0 := by
  have zeros : cs = List.replicate cs.length '0' :=
    List.eq_replicate_of_mem fun c hc => by simpa [isZero] using List.all_eq_true.mp h c hc
  rw [zeros, Nat.ofDigitChars_replicate_zero, Nat.mul_zero]

theorem ofDigitChars_unpadded (cs ds : List Char) :
    Nat.ofDigitChars 10 (unpadded cs ++ ds) 0 = Nat.ofDigitChars 10 (cs ++ ds) 0 := by
  have zeros : Nat.ofDigitChars 10 (cs.takeWhile isZero) 0 = 0 :=
    ofDigitChars_zeros (List.all_takeWhile ..)
  have split : Nat.ofDigitChars 10 cs 0 = Nat.ofDigitChars 10 (cs.dropWhile isZero) 0 := by
    conv_lhs => rw [← List.takeWhile_append_dropWhile (p := isZero) (l := cs)]
    rw [Nat.ofDigitChars_append, zeros]
  rw [Nat.ofDigitChars_append, Nat.ofDigitChars_append, split]
  unfold unpadded
  split
  · rename_i empty
    rw [empty]
    rfl
  · rfl

def point : Int := l.whole.length + l.shift

def shiftedWhole : List Char :=
  if l.point ≤ 0 then []
  else l.digits.take l.point.toNat ++ List.replicate (l.point.toNat - l.digits.length) '0'

def shiftedFraction : List Char :=
  if l.point ≤ 0 then List.replicate (-l.point).toNat '0' ++ l.digits else l.digits.drop l.point.toNat

theorem all_zeros (n : Nat) : (List.replicate n '0').all Char.isDigit = true := by
  rw [List.all_eq_true]
  intro c hc
  rw [List.eq_of_mem_replicate hc]
  rfl

theorem shiftedWhole_digits : l.shiftedWhole.all Char.isDigit = true := by
  unfold shiftedWhole
  split
  · rfl
  · rw [List.all_append, all_zeros, Bool.and_true, List.all_eq_true]
    exact fun c hc => List.all_eq_true.mp l.digits_digits c (List.mem_of_mem_take hc)

theorem shiftedFraction_digits : l.shiftedFraction.all Char.isDigit = true := by
  unfold shiftedFraction
  split
  · rw [List.all_append, all_zeros, l.digits_digits]
    rfl
  · rw [List.all_eq_true]
    exact fun c hc => List.all_eq_true.mp l.digits_digits c (List.mem_of_mem_drop hc)

-- What PostgreSQL prints of the numeric that it reads: as many decimal places as were written, no
-- exponent, and no sign of zero.
def numeric : Literal where
  negative := l.negative && !l.digits.all isZero
  whole := unpadded l.shiftedWhole
  fraction := l.shiftedFraction
  exponent := none
  valid := by
    rw [unpadded_valid l.shiftedWhole_digits, l.shiftedFraction_digits]
    rfl

def fits : Bool := decide (l.numeric.whole.length ≤ 131072) && decide (l.numeric.fraction.length ≤ 16383)

def plain : Bool := l.exponent.isNone && !(l.negative && l.digits.all isZero)

variable {l}

theorem numeric_eq_self_iff : l.numeric = l ↔ l.plain = true := by
  unfold plain
  simp only [Bool.and_eq_true, Bool.not_eq_true', Option.isNone_iff_eq_none]
  constructor
  · intro h
    refine ⟨congrArg exponent h.symm, ?_⟩
    have sign : (l.negative && !l.digits.all isZero) = l.negative := congrArg negative h
    cases hn : l.negative with
    | false => rfl
    | true =>
      rw [hn, Bool.true_and, Bool.not_eq_true'] at sign
      exact sign
  · rintro ⟨exponent, sign⟩
    have shift : l.shift = 0 := by rw [Literal.shift, exponent]; rfl
    have point : l.point = l.whole.length := by rw [Literal.point, shift, add_zero]
    have positive : ¬ l.point ≤ 0 := by
      have := List.length_pos_of_ne_nil l.whole_ne_nil
      omega
    have whole : l.shiftedWhole = l.whole := by
      rw [shiftedWhole, if_neg positive, point, Int.toNat_natCast, digits, List.take_left,
        List.length_append, Nat.sub_eq_zero_of_le (Nat.le_add_right _ _)]
      exact List.append_nil _
    have fraction : l.shiftedFraction = l.fraction := by
      rw [shiftedFraction, if_neg positive, point, Int.toNat_natCast, digits, List.drop_left]
    have same : l.numeric = ⟨l.negative, l.whole, l.fraction, none, by
        rw [l.whole_valid, l.fraction_digits]
        rfl⟩ := by
      unfold numeric
      congr 1
      · cases hn : l.negative with
        | false => rfl
        | true =>
          rw [hn, Bool.true_and] at sign
          rw [sign]
          rfl
      · rw [whole, unpadded_of_valid l.whole_valid]
    rw [same]
    cases l
    dsimp only at exponent
    subst exponent
    rfl

variable (l)

theorem numeric_mantissa : ∃ k : Nat, l.numeric.mantissa = 10 ^ k * l.mantissa ∧ l.scale = l.numeric.scale + k := by
  have scale : l.numeric.scale = -(l.shiftedFraction.length : Int) := by
    change (0 : Int) - _ = _
    rw [Int.zero_sub]
    rfl
  have mantissa : l.numeric.mantissa = Nat.ofDigitChars 10 (l.shiftedWhole ++ l.shiftedFraction) 0 :=
    ofDigitChars_unpadded _ _
  have length : (l.digits.length : Int) = l.whole.length + l.fraction.length := by
    rw [digits, List.length_append, Nat.cast_add]
  have own : l.scale = l.point - l.digits.length := by
    rw [Literal.scale, Literal.point]
    omega
  rw [scale, mantissa, own, Literal.mantissa]
  unfold shiftedWhole shiftedFraction
  by_cases negative : l.point ≤ 0
  · rw [if_pos negative, if_pos negative]
    refine ⟨0, ?_, ?_⟩
    · rw [List.nil_append, Nat.ofDigitChars_append, Nat.ofDigitChars_replicate_zero, Nat.mul_zero, Nat.pow_zero,
        Nat.one_mul]
    · rw [List.length_append, List.length_replicate]
      omega
  · rw [if_neg negative, if_neg negative]
    by_cases inside : l.point.toNat ≤ l.digits.length
    · refine ⟨0, ?_, ?_⟩
      · rw [Nat.sub_eq_zero_of_le inside, List.replicate_zero, List.append_nil, List.take_append_drop, Nat.pow_zero,
          Nat.one_mul]
      · rw [List.length_drop]
        omega
    · have beyond : l.digits.length ≤ l.point.toNat := by omega
      refine ⟨l.point.toNat - l.digits.length, ?_, ?_⟩
      · rw [List.take_of_length_le beyond, List.drop_of_length_le beyond, List.append_nil, Nat.ofDigitChars_append,
          Nat.ofDigitChars_replicate_zero]
      · rw [List.drop_of_length_le beyond, List.length_nil]
        omega

theorem value_numeric : l.numeric.value = l.value := by
  obtain ⟨k, mantissa, scale⟩ := l.numeric_mantissa
  unfold value
  rw [mantissa, scale, zpow_add₀ (by decide), zpow_natCast, Nat.cast_mul, Nat.cast_pow]
  have sign : l.numeric.negative = (l.negative && !l.digits.all isZero) := rfl
  by_cases zero : l.digits.all isZero = true
  · have none : l.mantissa = 0 := ofDigitChars_zeros zero
    simp [none]
  · rw [Bool.not_eq_true] at zero
    rw [sign, zero, Bool.not_false, Bool.and_true]
    grind

end Numeric

section Text

theorem run_cancel {p : Char → Bool} {xs ys r r' : List Char} (hx : xs.all p = true) (hy : ys.all p = true)
    (hr : r.head?.all (fun c => !p c) = true) (hr' : r'.head?.all (fun c => !p c) = true) (h : xs ++ r = ys ++ r') :
    xs = ys ∧ r = r' := by
  have taken : ∀ {xs r : List Char}, xs.all p = true → r.head?.all (fun c => !p c) = true →
      (xs ++ r).takeWhile p = xs := by
    intro xs r all ends
    rw [List.takeWhile_append_of_pos (List.all_eq_true.mp all)]
    cases r with
    | nil => exact List.append_nil xs
    | cons c r =>
      have stop : p c = false := by simpa using ends
      rw [List.takeWhile_cons_of_neg (by simp [stop]), List.append_nil]
  have same : xs = ys := by rw [← taken hx hr, h, taken hy hr']
  subst same
  exact ⟨rfl, List.append_cancel_left h⟩

theorem exponentText_head (l : Literal) : l.exponentText.head?.all (fun c => c == 'e' || c == 'E') = true := by
  unfold exponentText
  cases h : l.exponent with
  | none => rfl
  | some e =>
    have valid := l.exponent_valid h
    simp only [Exponent.valid, Bool.and_eq_true] at valid
    exact valid.1.1.1

theorem pointText_head (l : Literal) :
    (l.pointText ++ l.exponentText).head?.all (fun c => c == '.' || (c == 'e' || c == 'E')) = true := by
  unfold pointText
  split
  · have head := l.exponentText_head
    rw [List.nil_append]
    cases h : l.exponentText.head? with
    | none => rfl
    | some c =>
      rw [h] at head
      change (c == '.' || _) = true
      rw [show (c == 'e' || c == 'E') = true from head, Bool.or_true]
  · rfl

theorem ends_of_head {cs : List Char} {p q : Char → Bool} (h : cs.head?.all p = true)
    (apart : ∀ c, p c = true → q c = false) : cs.head?.all (fun c => !q c) = true := by
  cases hc : cs.head? with
  | none => rfl
  | some c =>
    rw [hc] at h
    change (!q c) = true
    rw [apart c h]
    rfl

theorem not_isDigit {c : Char} (h : (c == '.' || (c == 'e' || c == 'E')) = true) : c.isDigit = false := by
  simp only [Bool.or_eq_true, beq_iff_eq] at h
  rcases h with rfl | rfl | rfl <;> rfl

theorem Exponent.text_injective {e e' : Exponent} (he : e.valid = true) (he' : e'.valid = true)
    (h : e.text = e'.text) : e = e' := by
  obtain ⟨mark, sign, digits⟩ := e
  obtain ⟨mark', sign', digits'⟩ := e'
  simp only [Exponent.valid, Bool.and_eq_true] at he he'
  obtain ⟨rfl, rest⟩ := List.cons.inj h
  obtain ⟨⟨⟨-, signed⟩, -⟩, all⟩ := he
  obtain ⟨⟨⟨-, signed'⟩, -⟩, all'⟩ := he'
  have unsigned : ∀ {s : Char} {ds ds' : List Char}, (s == '+' || s == '-') = true → ds'.all Char.isDigit = true →
      s :: ds ≠ ds' := by
    rintro s ds ds' sign all rfl
    rw [List.all_cons, Bool.and_eq_true] at all
    simp only [Bool.or_eq_true, beq_iff_eq] at sign
    rcases sign with rfl | rfl
    · exact absurd all.1 (by decide)
    · exact absurd all.1 (by decide)
  cases sign with
  | none =>
    cases sign' with
    | none =>
      obtain rfl : digits = digits' := rest
      rfl
    | some s => exact absurd rest.symm (unsigned signed' all)
  | some s =>
    cases sign' with
    | none => exact absurd rest (unsigned signed all')
    | some s' =>
      obtain ⟨rfl, rfl⟩ := List.cons.inj rest
      rfl

theorem text_injective {l l' : Literal} (h : l.text = l'.text) : l = l' := by
  have first : ∀ l : Literal, (l.whole ++ (l.pointText ++ l.exponentText)).head? ≠ some '-' := by
    intro l head
    obtain ⟨c, cs, whole⟩ := List.exists_cons_of_ne_nil l.whole_ne_nil
    have digits := l.whole_digits
    rw [whole] at head digits
    obtain rfl : c = '-' := Option.some.inj head
    rw [List.all_cons, Bool.and_eq_true] at digits
    exact absurd digits.1 (by decide)
  have signs : l.negative = l'.negative ∧
      l.whole ++ (l.pointText ++ l.exponentText) = l'.whole ++ (l'.pointText ++ l'.exponentText) := by
    unfold text at h
    cases hn : l.negative <;> cases hn' : l'.negative <;> rw [hn, hn'] at h
    · exact ⟨rfl, h⟩
    · exact absurd (congrArg List.head? h) (first l)
    · exact absurd (congrArg List.head? h).symm (first l')
    · exact ⟨rfl, (List.cons.inj h).2⟩
  obtain ⟨whole, rest⟩ := run_cancel l.whole_digits l'.whole_digits (ends_of_head l.pointText_head fun _ => not_isDigit)
    (ends_of_head l'.pointText_head fun _ => not_isDigit) signs.2
  have pointed : ∀ {fs : List Char} {l : Literal}, '.' :: fs ≠ l.exponentText := by
    intro fs l e
    have head := l.exponentText_head
    rw [← e] at head
    exact absurd head Bool.false_ne_true
  have parts : l.fraction = l'.fraction ∧ l.exponentText = l'.exponentText := by
    have ends : ∀ l : Literal, l.exponentText.head?.all (fun c => !c.isDigit) = true := fun l =>
      ends_of_head l.exponentText_head fun c hc => not_isDigit (by rw [hc, Bool.or_true])
    unfold pointText at rest
    split at rest
    · rename_i none
      split at rest
      · rename_i none'
        exact ⟨none.trans none'.symm, rest⟩
      · exact absurd rest.symm pointed
    · split at rest
      · exact absurd rest pointed
      · exact run_cancel l.fraction_digits l'.fraction_digits (ends l) (ends l') (List.cons.inj rest).2
  have exponent : l.exponent = l'.exponent := by
    have texts := parts.2
    unfold exponentText at texts
    cases he : l.exponent with
    | none =>
      cases he' : l'.exponent with
      | none => rfl
      | some e' =>
        rw [he, he'] at texts
        cases texts
    | some e =>
      cases he' : l'.exponent with
      | none =>
        rw [he, he'] at texts
        cases texts
      | some e' =>
        rw [he, he'] at texts
        rw [Exponent.text_injective (l.exponent_valid he) (l'.exponent_valid he') texts]
  cases l
  cases l'
  dsimp only at signs whole parts exponent
  obtain ⟨rfl, -⟩ := signs
  obtain ⟨rfl, -⟩ := parts
  subst whole exponent
  rfl

theorem text_numeric (l : Literal) : ∀ c ∈ l.text, numericChar c = true := by
  have digits : ∀ {cs : List Char}, cs.all Char.isDigit = true → ∀ c ∈ cs, numericChar c = true :=
    fun all c hc => JsNumber.numericChar_of_isDigit (List.all_eq_true.mp all c hc)
  intro c hc
  simp only [text, List.mem_append] at hc
  rcases hc with hc | hc | hc | hc
  · split at hc
    · rw [List.mem_singleton.mp hc]
      rfl
    · cases hc
  · exact digits l.whole_digits c hc
  · unfold pointText at hc
    split at hc
    · cases hc
    · rcases List.mem_cons.mp hc with rfl | hc
      · rfl
      · exact digits l.fraction_digits c hc
  · unfold exponentText at hc
    cases h : l.exponent with
    | none =>
      rw [h] at hc
      cases hc
    | some e =>
      have valid := l.exponent_valid h
      rw [h] at hc
      simp only [Exponent.valid, Bool.and_eq_true, Bool.or_eq_true, beq_iff_eq] at valid
      obtain ⟨⟨⟨mark, sign⟩, -⟩, all⟩ := valid
      rcases List.mem_cons.mp hc with rfl | hc
      · rcases mark with h | h <;> rw [h] <;> rfl
      · rcases List.mem_append.mp hc with hc | hc
        · rw [Option.mem_toList.mp hc] at sign
          simp only [Option.all_some, Bool.or_eq_true, beq_iff_eq] at sign
          rcases sign with rfl | rfl <;> rfl
        · exact digits all c hc

-- json.Number
instance : NumberText Literal where
  text := text
  text_ne_nil l h := by
    have := congrArg List.length h
    have := List.length_pos_of_ne_nil l.whole_ne_nil
    simp only [text, List.length_append, List.length_nil] at *
    omega
  numeric := text_numeric
  injective _ _ := text_injective

end Text

end Literal

namespace Json

variable {ν : Type}

section Numbers

variable (p : ν → Bool)

mutual

def allNum : Json ν → Bool
  | .null | .bool _ | .str _ => true
  | .num n => p n
  | .arr items => allItems items
  | .obj fields => allFields fields

def allItems : List (Json ν) → Bool
  | [] => true
  | x :: xs => allNum x && allItems xs

def allFields : List (String × Json ν) → Bool
  | [] => true
  | (_, v) :: fs => allNum v && allFields fs

end

variable {p} {f : ν → ν}

mutual

theorem mapNum_eq_self_iff (same : ∀ n, f n = n ↔ p n = true) : ∀ {j : Json ν}, mapNum f j = j ↔ allNum p j = true
  | .null | .bool _ | .str _ => by simp [mapNum, allNum]
  | .num n => by simp [mapNum, allNum, same]
  | .arr items => by
    rw [mapNum, allNum, Json.arr.injEq]
    exact mapItems_eq_self_iff same
  | .obj fields => by
    rw [mapNum, allNum, Json.obj.injEq]
    exact mapFields_eq_self_iff same

theorem mapItems_eq_self_iff (same : ∀ n, f n = n ↔ p n = true) :
    ∀ {xs : List (Json ν)}, mapItems f xs = xs ↔ allItems p xs = true
  | [] => by simp [mapItems, allItems]
  | x :: xs => by
    rw [mapItems, allItems, List.cons.injEq, Bool.and_eq_true]
    exact and_congr (mapNum_eq_self_iff same) (mapItems_eq_self_iff same)

theorem mapFields_eq_self_iff (same : ∀ n, f n = n ↔ p n = true) :
    ∀ {fs : List (String × Json ν)}, mapFields f fs = fs ↔ allFields p fs = true
  | [] => by simp [mapFields, allFields]
  | (k, v) :: fs => by
    rw [mapFields, allFields, List.cons.injEq, Prod.mk.injEq, Bool.and_eq_true]
    exact and_congr ⟨fun h => (mapNum_eq_self_iff same).mp h.2, fun h => ⟨rfl, (mapNum_eq_self_iff same).mpr h⟩⟩
      (mapFields_eq_self_iff same)

end

end Numbers

section Composition

variable {μ ξ : Type} (f : ν → μ) (g : μ → ξ)

mutual

theorem mapNum_mapNum : ∀ j : Json ν, mapNum g (mapNum f j) = mapNum (fun n => g (f n)) j
  | .null | .bool _ | .num _ | .str _ => by simp [mapNum]
  | .arr items => by
    have ih := mapItems_mapItems items
    simp only [mapNum, ih]
  | .obj fields => by
    have ih := mapFields_mapFields fields
    simp only [mapNum, ih]

theorem mapItems_mapItems : ∀ xs : List (Json ν), mapItems g (mapItems f xs) = mapItems (fun n => g (f n)) xs
  | [] => rfl
  | x :: xs => by
    have hx := mapNum_mapNum x
    have hxs := mapItems_mapItems xs
    simp only [mapItems, hx, hxs]

theorem mapFields_mapFields : ∀ fs : List (String × Json ν),
    mapFields g (mapFields f fs) = mapFields (fun n => g (f n)) fs
  | [] => rfl
  | (k, v) :: fs => by
    have hv := mapNum_mapNum v
    have hfs := mapFields_mapFields fs
    simp only [mapFields, hv, hfs]

end

end Composition

-- What a JSON value denotes: its keys in no order, each with its last value, its numbers as numbers.
def denotation (j : Json Literal) : Json Rat := normalize id (mapNum Literal.value j)

end Json

end Provisr.Foundation
