import Provisr.Foundation.JsNumber
import Mathlib.Data.Nat.Size
import Mathlib.Algebra.Order.Ring.Nat

namespace Provisr.Foundation

-- A float64. The finite ones are named by their shortest decimals.
inductive Float64 where
  | nan
  | inf (negative : Bool)
  | finite (n : JsNumber)
  deriving DecidableEq

namespace Float64

-- p / q to the nearest integer, a tie to the even one.
def roundHalfEven (p q : Nat) : Nat :=
  if 2 * (p % q) < q then p / q
  else if 2 * (p % q) = q ∧ p / q % 2 = 0 then p / q
  else p / q + 1

-- p / q to the nearest number of 53 binary digits.
def round (p q : Nat) : Nat :=
  let unit := 2 ^ (Nat.size (p / q) - 53)
  roundHalfEven p (q * unit) * unit

-- Magnitudes are counted in multiples of the smallest float64.
def scale : Nat := 2 ^ 1074

def magnitude (n : JsNumber) : Nat :=
  let mantissa := Nat.ofDigitChars 10 n.digits 0 * scale
  let exponent := n.point - n.digits.length
  if 0 ≤ exponent then round (mantissa * 10 ^ exponent.toNat) 1 else round mantissa (10 ^ (-exponent).toNat)

def times (k x : Nat) : Option Nat :=
  let product := round (k * x) 1
  if product < 2 ^ 1024 * scale then some product else none

-- b >= k * x
def atLeast (b k x : Nat) : Bool := (times k x).any fun product => decide (product ≤ b)

-- %.2f
def fixed2 (x : Nat) : String :=
  let cents := roundHalfEven (100 * x) scale
  toString (cents / 100) ++ "." ++ String.ofList (Nat.toDigits 10 (cents / 10 % 10) ++ Nat.toDigits 10 (cents % 10))

-- The decimals of at most 17 digits next to a magnitude, the shortest first and the nearer one of two first.
def decimals (negative : Bool) (x : Nat) : List JsNumber :=
  let scaled := x * 10 ^ 400
  let length := (Nat.toDigits 10 (scaled / scale)).length
  (List.range 17).flatMap fun k =>
    let unit := 10 ^ (length - (k + 1)) * scale
    let low := scaled / unit
    let below := 2 * (scaled % unit) < unit || (2 * (scaled % unit) == unit && low % 2 == 0)
    (if below then [low, low + 1] else [low + 1, low]).map fun d =>
      JsNumber.ofDigits negative (Nat.toDigits 10 d) (JsNumber.all_isDigit_toDigits d)
        ((Nat.toDigits 10 d).length + length - (k + 1) - 400)

section Rounding

theorem roundHalfEven_bounds (p q : Nat) : p / q ≤ roundHalfEven p q ∧ roundHalfEven p q ≤ p / q + 1 := by
  unfold roundHalfEven
  split
  · omega
  · split <;> omega

theorem roundHalfEven_mono {p p' q : Nat} (h : p ≤ p') : roundHalfEven p q ≤ roundHalfEven p' q := by
  obtain ⟨-, upper⟩ := roundHalfEven_bounds p q
  obtain ⟨lower, -⟩ := roundHalfEven_bounds p' q
  have quotients : p / q ≤ p' / q := Nat.div_le_div_right h
  rcases Nat.lt_or_eq_of_le quotients with less | same
  · omega
  · have left := Nat.div_add_mod p q
    have right := Nat.div_add_mod p' q
    rw [same] at left
    have remainders : p % q ≤ p' % q := by omega
    unfold roundHalfEven
    rw [same]
    clear left right
    split_ifs <;> omega

theorem round_one (x : Nat) :
    round x 1 = roundHalfEven x (2 ^ (Nat.size x - 53)) * 2 ^ (Nat.size x - 53) := by
  unfold round
  dsimp only
  rw [Nat.div_one, Nat.one_mul]

theorem unit_dvd (k : Nat) : 2 ^ (k - 53) ∣ 2 ^ k := Nat.pow_dvd_pow 2 (Nat.sub_le k 53)

theorem round_le (x : Nat) : round x 1 ≤ 2 ^ Nat.size x := by
  rw [round_one]
  have positive : 0 < 2 ^ (Nat.size x - 53) := Nat.two_pow_pos _
  obtain ⟨c, hc⟩ := unit_dvd (Nat.size x)
  have below : x / 2 ^ (Nat.size x - 53) < c := by
    rw [Nat.div_lt_iff_lt_mul positive, Nat.mul_comm, ← hc]
    exact Nat.lt_size_self x
  have upper := (roundHalfEven_bounds x (2 ^ (Nat.size x - 53))).2
  calc roundHalfEven x (2 ^ (Nat.size x - 53)) * 2 ^ (Nat.size x - 53)
      ≤ c * 2 ^ (Nat.size x - 53) := Nat.mul_le_mul_right _ (by omega)
    _ = 2 ^ Nat.size x := by rw [Nat.mul_comm, ← hc]

theorem le_round {x k : Nat} (h : k < Nat.size x) : 2 ^ k ≤ round x 1 := by
  rw [round_one]
  have positive : 0 < 2 ^ (Nat.size x - 53) := Nat.two_pow_pos _
  have top : 2 ^ (Nat.size x - 1) ≤ x := Nat.lt_size.mp (by omega)
  obtain ⟨c, hc⟩ : 2 ^ (Nat.size x - 53) ∣ 2 ^ (Nat.size x - 1) := Nat.pow_dvd_pow 2 (by omega)
  have above : c ≤ x / 2 ^ (Nat.size x - 53) := by
    rw [Nat.le_div_iff_mul_le positive, Nat.mul_comm, ← hc]
    exact top
  have lower := (roundHalfEven_bounds x (2 ^ (Nat.size x - 53))).1
  calc 2 ^ k ≤ 2 ^ (Nat.size x - 1) := Nat.pow_le_pow_right (by omega) (by omega)
    _ = c * 2 ^ (Nat.size x - 53) := by rw [hc, Nat.mul_comm]
    _ ≤ roundHalfEven x (2 ^ (Nat.size x - 53)) * 2 ^ (Nat.size x - 53) := Nat.mul_le_mul_right _ (by omega)

theorem round_mono {x y : Nat} (h : x ≤ y) : round x 1 ≤ round y 1 := by
  rcases Nat.lt_or_eq_of_le (Nat.size_le_size h) with less | same
  · exact (round_le x).trans (le_round less)
  · rw [round_one, round_one, same]
    exact Nat.mul_le_mul_right _ (roundHalfEven_mono h)

theorem atLeast_mono {b b' k x x' : Nat} (more : b ≤ b') (less : x' ≤ x) (h : atLeast b k x = true) :
    atLeast b' k x' = true := by
  unfold atLeast times at h ⊢
  have product := round_mono (Nat.mul_le_mul_left k less)
  dsimp only at h ⊢
  split at h
  · rename_i finite
    rw [if_pos (product.trans_lt finite)]
    simp only [Option.any_some, decide_eq_true_eq] at h ⊢
    omega
  · simp at h

end Rounding

end Float64

end Provisr.Foundation
