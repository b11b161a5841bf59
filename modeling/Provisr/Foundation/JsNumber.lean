import Provisr.Foundation.JsonText
import Mathlib.Data.List.DropRight

namespace Provisr.Foundation

def isZero (c : Char) : Bool := c == '0'

-- A finite number as JavaScript prints it: its sign, the shortest digits that read back as it, and
-- the position of the decimal point in them, 0.d₁d₂… · 10^point. Zero has no digits.
structure JsNumber where
  negative : Bool
  digits : List Char
  point : Int
  decimal : digits.all Char.isDigit = true
  leading : digits.dropWhile isZero = digits
  trailing : digits.rdropWhile isZero = digits
  zero : digits = [] → negative = false ∧ point = 0
  deriving DecidableEq

namespace JsNumber

theorem ext {m n : JsNumber} (hs : m.negative = n.negative) (hd : m.digits = n.digits)
    (hp : m.point = n.point) : m = n := by
  cases m
  cases n
  simp_all

theorem all_dropWhile {p q : Char → Bool} {cs : List Char} (h : cs.all q = true) :
    (cs.dropWhile p).all q = true := by
  rw [List.all_eq_true] at h ⊢
  exact fun c hc => h c ((List.dropWhile_sublist p).mem hc)

theorem all_rdropWhile {p q : Char → Bool} {cs : List Char} (h : cs.all q = true) :
    (cs.rdropWhile p).all q = true := by
  rw [List.all_eq_true] at h ⊢
  exact fun c hc => h c ((List.rdropWhile_prefix p _).mem hc)

theorem dropWhile_rdropWhile {p : Char → Bool} {cs : List Char} (h : cs.dropWhile p = cs) :
    (cs.rdropWhile p).dropWhile p = cs.rdropWhile p := by
  obtain ⟨t, ht⟩ := List.rdropWhile_prefix p cs
  cases hc : cs.rdropWhile p with
  | nil => rfl
  | cons c ds =>
    rw [hc] at ht
    rw [← ht] at h
    cases hp : p c with
    | false => simp [hp]
    | true =>
      have hlen := congrArg List.length h
      rw [List.cons_append, List.dropWhile_cons_of_pos hp] at hlen
      have hle := (List.dropWhile_sublist p (l := ds ++ t)).length_le
      simp only [List.length_cons] at hlen
      omega

-- The number a run of decimal digits stands for: zeros at either end move into the exponent.
def ofDigits (negative : Bool) (cs : List Char) (h : cs.all Char.isDigit = true) (point : Int) :
    JsNumber :=
  let tail := cs.dropWhile isZero
  let digits := tail.rdropWhile isZero
  if hz : digits = [] then ⟨false, [], 0, rfl, rfl, rfl, fun _ => ⟨rfl, rfl⟩⟩
  else
    ⟨negative, digits, point - (cs.length - tail.length : Int), all_rdropWhile (all_dropWhile h),
      dropWhile_rdropWhile (List.dropWhile_idempotent isZero cs),
      List.rdropWhile_idempotent isZero _, fun h => absurd h hz⟩

theorem all_isDigit_toDigits (n : Nat) : (Nat.toDigits 10 n).all Char.isDigit = true := by
  rw [List.all_eq_true]
  exact fun c hc => Nat.isDigit_of_mem_toDigits (by decide) (by decide) hc

def ofNat (n : Nat) : JsNumber :=
  ofDigits false (Nat.toDigits 10 n) (all_isDigit_toDigits n) (Nat.toDigits 10 n).length

instance (n : Nat) : OfNat JsNumber n := ⟨ofNat n⟩

-- Number.isInteger
def isInteger (n : JsNumber) : Bool := decide ((n.digits.length : Int) ≤ n.point)

def toNat? (n : JsNumber) : Option Nat :=
  if n.isInteger && !n.negative then
    some (Nat.ofDigitChars 10 (n.digits ++ List.replicate (n.point.toNat - n.digits.length) '0') 0)
  else none

def whole (n : JsNumber) : Nat :=
  Nat.ofDigitChars 10 (n.digits.take n.point.toNat ++ List.replicate (n.point.toNat - n.digits.length) '0') 0

def atLeast (n : JsNumber) (low : Nat) : Bool := !n.negative && decide (low ≤ n.whole)

def atMost (n : JsNumber) (high : Nat) : Bool :=
  n.negative || decide (n.whole < high) || (n.whole == high && n.isInteger)

def atMostOne (n : JsNumber) : Bool := n.negative || decide (n.point ≤ 0) || (n.digits == ['1'] && n.point == 1)

theorem toNat?_eq_some_iff {n : JsNumber} {k : Nat} :
    n.toNat? = some k ↔ n.isInteger = true ∧ n.negative = false ∧ n.whole = k := by
  unfold toNat?
  have same : n.isInteger = true → n.whole =
      Nat.ofDigitChars 10 (n.digits ++ List.replicate (n.point.toNat - n.digits.length) '0') 0 := by
    intro integer
    have short : n.digits.length ≤ n.point.toNat := by
      have bound := of_decide_eq_true integer
      omega
    rw [whole, List.take_of_length_le short]
  cases integer : n.isInteger with
  | false => simp
  | true =>
    cases negative : n.negative with
    | true => simp
    | false => simp [same integer]

theorem dropWhile_isZero_length (cs : List Char) :
    cs = List.replicate (cs.length - (cs.dropWhile isZero).length) '0' ++ cs.dropWhile isZero := by
  induction cs with
  | nil => rfl
  | cons c cs ih =>
    cases hc : isZero c with
    | false => simp [hc]
    | true =>
      have hle := (List.dropWhile_sublist isZero (l := cs)).length_le
      have hc0 : c = '0' := by simpa [isZero] using hc
      have hlen : (c :: cs).length - (cs.dropWhile isZero).length =
          (cs.length - (cs.dropWhile isZero).length) + 1 := by
        rw [List.length_cons]
        omega
      rw [List.dropWhile_cons_of_pos hc, hlen, List.replicate_succ, List.cons_append, ← ih, hc0]

theorem rdropWhile_isZero_length (cs : List Char) :
    cs = cs.rdropWhile isZero ++ List.replicate (cs.length - (cs.rdropWhile isZero).length) '0' := by
  have h := congrArg List.reverse (dropWhile_isZero_length cs.reverse)
  rw [List.reverse_reverse, List.reverse_append, List.reverse_replicate, List.length_reverse] at h
  conv_lhs => rw [h]
  simp [List.rdropWhile]

theorem toNat?_ofNat (n : Nat) : (ofNat n).toNat? = some n := by
  have hn : Nat.ofDigitChars 10 (Nat.toDigits 10 n) 0 = n := Nat.ofDigitChars_ten_toDigits
  have hlead := dropWhile_isZero_length (Nat.toDigits 10 n)
  have htrail := rdropWhile_isZero_length ((Nat.toDigits 10 n).dropWhile isZero)
  have hle := (List.dropWhile_sublist isZero (l := Nat.toDigits 10 n)).length_le
  have hle' := (List.rdropWhile_prefix isZero ((Nat.toDigits 10 n).dropWhile isZero)).length_le
  rw [hlead, Nat.ofDigitChars_append, Nat.ofDigitChars_replicate_zero, Nat.mul_zero] at hn
  unfold ofNat ofDigits
  simp only
  split
  · rename_i hz
    rw [hz, List.nil_append] at htrail
    rw [htrail, Nat.ofDigitChars_replicate_zero, Nat.mul_zero] at hn
    rw [← hn]
    rfl
  · have hint : ((Nat.toDigits 10 n).length : Int) - ((Nat.toDigits 10 n).length -
        ((Nat.toDigits 10 n).dropWhile isZero).length) = ((Nat.toDigits 10 n).dropWhile isZero).length := by
      omega
    simp only [toNat?, isInteger, hint, Int.toNat_natCast, Bool.not_false, Bool.and_true]
    rw [if_pos (by simpa using hle'), ← htrail, hn]

def fixedText (digits : List Char) (point : Int) : List Char :=
  if digits.length ≤ point then digits ++ List.replicate (point.toNat - digits.length) '0'
  else if 0 < point then digits.take point.toNat ++ '.' :: digits.drop point.toNat
  else '0' :: '.' :: (List.replicate (-point).toNat '0' ++ digits)

def exponentDigits (width : Nat) (exponent : Int) : List Char :=
  let ds := Nat.toDigits 10 exponent.natAbs
  (if exponent < 0 then '-' else '+') :: (List.replicate (width - ds.length) '0' ++ ds)

def exponentText (width : Nat) (digits : List Char) (point : Int) : List Char :=
  let fraction := match digits.drop 1 with
    | [] => []
    | ds => '.' :: ds
  digits.take 1 ++ fraction ++ 'e' :: exponentDigits width (point - 1)

def unsignedText (fixed : Bool) (width : Nat) (digits : List Char) (point : Int) : List Char :=
  if digits = [] then ['0']
  else if fixed then fixedText digits point
  else exponentText width digits point

-- A decimal numeral, written out where `fixed` holds, and with an exponent of at least `width` digits
-- elsewhere.
def spelled (fixed : JsNumber → Bool) (width : Nat) (n : JsNumber) : List Char :=
  if n.negative then '-' :: unsignedText (fixed n) width n.digits n.point
  else unsignedText (fixed n) width n.digits n.point

-- Number::toString
def text : JsNumber → List Char := spelled (fun n => decide (-6 < n.point ∧ n.point ≤ 21)) 1

-- What `json.dumps` writes for a number that it has read from `text`: `repr` of a float, the digits of
-- an int.
def pythonText : JsNumber → List Char :=
  spelled (fun n => decide ((n.isInteger = true ∧ n.point ≤ 21) ∨ (-4 < n.point ∧ n.point ≤ 16))) 2

-- `numeric`, as PostgreSQL writes it.
def numericText : JsNumber → List Char := spelled (fun _ => true) 1

section Read

theorem split_at {sep : Char} {pre post : List Char} (h : sep ∉ pre) :
    (pre ++ sep :: post).takeWhile (· != sep) = pre ∧
      ((pre ++ sep :: post).dropWhile (· != sep)).drop 1 = post := by
  have hp : ∀ c ∈ pre, (c != sep) = true := fun c hc => by
    rw [bne_iff_ne]
    rintro rfl
    exact h hc
  rw [List.takeWhile_append_of_pos hp, List.dropWhile_append_of_pos hp]
  simp

theorem split_none {sep : Char} {cs : List Char} (h : sep ∉ cs) :
    cs.takeWhile (· != sep) = cs ∧ (cs.dropWhile (· != sep)).drop 1 = [] := by
  have hp : ∀ c ∈ cs, (c != sep) = true := fun c hc => by
    rw [bne_iff_ne]
    rintro rfl
    exact h hc
  rw [List.takeWhile_eq_self_iff.mpr hp, List.dropWhile_eq_nil_iff.mpr hp]
  simp

def readExponent : List Char → Int
  | '-' :: cs => -(Nat.ofDigitChars 10 cs 0 : Int)
  | _ :: cs => (Nat.ofDigitChars 10 cs 0 : Int)
  | [] => 0

def readUnsigned (cs : List Char) : List Char × Int :=
  let mantissa := cs.takeWhile (· != 'e')
  let exponent := (cs.dropWhile (· != 'e')).drop 1
  let whole := mantissa.takeWhile (· != '.')
  let fraction := (mantissa.dropWhile (· != '.')).drop 1
  let all := whole ++ fraction
  let tail := all.dropWhile isZero
  (tail.rdropWhile isZero, whole.length + readExponent exponent - (all.length - tail.length))

theorem readUnsigned_of {cs mantissa exponent whole fraction : List Char}
    (he : cs.takeWhile (· != 'e') = mantissa ∧ (cs.dropWhile (· != 'e')).drop 1 = exponent)
    (hp : mantissa.takeWhile (· != '.') = whole ∧ (mantissa.dropWhile (· != '.')).drop 1 = fraction)
    (ds : List Char) (a b : Nat) (hall : whole ++ fraction = List.replicate a '0' ++ ds ++ List.replicate b '0')
    (hl : ds.dropWhile isZero = ds) (ht : ds.rdropWhile isZero = ds) (hne : ds ≠ []) :
    readUnsigned cs = (ds, whole.length + readExponent exponent - a) := by
  have hlead : (whole ++ fraction).dropWhile isZero = ds ++ List.replicate b '0' := by
    rw [hall, List.append_assoc, List.dropWhile_append_of_pos (by simp [isZero])]
    obtain ⟨c, t, rfl⟩ := List.exists_cons_of_ne_nil hne
    cases hc : isZero c with
    | false => simp [hc]
    | true =>
      have hlen := congrArg List.length hl
      rw [List.dropWhile_cons_of_pos hc] at hlen
      have hle := (List.dropWhile_sublist isZero (l := t)).length_le
      simp only [List.length_cons] at hlen
      omega
  have htrail : (ds ++ List.replicate b '0').rdropWhile isZero = ds := by
    unfold List.rdropWhile at ht ⊢
    rw [List.reverse_append, List.dropWhile_append_of_pos (by simp [isZero])]
    exact ht
  unfold readUnsigned
  simp only [he.1, he.2, hp.1, hp.2, hlead, htrail, Prod.mk.injEq, true_and]
  rw [hall]
  simp only [List.length_append, List.length_replicate]
  omega

theorem not_mem_digits {c : Char} {cs : List Char} (h : cs.all Char.isDigit = true)
    (hc : c.isDigit = false) : c ∉ cs := by
  intro hm
  rw [List.all_eq_true.mp h c hm] at hc
  contradiction

variable {ds : List Char} (hdec : ds.all Char.isDigit = true) (hl : ds.dropWhile isZero = ds)
  (ht : ds.rdropWhile isZero = ds) (hnil : ds ≠ [])

include hdec hl ht hnil

theorem readUnsigned_fixedText (p : Int) : readUnsigned (fixedText ds p) = (ds, p) := by
  have hdigit : ∀ {c}, c.isDigit = false → c ∉ ds := not_mem_digits hdec
  unfold fixedText
  split
  · have hmem : ∀ {c}, c.isDigit = false → c ∉ ds ++ List.replicate (p.toNat - ds.length) '0' := by
      intro c hc hm
      rcases List.mem_append.mp hm with hm | hm
      · exact hdigit hc hm
      · rw [List.eq_of_mem_replicate hm] at hc
        exact absurd hc (by decide)
    rw [readUnsigned_of (split_none (hmem (by decide))) (split_none (hmem (by decide))) ds 0
      (p.toNat - ds.length) (by simp) hl ht hnil]
    simp only [List.length_append, List.length_replicate, readExponent, Prod.mk.injEq, true_and]
    omega
  · split
    · have htake : ∀ {c}, c.isDigit = false → c ∉ ds.take p.toNat :=
        fun hc hm => hdigit hc (List.mem_of_mem_take hm)
      have hmem : 'e' ∉ ds.take p.toNat ++ '.' :: ds.drop p.toNat := by
        intro hm
        rcases List.mem_append.mp hm with hm | hm
        · exact htake (by decide) hm
        · rcases List.mem_cons.mp hm with hm | hm
          · exact absurd hm (by decide)
          · exact hdigit (by decide) (List.mem_of_mem_drop hm)
      rw [readUnsigned_of (split_none hmem) (split_at (htake (by decide))) ds 0 0 (by simp) hl ht hnil]
      simp only [List.length_take, readExponent, Prod.mk.injEq, true_and]
      omega
    · have hmem : 'e' ∉ '0' :: '.' :: (List.replicate (-p).toNat '0' ++ ds) := by
        intro hm
        simp only [List.mem_cons, List.mem_append, List.mem_replicate] at hm
        rcases hm with hm | hm | hm | hm
        · exact absurd hm (by decide)
        · exact absurd hm (by decide)
        · exact absurd hm.2 (by decide)
        · exact hdigit (by decide) hm
      have hpoint : '.' ∉ ['0'] := by decide
      rw [readUnsigned_of (split_none hmem) (split_at hpoint) ds ((-p).toNat + 1) 0
        (by simp [List.replicate_succ]) hl ht hnil]
      simp only [List.length_singleton, readExponent, Prod.mk.injEq, true_and]
      omega

omit hdec hl ht hnil in
theorem readExponent_exponentDigits (width : Nat) (e : Int) :
    readExponent (exponentDigits width e) = e := by
  have hvalue : ∀ k, Nat.ofDigitChars 10 (List.replicate k '0' ++ Nat.toDigits 10 e.natAbs) 0 = e.natAbs := by
    intro k
    rw [Nat.ofDigitChars_append, Nat.ofDigitChars_replicate_zero, Nat.mul_zero,
      Nat.ofDigitChars_ten_toDigits]
  unfold exponentDigits
  dsimp only
  split
  · rw [readExponent, hvalue]
    omega
  · have hplus : ∀ cs, readExponent ('+' :: cs) = (Nat.ofDigitChars 10 cs 0 : Int) := fun _ => rfl
    rw [hplus, hvalue]
    omega

theorem readUnsigned_exponentText (width : Nat) (p : Int) :
    readUnsigned (exponentText width ds p) = (ds, p) := by
  have hdigit : ∀ {c}, c.isDigit = false → c ∉ ds := not_mem_digits hdec
  have hexp := readExponent_exponentDigits width (p - 1)
  obtain ⟨c, t, rfl⟩ := List.exists_cons_of_ne_nil hnil
  cases t with
  | nil =>
    have he : 'e' ∉ [c] := hdigit (by decide)
    have hpoint : '.' ∉ [c] := hdigit (by decide)
    refine (readUnsigned_of (split_at he) (split_none hpoint) [c] 0 0 (by simp) hl ht hnil).trans ?_
    rw [hexp, List.length_singleton, Prod.mk.injEq]
    exact ⟨rfl, by omega⟩
  | cons c' t =>
    have hdot : '.' ∉ [c] := by
      intro hm
      rw [List.mem_singleton] at hm
      exact hdigit (c := '.') (by decide) (hm ▸ List.mem_cons_self ..)
    have he : 'e' ∉ [c] ++ '.' :: c' :: t := by
      intro hm
      rw [List.singleton_append, List.mem_cons, List.mem_cons] at hm
      rcases hm with hm | hm | hm
      · exact hdigit (c := 'e') (by decide) (hm ▸ List.mem_cons_self ..)
      · exact absurd hm (by decide)
      · exact hdigit (by decide) (List.mem_cons_of_mem _ hm)
    refine (readUnsigned_of (split_at he) (split_at hdot) (c :: c' :: t) 0 0 (by simp) hl ht hnil).trans ?_
    rw [hexp, List.length_singleton, Prod.mk.injEq]
    exact ⟨rfl, by omega⟩

omit hdec hl ht hnil

theorem readUnsigned_unsignedText (fixed : Bool) (width : Nat) (n : JsNumber) :
    readUnsigned (unsignedText fixed width n.digits n.point) = (n.digits, n.point) := by
  unfold unsignedText
  split
  · rename_i hnil
    rw [(n.zero hnil).2, hnil]
    decide
  · rename_i hnil
    split
    · exact readUnsigned_fixedText n.decimal n.leading n.trailing hnil n.point
    · exact readUnsigned_exponentText n.decimal n.leading n.trailing hnil width n.point

theorem fixedText_head {c : Char} {t : List Char} (hc : c.isDigit = true) (p : Int) :
    ∃ d u, fixedText (c :: t) p = d :: u ∧ d.isDigit = true := by
  unfold fixedText
  split
  · exact ⟨c, _, rfl, hc⟩
  · split
    · rename_i hp
      obtain ⟨k, hk⟩ : ∃ k, p.toNat = k + 1 := ⟨p.toNat - 1, by omega⟩
      rw [hk]
      exact ⟨c, _, rfl, hc⟩
    · exact ⟨'0', _, rfl, by decide⟩

theorem unsignedText_head (fixed : Bool) (width : Nat) (n : JsNumber) :
    ∃ c t, unsignedText fixed width n.digits n.point = c :: t ∧ c.isDigit = true := by
  cases hds : n.digits with
  | nil => exact ⟨'0', [], by simp [unsignedText], by decide⟩
  | cons c t =>
    have hc : c.isDigit = true := List.all_eq_true.mp n.decimal c (by simp [hds])
    simp only [unsignedText, List.cons_ne_nil, if_false]
    split
    · exact fixedText_head hc n.point
    · exact ⟨c, _, rfl, hc⟩

section Numeric

theorem numericChar_of_isDigit {c : Char} (h : c.isDigit = true) : numericChar c = true := by
  simp [numericChar, h]

theorem numericChar_zeros {c : Char} {k : Nat} (h : c ∈ List.replicate k '0') : numericChar c = true := by
  rw [List.eq_of_mem_replicate h]
  decide

theorem fixedText_numeric {ds : List Char} (hds : ∀ c ∈ ds, numericChar c = true) (p : Int) :
    ∀ c ∈ fixedText ds p, numericChar c = true := by
  intro c hc
  unfold fixedText at hc
  split at hc
  · exact (List.mem_append.mp hc).elim (hds c) numericChar_zeros
  split at hc
  · rcases List.mem_append.mp hc with hc | hc
    · exact hds c (List.mem_of_mem_take hc)
    · rcases List.mem_cons.mp hc with rfl | hc
      · decide
      · exact hds c (List.mem_of_mem_drop hc)
  · rcases List.mem_cons.mp hc with rfl | hc
    · decide
    · rcases List.mem_cons.mp hc with rfl | hc
      · decide
      · exact (List.mem_append.mp hc).elim numericChar_zeros (hds c)

theorem exponentText_numeric {ds : List Char} (hds : ∀ c ∈ ds, numericChar c = true) (width : Nat)
    (p : Int) : ∀ c ∈ exponentText width ds p, numericChar c = true := by
  intro c hc
  unfold exponentText exponentDigits at hc
  rcases List.mem_append.mp hc with hc | hc
  · rcases List.mem_append.mp hc with hc | hc
    · exact hds c (List.mem_of_mem_take hc)
    · split at hc
      · simp at hc
      · rcases List.mem_cons.mp hc with rfl | hc
        · decide
        · exact hds c (List.mem_of_mem_drop hc)
  · rcases List.mem_cons.mp hc with rfl | hc
    · decide
    · rcases List.mem_cons.mp hc with rfl | hc
      · split <;> decide
      · rcases List.mem_append.mp hc with hc | hc
        · exact numericChar_zeros hc
        · exact numericChar_of_isDigit (List.all_eq_true.mp (all_isDigit_toDigits _) c hc)

theorem unsignedText_numeric (fixed : Bool) (width : Nat) (n : JsNumber) :
    ∀ c ∈ unsignedText fixed width n.digits n.point, numericChar c = true := by
  have hds : ∀ c ∈ n.digits, numericChar c = true :=
    fun c hc => numericChar_of_isDigit (List.all_eq_true.mp n.decimal c hc)
  intro c hc
  unfold unsignedText at hc
  split at hc
  · rw [List.mem_singleton.mp hc]
    decide
  split at hc
  · exact fixedText_numeric hds n.point c hc
  · exact exponentText_numeric hds width n.point c hc

end Numeric

theorem unsignedText_injective {fixed fixed' : Bool} {width width' : Nat} {m n : JsNumber}
    (h : unsignedText fixed width m.digits m.point = unsignedText fixed' width' n.digits n.point) :
    m.digits = n.digits ∧ m.point = n.point := by
  have hr := congrArg readUnsigned h
  rw [readUnsigned_unsignedText, readUnsigned_unsignedText] at hr
  exact Prod.mk.inj hr

theorem spelled_injective {fixed fixed' : JsNumber → Bool} {width width' : Nat} {m n : JsNumber}
    (h : spelled fixed width m = spelled fixed' width' n) : m = n := by
  obtain ⟨c, t, hc, hdc⟩ := unsignedText_head (fixed m) width m
  obtain ⟨d, u, hd, hdd⟩ := unsignedText_head (fixed' n) width' n
  unfold spelled at h
  cases hm : m.negative <;> cases hn : n.negative <;> simp only [hm, hn, Bool.false_eq_true, if_true, if_false] at h
  · obtain ⟨h1, h2⟩ := unsignedText_injective h
    exact ext (hm.trans hn.symm) h1 h2
  · rw [hc, List.cons.injEq] at h
    rw [h.1] at hdc
    exact absurd hdc (by decide)
  · rw [hd, List.cons.injEq] at h
    rw [← h.1] at hdd
    exact absurd hdd (by decide)
  · obtain ⟨h1, h2⟩ := unsignedText_injective (List.cons.inj h).2
    exact ext (hm.trans hn.symm) h1 h2

theorem spelled_ne_nil (fixed : JsNumber → Bool) (width : Nat) (n : JsNumber) :
    spelled fixed width n ≠ [] := by
  obtain ⟨c, t, hc, -⟩ := unsignedText_head (fixed n) width n
  unfold spelled
  split
  · exact List.cons_ne_nil _ _
  · rw [hc]
    exact List.cons_ne_nil _ _

theorem text_injective {m n : JsNumber} (h : text m = text n) : m = n := spelled_injective h

instance : NumberText JsNumber where
  text := text
  text_ne_nil n := spelled_ne_nil _ _ n
  numeric n := by
    intro c hc
    unfold text spelled at hc
    split at hc
    · rcases List.mem_cons.mp hc with rfl | hc
      · decide
      · exact unsignedText_numeric _ _ n c hc
    · exact unsignedText_numeric _ _ n c hc
  injective _ _ h := text_injective h

end Read

example : (ofNat 1500).text = ['1', '5', '0', '0'] := by decide

end JsNumber

end Provisr.Foundation
