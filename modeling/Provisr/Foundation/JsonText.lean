import Provisr.Foundation.Json
import Mathlib.Data.List.Infix

namespace Provisr.Foundation

def numericChar (c : Char) : Bool := c.isDigit || c == '-' || c == '+' || c == '.' || c == 'e' || c == 'E'

class NumberText (ν : Type) where
  text : ν → List Char
  text_ne_nil : ∀ n, text n ≠ []
  numeric : ∀ n, ∀ c ∈ text n, numericChar c = true
  injective : ∀ m n, text m = text n → m = n

namespace Json

def quoteMark : Char := Char.ofNat 34

def backslash : Char := Char.ofNat 92

def openBrace : Char := Char.ofNat 123

def closeBrace : Char := Char.ofNat 125

def hexDigit (n : Nat) : Char := Char.ofNat (if n < 10 then 48 + n else 87 + n)

-- QuoteJSONString
def escapeChar (c : Char) : List Char :=
  if c = quoteMark then [backslash, quoteMark]
  else if c = backslash then [backslash, backslash]
  else if c.toNat = 8 then [backslash, 'b']
  else if c.toNat = 9 then [backslash, 't']
  else if c.toNat = 10 then [backslash, 'n']
  else if c.toNat = 12 then [backslash, 'f']
  else if c.toNat = 13 then [backslash, 'r']
  else if c.toNat < 32 then [backslash, 'u', '0', '0', hexDigit (c.toNat / 16), hexDigit (c.toNat % 16)]
  else [c]

def escape (cs : List Char) : List Char := cs.flatMap escapeChar

def quote (s : String) : List Char := quoteMark :: (escape s.toList ++ [quoteMark])

section Escape

def Special (c : Char) : Prop := c = quoteMark ∨ c = backslash ∨ c.toNat < 32

instance (c : Char) : Decidable (Special c) := inferInstanceAs (Decidable (_ ∨ _))

theorem escapeChar_plain {c : Char} (h : ¬ Special c) : escapeChar c = [c] := by
  simp only [Special, not_or] at h
  obtain ⟨h1, h2, h3⟩ := h
  have h8 : c.toNat ≠ 8 := by omega
  have h9 : c.toNat ≠ 9 := by omega
  have h10 : c.toNat ≠ 10 := by omega
  have h12 : c.toNat ≠ 12 := by omega
  have h13 : c.toNat ≠ 13 := by omega
  simp [escapeChar, h1, h2, h3, h8, h9, h10, h12, h13]

def specialCodes : List Nat := 34 :: 92 :: List.range 32

theorem Special.code {c : Char} (h : Special c) : ∃ n ∈ specialCodes, c = Char.ofNat n := by
  rcases h with rfl | rfl | h
  · exact ⟨34, by decide, rfl⟩
  · exact ⟨92, by decide, rfl⟩
  · exact ⟨c.toNat, by simp [specialCodes, h], by simp⟩

theorem escapeChar_special_head :
    ∀ n ∈ specialCodes, (escapeChar (Char.ofNat n)).head? = some backslash := by decide

theorem escapeChar_special_free : ∀ m ∈ specialCodes, ∀ n ∈ specialCodes,
    escapeChar (Char.ofNat m) <+: escapeChar (Char.ofNat n) → m = n := by decide

theorem escapeChar_head {c d : Char} (h : (escapeChar c).head? = some d) : d ≠ quoteMark := by
  by_cases hc : Special c
  · obtain ⟨n, hn, rfl⟩ := hc.code
    rw [escapeChar_special_head n hn] at h
    rw [← Option.some.inj h]
    decide
  · rw [escapeChar_plain hc] at h
    obtain rfl : c = d := by simpa using h
    exact fun e => hc (Or.inl e)

theorem escapeChar_ne_nil (c : Char) : escapeChar c ≠ [] := by
  by_cases hc : Special c
  · obtain ⟨n, hn, rfl⟩ := hc.code
    intro h
    simpa [h] using escapeChar_special_head n hn
  · simp [escapeChar_plain hc]

theorem escapeChar_free {c d : Char} (h : escapeChar c <+: escapeChar d) : c = d := by
  by_cases hc : Special c
  · obtain ⟨m, hm, rfl⟩ := hc.code
    by_cases hd : Special d
    · obtain ⟨n, hn, rfl⟩ := hd.code
      rw [escapeChar_special_free m hm n hn h]
    · obtain ⟨t, ht⟩ := h
      have hh := congrArg List.head? ht
      rw [escapeChar_plain hd, List.head?_append, escapeChar_special_head m hm] at hh
      obtain rfl : backslash = d := by simpa using hh
      exact absurd (Or.inr (Or.inl rfl)) hd
  · obtain ⟨t, ht⟩ := h
    rw [escapeChar_plain hc] at ht
    by_cases hd : Special d
    · obtain ⟨n, hn, rfl⟩ := hd.code
      have hh := congrArg List.head? ht
      rw [escapeChar_special_head n hn] at hh
      obtain rfl : c = backslash := by simpa using hh
      exact absurd (Or.inr (Or.inl rfl)) hc
    · rw [escapeChar_plain hd] at ht
      simpa using congrArg List.head? ht

theorem escapeChar_cancel {c d : Char} {r r' : List Char}
    (h : escapeChar c ++ r = escapeChar d ++ r') : c = d ∧ r = r' := by
  have hc : escapeChar c <+: escapeChar d ++ r' := h ▸ List.prefix_append _ _
  have hd : escapeChar d <+: escapeChar d ++ r' := List.prefix_append _ _
  have hcd : c = d := by
    rcases List.prefix_or_prefix_of_prefix hc hd with hp | hp
    · exact escapeChar_free hp
    · exact (escapeChar_free hp).symm
  subst hcd
  exact ⟨rfl, List.append_cancel_left h⟩

theorem escapeChar_ne_quote {c : Char} {r r' : List Char} :
    escapeChar c ++ r ≠ quoteMark :: r' := by
  intro h
  have hh := congrArg List.head? h
  obtain ⟨d, t, hd⟩ := List.exists_cons_of_ne_nil (escapeChar_ne_nil c)
  have hne : d ≠ quoteMark := escapeChar_head (c := c) (by simp [hd])
  rw [hd] at hh
  exact hne (by simpa using hh)

theorem escape_cancel {cs ds : List Char} {r r' : List Char}
    (h : escape cs ++ quoteMark :: r = escape ds ++ quoteMark :: r') : cs = ds ∧ r = r' := by
  induction cs generalizing ds with
  | nil =>
    cases ds with
    | nil => exact ⟨rfl, by simpa [escape] using h⟩
    | cons d ds =>
      simp only [escape, List.flatMap_nil, List.nil_append, List.flatMap_cons, List.append_assoc] at h
      exact absurd h.symm escapeChar_ne_quote
  | cons c cs ih =>
    cases ds with
    | nil =>
      simp only [escape, List.flatMap_nil, List.nil_append, List.flatMap_cons, List.append_assoc] at h
      exact absurd h escapeChar_ne_quote
    | cons d ds =>
      simp only [escape, List.flatMap_cons, List.append_assoc] at h
      obtain ⟨rfl, hrest⟩ := escapeChar_cancel h
      obtain ⟨rfl, rfl⟩ := ih hrest
      exact ⟨rfl, rfl⟩

theorem quote_cancel {s t : String} {r r' : List Char} (h : quote s ++ r = quote t ++ r') :
    s = t ∧ r = r' := by
  simp only [quote, List.cons_append, List.append_assoc, List.nil_append, List.cons.injEq,
    true_and] at h
  obtain ⟨hs, hr⟩ := escape_cancel h
  exact ⟨String.toList_inj.mp hs, hr⟩

end Escape

variable {ν : Type} [NumberText ν]

mutual

def write : Json ν → List Char
  | .null => ['n', 'u', 'l', 'l']
  | .bool true => ['t', 'r', 'u', 'e']
  | .bool false => ['f', 'a', 'l', 's', 'e']
  | .num n => NumberText.text n
  | .str s => quote s
  | .arr items => '[' :: writeItems items
  | .obj fields => openBrace :: writeFields fields

def writeItems : List (Json ν) → List Char
  | [] => [']']
  | x :: xs => write x ++ writeItemsTail xs

def writeItemsTail : List (Json ν) → List Char
  | [] => [']']
  | x :: xs => ',' :: (write x ++ writeItemsTail xs)

def writeFields : List (String × Json ν) → List Char
  | [] => [closeBrace]
  | (k, v) :: fs => quote k ++ ':' :: (write v ++ writeFieldsTail fs)

def writeFieldsTail : List (String × Json ν) → List Char
  | [] => [closeBrace]
  | (k, v) :: fs => ',' :: (quote k ++ ':' :: (write v ++ writeFieldsTail fs))

end

def stringify (j : Json ν) : String := String.ofList (write j)

def Stops (r : List Char) : Prop := ∀ c ∈ r.head?, numericChar c = false

@[simp] theorem stops_nil : Stops [] := by simp [Stops]

@[simp] theorem stops_cons {c : Char} {r : List Char} : Stops (c :: r) ↔ numericChar c = false := by
  simp [Stops]

theorem numeric_cancel {ds es r r' : List Char} (hd : ∀ c ∈ ds, numericChar c = true)
    (he : ∀ c ∈ es, numericChar c = true) (hr : Stops r) (hr' : Stops r')
    (h : ds ++ r = es ++ r') : ds = es ∧ r = r' := by
  induction ds generalizing es with
  | nil =>
    cases es with
    | nil => exact ⟨rfl, h⟩
    | cons e es =>
      rw [List.nil_append, List.cons_append] at h
      rw [h, stops_cons, he e (by simp)] at hr
      cases hr
  | cons d ds ih =>
    cases es with
    | nil =>
      rw [List.nil_append, List.cons_append] at h
      rw [← h, stops_cons, hd d (by simp)] at hr'
      contradiction
    | cons e es =>
      rw [List.cons_append, List.cons_append, List.cons.injEq] at h
      obtain ⟨rfl, h⟩ := h
      obtain ⟨rfl, rfl⟩ := ih (fun c hc => hd c (by simp [hc])) (fun c hc => he c (by simp [hc])) h
      exact ⟨rfl, rfl⟩

theorem stops_itemsTail (xs : List (Json ν)) (r : List Char) : Stops (writeItemsTail xs ++ r) := by
  cases xs with
  | nil => simp only [writeItemsTail, List.cons_append, stops_cons]; decide
  | cons x xs => simp only [writeItemsTail, List.cons_append, stops_cons]; decide

theorem stops_fieldsTail (fs : List (String × Json ν)) (r : List Char) :
    Stops (writeFieldsTail fs ++ r) := by
  cases fs with
  | nil => simp only [writeFieldsTail, List.cons_append, stops_cons]; decide
  | cons f fs => simp only [writeFieldsTail, List.cons_append, stops_cons]; decide

inductive Kind where
  | null
  | true
  | false
  | num
  | str
  | arr
  | obj
  deriving DecidableEq

def kind : Json ν → Kind
  | .null => .null
  | .bool true => .true
  | .bool false => .false
  | .num _ => .num
  | .str _ => .str
  | .arr _ => .arr
  | .obj _ => .obj

def kindOf (c : Char) : Kind :=
  if c = 'n' then .null else if c = 't' then .true else if c = 'f' then .false
  else if c = quoteMark then .str else if c = '[' then .arr else if c = openBrace then .obj
  else .num

theorem kindOf_numeric {c : Char} (h : numericChar c = true) : kindOf c = .num := by
  unfold kindOf
  have hne : ∀ d, numericChar d = false → c ≠ d := by
    rintro d hd rfl
    rw [h] at hd
    contradiction
  rw [if_neg (hne _ (by decide)), if_neg (hne _ (by decide)), if_neg (hne _ (by decide)),
    if_neg (hne _ (by decide)), if_neg (hne _ (by decide)), if_neg (hne _ (by decide))]

theorem write_head (j : Json ν) : ∃ c t, write j = c :: t ∧ kindOf c = kind j := by
  rcases j with _ | b | n | s | items | fields
  · exact ⟨_, _, by rw [write], by rfl⟩
  · cases b
    · exact ⟨_, _, by rw [write], by rfl⟩
    · exact ⟨_, _, by rw [write], by rfl⟩
  · obtain ⟨c, t, hc⟩ := List.exists_cons_of_ne_nil (NumberText.text_ne_nil n)
    refine ⟨c, t, by rw [write, hc], ?_⟩
    exact kindOf_numeric (NumberText.numeric n c (by simp [hc]))
  · exact ⟨_, _, by rw [write, quote], by rfl⟩
  · exact ⟨_, _, by rw [write], by rfl⟩
  · exact ⟨_, _, by rw [write], by rfl⟩

theorem write_kind {a b : Json ν} {r r' : List Char} (h : write a ++ r = write b ++ r') :
    kind a = kind b := by
  obtain ⟨c, t, hc, hk⟩ := write_head a
  obtain ⟨d, u, hd, hl⟩ := write_head b
  rw [hc, hd, List.cons_append, List.cons_append, List.cons.injEq] at h
  rw [← hk, ← hl, h.1]

theorem write_ne_close {j : Json ν} {r r' : List Char} : write j ++ r ≠ ']' :: r' := by
  obtain ⟨c, t, hc, hk⟩ := write_head j
  intro h
  rw [hc, List.cons_append, List.cons.injEq] at h
  have : kind j = .num := by rw [← hk, h.1]; decide
  rcases j with _ | b | n | s | items | fields <;> try (simp [kind] at this; done)
  · cases b <;> simp [kind] at this
  · have hn := NumberText.numeric n c (by rw [write] at hc; simp [hc])
    rw [h.1] at hn
    exact absurd hn (by decide)

mutual

theorem write_cancel : ∀ (a b : Json ν) {r r' : List Char}, Stops r → Stops r' →
    write a ++ r = write b ++ r' → a = b ∧ r = r'
  | a, b, r, r', hr, hr', h => by
    have hk := write_kind h
    match a, b with
    | .null, .null => exact ⟨rfl, List.append_cancel_left h⟩
    | .bool true, .bool true => exact ⟨rfl, List.append_cancel_left h⟩
    | .bool false, .bool false => exact ⟨rfl, List.append_cancel_left h⟩
    | .num m, .num n =>
      rw [write, write] at h
      obtain ⟨ht, rfl⟩ := numeric_cancel (NumberText.numeric m) (NumberText.numeric n) hr hr' h
      exact ⟨congrArg Json.num (NumberText.injective m n ht), rfl⟩
    | .str s, .str t =>
      rw [write, write] at h
      obtain ⟨rfl, rfl⟩ := quote_cancel h
      exact ⟨rfl, rfl⟩
    | .arr xs, .arr ys =>
      rw [write, write, List.cons_append, List.cons_append, List.cons.injEq] at h
      obtain ⟨rfl, rfl⟩ := writeItems_cancel xs ys h.2
      exact ⟨rfl, rfl⟩
    | .obj fs, .obj gs =>
      rw [write, write, List.cons_append, List.cons_append, List.cons.injEq] at h
      obtain ⟨rfl, rfl⟩ := writeFields_cancel fs gs h.2
      exact ⟨rfl, rfl⟩

theorem writeItems_cancel : ∀ (xs ys : List (Json ν)) {r r' : List Char},
    writeItems xs ++ r = writeItems ys ++ r' → xs = ys ∧ r = r'
  | [], [], r, r', h => ⟨rfl, List.append_cancel_left h⟩
  | [], y :: ys, r, r', h => by
    rw [writeItems, writeItems, List.cons_append, List.nil_append, List.append_assoc] at h
    exact absurd h.symm write_ne_close
  | x :: xs, [], r, r', h => by
    rw [writeItems, writeItems, List.cons_append, List.nil_append, List.append_assoc] at h
    exact absurd h write_ne_close
  | x :: xs, y :: ys, r, r', h => by
    rw [writeItems, writeItems, List.append_assoc, List.append_assoc] at h
    obtain ⟨rfl, htail⟩ := write_cancel x y (stops_itemsTail xs r) (stops_itemsTail ys r') h
    obtain ⟨rfl, rfl⟩ := writeItemsTail_cancel xs ys htail
    exact ⟨rfl, rfl⟩

theorem writeItemsTail_cancel : ∀ (xs ys : List (Json ν)) {r r' : List Char},
    writeItemsTail xs ++ r = writeItemsTail ys ++ r' → xs = ys ∧ r = r'
  | [], [], r, r', h => ⟨rfl, List.append_cancel_left h⟩
  | [], y :: ys, r, r', h => by simp [writeItemsTail] at h
  | x :: xs, [], r, r', h => by simp [writeItemsTail] at h
  | x :: xs, y :: ys, r, r', h => by
    rw [writeItemsTail, writeItemsTail, List.cons_append, List.cons_append, List.cons.injEq,
      List.append_assoc, List.append_assoc] at h
    obtain ⟨rfl, htail⟩ := write_cancel x y (stops_itemsTail xs r) (stops_itemsTail ys r') h.2
    obtain ⟨rfl, rfl⟩ := writeItemsTail_cancel xs ys htail
    exact ⟨rfl, rfl⟩

theorem writeFields_cancel : ∀ (fs gs : List (String × Json ν)) {r r' : List Char},
    writeFields fs ++ r = writeFields gs ++ r' → fs = gs ∧ r = r'
  | [], [], r, r', h => ⟨rfl, List.append_cancel_left h⟩
  | [], (k, v) :: gs, r, r', h => by
    simp only [writeFields, quote, List.cons_append, List.cons.injEq] at h
    exact absurd h.1 (by decide)
  | (k, v) :: fs, [], r, r', h => by
    simp only [writeFields, quote, List.cons_append, List.cons.injEq] at h
    exact absurd h.1 (by decide)
  | (k, v) :: fs, (l, w) :: gs, r, r', h => by
    rw [writeFields, writeFields, List.append_assoc, List.append_assoc] at h
    obtain ⟨rfl, hvalue⟩ := quote_cancel h
    rw [List.cons_append, List.cons_append, List.cons.injEq, List.append_assoc,
      List.append_assoc] at hvalue
    obtain ⟨rfl, htail⟩ := write_cancel v w (stops_fieldsTail fs r) (stops_fieldsTail gs r') hvalue.2
    obtain ⟨rfl, rfl⟩ := writeFieldsTail_cancel fs gs htail
    exact ⟨rfl, rfl⟩

theorem writeFieldsTail_cancel : ∀ (fs gs : List (String × Json ν)) {r r' : List Char},
    writeFieldsTail fs ++ r = writeFieldsTail gs ++ r' → fs = gs ∧ r = r'
  | [], [], r, r', h => ⟨rfl, List.append_cancel_left h⟩
  | [], (k, v) :: gs, r, r', h => by
    simp only [writeFieldsTail, List.cons_append, List.cons.injEq] at h
    exact absurd h.1 (by decide)
  | (k, v) :: fs, [], r, r', h => by
    simp only [writeFieldsTail, List.cons_append, List.cons.injEq] at h
    exact absurd h.1 (by decide)
  | (k, v) :: fs, (l, w) :: gs, r, r', h => by
    rw [writeFieldsTail, writeFieldsTail, List.cons_append, List.cons_append, List.cons.injEq,
      List.append_assoc, List.append_assoc] at h
    obtain ⟨rfl, hvalue⟩ := quote_cancel h.2
    rw [List.cons_append, List.cons_append, List.cons.injEq, List.append_assoc,
      List.append_assoc] at hvalue
    obtain ⟨rfl, htail⟩ := write_cancel v w (stops_fieldsTail fs r) (stops_fieldsTail gs r') hvalue.2
    obtain ⟨rfl, rfl⟩ := writeFieldsTail_cancel fs gs htail
    exact ⟨rfl, rfl⟩

end

theorem stringify_injective {a b : Json ν} (h : stringify a = stringify b) : a = b := by
  have hw : write a ++ [] = write b ++ [] := by
    rw [List.append_nil, List.append_nil]
    exact String.ofList_injective h
  exact (write_cancel a b stops_nil stops_nil hw).1

theorem escapeChar_special_printable :
    ∀ n ∈ specialCodes, (escapeChar (Char.ofNat n)).all (fun c => decide (32 ≤ c.toNat)) = true := by decide

def Printable (cs : List Char) : Prop := ∀ c ∈ cs, 32 ≤ c.toNat

instance (cs : List Char) : Decidable (Printable cs) := List.decidableBAll _ cs

@[simp] theorem printable_nil : Printable [] := by simp [Printable]

@[simp] theorem printable_cons {c : Char} {cs : List Char} : Printable (c :: cs) ↔ 32 ≤ c.toNat ∧ Printable cs := by
  simp [Printable]

@[simp] theorem printable_append {cs ds : List Char} : Printable (cs ++ ds) ↔ Printable cs ∧ Printable ds := by
  simp [Printable, or_imp, forall_and]

theorem escapeChar_printable (c : Char) : Printable (escapeChar c) := by
  by_cases special : Special c
  · obtain ⟨n, hn, rfl⟩ := special.code
    exact fun c hc => of_decide_eq_true (List.all_eq_true.mp (escapeChar_special_printable n hn) c hc)
  · rw [escapeChar_plain special]
    simp only [Special, not_or, Nat.not_lt] at special
    simpa using special.2.2

theorem quote_printable (s : String) : Printable (quote s) := by
  have escaped : Printable (escape s.toList) := by
    intro c hc
    obtain ⟨d, -, hd⟩ := List.mem_flatMap.mp hc
    exact escapeChar_printable d c hd
  exact printable_cons.mpr ⟨by decide, printable_append.mpr ⟨escaped, by decide⟩⟩

theorem numericChar_printable {c : Char} (h : numericChar c = true) : 32 ≤ c.toNat := by
  simp only [numericChar, Char.isDigit, Bool.or_eq_true, Bool.and_eq_true, decide_eq_true_eq, beq_iff_eq] at h
  rcases h with ((((⟨h, -⟩ | rfl) | rfl) | rfl) | rfl) | rfl
  · exact Nat.le_trans (by decide) (UInt32.le_iff_toNat_le.mp h)
  all_goals decide

mutual

theorem write_printable : ∀ j : Json ν, Printable (write j)
  | .null => by rw [write]; decide
  | .bool true => by rw [write]; decide
  | .bool false => by rw [write]; decide
  | .num n => by rw [write]; exact fun c hc => numericChar_printable (NumberText.numeric n c hc)
  | .str s => by rw [write]; exact quote_printable s
  | .arr items => by rw [write]; exact printable_cons.mpr ⟨by decide, writeItems_printable items⟩
  | .obj fields => by rw [write]; exact printable_cons.mpr ⟨by decide, writeFields_printable fields⟩

theorem writeItems_printable : ∀ xs : List (Json ν), Printable (writeItems xs)
  | [] => by rw [writeItems]; decide
  | x :: xs => by rw [writeItems]; exact printable_append.mpr ⟨write_printable x, writeItemsTail_printable xs⟩

theorem writeItemsTail_printable : ∀ xs : List (Json ν), Printable (writeItemsTail xs)
  | [] => by rw [writeItemsTail]; decide
  | x :: xs => by
    rw [writeItemsTail]
    exact printable_cons.mpr ⟨by decide, printable_append.mpr ⟨write_printable x, writeItemsTail_printable xs⟩⟩

theorem writeFields_printable : ∀ fs : List (String × Json ν), Printable (writeFields fs)
  | [] => by rw [writeFields]; decide
  | (k, v) :: fs => by
    rw [writeFields]
    exact printable_append.mpr ⟨quote_printable k, printable_cons.mpr ⟨by decide,
      printable_append.mpr ⟨write_printable v, writeFieldsTail_printable fs⟩⟩⟩

theorem writeFieldsTail_printable : ∀ fs : List (String × Json ν), Printable (writeFieldsTail fs)
  | [] => by rw [writeFieldsTail]; decide
  | (k, v) :: fs => by
    rw [writeFieldsTail]
    exact printable_cons.mpr ⟨by decide, printable_append.mpr ⟨quote_printable k, printable_cons.mpr ⟨by decide,
      printable_append.mpr ⟨write_printable v, writeFieldsTail_printable fs⟩⟩⟩⟩

end

end Json

end Provisr.Foundation
