import Mathlib.Algebra.GroupWithZero.Nat
import Mathlib.Algebra.Group.Nat.Defs
import Mathlib.Data.List.Basic
import Mathlib.Data.List.DropRight

namespace Provisr.Foundation.JsText

theorem toList_append {s t : String} {cs ds : List Char} (hs : s.toList = cs) (ht : t.toList = ds) :
    (s ++ t).toList = cs ++ ds := by
  rw [String.toList_append, hs, ht]

theorem length_append {s t : String} {m n : Nat} (hs : s.length = m) (ht : t.length = n) :
    (s ++ t).length = m + n := by
  rw [String.length_append, hs, ht]

-- String.prototype.length counts UTF-16 code units.
def utf16Units (c : Char) : Nat := if c.toNat < 0x10000 then 1 else 2

def length (s : String) : Nat := (s.toList.map utf16Units).sum

def isSpace (c : Char) : Bool :=
  let n := c.toNat
  (9 ≤ n && n ≤ 13) || n == 0x20 || n == 0xA0 || n == 0x1680 || (0x2000 ≤ n && n ≤ 0x200A) ||
    n == 0x2028 || n == 0x2029 || n == 0x202F || n == 0x205F || n == 0x3000 || n == 0xFEFF

def trimStart (cs : List Char) : List Char := cs.dropWhile isSpace

def trimEnd (cs : List Char) : List Char := (cs.reverse.dropWhile isSpace).reverse

def trim (s : String) : String := String.ofList (trimEnd (trimStart s.toList))

def isLower (c : Char) : Bool := 'a' ≤ c && c ≤ 'z'

def isUpper (c : Char) : Bool := 'A' ≤ c && c ≤ 'Z'

def isAlnum (c : Char) : Bool := c.isDigit || isLower c || isUpper c

def isHex (c : Char) : Bool := c.isDigit || ('a' ≤ c && c ≤ 'f') || ('A' ≤ c && c ≤ 'F')

-- /^[a-z][a-z0-9_]*$/
def isFieldName : List Char → Bool
  | [] => false
  | c :: cs => isLower c && cs.all (fun d => isLower d || d.isDigit || d == '_')

def takeDigits (cs : List Char) : Option (List Char) :=
  match cs.takeWhile Char.isDigit with
  | [] => none
  | _ => some (cs.dropWhile Char.isDigit)

-- \d+\.\d+\.\d+, with what is left of the text
def takeVersion (cs : List Char) : Option (List Char) := do
  let '.' :: cs ← takeDigits cs | none
  let '.' :: cs ← takeDigits cs | none
  takeDigits cs

-- /^\d+\.\d+\.\d+$/
def isVersion (s : String) : Bool := takeVersion s.toList == some []

def isSuffixChar (c : Char) : Bool := isAlnum c || c == '.' || c == '-'

def isNonemptySuffix (cs : List Char) : Bool := !cs.isEmpty && cs.all isSuffixChar

-- (?:-[0-9A-Za-z.-]+)?(?:\+[0-9A-Za-z.-]+)?$
def isVersionSuffix : List Char → Bool
  | [] => true
  | '+' :: build => isNonemptySuffix build
  | '-' :: cs =>
    let pre := cs.takeWhile (· != '+')
    match cs.dropWhile (· != '+') with
    | [] => isNonemptySuffix pre
    | _ :: build => isNonemptySuffix pre && isNonemptySuffix build
  | _ => false

def isComponentVersion (s : String) : Bool :=
  match takeVersion s.toList with
  | some rest => isVersionSuffix rest
  | none => false

-- Length of each dash-separated group of hex digits.
def isUuid (s : String) : Bool :=
  match s.toList.splitOn '-' with
  | [a, b, c, d, e] =>
    a.length == 8 && b.length == 4 && c.length == 4 && d.length == 4 && e.length == 12 &&
      [a, b, c, d, e].all (·.all isHex)
  | _ => false

def leap (year : Nat) : Bool := (year % 4 == 0 && year % 100 != 0) || year % 400 == 0

def daysIn (year month : Nat) : Nat :=
  if month == 2 then (if leap year then 29 else 28)
  else if [4, 6, 9, 11].contains month then 30 else 31

def digits (cs : List Char) : Option Nat :=
  if cs.all Char.isDigit then some (Nat.ofDigitChars 10 cs 0) else none

def isOffset : List Char → Bool
  | ['Z'] => true
  | s :: cs =>
    (s == '+' || s == '-') &&
      match cs with
      | [a, b, ':', c, d] => [a, b, c, d].all Char.isDigit
      | [a, b, c, d] => [a, b, c, d].all Char.isDigit
      | _ => false
  | [] => false

def isFraction : List Char → Bool
  | '.' :: cs =>
    match takeDigits cs with
    | some rest => isOffset rest
    | none => false
  | cs => isOffset cs

-- z.string().datetime({ offset: true })
def isDatetime (s : String) : Bool :=
  match s.toList with
  | y1 :: y2 :: y3 :: y4 :: '-' :: m1 :: m2 :: '-' :: d1 :: d2 :: 'T' :: h1 :: h2 :: ':' :: n1 :: n2 ::
      ':' :: s1 :: s2 :: rest =>
    match digits [y1, y2, y3, y4], digits [m1, m2], digits [d1, d2], digits [h1, h2],
      digits [n1, n2], digits [s1, s2] with
    | some y, some m, some d, some h, some n, some sec =>
      1 ≤ m && m ≤ 12 && 1 ≤ d && d ≤ daysIn y m && h ≤ 23 && n ≤ 59 && sec ≤ 59 && isFraction rest
    | _, _, _, _, _, _ => false
  | _ => false

def padded (width n : Nat) : String :=
  let text := toString n
  String.ofList (List.replicate (width - text.length) '0') ++ text

-- Year, month and day of a day counted from 1970-01-01, in the proleptic Gregorian calendar: years
-- are counted from March, so that a leap day ends its year.
def civil (days : Nat) : Nat × Nat × Nat :=
  let z := days + 719468
  let era := z / 146097
  let doe := z % 146097
  let yoe := (doe - doe / 1460 + doe / 36524 - doe / 146096) / 365
  let doy := doe - (365 * yoe + yoe / 4 - yoe / 100)
  let mp := (5 * doy + 2) / 153
  let month := if mp < 10 then mp + 3 else mp - 9
  (yoe + era * 400 + (if month ≤ 2 then 1 else 0), month, doy - (153 * mp + 2) / 5 + 1)

-- Date.prototype.toISOString, for years up to 9999
def toISOString (ms : Nat) : String :=
  let (year, month, day) := civil (ms / 86400000)
  let t := ms % 86400000
  padded 4 year ++ "-" ++ padded 2 month ++ "-" ++ padded 2 day ++ "T" ++ padded 2 (t / 3600000) ++
    ":" ++ padded 2 (t / 60000 % 60) ++ ":" ++ padded 2 (t / 1000 % 60) ++ "." ++
    padded 3 (t % 1000) ++ "Z"

theorem isUuid_chars {s : String} (h : isUuid s = true) : ∀ c ∈ s.toList, c = '-' ∨ isHex c = true := by
  unfold isUuid at h
  split at h
  · rename_i a b c d e hsplit
    have hall : ∀ part ∈ [a, b, c, d, e], part.all isHex = true := by
      rw [Bool.and_eq_true] at h
      exact List.all_eq_true.mp h.2
    have hjoin : s.toList = List.intercalate ['-'] [a, b, c, d, e] := by
      rw [← hsplit, List.intercalate_splitOn]
    intro x hx
    rw [hjoin] at hx
    simp only [List.intercalate, List.intersperse, List.flatten_cons, List.flatten_nil, List.mem_append,
      List.mem_singleton, List.append_nil] at hx
    have hex : ∀ part ∈ [a, b, c, d, e], x ∈ part → isHex x = true :=
      fun part hp hm => List.all_eq_true.mp (hall part hp) x hm
    rcases hx with hx | hx | hx | hx | hx | hx | hx | hx | hx
    · exact Or.inr (hex a (by simp) hx)
    · exact Or.inl hx
    · exact Or.inr (hex b (by simp) hx)
    · exact Or.inl hx
    · exact Or.inr (hex c (by simp) hx)
    · exact Or.inl hx
    · exact Or.inr (hex d (by simp) hx)
    · exact Or.inl hx
    · exact Or.inr (hex e (by simp) hx)
  · cases h

theorem isHex_ascii {c : Char} (h : isHex c = true) : c.toNat < 128 := by
  unfold isHex Char.isDigit at h
  simp only [Bool.or_eq_true, Bool.and_eq_true, decide_eq_true_eq, ge_iff_le] at h
  rcases h with (⟨-, h⟩ | ⟨-, h⟩) | ⟨-, h⟩
  · exact Nat.lt_of_le_of_lt (UInt32.le_iff_toNat_le.mp h) (by decide)
  · exact Nat.lt_of_le_of_lt (UInt32.le_iff_toNat_le.mp h) (by decide)
  · exact Nat.lt_of_le_of_lt (UInt32.le_iff_toNat_le.mp h) (by decide)

theorem toLower_hex {c : Char} (h : isHex c = true) :
    isHex c.toLower = true ∧ c.toLower.toLower = c.toLower ∧ c.toLower ≠ '-' := by
  have ascii : ∀ n < 128, isHex (Char.ofNat n) = true → isHex (Char.ofNat n).toLower = true ∧
      (Char.ofNat n).toLower.toLower = (Char.ofNat n).toLower ∧ (Char.ofNat n).toLower ≠ '-' := by decide
  have known := ascii c.toNat (isHex_ascii h)
  rw [Char.ofNat_toNat] at known
  exact known h

theorem isUuid_lower {text : String} (uuid : isUuid text = true) :
    isUuid (String.ofList (text.toList.map Char.toLower)) = true ∧
      (text.toList.map Char.toLower).map Char.toLower = text.toList.map Char.toLower ∧
      (text.toList.map Char.toLower).length = 36 := by
  have h := uuid
  unfold isUuid at h
  split at h
  · rename_i a b c d e parts
    simp only [List.all_cons, List.all_nil, Bool.and_true, Bool.and_eq_true, beq_iff_eq] at h
    obtain ⟨⟨⟨⟨⟨la, lb⟩, lc⟩, ld⟩, le⟩, ha, hb, hc, hd, he⟩ := h
    have joined : text.toList = ['-'].intercalate [a, b, c, d, e] := by rw [← parts, List.intercalate_splitOn]
    have lower : text.toList.map Char.toLower = ['-'].intercalate ([a, b, c, d, e].map (List.map Char.toLower)) := by
      rw [joined]
      simp [List.intercalate, List.intersperse]
    have hex : ∀ part ∈ [a, b, c, d, e], ∀ x ∈ part, isHex x = true := by
      simp only [List.mem_cons, List.not_mem_nil, or_false]
      rintro part (rfl | rfl | rfl | rfl | rfl)
      · exact List.all_eq_true.mp ha
      · exact List.all_eq_true.mp hb
      · exact List.all_eq_true.mp hc
      · exact List.all_eq_true.mp hd
      · exact List.all_eq_true.mp he
    have apart : ∀ part ∈ [a, b, c, d, e].map (List.map Char.toLower), '-' ∉ part := by
      intro part mem dash
      obtain ⟨part, own, rfl⟩ := List.mem_map.mp mem
      obtain ⟨x, hx, same⟩ := List.mem_map.mp dash
      exact (toLower_hex (hex part own x hx)).2.2 same
    have split := List.splitOn_intercalate '-' apart (by simp)
    refine ⟨?_, ?_, ?_⟩
    · unfold isUuid
      rw [String.toList_ofList, lower, split]
      have all : ∀ part ∈ [a, b, c, d, e], (part.map Char.toLower).all isHex = true := by
        intro part mem
        refine List.all_eq_true.mpr fun x hx => ?_
        obtain ⟨y, hy, rfl⟩ := List.mem_map.mp hx
        exact (toLower_hex (hex part mem y hy)).1
      simp [la, lb, lc, ld, le, all a, all b, all c, all d, all e]
    · rw [List.map_map]
      refine List.map_congr_left fun x hx => ?_
      rcases isUuid_chars uuid x hx with rfl | hx
      · decide
      · exact (toLower_hex hx).2.1
    · rw [List.length_map, joined]
      simp [List.intercalate, List.intersperse, la, lb, lc, ld, le]
  · cases h

theorem one_le_length {s : String} (nonempty : s ≠ "") : 1 ≤ length s := by
  cases written : s.toList with
  | nil => exact absurd (String.toList_eq_nil_iff.mp written) nonempty
  | cons c cs =>
    have unit : 1 ≤ utf16Units c := by
      unfold utf16Units
      split <;> omega
    simp only [length, written, List.map_cons, List.sum_cons]
    omega

theorem trim_toList (s : String) : (trim s).toList = trimEnd (trimStart s.toList) :=
  String.toList_ofList

theorem trimStart_of_prefix {xs cs : List Char} (part : xs <+: trimStart cs) : trimStart xs = xs := by
  cases xs with
  | nil => rfl
  | cons c xs =>
    obtain ⟨rest, split⟩ := part
    have first : (cs.dropWhile isSpace).head? = some c := by
      rw [show cs.dropWhile isSpace = c :: xs ++ rest from split.symm]
      rfl
    have dark : isSpace c = false := by
      simpa [first] using List.head?_dropWhile_not isSpace cs
    rw [trimStart, List.dropWhile_cons_of_neg (by simp [dark])]

theorem trim_trim (s : String) : trim (trim s) = trim s := by
  apply String.ext
  have inner : trimStart (trimEnd (trimStart s.toList)) = trimEnd (trimStart s.toList) :=
    trimStart_of_prefix (List.rdropWhile_prefix isSpace _)
  rw [trim_toList, trim_toList, inner]
  exact List.rdropWhile_idempotent isSpace _

end Provisr.Foundation.JsText
