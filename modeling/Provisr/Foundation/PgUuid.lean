import Mathlib.Algebra.GroupWithZero.Nat
import Mathlib.Data.List.Basic

namespace Provisr.Foundation

instance hexDigits : NeZero 16 := ⟨by decide⟩

def hexDigit (v : Fin 16) : Char :=
  ['0', '1', '2', '3', '4', '5', '6', '7', '8', '9', 'a', 'b', 'c', 'd', 'e', 'f'].get v

def hexValue (c : Char) : Option (Fin 16) :=
  if c.isDigit then some (Fin.ofNat 16 (c.toNat - 48))
  else if 'a' ≤ c ∧ c ≤ 'f' then some (Fin.ofNat 16 (c.toNat - 87))
  else if 'A' ≤ c ∧ c ≤ 'F' then some (Fin.ofNat 16 (c.toNat - 55))
  else none

theorem hexValue_hexDigit (v : Fin 16) : hexValue (hexDigit v) = some v := by
  revert v
  decide

theorem hexDigit_ne_dash (v : Fin 16) : hexDigit v ≠ '-' := by
  revert v
  decide

theorem hexDigit_ne_brace (v : Fin 16) : hexDigit v ≠ '{' := by
  revert v
  decide

-- A value of PostgreSQL's uuid type, as its hex digits.
structure PgUuid where
  digits : List (Fin 16)
  length_digits : digits.length = 32
deriving DecidableEq

namespace PgUuid

def repeated (digit : Fin 16) : PgUuid := ⟨List.replicate 32 digit, List.length_replicate⟩

-- string_to_uuid, with the bytes still to read: a dash may follow every second byte but the last.
def readBytes : Nat → List Char → Option (List (Fin 16) × List Char)
  | 0, cs => some ([], cs)
  | left + 1, a :: b :: cs => do
    let high ← hexValue a
    let low ← hexValue b
    let cs := if left % 2 = 0 ∧ 0 < left ∧ cs.head? = some '-' then cs.tail else cs
    let (digits, rest) ← readBytes left cs
    some (high :: low :: digits, rest)
  | _, _ => none

theorem length_readBytes {left : Nat} {cs rest : List Char} {digits : List (Fin 16)}
    (h : readBytes left cs = some (digits, rest)) : digits.length = 2 * left := by
  induction left generalizing cs rest digits with
  | zero =>
      cases h
      rfl
  | succ left ih =>
      match cs with
      | [] => cases h
      | [_] => cases h
      | a :: b :: cs =>
          simp only [readBytes, Option.bind_eq_bind, Option.bind_eq_some_iff, Prod.exists, Option.some.injEq,
            Prod.mk.injEq] at h
          obtain ⟨high, -, low, -, digits, rest, read, rfl, rfl⟩ := h
          have := ih read
          simp only [List.length_cons]
          omega

def ofRead (ending : List Char) (cs : List Char) : Option PgUuid :=
  match h : readBytes 16 cs with
  | some (digits, rest) => if rest = ending then some ⟨digits, length_readBytes h⟩ else none
  | none => none

-- uuid_in
def parse (s : String) : Option PgUuid :=
  if s.toList.head? = some '{' then ofRead ['}'] s.toList.tail else ofRead [] s.toList

def writeBytes : Nat → List (Fin 16) → List Char
  | left + 1, high :: low :: digits =>
    hexDigit high :: hexDigit low ::
      (if left ∈ [12, 10, 8, 6] then '-' :: writeBytes left digits else writeBytes left digits)
  | _, _ => []

-- uuid_out
def text (u : PgUuid) : String := String.ofList (writeBytes 16 u.digits)

theorem head?_writeBytes (left : Nat) (digits : List (Fin 16)) : (writeBytes left digits).head? ≠ some '-' := by
  match left, digits with
  | 0, _ => simp [writeBytes]
  | _ + 1, [] => simp [writeBytes]
  | _ + 1, [_] => simp [writeBytes]
  | left + 1, high :: low :: digits =>
      simp only [writeBytes, List.head?_cons, ne_eq, Option.some.injEq]
      exact hexDigit_ne_dash high

theorem readBytes_writeBytes {left : Nat} {digits : List (Fin 16)} (h : digits.length = 2 * left) :
    readBytes left (writeBytes left digits) = some (digits, []) := by
  induction left generalizing digits with
  | zero =>
      rw [List.length_eq_zero_iff.mp h]
      rfl
  | succ left ih =>
      match digits, h with
      | high :: low :: digits, h =>
          have length : digits.length = 2 * left := by simpa [Nat.mul_add] using h
          have apart := head?_writeBytes left digits
          by_cases dashed : left ∈ [12, 10, 8, 6]
          · have even : left % 2 = 0 ∧ 0 < left := by
              simp only [List.mem_cons, List.not_mem_nil, or_false] at dashed
              omega
            simp [writeBytes, readBytes, hexValue_hexDigit, dashed, even, ih length]
          · simp [writeBytes, readBytes, hexValue_hexDigit, dashed, apart, ih length]

theorem parse_text (u : PgUuid) : parse u.text = some u := by
  obtain ⟨digits, length⟩ := u
  have read : readBytes 16 (writeBytes 16 digits) = some (digits, []) := readBytes_writeBytes length
  have start : (writeBytes 16 digits).head? ≠ some '{' := by
    match digits, length with
    | high :: low :: digits, _ =>
        simp only [writeBytes, List.head?_cons, ne_eq, Option.some.injEq]
        exact hexDigit_ne_brace high
  unfold parse text
  rw [String.toList_ofList, if_neg start]
  unfold ofRead
  split
  · rename_i digits' rest same
    rw [read] at same
    cases same
    rfl
  · rename_i same
    rw [read] at same
    cases same

theorem text_injective {u v : PgUuid} (h : u.text = v.text) : u = v := by
  have parsed := parse_text u
  rw [h, parse_text v] at parsed
  exact (Option.some.inj parsed).symm

def Canonical (s : String) : Prop := ∃ u, text u = s

theorem text_eq_iff {s : String} {u : PgUuid} (h : parse s = some u) : u.text = s ↔ Canonical s := by
  constructor
  · intro same
    exact ⟨u, same⟩
  · rintro ⟨v, rfl⟩
    rw [parse_text] at h
    rw [Option.some.inj h]

example : (parse "\x7bA0EEBC99-9C0B4EF8-BB6D6BB9BD380A11\x7d").map text =
    some "a0eebc99-9c0b-4ef8-bb6d-6bb9bd380a11" := by decide

end PgUuid

end Provisr.Foundation
