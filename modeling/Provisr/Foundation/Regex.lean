import Mathlib.Data.List.Basic

namespace Provisr.Foundation

-- Regular expressions over classes of characters, matched against a whole text by derivatives.
inductive Regex where
  | empty
  | eps
  | chars (test : Char → Bool)
  | seq (r s : Regex)
  | alt (r s : Regex)
  | times (r : Regex) (least : Nat) (most : Option Nat)

namespace Regex

def nullable : Regex → Bool
  | empty => false
  | eps => true
  | chars _ => false
  | seq r s => r.nullable && s.nullable
  | alt r s => r.nullable || s.nullable
  | times r least _ => least == 0 || r.nullable

def andThen : Regex → Regex → Regex
  | empty, _ => empty
  | eps, s => s
  | r, s => seq r s

def orElse : Regex → Regex → Regex
  | empty, s => s
  | r, empty => r
  | r, s => alt r s

def deriv (c : Char) : Regex → Regex
  | empty => empty
  | eps => empty
  | chars test => if test c then eps else empty
  | seq r s => if r.nullable then ((r.deriv c).andThen s).orElse (s.deriv c) else (r.deriv c).andThen s
  | alt r s => (r.deriv c).orElse (s.deriv c)
  | times r least most =>
    if most = some 0 then empty else (r.deriv c).andThen (times r (least - 1) (most.map (· - 1)))

def accepts (r : Regex) (s : String) : Bool := (s.toList.foldl (fun r c => r.deriv c) r).nullable

def lit (s : String) : Regex := s.toList.foldr (fun c r => (chars (· == c)).andThen r) eps

def cat (rs : List Regex) : Regex := rs.foldr andThen eps

def oneOf (rs : List Regex) : Regex := rs.foldr orElse empty

-- r*, r+, r?, r{m,n}
def star (r : Regex) : Regex := times r 0 none

def plus (r : Regex) : Regex := times r 1 none

def opt (r : Regex) : Regex := times r 0 (some 1)

def between (m n : Nat) (r : Regex) : Regex := times r m (some n)

def exactly (n : Nat) (r : Regex) : Regex := between n n r

section Classes

def ranges (rs : List (Char × Char)) (others : String) (c : Char) : Bool :=
  rs.any (fun r => r.1 ≤ c && c ≤ r.2) || others.toList.contains c

def lower : List (Char × Char) := [('a', 'z')]

def lowerDigit : List (Char × Char) := [('a', 'z'), ('0', '9')]

def letter : List (Char × Char) := [('a', 'z'), ('A', 'Z')]

def alnum : List (Char × Char) := [('a', 'z'), ('A', 'Z'), ('0', '9')]

def digit : Regex := chars (ranges [('0', '9')] "")

def hex : Regex := chars (ranges [('0', '9'), ('a', 'f'), ('A', 'F')] "")

-- [^\s], with the white space of Unicode
def isDark (c : Char) : Bool :=
  let n := c.toNat
  !((9 ≤ n && n ≤ 13) || n == 0x20 || n == 0x85 || n == 0xa0 || n == 0x1680 || (0x2000 ≤ n && n ≤ 0x200a) ||
    n == 0x2028 || n == 0x2029 || n == 0x202f || n == 0x205f || n == 0x3000)

def dark : Regex := chars isDark

-- [^\x00-\x1f] without some others
def printable (others : String) : Regex := chars fun c => 0x20 ≤ c.toNat && !others.toList.contains c

end Classes

end Regex

end Provisr.Foundation
