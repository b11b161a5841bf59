import Provisr.Foundation.JsText

namespace Provisr.Foundation.JsNumeric

def maxSafeInteger : Nat := 2 ^ 53 - 1

def hexValue (c : Char) : Nat :=
  if c.isDigit then c.toNat - '0'.toNat else c.toLower.toNat - 'a'.toNat + 10

-- 0x, 0o and 0b.
def radixNatural (radix : Nat) (cs : List Char) : Option Nat :=
  if cs ≠ [] ∧ cs.all (fun c => JsText.isHex c && decide (hexValue c < radix)) then
    some (cs.foldl (fun n c => n * radix + hexValue c) 0)
  else none

def exponentPart : List Char → Option Int
  | [] => some 0
  | e :: cs =>
    if e = 'e' ∨ e = 'E' then
      match cs with
      | '-' :: ds => if ds = [] then none else (JsText.digits ds).map fun n => -(n : Int)
      | '+' :: ds => if ds = [] then none else (JsText.digits ds).map Int.ofNat
      | ds => if ds = [] then none else (JsText.digits ds).map Int.ofNat
    else none

def decimalLiteral (cs : List Char) : Option (Nat × Int) := do
  let (whole, rest) := cs.span Char.isDigit
  let (fraction, rest) := match rest with
    | '.' :: rest => rest.span Char.isDigit
    | rest => ([], rest)
  if whole ++ fraction = [] then none
  else
    let exponent ← exponentPart rest
    some (Nat.ofDigitChars 10 (whole ++ fraction) 0, exponent - fraction.length)

def roundHalfEven (num den : Nat) : Nat :=
  if 2 * (num % den) < den then num / den
  else if den < 2 * (num % den) then num / den + 1
  else num / den + num / den % 2

-- The nearest double has at most 1074 binary places, and as many as leave it 53 bits.
def roundedInteger (mantissa : Nat) (exponent : Int) : Option Nat :=
  let num := mantissa * 10 ^ exponent.toNat
  let den := 10 ^ (-exponent).toNat
  if mantissa = 0 then some 0
  else if 2 ^ 53 * den ≤ num then none
  else
    let places := min 1074 (Nat.log2 ((2 ^ 53 * den - 1) / num))
    let scaled := roundHalfEven (num * 2 ^ places) den
    if scaled % 2 ^ places = 0 ∧ scaled / 2 ^ places ≤ maxSafeInteger then some (scaled / 2 ^ places) else none

def safeNatural (n : Nat) : Option Int := if n ≤ maxSafeInteger then some n else none

def unsignedDecimal (cs : List Char) : Option Int := do
  let (mantissa, exponent) ← decimalLiteral cs
  let n ← roundedInteger mantissa exponent
  some n

-- Number(raw), where it is a safe integer.
def safeInteger (raw : String) : Option Int :=
  match (JsText.trim raw).toList with
  | [] => some 0
  | '0' :: 'x' :: cs | '0' :: 'X' :: cs => (radixNatural 16 cs).bind safeNatural
  | '0' :: 'o' :: cs | '0' :: 'O' :: cs => (radixNatural 8 cs).bind safeNatural
  | '0' :: 'b' :: cs | '0' :: 'B' :: cs => (radixNatural 2 cs).bind safeNatural
  | '-' :: cs => (unsignedDecimal cs).map fun n => -n
  | '+' :: cs => unsignedDecimal cs
  | cs => unsignedDecimal cs

end Provisr.Foundation.JsNumeric
