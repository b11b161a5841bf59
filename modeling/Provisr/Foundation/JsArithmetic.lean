import Provisr.Foundation.Float64

namespace Provisr.Foundation.Float64

def isFinite : Float64 → Bool
  | .finite _ => true
  | _ => false

-- The shortest decimal of a magnitude, which 17 digits always reach; x / scale is a decimal in any case.
def shortest (negative : Bool) (x : Nat) : JsNumber :=
  let digits := Nat.toDigits 10 (x * 5 ^ 1074)
  ((decimals negative x).find? fun n => magnitude n == x).getD
    (JsNumber.ofDigits negative digits (JsNumber.all_isDigit_toDigits _) (digits.length - 1074))

-- The float64 nearest to p / q multiples of the smallest one.
def nearest (negative : Bool) (p q : Nat) : Float64 :=
  if round p q < 2 ^ 1024 * scale then .finite (shortest negative (round p q)) else .inf negative

def signed (n : JsNumber) : Int := if n.negative then -(magnitude n : Int) else magnitude n

-- x <= y
def le : Float64 → Float64 → Bool
  | .nan, _ | _, .nan => false
  | .inf true, _ | _, .inf false => true
  | .inf false, _ | _, .inf true => false
  | .finite m, .finite n => decide (signed m ≤ signed n)

-- x / y, a zero being positive
def div : Float64 → Float64 → Float64
  | .nan, _ | _, .nan | .inf _, .inf _ => .nan
  | .inf s, .finite n => .inf (s != n.negative)
  | .finite _, .inf _ => .finite 0
  | .finite m, .finite n =>
    if magnitude n = 0 then if magnitude m = 0 then .nan else .inf m.negative
    else nearest (m.negative != n.negative) (magnitude m * scale) (magnitude n)

-- x * y
def mul : Float64 → Float64 → Float64
  | .nan, _ | _, .nan => .nan
  | .inf s, .inf t => .inf (s != t)
  | .inf s, .finite n | .finite n, .inf s => if magnitude n = 0 then .nan else .inf (s != n.negative)
  | .finite m, .finite n => nearest (m.negative != n.negative) (magnitude m * magnitude n) scale

-- Number.isInteger
def isInteger : Float64 → Bool
  | .finite n => n.isInteger
  | _ => false

end Provisr.Foundation.Float64
