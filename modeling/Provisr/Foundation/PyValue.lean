import Provisr.Foundation.JsNumber
import Mathlib.Data.Rat.Defs
import Mathlib.Algebra.Order.Field.Rat

namespace Provisr.Foundation

-- A float: every finite one is the number its shortest decimal digits stand for.
inductive PyFloat where
  | finite (n : JsNumber)
  | infinite (negative : Bool)
  | nan
  deriving DecidableEq

namespace PyFloat

def ratOf (n : JsNumber) : ℚ :=
  let magnitude : ℚ := (Nat.ofDigitChars 10 n.digits 0 : ℚ) * (10 : ℚ) ^ (n.point - (n.digits.length : Int))
  if n.negative then -magnitude else magnitude

-- `x < y`; a comparison with nan is false.
def lt : PyFloat → PyFloat → Bool
  | .finite m, .finite n => decide (ratOf m < ratOf n)
  | .finite _, .infinite negative => !negative
  | .infinite negative, .finite _ => negative
  | .infinite negative, .infinite negative' => negative && !negative'
  | .nan, _ | _, .nan => false

-- `x <= y`
def le : PyFloat → PyFloat → Bool
  | .finite m, .finite n => decide (ratOf m ≤ ratOf n)
  | .finite _, .infinite negative => !negative
  | .infinite negative, .finite _ => negative
  | .infinite negative, .infinite negative' => negative || !negative'
  | .nan, _ | _, .nan => false

def zero : PyFloat := .finite 0

def one : PyFloat := .finite 1

-- `n < x` for an integer, which is compared exactly.
def intLt (n : Int) : PyFloat → Bool
  | .finite m => decide ((n : ℚ) < ratOf m)
  | .infinite negative => !negative
  | .nan => false

-- `x < n`
def ltInt : PyFloat → Int → Bool
  | .finite m, n => decide (ratOf m < (n : ℚ))
  | .infinite negative, _ => negative
  | .nan, _ => false

end PyFloat

-- Values of the runtime. `mapping` is a mappingproxy over a dict, `other` an object of any other type.
inductive PyValue where
  | none
  | bool (b : Bool)
  | int (n : Int)
  | float (x : PyFloat)
  | str (s : String)
  | list (items : List PyValue)
  | tuple (items : List PyValue)
  | dict (fields : List (String × PyValue))
  | uuid (text : String)
  | model (fields : List (String × PyValue))
  | mapping (fields : List (String × PyValue))
  | other (name : String)

abbrev PyFields := List (String × PyValue)

namespace PyValue

mutual

-- `model_dump(mode="json")` of a value: what it is defined on.
def toJson : PyValue → Option PyValue
  | .none => some .none
  | .bool b => some (.bool b)
  | .int n => some (.int n)
  | .float x => some (.float x)
  | .str s => some (.str s)
  | .uuid text => some (.str text)
  | .list items | .tuple items => (toJsonItems items).map .list
  | .dict fields | .model fields => (toJsonFields fields).map .dict
  | .mapping _ | .other _ => .none

def toJsonItems : List PyValue → Option (List PyValue)
  | [] => some []
  | v :: vs => (toJson v).bind fun w => (toJsonItems vs).map fun ws => w :: ws

def toJsonFields : List (String × PyValue) → Option (List (String × PyValue))
  | [] => some []
  | (k, v) :: fs => (toJson v).bind fun w => (toJsonFields fs).map fun gs => (k, w) :: gs

end

end PyValue

end Provisr.Foundation
