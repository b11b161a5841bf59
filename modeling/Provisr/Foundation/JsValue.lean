import Provisr.Foundation.JsArithmetic
import Provisr.Foundation.JsNumeric
import Provisr.Foundation.JsonEquality
import Provisr.Foundation.JsonLiteral

namespace Provisr.Foundation

-- JavaScript values of the shape of JSON. A property that is undefined is no property.
abbrev JsTree := Json Float64

namespace JsTree

section Number

def ofDecimal (negative : Bool) (mantissa : Nat) (exponent : Int) : Float64 :=
  Float64.nearest negative (mantissa * Float64.scale * 10 ^ exponent.toNat) (10 ^ (-exponent).toNat)

-- The numbers of JSON.parse, whatever digits they have.
def parsed (n : JsNumber) : Float64 :=
  ofDecimal n.negative (Nat.ofDigitChars 10 n.digits 0) (n.point - n.digits.length)

def ofNatural (n : Nat) : Float64 := Float64.nearest false (n * Float64.scale) 1

def ofUnsigned (negative : Bool) (cs : List Char) : Float64 :=
  if cs = "Infinity".toList then .inf negative
  else match JsNumeric.decimalLiteral cs with
    | none => .nan
    | some (mantissa, exponent) => ofDecimal negative mantissa exponent

def ofRadix (radix : Nat) (cs : List Char) : Float64 := ((JsNumeric.radixNatural radix cs).map ofNatural).getD .nan

-- Number(text)
def textNumber (raw : String) : Float64 :=
  match (JsText.trim raw).toList with
  | [] => .finite 0
  | '0' :: 'x' :: cs | '0' :: 'X' :: cs => ofRadix 16 cs
  | '0' :: 'o' :: cs | '0' :: 'O' :: cs => ofRadix 8 cs
  | '0' :: 'b' :: cs | '0' :: 'B' :: cs => ofRadix 2 cs
  | '-' :: cs => ofUnsigned true cs
  | '+' :: cs => ofUnsigned false cs
  | cs => ofUnsigned false cs

mutual

-- Number(value). An array is read as the text of its items with commas between them, an object as no number.
def number : JsTree → Float64
  | .null => .finite 0
  | .bool b => .finite (if b then 1 else 0)
  | .num n => n
  | .str s => textNumber s
  | .arr items => itemsNumber items
  | .obj _ => .nan

def itemsNumber : List JsTree → Float64
  | [] => .finite 0
  | [.bool _] => .nan
  | [x] => number x
  | _ :: _ :: _ => .nan

end

end Number

section Wire

mutual

-- What JSON.stringify writes: null for a number that is not finite.
def encode : JsTree → Json JsNumber
  | .null => .null
  | .bool b => .bool b
  | .num (.finite n) => .num n
  | .num _ => .null
  | .str s => .str s
  | .arr items => .arr (encodeItems items)
  | .obj fields => .obj (encodeFields fields)

def encodeItems : List JsTree → List (Json JsNumber)
  | [] => []
  | x :: xs => encode x :: encodeItems xs

def encodeFields : List (String × JsTree) → List (String × Json JsNumber)
  | [] => []
  | (k, v) :: fs => (k, encode v) :: encodeFields fs

end

-- What JSON.parse makes of a text: the properties of an object are in no order.
def decode (j : Json JsNumber) : JsTree := Json.normalize id (Json.mapNum Float64.finite j)

def wire (v : JsTree) : JsTree := Json.mapNum Float64.finite (encode v)

theorem encodeItems_eq_map (xs : List JsTree) : encodeItems xs = xs.map encode := by
  induction xs with
  | nil => rfl
  | cons x xs ih => rw [encodeItems, ih, List.map_cons]

theorem encodeFields_eq_map (fs : List (String × JsTree)) : encodeFields fs = fs.map (Prod.map id encode) := by
  induction fs with
  | nil => rfl
  | cons f fs ih =>
    obtain ⟨k, v⟩ := f
    rw [encodeFields, ih]
    rfl

theorem mapItems_eq_map {ν μ : Type} (f : ν → μ) (xs : List (Json ν)) :
    Json.mapItems f xs = xs.map (Json.mapNum f) := by
  induction xs with
  | nil => rfl
  | cons x xs ih => rw [Json.mapItems, ih, List.map_cons]

theorem mapFields_eq_map {ν μ : Type} (f : ν → μ) (fs : List (String × Json ν)) :
    Json.mapFields f fs = fs.map (Prod.map id (Json.mapNum f)) := by
  induction fs with
  | nil => rfl
  | cons g fs ih =>
    obtain ⟨k, v⟩ := g
    rw [Json.mapFields, ih]
    rfl

@[simp] theorem wire_null : wire .null = .null := rfl

@[simp] theorem wire_bool (b : Bool) : wire (.bool b) = .bool b := rfl

@[simp] theorem wire_str (s : String) : wire (.str s) = .str s := rfl

@[simp] theorem wire_finite (n : JsNumber) : wire (.num (.finite n)) = .num (.finite n) := rfl

@[simp] theorem wire_arr (xs : List JsTree) : wire (.arr xs) = .arr (xs.map wire) := by
  unfold wire
  rw [encode, Json.mapNum, encodeItems_eq_map, mapItems_eq_map, List.map_map]
  rfl

@[simp] theorem wire_obj (fs : List (String × JsTree)) : wire (.obj fs) = .obj (fs.map (Prod.map id wire)) := by
  unfold wire
  rw [encode, Json.mapNum, encodeFields_eq_map, mapFields_eq_map, List.map_map]
  rfl

theorem wire_infinite {n : Float64} (infinite : n.isFinite = false) : wire (.num n) = .null := by
  cases n with
  | finite n => cases infinite
  | _ => rfl

theorem wire_num_iff {n : Float64} : wire (.num n) = .num n ↔ n.isFinite = true := by
  cases finite : n.isFinite with
  | false => simp [wire_infinite finite]
  | true =>
    cases n with
    | finite n => simp
    | _ => cases finite

mutual

theorem wire_eq_self_iff : ∀ {v : JsTree}, wire v = v ↔ Json.allNum Float64.isFinite v = true
  | .null | .bool _ | .str _ => by simp [Json.allNum]
  | .num n => by
    rw [Json.allNum]
    exact wire_num_iff
  | .arr items => by
    rw [wire_arr, Json.allNum, Json.arr.injEq]
    exact wireItems_eq_self_iff
  | .obj fields => by
    rw [wire_obj, Json.allNum, Json.obj.injEq]
    exact wireFields_eq_self_iff

theorem wireItems_eq_self_iff : ∀ {xs : List JsTree}, xs.map wire = xs ↔ Json.allItems Float64.isFinite xs = true
  | [] => by simp [Json.allItems]
  | x :: xs => by
    rw [List.map_cons, Json.allItems, List.cons.injEq, Bool.and_eq_true]
    exact and_congr wire_eq_self_iff wireItems_eq_self_iff

theorem wireFields_eq_self_iff : ∀ {fs : List (String × JsTree)},
    fs.map (Prod.map id wire) = fs ↔ Json.allFields Float64.isFinite fs = true
  | [] => by simp [Json.allFields]
  | (k, v) :: fs => by
    rw [List.map_cons, Json.allFields, List.cons.injEq, Bool.and_eq_true, Prod.map, Prod.mk.injEq]
    exact and_congr ((and_iff_right rfl).trans wire_eq_self_iff) wireFields_eq_self_iff

end

variable {κ : Type} [LinearOrder κ] {rank : String → κ}

mutual

theorem normalize_wire : ∀ v : JsTree, Json.normalize rank (wire v) = wire (Json.normalize rank v)
  | .null | .bool _ | .str _ => by simp [Json.normalize]
  | .num n => by
    rw [Json.normalize]
    cases n <;> rfl
  | .arr items => by
    rw [wire_arr, Json.normalize, Json.normalize, wire_arr, normalizeItems_wire items]
  | .obj fields => by
    rw [wire_obj, Json.normalize, Json.normalize, wire_obj, normalizeFields_wire fields, Json.sortFields_map]

theorem normalizeItems_wire : ∀ xs : List JsTree,
    Json.normalizeItems rank (xs.map wire) = (Json.normalizeItems rank xs).map wire
  | [] => rfl
  | x :: xs => by
    rw [List.map_cons, Json.normalizeItems, Json.normalizeItems, List.map_cons, normalize_wire x,
      normalizeItems_wire xs]

theorem normalizeFields_wire : ∀ fs : List (String × JsTree),
    Json.normalizeFields rank (fs.map (Prod.map id wire)) = (Json.normalizeFields rank fs).map (Prod.map id wire)
  | [] => rfl
  | (k, v) :: fs => by
    rw [List.map_cons, Prod.map, Json.normalizeFields, Json.normalizeFields, List.map_cons, normalize_wire v,
      normalizeFields_wire fs]
    rfl

end

theorem normalize_encode (v : JsTree) : Json.normalize rank (encode v) = encode (Json.normalize rank v) := by
  have same : wire (Json.normalize rank v) = Json.mapNum Float64.finite (Json.normalize rank (encode v)) :=
    (normalize_wire v).symm.trans (Json.normalize_mapNum rank (encode v))
  exact (Json.mapNum_injective (fun _ _ => Float64.finite.inj) same).symm

-- A value read back from a column that does not keep the order of the keys.
theorem decode_jsonb {v : JsTree} (normal : Json.Normal id v) : decode (Json.jsonb (encode v)) = wire v := by
  unfold decode
  rw [← Json.jsonb_mapNum]
  change Json.normalize id (Json.normalize Json.jsonbRank (wire v)) = _
  rw [Json.normalize_normalize Function.injective_id Json.jsonbRank_injective, normalize_wire,
    Json.normalize_of_normal normal]

end Wire

end JsTree

end Provisr.Foundation
