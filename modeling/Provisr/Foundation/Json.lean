import Mathlib.Data.List.Basic
import Mathlib.Data.List.Nodup
import Mathlib.Data.List.Sort
import Mathlib.Order.Defs.LinearOrder

namespace Provisr.Foundation

-- JSON values over a type of numbers. Objects keep the order in which a reader meets their keys.
inductive Json (ν : Type) : Type where
  | null
  | bool (b : Bool)
  | num (n : ν)
  | str (s : String)
  | arr (items : List (Json ν))
  | obj (fields : List (String × Json ν))
deriving Repr, Inhabited

namespace Json

variable {ν : Type}

section Equality

variable [DecidableEq ν]

mutual

def decEq : (a b : Json ν) → Decidable (a = b)
  | .null, .null => isTrue rfl
  | .bool a, .bool b => decidable_of_iff (a = b) (by simp)
  | .num a, .num b => decidable_of_iff (a = b) (by simp)
  | .str a, .str b => decidable_of_iff (a = b) (by simp)
  | .arr a, .arr b =>
    match decEqItems a b with
    | isTrue h => isTrue (congrArg _ h)
    | isFalse h => isFalse (by simpa using h)
  | .obj a, .obj b =>
    match decEqFields a b with
    | isTrue h => isTrue (congrArg _ h)
    | isFalse h => isFalse (by simpa using h)
  | .null, .bool _ | .null, .num _ | .null, .str _ | .null, .arr _ | .null, .obj _
  | .bool _, .null | .bool _, .num _ | .bool _, .str _ | .bool _, .arr _ | .bool _, .obj _
  | .num _, .null | .num _, .bool _ | .num _, .str _ | .num _, .arr _ | .num _, .obj _
  | .str _, .null | .str _, .bool _ | .str _, .num _ | .str _, .arr _ | .str _, .obj _
  | .arr _, .null | .arr _, .bool _ | .arr _, .num _ | .arr _, .str _ | .arr _, .obj _
  | .obj _, .null | .obj _, .bool _ | .obj _, .num _ | .obj _, .str _ | .obj _, .arr _ =>
    isFalse (by simp)

def decEqItems : (a b : List (Json ν)) → Decidable (a = b)
  | [], [] => isTrue rfl
  | [], _ :: _ | _ :: _, [] => isFalse (by simp)
  | x :: xs, y :: ys =>
    match decEq x y, decEqItems xs ys with
    | isTrue h, isTrue hs => isTrue (by rw [h, hs])
    | isFalse h, _ => isFalse (fun e => h (List.cons.inj e).1)
    | _, isFalse hs => isFalse (fun e => hs (List.cons.inj e).2)

def decEqFields : (a b : List (String × Json ν)) → Decidable (a = b)
  | [], [] => isTrue rfl
  | [], _ :: _ | _ :: _, [] => isFalse (by simp)
  | (k, x) :: xs, (l, y) :: ys =>
    if hk : k = l then
      match decEq x y, decEqFields xs ys with
      | isTrue h, isTrue hs => isTrue (by rw [hk, h, hs])
      | isFalse h, _ => isFalse (by simp [h])
      | _, isFalse hs => isFalse (by simp [hs])
    else isFalse (by simp [hk])

end

instance : DecidableEq (Json ν) := decEq

end Equality

def get? : Json ν → String → Option (Json ν)
  | .obj fields, k => fields.lookup k
  | _, _ => none

@[simp] theorem get?_obj (fields : List (String × Json ν)) (k : String) :
    (Json.obj fields).get? k = fields.lookup k := rfl

def keys : Json ν → List String
  | .obj fields => fields.map Prod.fst
  | _ => []

-- `{...base, ...extra}`: a key of `extra` that `base` has keeps the place it has there.
def setField (k : String) (v : Json ν) : List (String × Json ν) → List (String × Json ν)
  | [] => [(k, v)]
  | (l, w) :: rest => if l = k then (k, v) :: rest else (l, w) :: setField k v rest

def spread (base extra : List (String × Json ν)) : List (String × Json ν) :=
  extra.foldl (fun acc f => setField f.1 f.2 acc) base

theorem lookup_setField (k l : String) (v : Json ν) (fs : List (String × Json ν)) :
    (setField k v fs).lookup l = if l = k then some v else fs.lookup l := by
  induction fs with
  | nil =>
    by_cases h : l = k
    · simp [setField, h]
    · simp [setField, List.lookup_cons, h, beq_false_of_ne h]
  | cons f fs ih =>
    obtain ⟨m, w⟩ := f
    unfold setField
    by_cases hm : m = k
    · subst hm
      by_cases h : l = m
      · simp [h]
      · simp [List.lookup_cons, h, beq_false_of_ne h]
    · rw [if_neg hm, List.lookup_cons, List.lookup_cons, ih]
      by_cases hl : l = m
      · subst hl
        simp [hm]
      · simp [beq_false_of_ne hl]

theorem lookup_spread_of_notMem (base extra : List (String × Json ν)) (k : String)
    (h : k ∉ extra.map Prod.fst) : (spread base extra).lookup k = base.lookup k := by
  induction extra generalizing base with
  | nil => rfl
  | cons f fs ih =>
    simp only [List.map_cons, List.mem_cons, not_or] at h
    change (spread (setField f.1 f.2 base) fs).lookup k = _
    rw [ih _ h.2, lookup_setField, if_neg h.1]

end Json

end Provisr.Foundation
