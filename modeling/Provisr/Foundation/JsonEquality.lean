import Provisr.Foundation.JsonOrder

namespace Provisr.Foundation.Json

-- What a value says, whatever the order of the keys of its objects: of a key given twice, the last value counts.
section Equality

variable {ν κ : Type} [LinearOrder κ] {rank : String → κ}

def member (fields : List (String × Json ν)) (key : String) : Option (Json ν) := fields.reverse.lookup key

inductive Same : Json ν → Json ν → Prop
  | null : Same .null .null
  | bool (b : Bool) : Same (.bool b) (.bool b)
  | num (n : ν) : Same (.num n) (.num n)
  | str (s : String) : Same (.str s) (.str s)
  | arr {xs ys : List (Json ν)} (length : xs.length = ys.length)
      (items : ∀ (i : Nat) x y, xs[i]? = some x → ys[i]? = some y → Same x y) : Same (.arr xs) (.arr ys)
  | obj {fs gs : List (String × Json ν)} (keys : ∀ k, (member fs k).isSome = (member gs k).isSome)
      (members : ∀ k v w, member fs k = some v → member gs k = some w → Same v w) : Same (.obj fs) (.obj gs)

theorem mem_of_lookup {fs : List (String × Json ν)} {k : String} {v : Json ν} (h : fs.lookup k = some v) :
    (k, v) ∈ fs := by
  induction fs with
  | nil => cases h
  | cons f fs ih =>
    obtain ⟨l, w⟩ := f
    rw [List.lookup_cons] at h
    split at h
    · rename_i same
      rw [beq_iff_eq.mp same, Option.some.inj h]
      exact List.mem_cons_self
    · exact List.mem_cons_of_mem _ (ih h)

theorem lookup_map {fs : List (String × Json ν)} (f : Json ν → Json ν) (k : String) :
    (fs.map (Prod.map id f)).lookup k = (fs.lookup k).map f := by
  induction fs with
  | nil => rfl
  | cons g fs ih =>
    obtain ⟨l, w⟩ := g
    rw [List.map_cons, Prod.map, id, List.lookup_cons, List.lookup_cons, ih]
    cases k == l <;> rfl

theorem lookup_normalizeFields (inj : Function.Injective rank) (fs : List (String × Json ν)) (k : String) :
    (sortFields rank (normalizeFields rank fs)).lookup k = (member fs k).map (normalize rank) := by
  rw [lookup_sortFields inj, normalizeFields_eq_map, ← List.map_reverse]
  exact lookup_map _ k

theorem Same.normalize (inj : Function.Injective rank) {a b : Json ν} (h : Same a b) :
    normalize rank a = normalize rank b := by
  induction h with
  | null | bool | num | str => rfl
  | @arr xs ys length items ih =>
    rw [Json.normalize, Json.normalize, normalizeItems_eq_map, normalizeItems_eq_map]
    refine congrArg Json.arr (List.ext_getElem? fun i => ?_)
    rw [List.getElem?_map, List.getElem?_map]
    cases hx : xs[i]? with
    | none =>
      have beyond := List.getElem?_eq_none_iff.mp hx
      rw [List.getElem?_eq_none_iff.mpr (length ▸ beyond)]
    | some x =>
      obtain ⟨bound, -⟩ := List.getElem?_eq_some_iff.mp hx
      rw [List.getElem?_eq_getElem (length ▸ bound)]
      exact congrArg some (ih i x _ hx (List.getElem?_eq_getElem _))
  | @obj fs gs keys members ih =>
    rw [Json.normalize, Json.normalize]
    refine congrArg Json.obj (Ordered.ext (ordered_sortFields inj _) (ordered_sortFields inj _) fun k => ?_)
    rw [lookup_normalizeFields inj, lookup_normalizeFields inj]
    have both := keys k
    cases hv : member fs k with
    | none =>
      rw [hv] at both
      rw [Option.not_isSome_iff_eq_none.mp (Bool.eq_false_iff.mp both.symm)]
    | some v =>
      rw [hv] at both
      obtain ⟨w, hw⟩ := Option.isSome_iff_exists.mp both.symm
      rw [hw]
      exact congrArg some (ih k v w hv hw)

mutual

theorem same_of_normalize (inj : Function.Injective rank) :
    ∀ a b : Json ν, normalize rank a = normalize rank b → Same a b
  | .null, b, h => by cases b <;> simp_all [normalize, Same.null]
  | .bool c, b, h => by cases b <;> simp_all [normalize, Same.bool]
  | .num n, b, h => by cases b <;> simp_all [normalize, Same.num]
  | .str s, b, h => by cases b <;> simp_all [normalize, Same.str]
  | .arr xs, b, h => by
    cases b with
    | arr ys =>
      rw [normalize, normalize, Json.arr.injEq, normalizeItems_eq_map, normalizeItems_eq_map] at h
      refine .arr (by simpa using congrArg List.length h) fun i x y hx hy => ?_
      have at_i := congrArg (fun l => l[i]?) h
      simp only [List.getElem?_map, hx, hy, Option.map_some, Option.some.injEq] at at_i
      exact same_of_normalizeItems inj xs x (List.mem_of_getElem? hx) y at_i
    | _ => simp [normalize] at h
  | .obj fs, b, h => by
    cases b with
    | obj gs =>
      rw [normalize, normalize, Json.obj.injEq] at h
      have lookups : ∀ k, (member fs k).map (normalize rank) = (member gs k).map (normalize rank) := fun k => by
        rw [← lookup_normalizeFields inj, h, lookup_normalizeFields inj]
      refine .obj (fun k => by simpa using congrArg Option.isSome (lookups k)) fun k v w hv hw => ?_
      have at_k := lookups k
      rw [hv, hw] at at_k
      exact same_of_normalizeFields inj fs (k, v) (List.mem_reverse.mp (mem_of_lookup hv)) w (Option.some.inj at_k)
    | _ => simp [normalize] at h

theorem same_of_normalizeItems (inj : Function.Injective rank) :
    ∀ (xs : List (Json ν)), ∀ x ∈ xs, ∀ b, normalize rank x = normalize rank b → Same x b
  | [], _, mem, _, _ => absurd mem List.not_mem_nil
  | y :: ys, x, mem, b, h => by
    rcases List.mem_cons.mp mem with same | mem
    · rw [same] at h ⊢
      exact same_of_normalize inj y b h
    · exact same_of_normalizeItems inj ys x mem b h

theorem same_of_normalizeFields (inj : Function.Injective rank) :
    ∀ (fs : List (String × Json ν)), ∀ f ∈ fs, ∀ b, normalize rank f.2 = normalize rank b → Same f.2 b
  | [], _, mem, _, _ => absurd mem List.not_mem_nil
  | (k, v) :: fs, f, mem, b, h => by
    rcases List.mem_cons.mp mem with same | mem
    · rw [same] at h ⊢
      exact same_of_normalize inj v b h
    · exact same_of_normalizeFields inj fs f mem b h

end

theorem same_iff_normalize (inj : Function.Injective rank) {a b : Json ν} :
    Same a b ↔ normalize rank a = normalize rank b :=
  ⟨fun same => same.normalize inj, same_of_normalize inj a b⟩

end Equality

end Provisr.Foundation.Json
