import Provisr.Foundation.GoMap
import Provisr.Foundation.JsonEquality
import Provisr.Foundation.StableSort
import Mathlib.Data.List.Forall2

namespace Provisr.Foundation

section Sorting

variable {α β κ : Type} [LinearOrder κ] {R : α → β → Prop} {key : α → κ} {key' : β → κ} {xs : List α} {ys : List β}

theorem orderedInsert_forall₂ (keyed : ∀ a b, R a b → key a = key' b) {a : α} {b : β} (first : R a b)
    (rest : List.Forall₂ R xs ys) :
    List.Forall₂ R (xs.orderedInsert (fun a b => key a ≤ key b) a) (ys.orderedInsert (fun a b => key' a ≤ key' b) b) := by
  induction rest with
  | nil => exact .cons first .nil
  | @cons c d xs ys next rest ih =>
    rw [List.orderedInsert_cons, List.orderedInsert_cons, keyed a b first, keyed c d next]
    split
    · exact .cons first (.cons next rest)
    · exact .cons next ih

theorem sortStable_forall₂ (keyed : ∀ a b, R a b → key a = key' b) (related : List.Forall₂ R xs ys) :
    List.Forall₂ R (sortStable key xs) (sortStable key' ys) := by
  induction related with
  | nil => exact .nil
  | cons first rest ih => exact orderedInsert_forall₂ keyed first ih

theorem forall₂_joined {γ δ : Type} {S : α → γ → Prop} {R' : γ → δ → Prop} {S' : β → δ → Prop} {zs : List γ}
    (join : ∀ a b c, R a b → S a c → ∃ d, R' c d ∧ S' b d) (first : List.Forall₂ R xs ys) (second : List.Forall₂ S xs zs) :
    ∃ us, List.Forall₂ R' zs us ∧ List.Forall₂ S' ys us := by
  induction first generalizing zs with
  | nil =>
    cases second
    exact ⟨[], .nil, .nil⟩
  | cons head _ ih =>
    obtain _ | ⟨head', tail'⟩ := second
    obtain ⟨d, own, related⟩ := join _ _ _ head head'
    obtain ⟨us, each, each'⟩ := ih tail'
    exact ⟨d :: us, .cons own each, .cons related each'⟩

end Sorting

namespace Json

variable {ν : Type}

variable {a b : Json ν}

theorem Same.refl (a : Json ν) : Same a a := (same_iff_normalize Function.injective_id).mpr rfl

theorem Same.symm (same : Same a b) : Same b a :=
  (same_iff_normalize Function.injective_id).mpr (same.normalize Function.injective_id).symm

-- What is read of the sorted value is read of every order of it.
theorem Same.read {β : Type} {f : Json ν → β} (factors : ∀ a, f (Json.normalize id a) = f a) (same : Same a b) :
    f a = f b := by
  rw [← factors a, same.normalize Function.injective_id, factors b]

theorem sortFields_isEmpty {β : Type} (fs : List (String × β)) : (sortFields id fs).isEmpty = fs.isEmpty := by
  cases fs with
  | nil => rfl
  | cons f fs =>
    cases sorted : sortFields id (f :: fs) with
    | cons => rfl
    | nil =>
      have found := lookup_sortFields Function.injective_id (f :: fs) f.1
      rw [sorted, List.lookup_nil, eq_comm, List.lookup_eq_none_iff] at found
      have other := found f (List.mem_reverse.mpr List.mem_cons_self)
      simp at other

end Json

namespace GoMap

variable {α : Type} {R : α → α → Prop} {m n : GoMap α} {k : String} {a b : α}

theorem Reordered.absent (same : Reordered R m n) (here : m.get? k = none) : n.get? k = none := by
  have related := same k
  rw [here] at related
  generalize n.get? k = y at related
  cases related
  rfl

theorem Reordered.set (same : Reordered R m n) (related : R a b) (key : String) :
    Reordered R (m.set key a) (n.set key b) := by
  intro k
  rw [get?_set, get?_set]
  split
  · exact .some related
  · exact same k

theorem get?_erase (m : GoMap α) (key k : String) : (m.erase key).get? k = if k = key then none else m.get? k := by
  unfold get? erase
  by_cases same : k = key
  · subst same
    rw [if_pos rfl, List.lookup_eq_none_iff]
    intro e mem
    exact bne_iff_ne.mpr (Ne.symm (bne_iff_ne.mp (List.mem_filter.mp mem).2))
  · rw [if_neg same, lookup_filter_ne same]

theorem Reordered.erase (same : Reordered R m n) (key : String) : Reordered R (m.erase key) (n.erase key) := by
  intro k
  rw [get?_erase, get?_erase]
  split
  · exact .none
  · exact same k

theorem Reordered.first_none {β : Type} {f : String → Option β} (same : Reordered R m n)
    (symm : ∀ a b, R a b → R b a) (none_ : (m.first fun key _ => f key) = none) : (n.first fun key _ => f key) = none := by
  rw [first_eq_none_iff] at none_ ⊢
  intro k b here
  obtain ⟨a, there, -⟩ := (same.symm symm).get? here
  exact none_ k a there

theorem get?_foldl_set {entries : List (String × α)} (distinct : (entries.map Prod.fst).Nodup) (acc : GoMap α) :
    (entries.foldl (fun m e => m.set e.1 e.2) acc).get? k = (entries.lookup k).or (acc.get? k) := by
  induction entries generalizing acc with
  | nil => rfl
  | cons e entries ih =>
    rw [List.map_cons, List.nodup_cons] at distinct
    obtain ⟨l, v⟩ := e
    rw [List.foldl_cons, ih distinct.2, get?_set, List.lookup_cons]
    by_cases same : k = l
    · subst same
      have unlisted : entries.lookup k = none := by
        rw [List.lookup_eq_none_iff]
        intro e mem
        rw [bne_iff_ne]
        rintro rfl
        exact distinct.1 (List.mem_map.mpr ⟨e, mem, rfl⟩)
      rw [unlisted, if_pos rfl, beq_self_eq_true]
      rfl
    · rw [if_neg same, beq_false_of_ne same]

end GoMap

theorem Json.same_obj {ν : Type} {fs gs : List (String × Json ν)} (distinct : (fs.map Prod.fst).Nodup)
    (distinct' : (gs.map Prod.fst).Nodup) (related : ∀ k, Option.Rel Json.Same (fs.lookup k) (gs.lookup k)) :
    Json.Same (.obj fs) (.obj gs) := by
  rw [Json.same_iff_normalize Function.injective_id, Json.normalize, Json.normalize, Json.obj.injEq]
  refine Json.Ordered.ext (Json.ordered_sortFields Function.injective_id _)
    (Json.ordered_sortFields Function.injective_id _) fun k => ?_
  rw [Json.lookup_normalized Function.injective_id distinct, Json.lookup_normalized Function.injective_id distinct']
  have here := related k
  revert here
  generalize fs.lookup k = x
  generalize gs.lookup k = y
  rintro (⟨same⟩ | _)
  · exact congrArg some (same.normalize Function.injective_id)
  · rfl

end Provisr.Foundation
