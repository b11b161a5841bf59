import Mathlib.Data.List.Sort

namespace Provisr.Foundation

section StableSort

variable {α κ : Type} [LinearOrder κ]

def sortStable (key : α → κ) (xs : List α) : List α := xs.insertionSort fun a b => key a ≤ key b

variable {key : α → κ} {xs ys : List α}

theorem sortStable_perm (key : α → κ) (xs : List α) : (sortStable key xs).Perm xs :=
  List.perm_insertionSort _ xs

theorem mem_sortStable {a : α} : a ∈ sortStable key xs ↔ a ∈ xs := (sortStable_perm key xs).mem_iff

theorem sortStable_pairwise (key : α → κ) (xs : List α) :
    (sortStable key xs).Pairwise fun a b => key a ≤ key b := by
  have total : Std.Total fun a b : α => key a ≤ key b := ⟨fun a b => le_total (key a) (key b)⟩
  have trans : IsTrans α fun a b => key a ≤ key b := ⟨fun _ _ _ => le_trans⟩
  exact List.pairwise_insertionSort _ xs

theorem sortStable_map {β : Type} (key : β → κ) (f : α → β) (xs : List α) :
    sortStable key (xs.map f) = (sortStable (fun a => key (f a)) xs).map f :=
  (List.map_insertionSort _ _ f xs fun _ _ _ _ => Iff.rfl).symm

theorem sortStable_lex {κ' : Type} [LinearOrder κ'] (key : α → κ) (key' : α → κ')
    (sorted : xs.Pairwise fun a b => key' a ≤ key' b) :
    (sortStable key xs).Pairwise fun a b => key a < key b ∨ key a = key b ∧ key' a ≤ key' b := by
  have total : Std.Total fun a b : α => key a ≤ key b := ⟨fun a b => le_total (key a) (key b)⟩
  have trans : IsTrans α fun a b => key a ≤ key b := ⟨fun _ _ _ => le_trans⟩
  induction xs with
  | nil => exact .nil
  | cons a xs ih =>
    obtain ⟨first, rest⟩ := List.pairwise_cons.mp sorted
    have after : ∀ b ∈ sortStable key xs, key' a ≤ key' b := fun b hb => first b (mem_sortStable.mp hb)
    have inserted : ∀ ys : List α, (∀ b ∈ ys, key' a ≤ key' b) →
        ys.Pairwise (fun a b => key a < key b ∨ key a = key b ∧ key' a ≤ key' b) →
        (ys.orderedInsert (fun a b => key a ≤ key b) a).Pairwise
          fun a b => key a < key b ∨ key a = key b ∧ key' a ≤ key' b := by
      intro ys later pairs
      induction ys with
      | nil => exact List.pairwise_singleton _ _
      | cons b ys ihys =>
        obtain ⟨front, pairs'⟩ := List.pairwise_cons.mp pairs
        rw [List.orderedInsert_cons]
        split
        · rename_i le
          refine List.pairwise_cons.mpr ⟨fun c hc => ?_, pairs⟩
          have le' : key b ≤ key c := by
            rcases List.mem_cons.mp hc with rfl | hc
            · exact le_rfl
            · exact (front c hc).elim le_of_lt fun tie => tie.1.le
          exact (lt_or_eq_of_le (le.trans le')).imp_right fun tie => ⟨tie, later c hc⟩
        · rename_i not_le
          refine List.pairwise_cons.mpr ⟨fun c hc => ?_, ihys (fun c hc => later c (List.mem_cons_of_mem b hc)) pairs'⟩
          rcases (List.mem_orderedInsert _).mp hc with rfl | hc
          · exact .inl (lt_of_not_ge not_le)
          · exact front c hc
    exact inserted _ after (ih rest)

theorem sortStable_eq_of_perm (untied : ∀ a ∈ xs, ∀ b ∈ xs, key a = key b → a = b) (perm : xs.Perm ys) :
    sortStable key xs = sortStable key ys := by
  have sorted : (sortStable key xs).Perm (sortStable key ys) :=
    (sortStable_perm key xs).trans (perm.trans (sortStable_perm key ys).symm)
  refine sorted.eq_of_pairwise ?_ (sortStable_pairwise key xs) (sortStable_pairwise key ys)
  intro a b ha hb hab hba
  have hb' : b ∈ xs := perm.mem_iff.mpr (mem_sortStable.mp hb)
  exact untied a (mem_sortStable.mp ha) b hb' (le_antisymm hab hba)

theorem filter_sortStable (k : κ) (xs : List α) :
    (sortStable key xs).filter (fun a => key a = k) = xs.filter fun a => key a = k := by
  have trans : IsTrans α fun a b => key a ≤ key b := ⟨fun _ _ _ => le_trans⟩
  have total : Std.Total fun a b : α => key a ≤ key b := ⟨fun a b => le_total (key a) (key b)⟩
  have tied : (xs.filter fun a => key a = k).Pairwise fun a b => key a ≤ key b := by
    refine List.pairwise_of_forall_mem_list fun a ha b hb => ?_
    rw [of_decide_eq_true (List.mem_filter.mp ha).2, of_decide_eq_true (List.mem_filter.mp hb).2]
  have kept : (xs.filter fun a => key a = k).Sublist (sortStable key xs) :=
    List.sublist_insertionSort tied List.filter_sublist
  have filtered := kept.filter fun a => decide (key a = k)
  rw [List.filter_filter] at filtered
  simp only [Bool.and_self] at filtered
  exact (filtered.eq_of_length ((sortStable_perm key xs).filter _).length_eq.symm).symm

theorem untied_of_sortStable (same : ∀ ys, xs.Perm ys → sortStable key xs = sortStable key ys) :
    ∀ a ∈ xs, ∀ b ∈ xs, key a = key b → a = b := by
  intro a ha b hb tie
  by_contra distinct
  obtain ⟨rest, first⟩ : ∃ rest, xs.Perm (a :: b :: rest) := by
    obtain ⟨s, t, rfl⟩ := List.append_of_mem ha
    have front : (s ++ a :: t).Perm (a :: (s ++ t)) := List.perm_middle
    have mem : b ∈ s ++ t := (List.mem_cons.mp (front.mem_iff.mp hb)).resolve_left (Ne.symm distinct)
    obtain ⟨s', t', split⟩ := List.append_of_mem mem
    rw [split] at front
    exact ⟨s' ++ t', front.trans (List.perm_middle.cons a)⟩
  have forward := congrArg (List.filter fun c => decide (key c = key b)) (same _ first)
  have backward := congrArg (List.filter fun c => decide (key c = key b)) (same _ (first.trans (List.Perm.swap b a rest)))
  rw [filter_sortStable, filter_sortStable] at forward backward
  rw [forward] at backward
  simp only [tie, decide_true, List.filter_cons_of_pos, List.cons.injEq] at backward
  exact distinct backward.1

theorem exists_map_of_perm {β : Type} {f : α → β} {ys zs : List β} (h : ys.Perm zs) {xs : List α}
    (hxs : xs.map f = ys) : ∃ ws, xs.Perm ws ∧ ws.map f = zs := by
  induction h generalizing xs with
  | nil => exact ⟨xs, .refl xs, hxs⟩
  | cons b perm ih =>
    obtain ⟨a, as, rfl, rfl, tail⟩ := List.map_eq_cons_iff.mp hxs
    obtain ⟨ws, moved, rfl⟩ := ih tail
    exact ⟨a :: ws, moved.cons a, rfl⟩
  | swap b c l =>
    obtain ⟨a, as, rfl, rfl, tail⟩ := List.map_eq_cons_iff.mp hxs
    obtain ⟨a', as', rfl, rfl, rfl⟩ := List.map_eq_cons_iff.mp tail
    exact ⟨a' :: a :: as', .swap a' a as', rfl⟩
  | trans _ _ ih ih' =>
    obtain ⟨ws, first, hws⟩ := ih hxs
    obtain ⟨vs, second, hvs⟩ := ih' hws
    exact ⟨vs, first.trans second, hvs⟩

end StableSort

end Provisr.Foundation
