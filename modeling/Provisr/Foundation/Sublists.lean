import Mathlib.Data.List.Forall2

namespace Provisr.Foundation

variable {α β : Type} {R : α → β → Prop} {xs ys : List α} {us vs : List β}

theorem sublistForall₂_append (h : List.SublistForall₂ R xs us) (h' : List.SublistForall₂ R ys vs) :
    List.SublistForall₂ R (xs ++ ys) (us ++ vs) := by
  induction h with
  | nil =>
    rename_i us
    induction us with
    | nil => exact h'
    | cons u us ih => exact ih.cons_right
  | cons head _ ih => exact .cons head ih
  | cons_right _ ih => exact ih.cons_right

theorem sublistForall₂_mem (h : List.SublistForall₂ R xs us) {x : α} (hx : x ∈ xs) : ∃ u ∈ us, R x u := by
  induction h with
  | nil => cases hx
  | cons head _ ih =>
    rcases List.mem_cons.mp hx with rfl | hx
    · exact ⟨_, List.mem_cons_self, head⟩
    · obtain ⟨u, hu, related⟩ := ih hx
      exact ⟨u, List.mem_cons_of_mem _ hu, related⟩
  | cons_right _ ih =>
    obtain ⟨u, hu, related⟩ := ih hx
    exact ⟨u, List.mem_cons_of_mem _ hu, related⟩

theorem countP_le_of_sublistForall₂ (h : List.SublistForall₂ R xs us) {p : α → Bool} {q : β → Bool}
    (keeps : ∀ x u, u ∈ us → R x u → p x = true → q u = true) : xs.countP p ≤ us.countP q := by
  induction h with
  | nil => exact Nat.zero_le _
  | @cons x u xs us head _ ih =>
    have tail := ih fun y v hv => keeps y v (List.mem_cons_of_mem _ hv)
    rw [List.countP_cons, List.countP_cons]
    by_cases hx : p x = true
    · rw [if_pos hx, if_pos (keeps x u List.mem_cons_self head hx)]
      omega
    · rw [if_neg hx]
      omega
  | @cons_right u xs us _ ih =>
    have tail := ih fun y v hv => keeps y v (List.mem_cons_of_mem _ hv)
    rw [List.countP_cons]
    omega

theorem pairwise_of_sublistForall₂ {S : β → β → Prop} {T : α → α → Prop} (h : List.SublistForall₂ R xs us)
    (apart : us.Pairwise S) (keeps : ∀ x u y v, R x u → R y v → S u v → T x y) : xs.Pairwise T := by
  induction h with
  | nil => exact List.Pairwise.nil
  | cons head rest ih =>
    obtain ⟨first, others⟩ := List.pairwise_cons.mp apart
    refine List.pairwise_cons.mpr ⟨fun y hy => ?_, ih others⟩
    obtain ⟨v, hv, related⟩ := sublistForall₂_mem rest hy
    exact keeps _ _ _ _ head related (first v hv)
  | cons_right _ ih => exact ih (List.pairwise_cons.mp apart).2

theorem pairwise_of_single {ι : Type} {has : ι → α → Bool} (h : ∀ e, (xs.filter (has e)).length ≤ 1) :
    xs.Pairwise fun a b => ∀ e, has e a = true → has e b ≠ true := by
  induction xs with
  | nil => exact List.Pairwise.nil
  | cons a xs ih =>
    refine List.pairwise_cons.mpr ⟨fun b hb e he he' => ?_, ih fun e => ?_⟩
    · have two := h e
      rw [List.filter_cons_of_pos he, List.length_cons] at two
      have positive := List.length_pos_of_mem (List.mem_filter.mpr ⟨hb, he'⟩)
      omega
    · have le := h e
      rw [List.filter_cons] at le
      split at le
      · rw [List.length_cons] at le
        omega
      · exact le

theorem exists_of_forall₂_right (h : List.Forall₂ R xs us) {u : β} (hu : u ∈ us) : ∃ x ∈ xs, R x u := by
  induction h with
  | nil => cases hu
  | cons related _ ih =>
    rcases List.mem_cons.mp hu with rfl | hu
    · exact ⟨_, List.mem_cons_self, related⟩
    · obtain ⟨x, hx, related⟩ := ih hu
      exact ⟨x, List.mem_cons_of_mem _ hx, related⟩

theorem countP_forall₂ (h : List.Forall₂ R xs us) {p : α → Bool} {q : β → Bool} (same : ∀ x u, R x u → q u = p x) :
    us.countP q = xs.countP p := by
  induction h with
  | nil => rfl
  | cons related _ ih => rw [List.countP_cons, List.countP_cons, ih, same _ _ related]

end Provisr.Foundation
