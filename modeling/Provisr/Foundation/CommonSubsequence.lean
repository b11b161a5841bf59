import Mathlib.Data.List.Basic
import Mathlib.Data.List.Sublists

namespace Provisr.Foundation

section Marked

variable {α : Type}

def marked (xs : List α) (marks : List Bool) : List α := ((xs.zip marks).filter Prod.snd).map Prod.fst

theorem marked_concat {xs : List α} {marks : List Bool} (h : marks.length = xs.length) (x : α) (b : Bool) :
    marked (xs ++ [x]) (marks ++ [b]) = marked xs marks ++ if b = true then [x] else [] := by
  unfold marked
  rw [List.zip_append h.symm, List.filter_append, List.map_append]
  cases b <;> rfl

theorem marked_of_false {xs : List α} {marks : List Bool} (h : ∀ b ∈ marks, b = false) : marked xs marks = [] := by
  unfold marked
  rw [List.map_eq_nil_iff, List.filter_eq_nil_iff]
  intro pair mem
  rw [h pair.2 (List.of_mem_zip mem).2]
  exact Bool.false_ne_true

theorem marked_length {xs : List α} {marks : List Bool} (h : marks.length = xs.length) :
    (marked xs marks).length = marks.count true := by
  induction xs generalizing marks with
  | nil => simp [marked, List.length_eq_zero_iff.mp h]
  | cons x xs ih =>
    cases marks with
    | nil => cases h
    | cons b marks =>
      have rest : (marked xs marks).length = marks.count true := ih (Nat.succ.inj h)
      cases b with
      | false => simpa [marked] using rest
      | true => simpa [marked] using rest

end Marked

section Common

variable {α : Type} {xs ys : List α} {x y : α} {m n : Nat}

def CommonAtMost (n : Nat) (xs ys : List α) : Prop :=
  ∀ zs : List α, zs.Sublist xs → zs.Sublist ys → zs.length ≤ n

theorem commonAtMost_nil_left (ys : List α) : CommonAtMost 0 [] ys :=
  fun _ inside _ => (List.length_eq_zero_iff.mpr (List.sublist_nil.mp inside)).le

theorem commonAtMost_nil_right (xs : List α) : CommonAtMost 0 xs [] :=
  fun _ _ inside => (List.length_eq_zero_iff.mpr (List.sublist_nil.mp inside)).le

theorem sublist_concat {zs : List α} (h : zs.Sublist (xs ++ [x])) :
    zs.Sublist xs ∨ ∃ ws, zs = ws ++ [x] ∧ ws.Sublist xs := by
  obtain ⟨ws, tail, rfl, inside, last⟩ := List.sublist_append_iff.mp h
  cases tail with
  | nil => exact .inl (by rwa [List.append_nil])
  | cons z tail =>
    have whole : z :: tail = [x] := last.eq_of_length_le (by simp)
    exact .inr ⟨ws, by rw [whole], inside⟩

theorem CommonAtMost.same (h : CommonAtMost n xs ys) (x : α) : CommonAtMost (n + 1) (xs ++ [x]) (ys ++ [x]) := by
  intro zs left right
  rcases List.eq_nil_or_concat zs with rfl | ⟨ws, z, rfl⟩
  · exact Nat.zero_le _
  rw [List.concat_eq_append] at left right ⊢
  have before : ∀ {us : List α}, (ws ++ [z]).Sublist (us ++ [x]) → ws.Sublist us := by
    intro us inside
    rcases sublist_concat inside with inside | ⟨vs, same, inside⟩
    · exact (List.sublist_append_left ws [z]).trans inside
    · rwa [(List.append_inj' same rfl).1]
  rw [List.length_append, List.length_singleton]
  exact Nat.succ_le_succ (h ws (before left) (before right))

theorem CommonAtMost.differ (apart : x ≠ y) (up : CommonAtMost m xs (ys ++ [y]))
    (left : CommonAtMost n (xs ++ [x]) ys) : CommonAtMost (max m n) (xs ++ [x]) (ys ++ [y]) := by
  intro zs hx hy
  rcases sublist_concat hx with inside | ⟨ws, ends, -⟩
  · exact (up zs inside hy).trans (Nat.le_max_left m n)
  rcases sublist_concat hy with inside | ⟨vs, ends', -⟩
  · exact (left zs hx inside).trans (Nat.le_max_right m n)
  · rw [ends] at ends'
    exact absurd (List.singleton_inj.mp (List.append_inj' ends' rfl).2) apart

end Common

end Provisr.Foundation
