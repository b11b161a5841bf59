import Mathlib.Data.List.Nodup
import Mathlib.Data.List.Infix
import Mathlib.Data.Option.Basic

namespace Provisr.Foundation

-- Rows that each name the hash of the row before them.
section HashChain

variable {ρ η : Type} (hash : ρ → η) (previous : ρ → Option η)

def Linked : Option η → List ρ → Prop
  | _, [] => True
  | p, r :: rs => previous r = p ∧ Linked (some (hash r)) rs

def tip (p : Option η) (rs : List ρ) : Option η := (rs.getLast?.map hash).or p

@[simp] theorem tip_nil (p : Option η) : tip hash p [] = p := rfl

@[simp] theorem tip_cons (p : Option η) (r : ρ) (rs : List ρ) :
    tip hash p (r :: rs) = tip hash (some (hash r)) rs := by
  cases rs with
  | nil => rfl
  | cons s rs => simp [tip, List.getLast?_cons]

variable {hash previous}

theorem linked_concat {p : Option η} {rs : List ρ} {r : ρ} :
    Linked hash previous p (rs ++ [r]) ↔ Linked hash previous p rs ∧ previous r = tip hash p rs := by
  induction rs generalizing p with
  | nil => simp [Linked]
  | cons s rs ih =>
    rw [List.cons_append, Linked, Linked, ih, tip_cons]
    exact and_assoc.symm

theorem previous_of_linked {p : Option η} {rs : List ρ} (h : Linked hash previous p rs) :
    rs.map previous <+: p :: rs.map fun r => some (hash r) := by
  induction rs generalizing p with
  | nil => exact List.nil_prefix
  | cons r rs ih =>
    obtain ⟨hr, hrs⟩ := h
    rw [List.map_cons, List.map_cons, hr]
    exact (List.prefix_cons_inj p).mpr (ih hrs)

theorem previous_nodup {rs : List ρ} (h : Linked hash previous none rs) (unique : (rs.map hash).Nodup) :
    (rs.map previous).Nodup := by
  have hashes : (rs.map fun r => some (hash r)).Nodup := by
    have := unique.map (Option.some_injective η)
    rwa [List.map_map] at this
  have whole : ((none : Option η) :: rs.map fun r => some (hash r)).Nodup :=
    List.nodup_cons.mpr ⟨by simp, hashes⟩
  exact whole.sublist (previous_of_linked h).sublist

theorem previous_head {p : Option η} {rs : List ρ} (h : Linked hash previous p rs) {r : ρ}
    (hr : rs[0]? = some r) : previous r = p := by
  cases rs with
  | nil => cases hr
  | cons s rs =>
    rw [List.getElem?_cons_zero, Option.some.injEq] at hr
    exact hr ▸ h.1

theorem previous_succ {p : Option η} {rs : List ρ} (h : Linked hash previous p rs) {i : Nat} {r s : ρ}
    (hr : rs[i]? = some r) (hs : rs[i + 1]? = some s) : previous s = some (hash r) := by
  induction rs generalizing p i with
  | nil => cases hr
  | cons q rs ih =>
    rw [List.getElem?_cons_succ] at hs
    cases i with
    | zero =>
      rw [List.getElem?_cons_zero, Option.some.injEq] at hr
      exact hr ▸ previous_head h.2 hs
    | succ i =>
      rw [List.getElem?_cons_succ] at hr
      exact ih h.2 hr hs

end HashChain

end Provisr.Foundation
