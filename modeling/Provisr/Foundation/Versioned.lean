import Mathlib.Data.List.Basic
import Mathlib.Data.List.Nodup
import Mathlib.Data.List.Chain

namespace Provisr.Foundation

inductive Trail {σ γ : Type} (before after : γ → σ) (s : σ) : List γ → σ → Prop
  | nil : Trail before after s [] s
  | snoc (cs : List γ) (c : γ) (way : Trail before after s cs (before c)) :
      Trail before after s (cs ++ [c]) (after c)

namespace Trail

variable {σ γ : Type} {before after : γ → σ} {s t : σ} {cs : List γ}

theorem invariant {P : σ → Prop} (h : Trail before after s cs t) (start : P s)
    (step : ∀ c ∈ cs, P (before c) → P (after c)) : P t := by
  induction h with
  | nil => exact start
  | snoc cs c _ ih =>
    exact step c (by simp) (ih fun d hd => step d (by simp [hd]))

theorem upto {l₁ l₂ : List γ} {c : γ} (h : Trail before after s cs t) (split : cs = l₁ ++ c :: l₂) :
    Trail before after s l₁ (before c) := by
  induction h generalizing l₂ with
  | nil => simp at split
  | snoc cs d way ih =>
    rcases List.eq_nil_or_concat l₂ with rfl | ⟨l, e, rfl⟩
    · obtain ⟨rfl, hd⟩ := List.append_inj' split rfl
      exact List.singleton_inj.mp hd ▸ way
    · rw [List.concat_eq_append, ← List.cons_append, ← List.append_assoc] at split
      exact ih (List.append_inj' split rfl).1

theorem last_set {β : Type} {f : σ → β} {sets : γ → Bool} (h : Trail before after s cs t)
    (keeps : ∀ c ∈ cs, sets c = false → f (after c) = f (before c)) :
    f t = (((cs.filter sets).getLast?).map fun c => f (after c)).getD (f s) := by
  induction h with
  | nil => rfl
  | snoc cs c way ih =>
    rw [List.filter_append]
    cases hc : sets c with
    | true => simp [hc]
    | false =>
      have kept := keeps c (by simp) hc
      have before := ih fun d hd => keeps d (by simp [hd])
      simp [hc, kept, before]

theorem ends (h : Trail before after s cs t) : (cs = [] ∧ t = s) ∨ ∃ c ∈ cs.getLast?, after c = t := by
  cases h with
  | nil => exact Or.inl ⟨rfl, rfl⟩
  | snoc cs c way => exact Or.inr ⟨c, by simp, rfl⟩

theorem isChain (h : Trail before after s cs t) : cs.IsChain fun c d => before d = after c := by
  induction h with
  | nil => exact List.isChain_nil
  | snoc cs c way ih =>
    rw [List.isChain_append]
    refine ⟨ih, List.isChain_singleton c, ?_⟩
    intro x hx y hy
    obtain rfl : c = y := by simpa using hy
    rcases way.ends with ⟨rfl, _⟩ | ⟨d, hd, he⟩
    · simp at hx
    · obtain rfl : d = x := by simpa using (Option.mem_unique hd hx)
      exact he.symm

theorem measure (version : σ → Nat) (h : Trail before after s cs t)
    (step : ∀ c ∈ cs, version (after c) = version (before c) + 1) :
    version t = version s + cs.length := by
  induction h with
  | nil => rfl
  | snoc cs c way ih =>
    rw [step c (by simp), ih fun d hd => step d (by simp [hd]), List.length_append,
      List.length_singleton]
    omega

theorem measure_get (version : σ → Nat) (h : Trail before after s cs t)
    (step : ∀ c ∈ cs, version (after c) = version (before c) + 1) (k : Nat) (hk : k < cs.length) :
    version (before cs[k]) = version s + k := by
  induction h with
  | nil => simp at hk
  | snoc cs c way ih =>
    by_cases hlt : k < cs.length
    · rw [List.getElem_append_left hlt]
      exact ih (fun d hd => step d (by simp [hd])) hlt
    · have hlen : k = cs.length := by
        rw [List.length_append, List.length_singleton] at hk
        omega
      subst hlen
      rw [List.getElem_concat_length rfl]
      exact way.measure version fun d hd => step d (by simp [hd])

end Trail

-- Tables whose rows carry a version that every change of the row raises by one.
section Versioned

variable {ρ κ γ : Type} (key : ρ → κ) (version : ρ → Nat)

def Unique (rows : List ρ) : Prop := (rows.map key).Nodup

def Behind (rows : List ρ) (r : ρ) : Prop :=
  ∃ c ∈ rows, key c = key r ∧ version r ≤ version c ∧ (version c = version r → c = r)

def replace [DecidableEq κ] (a : ρ) (rows : List ρ) : List ρ := rows.map fun r => if key r = key a then a else r

variable {key version}

theorem Unique.eq {rows : List ρ} (h : Unique key rows) {a b : ρ} (ha : a ∈ rows) (hb : b ∈ rows)
    (hk : key a = key b) : a = b :=
  List.inj_on_of_nodup_map h ha hb hk

theorem Unique.append {rows : List ρ} (h : Unique key rows) {a : ρ} (ha : ∀ r ∈ rows, key r ≠ key a) :
    Unique key (rows ++ [a]) := by
  unfold Unique at h ⊢
  rw [List.map_append, List.nodup_append]
  refine ⟨h, by simp, ?_⟩
  intro k hk l hl
  obtain ⟨r, hr, rfl⟩ := List.mem_map.mp hk
  rw [List.map_cons, List.map_nil, List.mem_singleton] at hl
  exact hl ▸ ha r hr

theorem behind_of_mem {rows : List ρ} {r : ρ} (h : r ∈ rows) : Behind key version rows r :=
  ⟨r, h, rfl, le_rfl, fun _ => rfl⟩

theorem Behind.current {rows : List ρ} {r c : ρ} (h : Behind key version rows r)
    (unique : Unique key rows) (hc : c ∈ rows) (hk : key c = key r) (hv : version c = version r) :
    c = r := by
  obtain ⟨d, hd, hdk, _, heq⟩ := h
  obtain rfl := unique.eq hc hd (hk.trans hdk.symm)
  exact heq hv

theorem Behind.append {rows : List ρ} {r : ρ} (h : Behind key version rows r) (a : ρ) :
    Behind key version (rows ++ [a]) r := by
  obtain ⟨c, hc, rest⟩ := h
  exact ⟨c, by simp [hc], rest⟩

variable [DecidableEq κ]

theorem map_key_replace (a : ρ) (rows : List ρ) : (replace key a rows).map key = rows.map key := by
  unfold replace
  rw [List.map_map]
  refine List.map_congr_left ?_
  intro r _
  simp only [Function.comp]
  split
  · rename_i h
    exact h.symm
  · rfl

theorem mem_replace {a r : ρ} {rows : List ρ} (h : r ∈ replace key a rows) :
    r = a ∨ (r ∈ rows ∧ key r ≠ key a) := by
  obtain ⟨x, hx, rfl⟩ := List.mem_map.mp h
  split
  · exact Or.inl rfl
  · rename_i hne
    exact Or.inr ⟨hx, hne⟩

theorem mem_replace_of_ne {a r : ρ} {rows : List ρ} (h : r ∈ rows) (hne : key r ≠ key a) :
    r ∈ replace key a rows :=
  List.mem_map.mpr ⟨r, h, by rw [if_neg hne]⟩

theorem mem_replace_self {a b : ρ} {rows : List ρ} (h : b ∈ rows) (hk : key b = key a) :
    a ∈ replace key a rows :=
  List.mem_map.mpr ⟨b, h, by rw [if_pos hk]⟩

theorem Unique.replace {rows : List ρ} (h : Unique key rows) (a : ρ) :
    Unique key (replace key a rows) := by
  unfold Unique
  rw [map_key_replace]
  exact h

theorem Behind.replace {rows : List ρ} {r a b : ρ} (h : Behind key version rows r)
    (unique : Unique key rows) (hb : b ∈ rows) (hk : key a = key b) (hv : version a = version b + 1) :
    Behind key version (replace key a rows) r := by
  obtain ⟨c, hc, hck, hle, heq⟩ := h
  by_cases hcb : key c = key b
  · obtain rfl := unique.eq hc hb hcb
    refine ⟨a, mem_replace_self hb hk.symm, hk.trans hck, by omega, ?_⟩
    intro hva
    omega
  · exact ⟨c, mem_replace_of_ne hc (fun e => hcb (e.trans hk)), hck, hle, heq⟩

variable (key) in
structure History (before after : γ → ρ) (Start : ρ → Prop) (rows : List ρ) (cs : List γ) : Prop where
  unique : Unique key rows
  owned : ∀ c ∈ cs, ∃ r ∈ rows, key r = key (before c)
  trail : ∀ r ∈ rows, ∃ first, Start first ∧
    Trail before after first (cs.filter fun c => key (before c) = key r) r

namespace History

variable {before after : γ → ρ} {Start : ρ → Prop} {rows : List ρ} {cs : List γ}

theorem empty : History key before after Start [] [] :=
  ⟨List.nodup_nil, by simp, by simp⟩

theorem insert (h : History key before after Start rows cs) {a : ρ} (start : Start a)
    (fresh : ∀ r ∈ rows, key r ≠ key a) : History key before after Start (rows ++ [a]) cs := by
  refine ⟨h.unique.append fresh, ?_, ?_⟩
  · intro c hc
    obtain ⟨r, hr, hk⟩ := h.owned c hc
    exact ⟨r, by simp [hr], hk⟩
  · intro r hr
    rcases List.mem_append.mp hr with hr | hr
    · exact h.trail r hr
    · obtain rfl := List.mem_singleton.mp hr
      have hnone : (cs.filter fun c => key (before c) = key r) = [] := by
        rw [List.filter_eq_nil_iff]
        intro c hc
        obtain ⟨x, hx, hk⟩ := h.owned c hc
        simpa [← hk] using fresh x hx
      exact ⟨r, start, hnone ▸ Trail.nil⟩

theorem commit (h : History key before after Start rows cs) {c : γ} (hb : before c ∈ rows)
    (hk : key (after c) = key (before c)) :
    History key before after Start (replace key (after c) rows) (cs ++ [c]) := by
  refine ⟨h.unique.replace _, ?_, ?_⟩
  · intro d hd
    rcases List.mem_append.mp hd with hd | hd
    · obtain ⟨r, hr, hrk⟩ := h.owned d hd
      by_cases he : key r = key (after c)
      · exact ⟨after c, mem_replace_self hr he, he.symm.trans hrk⟩
      · exact ⟨r, mem_replace_of_ne hr he, hrk⟩
    · obtain rfl := List.mem_singleton.mp hd
      exact ⟨after d, mem_replace_self hb hk.symm, hk⟩
  · intro r hr
    rw [List.filter_append]
    rcases mem_replace hr with rfl | ⟨hr, hne⟩
    · obtain ⟨first, hs, hw⟩ := h.trail _ hb
      refine ⟨first, hs, ?_⟩
      simp only [hk, decide_true, List.filter_cons_of_pos, List.filter_nil]
      exact Trail.snoc _ c hw
    · obtain ⟨first, hs, hw⟩ := h.trail r hr
      refine ⟨first, hs, ?_⟩
      have hcr : ¬ key (before c) = key r := fun e => hne (e.symm.trans hk.symm)
      simpa [hcr] using hw

end History

end Versioned

end Provisr.Foundation
