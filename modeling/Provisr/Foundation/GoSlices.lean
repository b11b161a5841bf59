import Mathlib.Data.List.Basic

namespace Provisr.Foundation

-- A slice of Go: a window on an array that other slices may share.
structure GoSlice where
  array : Nat
  off : Nat
  len : Nat
  cap : Nat
  deriving DecidableEq

abbrev GoHeap (α : Type) := List (List α)

-- The capacity that append gives to a slice that outgrows its array.
class GoRuntime where
  grow : Nat → Nat

namespace GoSlice

variable {α : Type}

def empty : GoSlice := ⟨0, 0, 0, 0⟩

def read (h : GoHeap α) (s : GoSlice) : List α := (((h[s.array]?).getD []).drop s.off).take s.len

-- s[i:]
def tail (s : GoSlice) (i : Nat) : GoSlice := ⟨s.array, s.off + i, s.len - i, s.cap - i⟩

def append [GoRuntime] (blank : α) (h : GoHeap α) (s : GoSlice) (a : α) : GoHeap α × GoSlice :=
  if s.len < s.cap then (h.modify s.array (·.set (s.off + s.len) a), { s with len := s.len + 1 })
  else
    let contents := s.read h ++ [a]
    let cap := max contents.length (GoRuntime.grow s.cap)
    (h ++ [contents ++ List.replicate (cap - contents.length) blank], ⟨h.length, 0, contents.length, cap⟩)

structure Fits (h : GoHeap α) (s : GoSlice) : Prop where
  len : s.len ≤ s.cap
  cap : s.cap ≠ 0 → ∃ xs, h[s.array]? = some xs ∧ s.off + s.cap ≤ xs.length

theorem fits_empty {h : GoHeap α} : Fits h empty := ⟨Nat.le_refl 0, nofun⟩

@[simp] theorem read_empty {h : GoHeap α} : empty.read h = [] := List.take_zero

theorem Fits.read_length {h : GoHeap α} {s : GoSlice} (fits : Fits h s) : (s.read h).length = s.len := by
  unfold read
  by_cases zero : s.cap = 0
  · have len := fits.len
    rw [List.length_take]
    omega
  · obtain ⟨xs, found, long⟩ := fits.cap zero
    have len := fits.len
    rw [found, Option.getD_some, List.length_take, List.length_drop]
    omega

theorem Fits.tail {h : GoHeap α} {s : GoSlice} (fits : Fits h s) {i : Nat} (short : i ≤ s.len) : Fits h (s.tail i) := by
  have len := fits.len
  refine ⟨?_, fun some_ => ?_⟩
  · change s.len - i ≤ s.cap - i
    omega
  · obtain ⟨xs, found, long⟩ := fits.cap (fun zero => some_ (by rw [GoSlice.tail, zero, Nat.zero_sub]))
    refine ⟨xs, found, ?_⟩
    change s.off + i + (s.cap - i) ≤ xs.length
    omega

theorem tail_read {h : GoHeap α} {s : GoSlice} {i : Nat} : (s.tail i).read h = (s.read h).drop i := by
  simp only [read, tail, List.drop_take, List.drop_drop]

def Within (s t : GoSlice) : Prop := t.array = s.array → t.off + t.len ≤ s.off + s.len

structure Keeps (h h' : GoHeap α) (s : GoSlice) : Prop where
  keeps : ∀ t, Fits h t → Within s t → t.read h' = t.read h ∧ Fits h' t

theorem Keeps.refl {h : GoHeap α} {s : GoSlice} : Keeps h h s := ⟨fun _ fits _ => ⟨rfl, fits⟩⟩

theorem Keeps.trans {h h' h'' : GoHeap α} {s : GoSlice} (first : Keeps h h' s) (second : Keeps h' h'' s) :
    Keeps h h'' s := by
  refine ⟨fun t fits within_ => ?_⟩
  obtain ⟨same, fits'⟩ := first.keeps t fits within_
  obtain ⟨same', fits''⟩ := second.keeps t fits' within_
  exact ⟨same'.trans same, fits''⟩

section Append

variable {blank a : α} {h : GoHeap α} {s : GoSlice}

theorem read_before {xs : List α} {off len i : Nat} (before : off + len ≤ i) :
    ((xs.set i a).drop off).take len = (xs.drop off).take len := by
  rw [List.drop_set]
  split
  · rfl
  · rw [List.take_set_of_le (by omega)]

theorem read_at {xs : List α} {off len : Nat} (inside : off + len < xs.length) :
    ((xs.set (off + len) a).drop off).take (len + 1) = (xs.drop off).take len ++ [a] := by
  have short : len < (xs.drop off).length := by
    rw [List.length_drop]
    omega
  rw [List.drop_set, if_neg (by omega), Nat.add_sub_cancel_left, List.take_add_one, List.take_set_of_le (Nat.le_refl _),
    List.getElem?_set_self short]
  rfl

theorem Fits.none {t : GoSlice} (fits : Fits h t) (zero : t.cap = 0) (h' : GoHeap α) : t.read h' = t.read h ∧ Fits h' t := by
  have len : t.len = 0 := by
    have := fits.len
    omega
  refine ⟨?_, fits.len, fun some_ => absurd zero some_⟩
  rw [read, read, len, List.take_zero, List.take_zero]

variable [GoRuntime]

theorem append_inside (fits : Fits h s) (room : s.len < s.cap) :
    (s.append blank h a).2.read (s.append blank h a).1 = s.read h ++ [a] ∧
      Fits (s.append blank h a).1 (s.append blank h a).2 ∧ Keeps h (s.append blank h a).1 s := by
  rw [append, if_pos room]
  obtain ⟨xs, found, long⟩ := fits.cap (by omega)
  have changed : (h.modify s.array (·.set (s.off + s.len) a))[s.array]? = some (xs.set (s.off + s.len) a) := by
    rw [List.getElem?_modify_eq, found]
    rfl
  refine ⟨?_, ⟨room, fun _ => ⟨_, changed, by simpa using long⟩⟩, ⟨fun t fits' within_ => ?_⟩⟩
  · simp only [read, changed, found, Option.getD_some]
    exact read_at (by omega)
  · by_cases same : t.array = s.array
    · have changed' : (h.modify s.array (·.set (s.off + s.len) a))[t.array]? = some (xs.set (s.off + s.len) a) := by
        rw [same, changed]
      refine ⟨?_, fits'.len, fun some_ => ?_⟩
      · simp only [read, same, changed, found, Option.getD_some]
        exact read_before (within_ same)
      · obtain ⟨ys, found', long'⟩ := fits'.cap some_
        rw [same, found] at found'
        obtain rfl := Option.some.inj found'
        exact ⟨_, changed', by simpa using long'⟩
    · have other : (h.modify s.array (·.set (s.off + s.len) a))[t.array]? = h[t.array]? :=
        List.getElem?_modify_ne _ _ (Ne.symm same)
      refine ⟨by rw [read, read, other], fits'.len, fun some_ => ?_⟩
      rw [other]
      exact fits'.cap some_

theorem append_outside (full : ¬ s.len < s.cap) :
    (s.append blank h a).2.read (s.append blank h a).1 = s.read h ++ [a] ∧
      Fits (s.append blank h a).1 (s.append blank h a).2 ∧ Keeps h (s.append blank h a).1 s := by
  rw [append, if_neg full]
  have last : ∀ xs : List α, (h ++ [xs])[h.length]? = some xs := fun xs => List.getElem?_concat_length
  refine ⟨?_, ⟨Nat.le_max_left _ _, fun _ => ⟨_, last _, ?_⟩⟩, ⟨fun t fits' _ => ?_⟩⟩
  · simp only [read, last, Option.getD_some, List.drop_zero, List.take_left]
  · simp only [List.length_append, List.length_replicate, Nat.zero_add]
    omega
  · by_cases zero : t.cap = 0
    · exact fits'.none zero _
    · obtain ⟨xs, found, long⟩ := fits'.cap zero
      have before : t.array < h.length := (List.getElem?_eq_some_iff.mp found).1
      have same : ∀ ys, (h ++ [ys])[t.array]? = h[t.array]? := fun ys => List.getElem?_append_left before
      refine ⟨by simp only [read, same], fits'.len, fun _ => ⟨xs, ?_, long⟩⟩
      exact (same _).trans found

theorem append_spec (blank a : α) (fits : Fits h s) : (s.append blank h a).2.read (s.append blank h a).1 = s.read h ++ [a] ∧
    Fits (s.append blank h a).1 (s.append blank h a).2 ∧ Keeps h (s.append blank h a).1 s := by
  by_cases room : s.len < s.cap
  · exact append_inside fits room
  · exact append_outside room

theorem Keeps.of_append {h' : GoHeap α} (fits : Fits h s)
    (keeps : Keeps (s.append blank h a).1 h' (s.append blank h a).2) : Keeps h h' s := by
  obtain ⟨-, -, first⟩ : _ ∧ _ ∧ Keeps h (s.append blank h a).1 s := append_spec blank a fits
  refine ⟨fun t own within_ => ?_⟩
  obtain ⟨same, after⟩ := first.keeps t own within_
  by_cases zero : t.cap = 0
  · exact own.none zero _
  · obtain ⟨same', last⟩ := keeps.keeps t after fun array => by
      unfold append at array ⊢
      split
      · rename_i room
        rw [if_pos room] at array
        have before := within_ array
        dsimp only
        omega
      · rename_i full
        rw [if_neg full] at array
        obtain ⟨xs, found, -⟩ := own.cap zero
        have before := (List.getElem?_eq_some_iff.mp found).1
        dsimp only at array
        omega
    exact ⟨same'.trans same, last⟩

end Append

end GoSlice

end Provisr.Foundation
