import Mathlib.Data.List.Basic
import Mathlib.Data.List.Sort
import Mathlib.Order.Basic
import Mathlib.Logic.Function.Iterate

namespace Provisr.Foundation

-- A log whose records carry rising numbers, and a reader that asks for what comes after a cursor.
section Feed

variable {ρ : Type} (seq : ρ → Nat)

def Ascending (rows : List ρ) : Prop := rows.Pairwise fun a b => seq a < seq b

def after (c : Nat) (rows : List ρ) : List ρ := rows.filter fun r => decide (c < seq r)

def between (a b : Nat) (rows : List ρ) : List ρ := rows.filter fun r => decide (a < seq r ∧ seq r ≤ b)

-- WHERE sequence > $1 ORDER BY sequence LIMIT $2
def batch (limit c : Nat) (rows : List ρ) : List ρ :=
  ((after seq c rows).mergeSort fun a b => decide (seq a ≤ seq b)).take limit

def tail (c : Nat) (rows : List ρ) : Nat := ((rows.getLast?).map seq).getD c

variable {seq} {rows new : List ρ} {a b c limit : Nat}

theorem Ascending.sublist {xs : List ρ} (h : Ascending seq rows) (sub : xs.Sublist rows) : Ascending seq xs :=
  List.Pairwise.sublist sub h

theorem Ascending.le_tail (h : Ascending seq rows) {r : ρ} (hr : r ∈ rows) : seq r ≤ tail seq c rows := by
  rcases List.eq_nil_or_concat rows with rfl | ⟨xs, x, rfl⟩
  · simp at hr
  · rw [List.concat_eq_append] at h hr ⊢
    have hx := (List.pairwise_append.mp h).2.2
    simp only [tail, List.getLast?_append, List.getLast?_singleton, Option.some_or, Option.map_some,
      Option.getD_some]
    rcases List.mem_append.mp hr with hr | hr
    · exact (hx r hr x (by simp)).le
    · rw [List.mem_singleton.mp hr]

theorem le_tail (h : ∀ r ∈ rows, c ≤ seq r) : c ≤ tail seq c rows := by
  rcases List.eq_nil_or_concat rows with rfl | ⟨xs, x, rfl⟩
  · exact le_rfl
  · have hx := h x (by simp)
    simpa [tail] using hx

theorem batch_eq (h : Ascending seq rows) : batch seq limit c rows = (after seq c rows).take limit := by
  have sorted : (after seq c rows).Pairwise fun a b => decide (seq a ≤ seq b) = true :=
    List.Pairwise.imp (fun hab => decide_eq_true (Nat.le_of_lt hab)) (h.sublist List.filter_sublist)
  unfold batch
  rw [List.mergeSort_of_pairwise sorted]

theorem between_self : between seq a a rows = [] := by
  unfold between
  rw [List.filter_eq_nil_iff]
  intro r _
  simp only [decide_eq_true_eq, not_and, not_le]
  exact id

theorem between_append (h : Ascending seq rows) (hab : a ≤ b) (hbc : b ≤ c) :
    between seq a c rows = between seq a b rows ++ between seq b c rows := by
  induction rows with
  | nil => rfl
  | cons r rows ih =>
    obtain ⟨hr, hrows⟩ := List.pairwise_cons.mp h
    have rest := ih hrows
    unfold between at rest ⊢
    by_cases hb : seq r ≤ b
    · by_cases ha : a < seq r
      · rw [List.filter_cons_of_pos (by simp; omega), List.filter_cons_of_pos (by simp; omega),
          List.filter_cons_of_neg (by simp; omega), rest, List.cons_append]
      · rw [List.filter_cons_of_neg (by simp; omega), List.filter_cons_of_neg (by simp; omega),
          List.filter_cons_of_neg (by simp; omega), rest]
    · have none : (rows.filter fun r => decide (a < seq r ∧ seq r ≤ b)) = [] := by
        rw [List.filter_eq_nil_iff]
        intro x hx
        have := hr x hx
        simp only [decide_eq_true_eq]
        omega
      rw [none, List.nil_append] at rest
      by_cases hc : seq r ≤ c
      · rw [List.filter_cons_of_pos (by simp; omega), List.filter_cons_of_neg (by simp; omega),
          List.filter_cons_of_pos (by simp; omega), none, rest, List.nil_append]
      · rw [List.filter_cons_of_neg (by simp; omega), List.filter_cons_of_neg (by simp; omega),
          List.filter_cons_of_neg (by simp; omega), none, rest, List.nil_append]

theorem after_eq_between (h : ∀ r ∈ rows, seq r ≤ b) : after seq a rows = between seq a b rows := by
  refine List.filter_congr ?_
  intro r hr
  simp [h r hr]

theorem take_after (h : Ascending seq rows) :
    (after seq c rows).take limit = between seq c (tail seq c ((after seq c rows).take limit)) rows ∧
      (after seq c rows).drop limit = after seq (tail seq c ((after seq c rows).take limit)) rows := by
  have asc : Ascending seq (after seq c rows) := h.sublist List.filter_sublist
  have above : ∀ r ∈ after seq c rows, c < seq r := fun r hr => by
    simpa using (List.mem_filter.mp hr).2
  generalize hf : after seq c rows = f at asc above
  have hle : c ≤ tail seq c (f.take limit) :=
    le_tail fun r hr => (above r (List.mem_of_mem_take hr)).le
  have first : ∀ r ∈ f.take limit, seq r ≤ tail seq c (f.take limit) := fun r hr =>
    (asc.sublist (List.take_sublist _ _)).le_tail hr
  have second : ∀ r ∈ f.drop limit, tail seq c (f.take limit) < seq r := by
    intro r hr
    rcases List.eq_nil_or_concat (f.take limit) with htake | ⟨xs, x, hx⟩
    · rw [htake]
      exact above r (List.mem_of_mem_drop hr)
    · rw [List.concat_eq_append] at hx
      have split : f = xs ++ [x] ++ f.drop limit := by rw [← hx, List.take_append_drop]
      rw [split] at asc
      have hlt := (List.pairwise_append.mp asc).2.2 x (by simp) r hr
      simpa [hx, tail] using hlt
  have low : between seq c (tail seq c (f.take limit)) rows = f.filter fun r =>
      decide (seq r ≤ tail seq c (f.take limit)) := by
    rw [← hf]
    unfold after between
    rw [List.filter_filter]
    refine List.filter_congr fun r _ => ?_
    rw [← Bool.decide_and]
    exact decide_eq_decide.mpr and_comm
  have high : after seq (tail seq c (f.take limit)) rows = f.filter fun r =>
      decide (tail seq c (f.take limit) < seq r) := by
    rw [← hf] at hle ⊢
    unfold after at hle ⊢
    rw [List.filter_filter]
    refine List.filter_congr fun r _ => ?_
    rw [← Bool.decide_and]
    exact decide_eq_decide.mpr ⟨fun hr => ⟨hr, by omega⟩, fun hr => hr.1⟩
  constructor
  · rw [low]
    conv_rhs => rw [← List.take_append_drop limit f]
    rw [List.filter_append, List.filter_eq_self.mpr (by simpa using first),
      List.filter_eq_nil_iff.mpr (by simpa using second), List.append_nil]
  · rw [high]
    conv_rhs => rw [← List.take_append_drop limit f]
    rw [List.filter_append, List.filter_eq_nil_iff.mpr (by simpa using first),
      List.filter_eq_self.mpr (by simpa using second), List.nil_append]

variable (seq) in
def Reached (rows : List ρ) (c : Nat) : Prop := c = 0 ∨ ∃ r ∈ rows, seq r = c

theorem Reached.append (h : Reached seq rows c) (new : List ρ) : Reached seq (rows ++ new) c := by
  rcases h with rfl | ⟨r, hr, rfl⟩
  · exact Or.inl rfl
  · exact Or.inr ⟨r, by simp [hr], rfl⟩

theorem Reached.below (h : Reached seq rows c) (asc : Ascending seq (rows ++ new))
    (positive : ∀ r ∈ new, 0 < seq r) {r : ρ} (hr : r ∈ new) : c < seq r := by
  rcases h with rfl | ⟨x, hx, rfl⟩
  · exact positive r hr
  · exact (List.pairwise_append.mp asc).2.2 x hx r hr

theorem between_grow (h : ∀ r ∈ new, b < seq r) : between seq a b (rows ++ new) = between seq a b rows := by
  have none : between seq a b new = [] := by
    unfold between
    rw [List.filter_eq_nil_iff]
    intro r hr
    have := h r hr
    simp only [decide_eq_true_eq]
    omega
  unfold between at none ⊢
  rw [List.filter_append, none, List.append_nil]

theorem batch_tail (h : Ascending seq rows) (reached : Reached seq rows c) :
    c ≤ tail seq c (batch seq limit c rows) ∧ Reached seq rows (tail seq c (batch seq limit c rows)) := by
  rw [batch_eq h]
  rcases List.eq_nil_or_concat ((after seq c rows).take limit) with hnil | ⟨xs, x, hx⟩
  · rw [hnil]
    exact ⟨le_rfl, reached⟩
  · have hmem : x ∈ after seq c rows := List.mem_of_mem_take (by rw [hx]; simp)
    obtain ⟨mem, above⟩ := List.mem_filter.mp hmem
    rw [hx]
    have htail : tail seq c (xs.concat x) = seq x := by simp [tail]
    rw [htail]
    exact ⟨(of_decide_eq_true above).le, Or.inr ⟨x, mem, rfl⟩⟩

theorem between_poll (h : Ascending seq rows) (reached : Reached seq rows c) (hac : a ≤ c) :
    between seq a c rows ++ batch seq limit c rows =
      between seq a (tail seq c (batch seq limit c rows)) rows := by
  have hle : c ≤ tail seq c (batch seq limit c rows) := (batch_tail h reached).1
  rw [between_append h hac hle]
  congr 1
  rw [batch_eq h]
  exact (take_after h).1

theorem between_receive (h : Ascending seq rows) {r : ρ} {rest : List ρ}
    (next : between seq b c rows = r :: rest) (hab : a ≤ b) :
    b < seq r ∧ seq r ≤ c ∧ between seq a b rows ++ [r] = between seq a (seq r) rows ∧
      rest = between seq (seq r) c rows := by
  have mem : r ∈ between seq b c rows := by simp [next]
  obtain ⟨hbr, hrc⟩ : b < seq r ∧ seq r ≤ c := by simpa using (List.mem_filter.mp mem).2
  have split := between_append h hbr.le hrc
  have asc : Ascending seq (r :: rest) := next ▸ h.sublist List.filter_sublist
  obtain ⟨above, -⟩ := List.pairwise_cons.mp asc
  have later : rest = between seq (seq r) c rows := by
    have hfilter : between seq (seq r) c rows = (between seq b c rows).filter fun x => decide (seq r < seq x) := by
      unfold between
      rw [List.filter_filter]
      refine List.filter_congr fun x _ => ?_
      rw [← Bool.decide_and]
      exact decide_eq_decide.mpr (by omega)
    rw [hfilter, next, List.filter_cons_of_neg (by simp), List.filter_eq_self.mpr (by simpa using above)]
  refine ⟨hbr, hrc, ?_, later⟩
  have first : between seq b (seq r) rows = [r] := by
    rw [next, ← later] at split
    have hlen := congrArg List.length split
    simp only [List.length_cons, List.length_append] at hlen
    obtain ⟨x, hx⟩ := List.length_eq_one_iff.mp (by omega : (between seq b (seq r) rows).length = 1)
    rw [hx, List.singleton_append] at split
    rw [hx, (List.cons.inj split).1]
  rw [between_append h hab hbr.le, first]

variable (seq) in
def advance (limit : Nat) (rows : List ρ) (c : Nat) : Nat := tail seq c (batch seq limit c rows)

theorem after_advance (h : Ascending seq rows) (k : Nat) :
    after seq ((advance seq limit rows)^[k] c) rows = (after seq c rows).drop (k * limit) := by
  induction k generalizing c with
  | zero => simp
  | succ k ih =>
    rw [Function.iterate_succ_apply, ih]
    unfold advance
    rw [batch_eq h, ← (take_after h).2, List.drop_drop]
    rw [Nat.succ_mul, Nat.add_comm]

theorem after_append (new : List ρ) : after seq c (rows ++ new) = after seq c rows ++ after seq c new :=
  List.filter_append ..

theorem after_advance_grown (h : Ascending seq (rows ++ new)) :
    (after seq (advance seq limit (rows ++ new) c) rows).length ≤ (after seq c rows).length - limit := by
  have whole : after seq ((advance seq limit (rows ++ new))^[1] c) (rows ++ new) =
      (after seq c (rows ++ new)).drop (1 * limit) := after_advance h 1
  rw [Function.iterate_one, after_append, after_append, Nat.one_mul] at whole
  have hlen := congrArg List.length whole
  rw [List.length_append, List.length_drop, List.length_append] at hlen
  generalize hd : advance seq limit (rows ++ new) c = d at hlen
  cases hrest : after seq d rows with
  | nil => simp
  | cons r rest =>
    have mem : r ∈ after seq d rows := by simp [hrest]
    obtain ⟨hr, hdr⟩ := List.mem_filter.mp mem
    have all : after seq d new = new := by
      refine List.filter_eq_self.mpr fun x hx => ?_
      have := (List.pairwise_append.mp h).2.2 r hr x hx
      have := of_decide_eq_true hdr
      exact decide_eq_true (by omega)
    have fewer : (after seq c new).length ≤ new.length := List.length_filter_le _ _
    rw [all, hrest] at hlen
    omega

theorem after_eq_append (h : Ascending seq rows) (hab : a ≤ b) :
    after seq a rows = between seq a b rows ++ after seq b rows := by
  induction rows with
  | nil => rfl
  | cons r rows ih =>
    obtain ⟨hr, hrows⟩ := List.pairwise_cons.mp h
    have rest := ih hrows
    unfold after between at rest ⊢
    by_cases ha : a < seq r
    · by_cases hb : seq r ≤ b
      · rw [List.filter_cons_of_pos (by simpa using ha), List.filter_cons_of_pos (by simp; omega),
          List.filter_cons_of_neg (by simp; omega), rest, List.cons_append]
      · have none : (rows.filter fun r => decide (a < seq r ∧ seq r ≤ b)) = [] := by
          refine List.filter_eq_nil_iff.mpr fun x hx => ?_
          have := hr x hx
          simp only [decide_eq_true_eq]
          omega
        rw [none, List.nil_append] at rest
        rw [List.filter_cons_of_pos (by simpa using ha), List.filter_cons_of_neg (by simp; omega),
          List.filter_cons_of_pos (by simp; omega), none, rest, List.nil_append]
    · rw [List.filter_cons_of_neg (by simpa using ha), List.filter_cons_of_neg (by simp; omega),
        List.filter_cons_of_neg (by simp; omega), rest]

theorem between_of_none_after (none : after seq c rows = []) :
    between seq a c rows = after seq a rows := by
  refine (after_eq_between ?_).symm
  intro r hr
  by_contra hlt
  have hmem : r ∈ after seq c rows := List.mem_filter.mpr ⟨hr, decide_eq_true (not_le.mp hlt)⟩
  simp [none] at hmem

end Feed

end Provisr.Foundation
