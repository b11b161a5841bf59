import Provisr.Foundation.Regex
import Mathlib.Tactic.Common
import Mathlib.Data.List.Flatten

namespace Provisr.Foundation.Regex

variable {r s : Regex} {w : List Char}

def Matches : Regex → List Char → Prop
  | empty, _ => False
  | eps, w => w = []
  | chars test, w => ∃ c, w = [c] ∧ test c = true
  | seq r s, w => ∃ u v, w = u ++ v ∧ r.Matches u ∧ s.Matches v
  | alt r s, w => r.Matches w ∨ s.Matches w
  | times r least most, w =>
    ∃ ws : List (List Char), least ≤ ws.length ∧ (∀ n ∈ most, ws.length ≤ n) ∧ w = ws.flatten ∧ ∀ u ∈ ws, r.Matches u

def Bounded : Regex → Prop
  | empty | eps | chars _ => True
  | seq r s | alt r s => r.Bounded ∧ s.Bounded
  | times r least most => r.Bounded ∧ ∀ n ∈ most, least ≤ n

theorem nullable_iff (bounded : r.Bounded) : r.nullable = true ↔ r.Matches [] := by
  induction r with
  | empty => simp [nullable, Matches]
  | eps => simp [nullable, Matches]
  | chars test => simp [nullable, Matches]
  | seq r s ihr ihs =>
    simp only [nullable, Matches, Bool.and_eq_true, ihr bounded.1, ihs bounded.2]
    constructor
    · rintro ⟨hr, hs⟩
      exact ⟨[], [], rfl, hr, hs⟩
    · rintro ⟨u, v, same, hr, hs⟩
      obtain ⟨rfl, rfl⟩ := List.append_eq_nil_iff.mp same.symm
      exact ⟨hr, hs⟩
  | alt r s ihr ihs => simp only [nullable, Matches, Bool.or_eq_true, ihr bounded.1, ihs bounded.2]
  | times r least most ih =>
    simp only [nullable, Matches, Bool.or_eq_true, beq_iff_eq, ih bounded.1]
    constructor
    · rintro (rfl | hr)
      · exact ⟨[], Nat.le_refl 0, fun n _ => Nat.zero_le n, rfl, fun u hu => nomatch hu⟩
      · refine ⟨List.replicate least [], by simp, fun n hn => by simpa using bounded.2 n hn, by simp, ?_⟩
        intro u hu
        rwa [List.eq_of_mem_replicate hu]
    · rintro ⟨ws, enough, -, same, each⟩
      cases ws with
      | nil => exact .inl (Nat.le_zero.mp enough)
      | cons u ws =>
        have blank : u = [] := List.flatten_eq_nil_iff.mp same.symm u List.mem_cons_self
        exact .inr (blank ▸ each u List.mem_cons_self)

section Combinators

theorem matches_andThen : (r.andThen s).Matches w ↔ (seq r s).Matches w := by
  cases r with
  | empty => simp [andThen, Matches]
  | eps => simp [andThen, Matches]
  | chars _ => rfl
  | seq _ _ => rfl
  | alt _ _ => rfl
  | times _ _ _ => rfl

theorem matches_orElse : (r.orElse s).Matches w ↔ r.Matches w ∨ s.Matches w := by
  cases r with
  | empty => simp [orElse, Matches]
  | eps | chars _ | seq _ _ | alt _ _ | times _ _ _ =>
    cases s with
    | empty => simp [orElse, Matches]
    | eps | chars _ | seq _ _ | alt _ _ | times _ _ _ => rfl

theorem bounded_andThen (hr : r.Bounded) (hs : s.Bounded) : (r.andThen s).Bounded := by
  cases r with
  | empty => exact trivial
  | eps => exact hs
  | chars _ => exact ⟨hr, hs⟩
  | seq _ _ => exact ⟨hr, hs⟩
  | alt _ _ => exact ⟨hr, hs⟩
  | times _ _ _ => exact ⟨hr, hs⟩

theorem bounded_orElse (hr : r.Bounded) (hs : s.Bounded) : (r.orElse s).Bounded := by
  cases r with
  | empty => exact hs
  | eps | chars _ | seq _ _ | alt _ _ | times _ _ _ =>
    cases s with
    | empty => exact hr
    | eps | chars _ | seq _ _ | alt _ _ | times _ _ _ => exact ⟨hr, hs⟩

end Combinators

section Derivatives

theorem bounded_deriv (c : Char) (bounded : r.Bounded) : (r.deriv c).Bounded := by
  induction r with
  | empty => exact trivial
  | eps => exact trivial
  | chars test =>
    unfold deriv
    split <;> exact trivial
  | seq r s ihr ihs =>
    have later := bounded_andThen (ihr bounded.1) bounded.2
    unfold deriv
    split
    · exact bounded_orElse later (ihs bounded.2)
    · exact later
  | alt r s ihr ihs => exact bounded_orElse (ihr bounded.1) (ihs bounded.2)
  | times r least most ih =>
    unfold deriv
    split
    · exact trivial
    · refine bounded_andThen (ih bounded.1) ⟨bounded.1, ?_⟩
      intro n hn
      obtain ⟨m, hm, rfl⟩ := Option.map_eq_some_iff.mp hn
      have := bounded.2 m hm
      omega

theorem flatten_eq_cons {ws : List (List Char)} {c : Char} (same : ws.flatten = c :: w) :
    ∃ (u : List Char) (vs : List (List Char)), (c :: u) ∈ ws ∧ (∀ v ∈ vs, v ∈ ws) ∧ ws.length = vs.length + 1 ∧
      w = u ++ vs.flatten := by
  induction ws with
  | nil => cases same
  | cons v ws ih =>
    cases v with
    | nil =>
      obtain ⟨u, vs, first, others, count, rest⟩ := ih same
      refine ⟨u, [] :: vs, List.mem_cons_of_mem _ first, ?_, by simp [count], rest⟩
      rintro v (_ | ⟨_, hv⟩)
      · exact List.mem_cons_self
      · exact List.mem_cons_of_mem _ (others v hv)
    | cons d u =>
      obtain ⟨rfl, rfl⟩ := List.cons.inj same
      exact ⟨u, ws, List.mem_cons_self, fun v hv => List.mem_cons_of_mem _ hv, rfl, rfl⟩

theorem deriv_iff {c : Char} (bounded : r.Bounded) : (r.deriv c).Matches w ↔ r.Matches (c :: w) := by
  induction r generalizing w with
  | empty => rfl
  | eps => simp [deriv, Matches]
  | chars test =>
    unfold deriv
    split
    · simp [Matches, *]
    · simp [Matches, *]
  | seq r s ihr ihs =>
    have later : ((r.deriv c).andThen s).Matches w ↔ ∃ u v, w = u ++ v ∧ r.Matches (c :: u) ∧ s.Matches v := by
      rw [matches_andThen]
      simp only [Matches, ihr bounded.1]
    have both : (seq r s).Matches (c :: w) ↔
        (r.Matches [] ∧ s.Matches (c :: w)) ∨ ∃ u v, w = u ++ v ∧ r.Matches (c :: u) ∧ s.Matches v := by
      constructor
      · rintro ⟨u, v, same, hr, hs⟩
        cases u with
        | nil => exact .inl ⟨hr, by rwa [same]⟩
        | cons d u =>
          obtain ⟨rfl, rfl⟩ := List.cons.inj same
          exact .inr ⟨u, v, rfl, hr, hs⟩
      · rintro (⟨hr, hs⟩ | ⟨u, v, rfl, hr, hs⟩)
        · exact ⟨[], c :: w, rfl, hr, hs⟩
        · exact ⟨c :: u, v, rfl, hr, hs⟩
    have null := nullable_iff bounded.1
    unfold deriv
    rw [both]
    split
    · rename_i nullable
      rw [matches_orElse, later, ihs bounded.2, or_comm, and_iff_right (null.mp nullable)]
    · rename_i dense
      rw [later, or_iff_right]
      rintro ⟨hr, -⟩
      exact dense (null.mpr hr)
  | alt r s ihr ihs =>
    unfold deriv
    rw [matches_orElse, ihr bounded.1, ihs bounded.2]
    rfl
  | times r least most ih =>
    unfold deriv
    split
    · rename_i zero
      refine iff_of_false id ?_
      rintro ⟨ws, -, few, same, -⟩
      have := few 0 zero
      rw [List.length_eq_zero_iff.mp (Nat.le_zero.mp this)] at same
      cases same
    · rename_i some
      rw [matches_andThen]
      constructor
      · rintro ⟨u, v, rfl, hr, ws, enough, few, rfl, each⟩
        refine ⟨(c :: u) :: ws, by simp; omega, ?_, rfl, ?_⟩
        · intro n hn
          have := few (n - 1) (Option.mem_map_of_mem _ hn)
          cases n with
          | zero => exact absurd hn some
          | succ n => simpa using this
        · rintro x (_ | ⟨_, hx⟩)
          · exact (ih bounded.1).mp hr
          · exact each x hx
      · rintro ⟨ws, enough, few, same, each⟩
        obtain ⟨u, vs, first, others, count, rfl⟩ := flatten_eq_cons same.symm
        refine ⟨u, vs.flatten, rfl, (ih bounded.1).mpr (each _ first), vs, by omega, ?_, rfl,
          fun v hv => each v (others v hv)⟩
        intro n hn
        obtain ⟨m, hm, rfl⟩ := Option.map_eq_some_iff.mp hn
        have := few m hm
        omega

theorem accepts_iff (bounded : r.Bounded) {text : String} : r.accepts text = true ↔ r.Matches text.toList := by
  unfold accepts
  generalize text.toList = cs
  induction cs generalizing r with
  | nil => exact nullable_iff bounded
  | cons c cs ih => exact (ih (bounded_deriv c bounded)).trans (deriv_iff bounded)

end Derivatives

section Sequences

variable {rs : List Regex} {test : Char → Bool}

theorem matches_literal {cs : List Char} :
    (cs.foldr (fun c r => (chars (· == c)).andThen r) eps).Matches w ↔ w = cs := by
  induction cs generalizing w with
  | nil => rfl
  | cons c cs ih =>
    rw [List.foldr_cons, matches_andThen]
    simp only [Matches, ih]
    constructor
    · rintro ⟨u, v, rfl, ⟨d, rfl, same⟩, rfl⟩
      rw [beq_iff_eq.mp same]
      rfl
    · rintro rfl
      exact ⟨[c], cs, rfl, ⟨c, rfl, beq_self_eq_true c⟩, rfl⟩

@[simp]
theorem bounded_chars : (chars test).Bounded := trivial

@[simp]
theorem bounded_lit {text : String} : (lit text).Bounded := by
  unfold lit
  induction text.toList with
  | nil => exact trivial
  | cons c cs ih => exact bounded_andThen bounded_chars ih

theorem bounded_cat (each : ∀ r ∈ rs, r.Bounded) : (cat rs).Bounded := by
  induction rs with
  | nil => exact trivial
  | cons r rs ih =>
    exact bounded_andThen (each r List.mem_cons_self) (ih fun s hs => each s (List.mem_cons_of_mem _ hs))

theorem bounded_oneOf (each : ∀ r ∈ rs, r.Bounded) : (oneOf rs).Bounded := by
  induction rs with
  | nil => exact trivial
  | cons r rs ih =>
    exact bounded_orElse (each r List.mem_cons_self) (ih fun s hs => each s (List.mem_cons_of_mem _ hs))

@[simp]
theorem bounded_star : (star r).Bounded ↔ r.Bounded := by simp [star, Bounded]

@[simp]
theorem bounded_plus : (plus r).Bounded ↔ r.Bounded := by simp [plus, Bounded]

theorem matches_lit {text : String} : (lit text).Matches w ↔ w = text.toList := matches_literal

theorem matches_cat_nil : (cat []).Matches w ↔ w = [] := Iff.rfl

theorem matches_cat_cons : (cat (r :: rs)).Matches w ↔ ∃ u v, w = u ++ v ∧ r.Matches u ∧ (cat rs).Matches v :=
  matches_andThen

theorem matches_oneOf : (oneOf rs).Matches w ↔ ∃ r ∈ rs, r.Matches w := by
  induction rs with
  | nil => simp [oneOf, Matches]
  | cons r rs ih =>
    rw [List.exists_mem_cons_iff, ← ih]
    exact matches_orElse

theorem matches_star : (star r).Matches w ↔ ∃ ws : List (List Char), w = ws.flatten ∧ ∀ u ∈ ws, r.Matches u := by
  simp [star, Matches]

theorem flatten_chars {ws : List (List Char)} (each : ∀ u ∈ ws, (chars test).Matches u) :
    ws.flatten.length = ws.length ∧ ∀ c ∈ ws.flatten, test c = true := by
  induction ws with
  | nil => exact ⟨rfl, fun c hc => nomatch hc⟩
  | cons u ws ih =>
    obtain ⟨c, rfl, hc⟩ := each u List.mem_cons_self
    obtain ⟨count, all⟩ := ih fun v hv => each v (List.mem_cons_of_mem _ hv)
    refine ⟨by simpa using count, ?_⟩
    rintro d (_ | ⟨_, hd⟩)
    · exact hc
    · exact all d hd

theorem matches_times_chars {least : Nat} :
    (times (chars test) least none).Matches w ↔ least ≤ w.length ∧ ∀ c ∈ w, test c = true := by
  constructor
  · rintro ⟨ws, enough, -, rfl, each⟩
    obtain ⟨count, all⟩ := flatten_chars each
    exact ⟨by omega, all⟩
  · rintro ⟨enough, all⟩
    refine ⟨w.map ([·]), by simpa using enough, fun n => nofun, ?_, ?_⟩
    · rw [← List.flatMap_def, List.flatMap_singleton']
    · intro u hu
      obtain ⟨c, hc, rfl⟩ := List.mem_map.mp hu
      exact ⟨c, rfl, all c hc⟩

theorem matches_star_chars : (star (chars test)).Matches w ↔ ∀ c ∈ w, test c = true := by
  unfold star
  rw [matches_times_chars, and_iff_right (Nat.zero_le _)]

theorem matches_plus_chars : (plus (chars test)).Matches w ↔ w ≠ [] ∧ ∀ c ∈ w, test c = true := by
  unfold plus
  rw [matches_times_chars, Nat.succ_le_iff, List.length_pos_iff]

end Sequences

section Letters

variable {p : Char → Prop}

def Over (p : Char → Prop) : Regex → Prop
  | empty | eps => True
  | chars test => ∀ c, test c = true → p c
  | seq r s | alt r s => r.Over p ∧ s.Over p
  | times r _ _ => r.Over p

theorem over_of_matches (inside : r.Over p) (found : r.Matches w) : ∀ c ∈ w, p c := by
  induction r generalizing w with
  | empty => exact found.elim
  | eps =>
    obtain rfl := found
    exact fun c hc => nomatch hc
  | chars test =>
    obtain ⟨d, rfl, hd⟩ := found
    intro c hc
    rw [List.mem_singleton.mp hc]
    exact inside d hd
  | seq r s ihr ihs =>
    obtain ⟨u, v, rfl, hr, hs⟩ := found
    intro c hc
    rcases List.mem_append.mp hc with hu | hv
    · exact ihr inside.1 hr c hu
    · exact ihs inside.2 hs c hv
  | alt r s ihr ihs =>
    rcases found with hr | hs
    · exact ihr inside.1 hr
    · exact ihs inside.2 hs
  | times r least most ih =>
    obtain ⟨ws, -, -, rfl, each⟩ := found
    intro c hc
    obtain ⟨u, hu, inner⟩ := List.mem_flatten.mp hc
    exact ih inside (each u hu) c inner

theorem over_andThen (hr : r.Over p) (hs : s.Over p) : (r.andThen s).Over p := by
  cases r with
  | empty => exact trivial
  | eps => exact hs
  | chars _ | seq _ _ | alt _ _ | times _ _ _ => exact ⟨hr, hs⟩

theorem over_lit {text : String} (each : ∀ c ∈ text.toList, p c) : (lit text).Over p := by
  unfold lit
  revert each
  generalize text.toList = cs
  induction cs with
  | nil => exact fun _ => trivial
  | cons c cs ih =>
    intro each
    rw [List.foldr_cons]
    refine over_andThen ?_ (ih fun d hd => each d (List.mem_cons_of_mem _ hd))
    intro d same
    rw [beq_iff_eq.mp same]
    exact each c List.mem_cons_self

theorem over_cat {rs : List Regex} (each : ∀ r ∈ rs, r.Over p) : (cat rs).Over p := by
  induction rs with
  | nil => exact trivial
  | cons r rs ih =>
    exact over_andThen (each r List.mem_cons_self) (ih fun s hs => each s (List.mem_cons_of_mem _ hs))

end Letters

end Provisr.Foundation.Regex
