import Provisr.Foundation.Interleaving

namespace Provisr.Foundation.Pool

-- Tasks that begin after some point of a run, beside those that were under way at that point.
variable {σ Call Op : Type} {Ret : Op → Type} {α : Type} {env : Environment σ Call Ret α}
  {c c' : Pool σ Call Ret α}

theorem Step.task (step : Step env c c') {i : Nat} {t : Task Call Ret α} (after : c'.tasks[i]? = some t) :
    c.tasks[i]? = some t ∨ c.tasks.length ≤ i ∧ t.seen = [] ∨
      ∃ call seen o k r, c.tasks[i]? = some ⟨call, seen, .op o k⟩ ∧ env.exec o c.shared r c'.shared ∧
        t = ⟨call, seen ++ [⟨o, r⟩], k r⟩ := by
  cases step with
  | spawn s ts call =>
    rcases Nat.lt_or_ge i ts.length with lt | le
    · exact .inl (by rwa [List.getElem?_append_left lt] at after)
    · rw [List.getElem?_append_right le] at after
      rw [List.mem_singleton.mp (List.mem_of_getElem? after)]
      exact .inr (.inl ⟨le, rfl⟩)
  | request s s' ts j call seen o k r task run =>
    by_cases same : j = i
    · subst same
      rw [List.getElem?_set_self (List.getElem?_eq_some_iff.mp task).1] at after
      exact .inr (.inr ⟨call, seen, o, k, r, task, run, (Option.some.inj after).symm⟩)
    · rw [List.getElem?_set_ne same] at after
      exact .inl after
  | ambient s s' ts move => exact .inl after

theorem Step.call (step : Step env c c') {i : Nat} {t : Task Call Ret α} (before : c.tasks[i]? = some t) :
    ∃ t', c'.tasks[i]? = some t' ∧ t'.call = t.call := by
  have lt := (List.getElem?_eq_some_iff.mp before).1
  cases step with
  | spawn s ts call => exact ⟨t, by rwa [List.getElem?_append_left lt], rfl⟩
  | request s s' ts j call seen o k r task run =>
    by_cases same : j = i
    · subst same
      obtain rfl := Option.some.inj (task.symm.trans before)
      exact ⟨_, List.getElem?_set_self lt, rfl⟩
    · exact ⟨t, by rwa [List.getElem?_set_ne same], rfl⟩
  | ambient s s' ts move => exact ⟨t, before, rfl⟩

theorem Steps.call (steps : Steps env c c') {i : Nat} {t : Task Call Ret α} (before : c.tasks[i]? = some t) :
    ∃ t', c'.tasks[i]? = some t' ∧ t'.call = t.call := by
  induction steps with
  | refl => exact ⟨t, before, rfl⟩
  | tail _ step ih =>
    obtain ⟨t₁, at₁, same₁⟩ := ih
    obtain ⟨t₂, at₂, same₂⟩ := step.call at₁
    exact ⟨t₂, at₂, same₂.trans same₁⟩

namespace Discipline

variable (d : Discipline env) {R : σ → Prop} {P : List (Obs Ret) → Prop}

-- What the world keeps from that point on, and what each request tells a late task.
theorem late_step (start : P [])
    (request : ∀ {s call seen o r s'}, d.Inv s → d.Knows s seen → d.pre call seen o → env.exec o s r s' → R s →
      R s' ∧ (P seen → P (seen ++ [⟨o, r⟩])))
    (ambient : ∀ {s s'}, d.Inv s → env.ambient s s' → R s → R s') {place : Nat} (holds : d.Holds c)
    (step : Step env c c') (late : R c.shared ∧ ∀ i t, place ≤ i → c.tasks[i]? = some t → P t.seen) :
    R c'.shared ∧ ∀ i t, place ≤ i → c'.tasks[i]? = some t → P t.seen := by
  constructor
  · cases step with
    | spawn s ts call => exact late.1
    | request s s' ts i call seen o k r task run =>
      have mem := List.mem_of_getElem? task
      exact (request holds.inv (holds.knows _ mem) (holds.wp _ mem).1 run late.1).1
    | ambient s s' ts move => exact ambient holds.inv move late.1
  · intro i t le after
    rcases step.task after with before | ⟨-, fresh⟩ | ⟨call, seen, o, k, r, task, run, rfl⟩
    · exact late.2 i t le before
    · rw [fresh]
      exact start
    · have mem := List.mem_of_getElem? task
      exact (request holds.inv (holds.knows _ mem) (holds.wp _ mem).1 run late.1).2 (late.2 i _ le task)

theorem late_steps (start : P [])
    (request : ∀ {s call seen o r s'}, d.Inv s → d.Knows s seen → d.pre call seen o → env.exec o s r s' → R s →
      R s' ∧ (P seen → P (seen ++ [⟨o, r⟩])))
    (ambient : ∀ {s s'}, d.Inv s → env.ambient s s' → R s → R s') (holds : d.Holds c) (steps : Steps env c c')
    (now : R c.shared) :
    R c'.shared ∧ ∀ i t, c.tasks.length ≤ i → c'.tasks[i]? = some t → P t.seen := by
  induction steps with
  | refl =>
    refine ⟨now, fun i t le after => ?_⟩
    have := (List.getElem?_eq_some_iff.mp after).1
    omega
  | tail before step ih => exact d.late_step start request ambient (d.holds_steps holds before) step ih

end Discipline

end Provisr.Foundation.Pool
