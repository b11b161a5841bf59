import Provisr.Foundation.Interleaving

namespace Provisr.Foundation.Pool

-- Runs whose every request meets a condition on the world and on what its task has seen.
variable {σ Call Op : Type} {Ret : Op → Type} {α : Type}

inductive GuardedStep (env : Environment σ Call Ret α) (guard : σ → List (Obs Ret) → Op → Prop) :
    Pool σ Call Ret α → Pool σ Call Ret α → Prop
  | spawn (s : σ) (ts : List (Task Call Ret α)) (c : Call) :
      GuardedStep env guard ⟨s, ts⟩ ⟨s, ts ++ [⟨c, [], env.program c⟩]⟩
  | request (s s' : σ) (ts : List (Task Call Ret α)) (i : Nat) (c : Call) (seen : List (Obs Ret)) (o : Op)
      (k : Ret o → Prog Ret α) (r : Ret o) (task : ts[i]? = some ⟨c, seen, .op o k⟩) (run : env.exec o s r s')
      (meets : guard s seen o) :
      GuardedStep env guard ⟨s, ts⟩ ⟨s', ts.set i ⟨c, seen ++ [⟨o, r⟩], k r⟩⟩
  | ambient (s s' : σ) (ts : List (Task Call Ret α)) (move : env.ambient s s') :
      GuardedStep env guard ⟨s, ts⟩ ⟨s', ts⟩

abbrev GuardedSteps (env : Environment σ Call Ret α) (guard : σ → List (Obs Ret) → Op → Prop) :=
  Relation.ReflTransGen (GuardedStep env guard)

variable {env : Environment σ Call Ret α} {guard : σ → List (Obs Ret) → Op → Prop} {c c' : Pool σ Call Ret α}

variable {pre : Call → List (Obs Ret) → Op → Prop} {post : Call → List (Obs Ret) → α → Prop}

theorem GuardedStep.owed (step : GuardedStep env guard c c')
    (program : ∀ call, (env.program call).wp (pre call) (fun _ _ _ => True) (post call) [])
    (owed : ∀ t ∈ c.tasks, t.rest.wp (pre t.call) (fun _ _ _ => True) (post t.call) t.seen) :
    ∀ t ∈ c'.tasks, t.rest.wp (pre t.call) (fun _ _ _ => True) (post t.call) t.seen := by
  cases step with
  | spawn s ts call =>
    intro t mem
    rcases List.mem_append.mp mem with mem | mem
    · exact owed t mem
    · rw [List.mem_singleton.mp mem]
      exact program call
  | request s s' ts i call seen o k r task run meets =>
    intro t mem
    rcases List.mem_or_eq_of_mem_set mem with mem | rfl
    · exact owed t mem
    · exact (owed _ (List.mem_of_getElem? task)).2 r trivial
  | ambient s s' ts move => exact owed

theorem GuardedSteps.induct {P : Pool σ Call Ret α → Prop}
    (program : ∀ call, (env.program call).wp (pre call) (fun _ _ _ => True) (post call) [])
    (spawn : ∀ s ts call, P ⟨s, ts⟩ → P ⟨s, ts ++ [⟨call, [], env.program call⟩]⟩)
    (request : ∀ s s' ts i call seen o k r, P ⟨s, ts⟩ → ts[i]? = some ⟨call, seen, .op o k⟩ → guard s seen o →
      pre call seen o → env.exec o s r s' → P ⟨s', ts.set i ⟨call, seen ++ [⟨o, r⟩], k r⟩⟩)
    (ambient : ∀ s s' ts, env.ambient s s' → P ⟨s, ts⟩ → P ⟨s', ts⟩)
    {s : σ} (start : P ⟨s, []⟩) (run : GuardedSteps env guard ⟨s, []⟩ c) :
    P c ∧ ∀ t ∈ c.tasks, t.rest.wp (pre t.call) (fun _ _ _ => True) (post t.call) t.seen := by
  induction run with
  | refl => exact ⟨start, nofun⟩
  | tail _ step ih =>
    refine ⟨?_, step.owed program ih.2⟩
    cases step with
    | spawn s ts call => exact spawn s ts call ih.1
    | request s s' ts i call seen o k r task run meets =>
      exact request s s' ts i call seen o k r ih.1 task meets (ih.2 _ (List.mem_of_getElem? task)).1 run
    | ambient s s' ts move => exact ambient s s' ts move ih.1

def Grown (ts ts' : List (Task Call Ret α)) : Prop := ∀ t ∈ ts, ∃ t' ∈ ts', t'.call = t.call ∧ t.seen ⊆ t'.seen

variable {ts : List (Task Call Ret α)} {i : Nat} {call : Call} {seen : List (Obs Ret)} {p p' : Prog Ret α} {x : Obs Ret}

theorem grown_spawn (t : Task Call Ret α) : Grown ts (ts ++ [t]) :=
  fun t' mem => ⟨t', List.mem_append_left _ mem, rfl, List.Subset.refl _⟩

theorem grown_request (task : ts[i]? = some ⟨call, seen, p⟩) : Grown ts (ts.set i ⟨call, seen ++ [x], p'⟩) := by
  intro t mem
  obtain ⟨j, lt, here⟩ := List.mem_iff_getElem.mp mem
  by_cases same : i = j
  · subst same
    rw [List.getElem?_eq_getElem lt, here] at task
    obtain rfl := Option.some.inj task
    exact ⟨_, List.mem_set lt _, rfl, List.subset_append_left _ _⟩
  · refine ⟨t, List.mem_iff_getElem.mpr ⟨j, ?_, ?_⟩, rfl, List.Subset.refl _⟩
    · rw [List.length_set]
      exact lt
    · rw [List.getElem_set_ne same, here]

theorem flatMap_set_perm {β : Type} {f : Task Call Ret α → List β} {t u : Task Call Ret α} {d : List β}
    (task : ts[i]? = some t) (more : f u = f t ++ d) : ((ts.set i u).flatMap f).Perm (ts.flatMap f ++ d) := by
  induction ts generalizing i with
  | nil => cases task
  | cons v ts ih =>
    cases i with
    | zero =>
      obtain rfl := Option.some.inj task
      rw [List.set_cons_zero, List.flatMap_cons, List.flatMap_cons, more, List.append_assoc, List.append_assoc]
      exact List.perm_append_comm.append_left _
    | succ i =>
      rw [List.set_cons_succ, List.flatMap_cons, List.flatMap_cons, List.append_assoc]
      exact (ih (i := i) task).append_left _

end Provisr.Foundation.Pool
