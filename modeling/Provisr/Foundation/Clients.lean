import Provisr.Foundation.Transcripts
import Mathlib.Data.Set.Disjoint
import Mathlib.Data.Set.BooleanAlgebra
import Mathlib.Order.CompletePartialOrder
import Mathlib.Data.List.Induction

namespace Provisr.Foundation

inductive Part where
  | opens
  | statement
  | commits
  | rollsBack
  | outside
  deriving DecidableEq

structure Tx (κ ω : Type) where
  held : Set κ
  writes : List ω

-- Programs that open transactions under READ COMMITTED, one at a time, and do other things beside.
structure Service (Call : Type) {Op : Type} (Ret : Op → Type) (κ δ ω α : Type) where
  apply : ω → δ → δ
  part : Op → Part
  locks : Op → δ → Set κ
  exec : (o : Op) → (seen : δ) → Ret o → List ω → Prop
  succeeds : (o : Op) → Ret o → Prop
  program : Call → Prog Ret α

structure Client (Call : Type) {Op : Type} (Ret : Op → Type) (κ ω α : Type) where
  call : Call
  seen : List (Obs Ret)
  tx : Option (Tx κ ω)
  rest : Prog Ret α

structure System (Call : Type) {Op : Type} (Ret : Op → Type) (κ δ ω α : Type) where
  committed : δ
  clients : List (Client Call Ret κ ω α)

def heldBy {κ ω : Type} : Option (Tx κ ω) → Set κ
  | none => ∅
  | some t => t.held

def since {Op : Type} {Ret : Op → Type} (part : Op → Part) (seen : List (Obs Ret)) : List (Obs Ret) :=
  seen.foldl (fun now obs => if part obs.1 = .opens then [] else now ++ [obs]) []

section Since

variable {Op : Type} {Ret : Op → Type} {part : Op → Part} {seen : List (Obs Ret)} {obs : Obs Ret}

theorem since_append : since part (seen ++ [obs]) = if part obs.1 = .opens then [] else since part seen ++ [obs] := by
  simp [since, List.foldl_append]

theorem since_opens (h : part obs.1 = .opens) : since part (seen ++ [obs]) = [] := by
  rw [since_append, if_pos h]

theorem since_other (h : part obs.1 ≠ .opens) : since part (seen ++ [obs]) = since part seen ++ [obs] := by
  rw [since_append, if_neg h]

theorem seen_of_since (h : obs ∈ since part seen) : obs ∈ seen := by
  induction seen using List.reverseRecOn with
  | nil => cases h
  | append_singleton seen last ih =>
    rw [since_append] at h
    split at h
    · cases h
    · rcases List.mem_append.mp h with h | h
      · exact List.mem_append_left _ (ih h)
      · exact List.mem_append_right _ h

end Since

namespace Service

variable {Call Op : Type} {Ret : Op → Type} {κ δ ω α : Type} (V : Service Call Ret κ δ ω α)

def view (ws : List ω) (d : δ) : δ := ws.foldl (fun d w => V.apply w d) d

@[simp] theorem view_nil (d : δ) : V.view [] d = d := rfl

@[simp] theorem view_cons (w : ω) (ws : List ω) (d : δ) : V.view (w :: ws) d = V.view ws (V.apply w d) := rfl

theorem view_append (ws vs : List ω) (d : δ) : V.view (ws ++ vs) d = V.view vs (V.view ws d) := List.foldl_append

-- One request of a client. A request that fails leaves no transaction, and its locks may be given up at once. A COMMIT
-- that is carried out may yet be reported as an error.
inductive Move (d : δ) : Option (Tx κ ω) → (o : Op) → Ret o → δ → Option (Tx κ ω) → Prop
  | opens {tx : Option (Tx κ ω)} {o : Op} {r : Ret o} (part : V.part o = .opens) (ok : V.succeeds o r) :
      Move d tx o r d (some ⟨∅, []⟩)
  | statement {t : Tx κ ω} {o : Op} {r : Ret o} {ws : List ω} (part : V.part o = .statement) (ok : V.succeeds o r)
      (run : V.exec o (V.view t.writes d) r ws) :
      Move d (some t) o r d (some ⟨t.held ∪ V.locks o (V.view t.writes d), t.writes ++ ws⟩)
  | commits {t : Tx κ ω} {o : Op} {r : Ret o} (part : V.part o = .commits) :
      Move d (some t) o r (V.view t.writes d) none
  | rollsBack {tx : Option (Tx κ ω)} {o : Op} {r : Ret o} (part : V.part o = .rollsBack) : Move d tx o r d none
  | outside {tx : Option (Tx κ ω)} {o : Op} {r : Ret o} (part : V.part o = .outside) (run : V.exec o d r []) :
      Move d tx o r d tx
  | failed {tx : Option (Tx κ ω)} {o : Op} {r : Ret o} (part : V.part o ≠ .outside) (no : ¬ V.succeeds o r) :
      Move d tx o r d none

-- A transaction is lost when its connection breaks, whatever its client is at.
inductive Step : System Call Ret κ δ ω α → System Call Ret κ δ ω α → Prop
  | arrive (s : System Call Ret κ δ ω α) (c : Call) :
      Step s ⟨s.committed, s.clients ++ [⟨c, [], none, V.program c⟩]⟩
  | request (s : System Call Ret κ δ ω α) (i : Nat) (c : Client Call Ret κ ω α) (o : Op) (k : Ret o → Prog Ret α)
      (r : Ret o) (d : δ) (tx : Option (Tx κ ω)) (client : s.clients[i]? = some c) (next : c.rest = .op o k)
      (move : V.Move s.committed c.tx o r d tx)
      (free : ∀ j u, s.clients[j]? = some u → j ≠ i → Disjoint (heldBy tx) (heldBy u.tx)) :
      Step s ⟨d, s.clients.set i ⟨c.call, c.seen ++ [⟨o, r⟩], tx, k r⟩⟩
  | lost (s : System Call Ret κ δ ω α) (i : Nat) (c : Client Call Ret κ ω α) (client : s.clients[i]? = some c) :
      Step s ⟨s.committed, s.clients.set i ⟨c.call, c.seen, none, c.rest⟩⟩

abbrev Steps := Relation.ReflTransGen V.Step

def Reachable (d : δ) (s : System Call Ret κ δ ω α) : Prop := V.Steps ⟨d, []⟩ s

-- What is owed at each request and what the world grants, `Knows` being what a client's observations say of what is
-- committed and of its own transaction.
structure Duty where
  pre : Call → List (Obs Ret) → Op → Prop
  ok : List (Obs Ret) → (o : Op) → Ret o → Prop
  post : Call → List (Obs Ret) → α → Prop
  Inv : δ → Prop
  Knows : Call → δ → Option (Tx κ ω) → List (Obs Ret) → Prop
  knows_nil : ∀ c d, Knows c d none []
  own : ∀ {c d tx seen o r d' tx'}, Inv d → Knows c d tx seen → pre c seen o → V.Move d tx o r d' tx' →
    Inv d' ∧ ok seen o r ∧ Knows c d' tx' (seen ++ [⟨o, r⟩])
  lost : ∀ {c d tx seen}, Knows c d tx seen → Knows c d none seen
  other : ∀ {c d t seen c' tx seen' o r tx'}, Inv d → Knows c d (some t) seen → pre c seen o →
    V.part o = .commits → V.Move d (some t) o r (V.view t.writes d) tx' → Disjoint t.held (heldBy tx) →
    Knows c' d tx seen' → Knows c' (V.view t.writes d) tx seen'
  program : ∀ c, (V.program c).wp (pre c) ok (post c) []

variable {V}

theorem Move.committed {d d' : δ} {tx tx' : Option (Tx κ ω)} {o : Op} {r : Ret o} (move : V.Move d tx o r d' tx') :
    d' = d ∨ ∃ t, tx = some t ∧ V.part o = .commits ∧ d' = V.view t.writes d := by
  cases move with
  | commits part => exact .inr ⟨_, rfl, part, rfl⟩
  | opens | statement | rollsBack | outside | failed => exact .inl rfl

theorem Move.aside {d d' : δ} {tx tx' : Option (Tx κ ω)} {o : Op} {r : Ret o} (move : V.Move d tx o r d' tx')
    (part : V.part o = .outside) : V.exec o d r [] := by
  cases move with
  | opens other | statement other | commits other | rollsBack other => cases part.symm.trans other
  | outside _ run => exact run
  | failed other => exact absurd part other

namespace Duty

variable (D : V.Duty)

structure Holds (s : System Call Ret κ δ ω α) : Prop where
  inv : D.Inv s.committed
  exclusive : ∀ (i j : Nat) t u, s.clients[i]? = some t → s.clients[j]? = some u → i ≠ j →
    Disjoint (heldBy t.tx) (heldBy u.tx)
  knows : ∀ t ∈ s.clients, D.Knows t.call s.committed t.tx t.seen
  wp : ∀ t ∈ s.clients, t.rest.wp (D.pre t.call) D.ok (D.post t.call) t.seen

variable {D} {s s' : System Call Ret κ δ ω α}

theorem Holds.start {d : δ} (inv : D.Inv d) : D.Holds ⟨d, []⟩ :=
  ⟨inv, by simp, by simp, by simp⟩

theorem exclusive_set {ts : List (Client Call Ret κ ω α)} {i : Nat} {t : Client Call Ret κ ω α}
    (exclusive : ∀ (i j : Nat) t u, ts[i]? = some t → ts[j]? = some u → i ≠ j → Disjoint (heldBy t.tx) (heldBy u.tx))
    (free : ∀ (j : Nat) u, ts[j]? = some u → j ≠ i → Disjoint (heldBy t.tx) (heldBy u.tx)) :
    ∀ (j k : Nat) u v, (ts.set i t)[j]? = some u → (ts.set i t)[k]? = some v → j ≠ k →
      Disjoint (heldBy u.tx) (heldBy v.tx) := by
  intro j k u v hu hv ne
  rw [List.getElem?_set] at hu hv
  split at hu
  · rename_i hj
    split at hu
    · obtain rfl := Option.some.inj hu
      subst hj
      rw [if_neg ne] at hv
      exact free k v hv (Ne.symm ne)
    · cases hu
  · split at hv
    · rename_i hj hk
      split at hv
      · obtain rfl := Option.some.inj hv
        subst hk
        exact (free j u hu ne).symm
      · cases hv
    · exact exclusive j k u v hu hv ne

theorem Holds.step (h : D.Holds s) (step : V.Step s s') : D.Holds s' := by
  cases step with
  | arrive c =>
    refine ⟨h.inv, ?_, ?_, ?_⟩
    · intro i j t u ht hu ne
      rw [List.getElem?_append] at ht hu
      split at ht
      · split at hu
        · exact h.exclusive i j t u ht hu ne
        · rw [List.mem_singleton.mp (List.mem_of_getElem? hu)]
          exact Set.disjoint_empty _
      · rw [List.mem_singleton.mp (List.mem_of_getElem? ht)]
        exact Set.empty_disjoint _
    · intro t mem
      rcases List.mem_append.mp mem with mem | mem
      · exact h.knows t mem
      · rw [List.mem_singleton.mp mem]
        exact D.knows_nil c _
    · intro t mem
      rcases List.mem_append.mp mem with mem | mem
      · exact h.wp t mem
      · rw [List.mem_singleton.mp mem]
        exact D.program c
  | request i c o k r d tx client next move free =>
    have hc : c ∈ s.clients := List.mem_of_getElem? client
    have spec := h.wp c hc
    rw [next] at spec
    obtain ⟨inv, ok, knows⟩ := D.own h.inv (h.knows c hc) spec.1 move
    refine ⟨inv, exclusive_set h.exclusive free, ?_, ?_⟩
    · intro t mem
      obtain ⟨j, at_⟩ := List.mem_iff_getElem?.mp mem
      rw [List.getElem?_set] at at_
      split at at_
      · split at at_
        · obtain rfl := Option.some.inj at_
          exact knows
        · cases at_
      · rename_i ne
        have others := h.knows t (List.mem_of_getElem? at_)
        rcases move.committed with rfl | ⟨t', tx', part, rfl⟩
        · exact others
        · have apart := h.exclusive i j c t client at_ ne
          have own := h.knows c hc
          rw [tx'] at apart move own
          exact D.other h.inv own spec.1 part move apart others
    · intro t mem
      rcases List.mem_or_eq_of_mem_set mem with mem | rfl
      · exact h.wp t mem
      · exact spec.2 r ok
  | lost i c client =>
    have hc : c ∈ s.clients := List.mem_of_getElem? client
    refine ⟨h.inv, exclusive_set h.exclusive (fun _ _ _ _ => Set.empty_disjoint _), ?_, ?_⟩
    · intro t mem
      rcases List.mem_or_eq_of_mem_set mem with mem | rfl
      · exact h.knows t mem
      · exact D.lost (h.knows c hc)
    · intro t mem
      rcases List.mem_or_eq_of_mem_set mem with mem | rfl
      · exact h.wp t mem
      · exact h.wp c hc

theorem Holds.steps (h : D.Holds s) (steps : V.Steps s s') : D.Holds s' := by
  induction steps with
  | refl => exact h
  | tail _ step ih => exact ih.step step

variable (D) in
theorem holds_reachable {d : δ} (inv : D.Inv d) (reachable : V.Reachable d s) : D.Holds s :=
  (Holds.start inv).steps reachable

theorem Holds.late {P : Call → List (Obs Ret) → Prop} {R : δ → Prop} (start : ∀ c, P c [])
    (own : ∀ {c d tx seen o r d' tx'}, D.Inv d → D.Knows c d tx seen → D.pre c seen o → R d → P c seen →
      V.Move d tx o r d' tx' → P c (seen ++ [⟨o, r⟩]))
    (keep : ∀ {c d tx seen o r d' tx'}, D.Inv d → D.Knows c d tx seen → D.pre c seen o → R d →
      V.Move d tx o r d' tx' → R d')
    (h : D.Holds s) (now : R s.committed) (steps : V.Steps s s') :
    R s'.committed ∧ ∀ i c, s.clients.length ≤ i → s'.clients[i]? = some c → P c.call c.seen := by
  induction steps with
  | refl =>
    refine ⟨now, fun i c later client => ?_⟩
    rw [List.getElem?_eq_none later] at client
    cases client
  | tail steps step ih =>
    obtain ⟨still, late⟩ := ih
    have holds := h.steps steps
    cases step with
    | arrive c =>
      refine ⟨still, fun i c' later client => ?_⟩
      rw [List.getElem?_append] at client
      split at client
      · exact late i c' later client
      · rw [List.mem_singleton.mp (List.mem_of_getElem? client)]
        exact start c
    | request j c o k r d tx client next move free =>
      have here : c ∈ _ := List.mem_of_getElem? client
      have spec := holds.wp c here
      rw [next] at spec
      refine ⟨keep holds.inv (holds.knows c here) spec.1 still move, fun i c' later at_ => ?_⟩
      rw [List.getElem?_set] at at_
      split at at_
      · rename_i same
        subst same
        split at at_
        · obtain rfl := Option.some.inj at_
          exact own holds.inv (holds.knows c here) spec.1 still (late j c later client) move
        · cases at_
      · exact late i c' later at_
    | lost j c client =>
      refine ⟨still, fun i c' later at_ => ?_⟩
      rw [List.getElem?_set] at at_
      split at at_
      · rename_i same
        subst same
        split at at_
        · obtain rfl := Option.some.inj at_
          exact late j c later client
        · cases at_
      · exact late i c' later at_

end Duty

variable {s s' : System Call Ret κ δ ω α} {i : Nat} {c c' : Client Call Ret κ ω α}

theorem Step.client (step : V.Step s s') (client : s.clients[i]? = some c) :
    ∃ c', s'.clients[i]? = some c' ∧ c'.call = c.call ∧ c.seen <+: c'.seen := by
  have bound : i < s.clients.length := (List.getElem?_eq_some_iff.mp client).1
  cases step with
  | arrive c' => exact ⟨c, by rwa [List.getElem?_append_left bound], rfl, List.prefix_refl _⟩
  | request j u o k r d tx at_ next move free =>
    by_cases same : j = i
    · subst same
      rw [at_] at client
      obtain rfl := Option.some.inj client
      exact ⟨_, List.getElem?_set_self bound, rfl, List.prefix_append _ _⟩
    · exact ⟨c, (List.getElem?_set_ne same).trans client, rfl, List.prefix_refl _⟩
  | lost j u at_ =>
    by_cases same : j = i
    · subst same
      rw [at_] at client
      obtain rfl := Option.some.inj client
      exact ⟨_, List.getElem?_set_self bound, rfl, List.prefix_refl _⟩
    · exact ⟨c, (List.getElem?_set_ne same).trans client, rfl, List.prefix_refl _⟩

theorem Steps.client (steps : V.Steps s s') (client : s.clients[i]? = some c) :
    ∃ c', s'.clients[i]? = some c' ∧ c'.call = c.call ∧ c.seen <+: c'.seen := by
  induction steps with
  | refl => exact ⟨c, client, rfl, List.prefix_refl _⟩
  | tail _ step ih =>
    obtain ⟨u, at_, same, before⟩ := ih
    obtain ⟨v, at_', same', before'⟩ := step.client at_
    exact ⟨v, at_', same'.trans same, before.trans before'⟩

theorem Reachable.transcripts {d : δ} (reachable : V.Reachable d s) :
    ∀ c ∈ s.clients, Transcript (V.program c.call) c.seen c.rest := by
  induction reachable with
  | refl => exact fun c mem => absurd mem List.not_mem_nil
  | tail _ step ih =>
    intro c mem
    cases step with
    | arrive call =>
      rcases List.mem_append.mp mem with mem | mem
      · exact ih c mem
      · exact List.mem_singleton.mp mem ▸ .start _
    | request i u o k r d tx client next =>
      rcases List.mem_or_eq_of_mem_set mem with mem | rfl
      · exact ih c mem
      · have before := ih u (List.mem_of_getElem? client)
        rw [next] at before
        exact before.further r
    | lost i u client =>
      rcases List.mem_or_eq_of_mem_set mem with mem | rfl
      · exact ih c mem
      · exact ih u (List.mem_of_getElem? client)

theorem Step.moved (step : V.Step s s') (client : s.clients[i]? = some c) (after : s'.clients[i]? = some c')
    (saw : c'.seen ≠ c.seen) : ∃ o k r tx, c.rest = .op o k ∧ V.Move s.committed c.tx o r s'.committed tx ∧
      c' = ⟨c.call, c.seen ++ [⟨o, r⟩], tx, k r⟩ := by
  have bound : i < s.clients.length := (List.getElem?_eq_some_iff.mp client).1
  cases step with
  | arrive u =>
    rw [List.getElem?_append_left bound, client] at after
    exact absurd (congrArg Client.seen (Option.some.inj after)).symm saw
  | request j u o k r d tx at_ next move free =>
    by_cases same : j = i
    · subst same
      rw [at_] at client
      obtain rfl := Option.some.inj client
      exact ⟨o, k, r, tx, next, move, (Option.some.inj ((List.getElem?_set_self bound).symm.trans after)).symm⟩
    · rw [List.getElem?_set_ne same, client] at after
      exact absurd (congrArg Client.seen (Option.some.inj after)).symm saw
  | lost j u at_ =>
    by_cases same : j = i
    · subst same
      rw [at_] at client
      obtain rfl := Option.some.inj client
      exact absurd (congrArg Client.seen (Option.some.inj ((List.getElem?_set_self bound).symm.trans after))).symm saw
    · rw [List.getElem?_set_ne same, client] at after
      exact absurd (congrArg Client.seen (Option.some.inj after)).symm saw

inductive Moves : δ → Option (Tx κ ω) → List (Obs Ret) → δ → Option (Tx κ ω) → Prop
  | done (d : δ) (tx : Option (Tx κ ω)) : Moves d tx [] d tx
  | next {d d' d'' : δ} {tx tx' tx'' : Option (Tx κ ω)} {o : Op} {r : Ret o} {seen : List (Obs Ret)}
      (move : V.Move d tx o r d' tx') (rest : Moves d' tx' seen d'' tx'') : Moves d tx (⟨o, r⟩ :: seen) d'' tx''

theorem Moves.append {d d' d'' : δ} {tx tx' tx'' : Option (Tx κ ω)} {seen more : List (Obs Ret)}
    (first : V.Moves d tx seen d' tx') (then_ : V.Moves d' tx' more d'' tx'') :
    V.Moves d tx (seen ++ more) d'' tx'' := by
  induction first with
  | done => exact then_
  | next move _ ih => exact .next move (ih then_)

theorem steps_alone {seen : List (Obs Ret)} {p q : Prog Ret α} {d : δ} {tx : Option (Tx κ ω)} {call : Call}
    {before : List (Obs Ret)} {own : Option (Tx κ ω)} (ran : Transcript p seen q)
    (client : s.clients[i]? = some ⟨call, before, own, p⟩)
    (others : ∀ j u, s.clients[j]? = some u → j ≠ i → heldBy u.tx = ∅) (moves : V.Moves s.committed own seen d tx) :
    V.Steps s ⟨d, s.clients.set i ⟨call, before ++ seen, tx, q⟩⟩ := by
  induction ran generalizing s before own with
  | start p =>
    cases moves
    have same : s.clients.set i ⟨call, before ++ [], tx, p⟩ = s.clients := by
      rw [List.append_nil]
      refine List.ext_getElem? fun j => ?_
      rw [List.getElem?_set]
      split
      · rename_i at_
        subst at_
        rw [client, if_pos (List.getElem?_eq_some_iff.mp client).1]
      · rfl
    rw [same]
  | @reply o k r seen q next ih =>
    cases moves with
    | @next _ d' _ _ tx' _ _ _ _ move rest =>
      have bound : i < s.clients.length := (List.getElem?_eq_some_iff.mp client).1
      have step : V.Step s ⟨d', s.clients.set i ⟨call, before ++ [⟨o, r⟩], tx', k r⟩⟩ := by
        refine .request s i _ o k r d' tx' client rfl move fun j u at_ ne => ?_
        rw [others j u at_ ne]
        exact Set.disjoint_empty _
      have later := ih (s := ⟨d', s.clients.set i ⟨call, before ++ [⟨o, r⟩], tx', k r⟩⟩)
        (List.getElem?_set_self bound) (fun j u at_ ne => others j u ((List.getElem?_set_ne (Ne.symm ne)).symm.trans at_) ne)
        rest
      rw [List.set_set, List.append_assoc] at later
      exact .head step later

theorem reachable_alone {seen : List (Obs Ret)} {q : Prog Ret α} {d d' : δ} {tx : Option (Tx κ ω)} {call : Call}
    (ran : Transcript (V.program call) seen q) (moves : V.Moves d none seen d' tx) :
    V.Reachable d ⟨d', [⟨call, seen, tx, q⟩]⟩ := by
  have arrived : V.Reachable d ⟨d, [⟨call, [], none, V.program call⟩]⟩ := .single (Step.arrive ⟨d, []⟩ call)
  refine arrived.trans (steps_alone (s := ⟨d, [⟨call, [], none, V.program call⟩]⟩) (i := 0) ran rfl ?_ moves)
  rintro (_ | j) u at_ ne
  · exact absurd rfl ne
  · cases at_

end Service

end Provisr.Foundation
