import Provisr.Foundation.Transactions

namespace Provisr.Foundation.Engine

variable {Call Op : Type} {Ret : Op → Type} {κ δ ω α : Type} {E : Engine Call Ret κ δ ω α}

inductive Proceeds (E : Engine Call Ret κ δ ω α) (H : Set κ) (d : δ) :
    Nat → List ω → Prog Ret α → Nat → List ω → Prog Ret α → Prop
  | here (n : Nat) (ws : List ω) (p : Prog Ret α) : Proceeds E H d n ws p n ws p
  | op {n n' : Nat} {ws ws' : List ω} {o : Op} {k : Ret o → Prog Ret α} {p : Prog Ret α} (r : Ret o) (vs : List ω)
      (m : Nat) (among : E.locks o (E.view ws d) ⊆ H) (run : E.exec o (E.view ws d) n r vs m)
      (rest : Proceeds E H d m (ws ++ vs) (k r) n' ws' p) : Proceeds E H d n ws (.op o k) n' ws' p

variable {H : Set κ} {d : δ} {n n' : Nat} {ws ws' : List ω} {p p' : Prog Ret α}

theorem Proceeds.trans (h : E.Proceeds H d n ws p n' ws' p') {n'' : Nat} {ws'' : List ω} {p'' : Prog Ret α}
    (rest : E.Proceeds H d n' ws' p' n'' ws'' p'') : E.Proceeds H d n ws p n'' ws'' p'' := by
  induction h with
  | here => exact rest
  | op r vs m among run _ ih => exact .op r vs m among run (ih rest)

theorem Proceeds.mono (h : E.Proceeds H d n ws p n' ws' p') {H' : Set κ} (grown : H ⊆ H') :
    E.Proceeds H' d n ws p n' ws' p' := by
  induction h with
  | here n ws p => exact .here n ws p
  | op r vs m among run _ ih => exact .op r vs m (among.trans grown) run ih

theorem Proceeds.steps (h : E.Proceeds H d n ws p n' ws' p') {ts : List (Session Call Ret κ ω α)} {i : Nat} {c : Call}
    {held : Set κ} (session : ts[i]? = some ⟨c, held, ws, some p⟩)
    (apart : ∀ j u, ts[j]? = some u → j ≠ i → Disjoint H u.held) :
    ∃ held' ⊆ held ∪ H, E.Steps ⟨d, n, ts⟩ ⟨d, n', ts.set i ⟨c, held', ws', some p'⟩⟩ := by
  induction h generalizing held ts with
  | here n ws p =>
      refine ⟨held, Set.subset_union_left, ?_⟩
      obtain ⟨hlt, same⟩ := List.getElem?_eq_some_iff.mp session
      rw [← same, List.set_getElem_self hlt]
  | @op n n' ws ws' o k p r vs m among run rest ih =>
      have hlt := (List.getElem?_eq_some_iff.mp session).1
      have step := Step.statement (E := E) ⟨d, n, ts⟩ i _ o k r vs m session rfl
        (fun j u hu hj => (apart j u hu hj).mono_left among) run
      obtain ⟨held', among', steps⟩ := ih (List.getElem?_set_self hlt) fun j u hu hj =>
        apart j u ((List.getElem?_set_ne (Ne.symm hj)).symm.trans hu) hj
      rw [List.set_set] at steps
      refine ⟨held', among'.trans ?_, .head step steps⟩
      rw [Set.union_assoc]
      exact Set.union_subset_union_right _ (Set.union_subset among subset_rfl)

theorem Proceeds.beside (h : E.Proceeds H d n ws p n' ws' p') (done : List (Session Call Ret κ ω α))
    (ended : ∀ t ∈ done, t.held = ∅) (c : Call) (held : Set κ) :
    ∃ held' ⊆ held ∪ H, E.Steps ⟨d, n, ⟨c, held, ws, some p⟩ :: done⟩ ⟨d, n', ⟨c, held', ws', some p'⟩ :: done⟩ := by
  refine h.steps (i := 0) List.getElem?_cons_zero fun j t ht hj => ?_
  obtain ⟨j, rfl⟩ := Nat.exists_eq_succ_of_ne_zero hj
  rw [ended t (List.mem_of_getElem? ht)]
  exact Set.disjoint_empty _

theorem Proceeds.begun {s : Database Call Ret κ δ ω α} {c : Call}
    (h : E.Proceeds H s.committed s.drawn [] (E.program c) n' ws' p')
    (apart : ∀ u ∈ s.sessions, Disjoint H u.held) :
    ∃ held, E.Steps s ⟨s.committed, n', s.sessions ++ [⟨c, held, ws', some p'⟩]⟩ := by
  have session : (s.sessions ++ [⟨c, ∅, [], some (E.program c)⟩])[s.sessions.length]? =
      some ⟨c, ∅, [], some (E.program c)⟩ := List.getElem?_concat_length
  obtain ⟨held, -, steps⟩ := h.steps session fun j u hu hj => apart u (by
    have := (List.getElem?_eq_some_iff.mp hu).1
    rw [List.length_append, List.length_singleton] at this
    rw [List.getElem?_append_left (by omega)] at hu
    exact List.mem_of_getElem? hu)
  rw [List.set_append_right _ _ le_rfl, Nat.sub_self] at steps
  exact ⟨held, .head (Step.start s c) steps⟩

theorem Proceeds.committed {s : Database Call Ret κ δ ω α} {c : Call} {a : α}
    (h : E.Proceeds H s.committed s.drawn [] (E.program c) n' ws' (.pure a)) (ok : E.commits a = true)
    (apart : ∀ u ∈ s.sessions, Disjoint H u.held) :
    ∃ s' t, E.Steps s s' ∧ t.call = c ∧
      E.Commits s' ⟨E.view ws' s.committed, n', s.sessions ++ [⟨c, ∅, [], none⟩]⟩ t a := by
  obtain ⟨held, steps⟩ := h.begun apart
  refine ⟨_, ⟨c, held, ws', some (.pure a)⟩, steps, rfl, s.sessions.length, List.getElem?_concat_length, rfl, ok, ?_⟩
  rw [List.set_append_right _ _ le_rfl, Nat.sub_self]
  rfl

theorem Proceeds.commits {s : Database Call Ret κ δ ω α} {c : Call} {a : α}
    (h : E.Proceeds H s.committed s.drawn [] (E.program c) n' ws' (.pure a)) (ok : E.commits a = true)
    (apart : ∀ u ∈ s.sessions, Disjoint H u.held) :
    E.Steps s ⟨E.view ws' s.committed, n', s.sessions ++ [⟨c, ∅, [], none⟩]⟩ := by
  obtain ⟨s', t, steps, -, commit⟩ := h.committed ok apart
  exact steps.tail commit.step

end Provisr.Foundation.Engine
