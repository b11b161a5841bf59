import Provisr.Foundation.UnderLocks

namespace Provisr.Foundation

theorem Prog.next_ne {Op : Type} {Ret : Op → Type} {α : Type} {p : Prog Ret α} :
    ∀ {o : Op} {k : Ret o → Prog Ret α} (r : Ret o), p = .op o k → k r ≠ p := by
  induction p with
  | pure a => nofun
  | op o k ih =>
      intro o' k' r same next
      cases same
      exact ih r r next rfl

variable {Call Op : Type} {Ret : Op → Type} {κ δ ω α β π : Type}

namespace Engine

def restrict (E : Engine Call Ret κ δ ω α) (ok : (o : Op) → δ → Ret o → Prop) : Engine Call Ret κ δ ω α :=
  { E with exec := fun o d n r ws n' => E.exec o d n r ws n' ∧ ok o d r }

variable {E : Engine Call Ret κ δ ω α} {ok : (o : Op) → δ → Ret o → Prop}

theorem Step.of_restrict {s s' : Database Call Ret κ δ ω α} (step : (E.restrict ok).Step s s') : E.Step s s' := by
  cases step with
  | start c => exact .start s c
  | statement i t o k r ws n session next free run => exact .statement s i t o k r ws n session next free run.1
  | commit i t a session done committed => exact .commit s i t a session done committed
  | rollback i t session => exact .rollback s i t session

theorem Steps.of_restrict {s s' : Database Call Ret κ δ ω α} (steps : (E.restrict ok).Steps s s') : E.Steps s s' := by
  induction steps with
  | refl => exact .refl
  | tail _ last ih => exact ih.tail last.of_restrict

theorem Commits.of_restrict {s s' : Database Call Ret κ δ ω α} {t : Session Call Ret κ ω α} {a : α}
    (commit : (E.restrict ok).Commits s s' t a) : E.Commits s s' t a := commit

theorem Step.allowed {s s' : Database Call Ret κ δ ω α} (step : (E.restrict ok).Step s s') {i : Nat}
    {t t' : Session Call Ret κ ω α} {o : Op} {k : Ret o → Prog Ret α} {r : Ret o} (session : s.sessions[i]? = some t)
    (next : t.rest = some (.op o k)) (session' : s'.sessions[i]? = some t') (next' : t'.rest = some (k r)) :
    ∃ r', ok o (E.view t.writes s.committed) r' := by
  have unmoved : t' ≠ t := by
    rintro rfl
    exact Prog.next_ne r rfl (Option.some.inj (next'.symm.trans next))
  have hlt := (List.getElem?_eq_some_iff.mp session).1
  cases step with
  | start c =>
      rw [List.getElem?_append_left hlt, session] at session'
      exact absurd (Option.some.inj session').symm unmoved
  | statement j u o' k' r' ws n other next'' free run =>
      by_cases own : j = i
      · subst own
        obtain rfl := Option.some.inj (other.symm.trans session)
        cases Option.some.inj (next''.symm.trans next)
        exact ⟨r', run.2⟩
      · rw [List.getElem?_set_ne own, session] at session'
        exact absurd (Option.some.inj session').symm unmoved
  | commit j u a other done committed =>
      by_cases own : j = i
      · subst own
        obtain rfl := Option.some.inj (other.symm.trans session)
        cases done.symm.trans next
      · rw [List.getElem?_set_ne own, session] at session'
        exact absurd (Option.some.inj session').symm unmoved
  | rollback j u other =>
      by_cases own : j = i
      · subst own
        rw [List.getElem?_set_self hlt] at session'
        cases Option.some.inj session'
        cases next'
      · rw [List.getElem?_set_ne own, session] at session'
        exact absurd (Option.some.inj session').symm unmoved

theorem Step.restrict {s s' : Database Call Ret κ δ ω α} (step : E.Step s s')
    (allowed : ∀ (i : Nat) (t t' : Session Call Ret κ ω α) (o : Op) (k : Ret o → Prog Ret α) (r : Ret o) (ws : List ω) (n : Nat),
      s.sessions[i]? = some t → t.rest = some (.op o k) → E.exec o (E.view t.writes s.committed) s.drawn r ws n →
      s'.sessions[i]? = some t' → t'.rest = some (k r) → ok o (E.view t.writes s.committed) r) :
    (E.restrict ok).Step s s' := by
  cases step with
  | start c => exact .start s c
  | statement i t o k r ws n session next free run =>
      have moved := List.getElem?_set_self (List.getElem?_eq_some_iff.mp session).1
        (a := (⟨t.call, t.held ∪ E.locks o (E.view t.writes s.committed), t.writes ++ ws, some (k r)⟩ :
          Session Call Ret κ ω α))
      exact .statement s i t o k r ws n session next free ⟨run, allowed i t _ o k r ws n session next run moved rfl⟩
  | commit i t a session done committed => exact .commit s i t a session done committed
  | rollback i t session => exact .rollback s i t session

theorem Steps.restrict {C : Database Call Ret κ δ ω α → Database Call Ret κ δ ω α → Prop}
    (step : ∀ s s', E.Step s s' → C s s' → (E.restrict ok).Step s s') {s s' : Database Call Ret κ δ ω α}
    (steps : Relation.ReflTransGen (fun a b => E.Step a b ∧ C a b) s s') : (E.restrict ok).Steps s s' := by
  induction steps with
  | refl => exact .refl
  | tail _ last ih => exact ih.tail (step _ _ last.1 last.2)

theorem Steps.restrict_of_forall (all : ∀ o d r, ok o d r) {s s' : Database Call Ret κ δ ω α} (steps : E.Steps s s') :
    (E.restrict ok).Steps s s' := by
  induction steps with
  | refl => exact .refl
  | tail _ last ih => exact ih.tail (last.restrict fun _ _ _ o _ r _ _ _ _ _ _ _ => all o _ r)

end Engine

variable {E : Engine Call Ret κ δ ω α} {ok : (o : Op) → δ → Ret o → Prop}

def Protection.restrict (G : Protection E π) (ok : (o : Op) → δ → Ret o → Prop) : Protection (E.restrict ok) π where
  part := G.part
  touches := G.touches
  part_apply := G.part_apply
  part_untouched := G.part_untouched
  Kept := G.Kept
  mono := G.mono

theorem Protection.wp_restrict {G : Protection E π} {Q : β → Set κ → δ → Nat → Prop} {p : Prog Ret β} {held : Set κ}
    {d : δ} {n : Nat} (h : G.wp Q p held d n) : (G.restrict ok).wp Q p held d n := by
  induction p generalizing held d n with
  | pure a => exact h
  | op o k ih =>
      intro d' n' rely le kept r ws n'' run
      obtain ⟨le', touched, rest⟩ := h d' n' rely le kept r ws n'' run.1
      exact ⟨le', touched, ih r rest⟩

def Locking.restrict (L : Locking E π) (ok : (o : Op) → δ → Ret o → Prop) : Locking (E.restrict ok) π where
  toProtection := L.toProtection.restrict ok
  Post := L.Post
  commits := L.commits
  program c d n := Protection.wp_restrict (L.program c d n)

def Engine.Growing.restrict (G : Engine.Growing E) (ok : (o : Op) → δ → Ret o → Prop) :
    Engine.Growing (E.restrict ok) where
  grows := G.grows
  refl := G.refl
  trans := G.trans
  apply := G.apply

end Provisr.Foundation
