import Provisr.Foundation.Exceptional

namespace Provisr.Foundation

-- A program driven by replies of any kind: what it has seen, and where it stands then.
inductive Transcript {Op : Type} {Ret : Op → Type} {α : Type} : Prog Ret α → List (Obs Ret) → Prog Ret α → Prop
  | start (p : Prog Ret α) : Transcript p [] p
  | reply {o : Op} {k : Ret o → Prog Ret α} {r : Ret o} {seen : List (Obs Ret)} {rest : Prog Ret α}
      (next : Transcript (k r) seen rest) : Transcript (.op o k) (⟨o, r⟩ :: seen) rest

namespace Transcript

variable {Op : Type} {Ret : Op → Type} {α : Type} {pre : List (Obs Ret) → Op → Prop} {given : Obs Ret → Prop}
  {p rest : Prog Ret α} {before seen : List (Obs Ret)} {Q : List (Obs Ret) → α → Prop}

theorem wp (run : Transcript p seen rest) (spec : p.wp pre (fun _ o r => given ⟨o, r⟩) Q before)
    (replies : ∀ obs ∈ seen, given obs) : rest.wp pre (fun _ o r => given ⟨o, r⟩) Q (before ++ seen) := by
  induction run generalizing before with
  | start p => rwa [List.append_nil]
  | @reply o k r seen rest next ih =>
    have later := ih (spec.2 r (replies _ List.mem_cons_self)) fun obs mem => replies obs (List.mem_cons_of_mem _ mem)
    rwa [List.append_assoc, List.singleton_append] at later

theorem result {a : α} (run : Transcript p seen (.pure a)) (spec : p.wp pre (fun _ o r => given ⟨o, r⟩) Q [])
    (replies : ∀ obs ∈ seen, given obs) : Q seen a :=
  run.wp spec replies

theorem bind {β : Type} {a : α} {f : α → Prog Ret β} {more : List (Obs Ret)} {last : Prog Ret β}
    (first : Transcript p seen (.pure a)) (next : Transcript (f a) more last) :
    Transcript (p >>= f) (seen ++ more) last := by
  generalize ended : Prog.pure a = t at first
  induction first with
  | start p =>
    subst ended
    exact next
  | reply _ ih => exact .reply (ih ended)

theorem further {o : Op} {k : Ret o → Prog Ret α} (run : Transcript p seen (.op o k)) (r : Ret o) :
    Transcript p (seen ++ [⟨o, r⟩]) (k r) := by
  generalize at_ : Prog.op o k = t at run
  induction run with
  | start p =>
    subst at_
    exact .reply (.start _)
  | reply _ ih => exact .reply (ih at_)

theorem under {β : Type} {f : α → Prog Ret β} (first : Transcript p seen rest) :
    Transcript (p >>= f) seen (rest >>= f) := by
  induction first with
  | start p => exact .start _
  | reply _ ih => exact .reply ih

section Throwing

variable {ε β : Type} {a : α}

theorem attempt {o : Op} {f : Ret o → Except ε α} {r : Ret o} (read : f r = .ok a) :
    Transcript (Async.attempt o f).run [⟨o, r⟩] (.pure (.ok a)) := by
  refine .reply ?_
  rw [read]
  exact .start _

theorem andThen {p : Async Ret ε α} {f : α → Async Ret ε β} {more : List (Obs Ret)} {last : Prog Ret (Except ε β)}
    (first : Transcript p.run seen (.pure (.ok a))) (next : Transcript (f a).run more last) :
    Transcript (p >>= f).run (seen ++ more) last := by
  rw [ExceptT.run_bind]
  exact first.bind next

end Throwing

end Transcript

end Provisr.Foundation
