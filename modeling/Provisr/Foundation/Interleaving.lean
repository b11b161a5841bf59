import Mathlib.Data.List.Basic
import Mathlib.Logic.Relation

namespace Provisr.Foundation

-- A program is a tree of requests to its environment: each request is one atomic step of the
-- shared world (one SQL statement, one whole transaction, one HTTP exchange), and between two
-- requests any other task may run.
inductive Prog {Op : Type} (Ret : Op → Type) (α : Type) : Type where
  | pure (a : α)
  | op (o : Op) (k : Ret o → Prog Ret α)

abbrev Obs {Op : Type} (Ret : Op → Type) := (o : Op) × Ret o

namespace Prog

variable {Op : Type} {Ret : Op → Type} {α β : Type}

def bind : Prog Ret α → (α → Prog Ret β) → Prog Ret β
  | .pure a, f => f a
  | .op o k, f => .op o (fun r => (k r).bind f)

instance : Monad (Prog Ret) where
  pure := .pure
  bind := .bind

def call (o : Op) : Prog Ret (Ret o) := .op o .pure

@[simp] theorem pure_bind (a : α) (f : α → Prog Ret β) : (Prog.pure a >>= f) = f a := rfl

@[simp] theorem op_bind (o : Op) (k : Ret o → Prog Ret α) (f : α → Prog Ret β) :
    (Prog.op o k >>= f) = .op o (fun r => k r >>= f) := rfl

@[simp] theorem call_bind (o : Op) (f : Ret o → Prog Ret β) :
    ((Prog.call o : Prog Ret (Ret o)) >>= f) = .op o f := rfl

theorem bind_pure_eq (p : Prog Ret α) : (p >>= Prog.pure) = p := by
  induction p with
  | pure a => rfl
  | op o k ih =>
    rw [op_bind]
    exact congrArg (Prog.op o) (funext ih)

theorem bind_bind (p : Prog Ret α) (f : α → Prog Ret β) {γ : Type} (g : β → Prog Ret γ) :
    ((p >>= f) >>= g) = p >>= fun a => f a >>= g := by
  induction p with
  | pure a => rfl
  | op o k ih =>
    simp only [op_bind]
    exact congrArg (Prog.op o) (funext ih)

instance : LawfulMonad (Prog Ret) :=
  LawfulMonad.mk' (Prog Ret) (fun p => bind_pure_eq p) (fun _ _ => rfl)
    (fun p f g => bind_bind p f g)

def All (P : Op → Prop) : Prog Ret α → Prop
  | .pure _ => True
  | .op o k => P o ∧ ∀ r, (k r).All P

theorem All.mono {P P' : Op → Prop} {p : Prog Ret α} (h : p.All P) (weaken : ∀ o, P o → P' o) : p.All P' := by
  induction p with
  | pure a => trivial
  | op o k ih => exact ⟨weaken o h.1, fun r => ih r (h.2 r)⟩

theorem All.of_bind {P : Op → Prop} {p : Prog Ret α} {f : α → Prog Ret β} (all : (p >>= f).All P) : p.All P := by
  induction p with
  | pure a => trivial
  | op o k ih => exact ⟨all.1, fun r => ih r (all.2 r)⟩

theorem All.bind {P : Op → Prop} {p : Prog Ret α} {f : α → Prog Ret β} (first : p.All P) (rest : ∀ a, (f a).All P) :
    (p >>= f).All P := by
  induction p with
  | pure a => exact rest a
  | op o k ih => exact ⟨first.1, fun r => ih r (first.2 r)⟩

def within {Op' : Type} {Ret' : Op' → Type} (embed : (o : Op') → (Ret' o → Prog Ret β) → Prog Ret β) :
    Prog Ret' α → (α → Prog Ret β) → Prog Ret β
  | .pure a, next => next a
  | .op o k, next => embed o fun r => within embed (k r) next

def orEnd {ε : Type} {Answer : Op → Type} (failure : ε → α) (o : Op)
    (next : Answer o → Prog (fun o => Except ε (Answer o)) α) : Prog (fun o => Except ε (Answer o)) α :=
  .op o fun
    | .ok a => next a
    | .error e => .pure (failure e)

def Ends (P : α → Prop) : Prog Ret α → Prop
  | .pure a => P a
  | .op _ k => ∀ r, (k r).Ends P

-- Weakest precondition over what the task itself has seen: `pre` is owed at every request,
-- `ok` is what the world grants about the reply.
variable (pre : List (Obs Ret) → Op → Prop) (ok : List (Obs Ret) → (o : Op) → Ret o → Prop)

def wp : Prog Ret α → (List (Obs Ret) → α → Prop) → List (Obs Ret) → Prop
  | .pure a, Q, seen => Q seen a
  | .op o k, Q, seen => pre seen o ∧ ∀ r, ok seen o r → (k r).wp Q (seen ++ [⟨o, r⟩])

variable {pre ok}

@[simp] theorem wp_pure (a : α) (Q : List (Obs Ret) → α → Prop) (seen : List (Obs Ret)) :
    (Prog.pure a).wp pre ok Q seen ↔ Q seen a := Iff.rfl

@[simp] theorem wp_op (o : Op) (k : Ret o → Prog Ret α) (Q : List (Obs Ret) → α → Prop)
    (seen : List (Obs Ret)) :
    (Prog.op o k).wp pre ok Q seen ↔
      pre seen o ∧ ∀ r, ok seen o r → (k r).wp pre ok Q (seen ++ [⟨o, r⟩]) := Iff.rfl

theorem wp_bind (p : Prog Ret α) (f : α → Prog Ret β) (Q : List (Obs Ret) → β → Prop)
    (seen : List (Obs Ret)) :
    (p >>= f).wp pre ok Q seen ↔ p.wp pre ok (fun seen' a => (f a).wp pre ok Q seen') seen := by
  induction p generalizing seen with
  | pure a => rfl
  | op o k ih => simp only [op_bind, wp_op, ih]

theorem wp_mono {p : Prog Ret α} {Q Q' : List (Obs Ret) → α → Prop} {seen : List (Obs Ret)}
    (h : p.wp pre ok Q seen) (hQ : ∀ seen' a, seen <+: seen' → Q seen' a → Q' seen' a) :
    p.wp pre ok Q' seen := by
  induction p generalizing seen with
  | pure a => exact hQ seen a (List.prefix_refl seen) h
  | op o k ih =>
    refine ⟨h.1, fun r hr => ih r (h.2 r hr) ?_⟩
    intro seen' a hp
    exact hQ seen' a ((List.prefix_append seen _).trans hp)

theorem wp_and {pre' : List (Obs Ret) → Op → Prop} {p : Prog Ret α} {Q Q' : List (Obs Ret) → α → Prop}
    {seen : List (Obs Ret)} (h : p.wp pre ok Q seen) (h' : p.wp pre' ok Q' seen) :
    p.wp (fun s o => pre s o ∧ pre' s o) ok (fun s a => Q s a ∧ Q' s a) seen := by
  induction p generalizing seen with
  | pure a => exact ⟨h, h'⟩
  | op o k ih => exact ⟨⟨h.1, h'.1⟩, fun r hr => ih r (h.2 r hr) (h'.2 r hr)⟩

theorem wp_of_all {P : Op → Prop} {p : Prog Ret α} (all : p.All P) (owed : ∀ seen o, P o → pre seen o)
    (seen : List (Obs Ret)) : p.wp pre ok (fun _ _ => True) seen := by
  induction p generalizing seen with
  | pure a => trivial
  | op o k ih => exact ⟨owed seen o all.1, fun r _ => ih r (all.2 r) _⟩

theorem wp_trivial (p : Prog Ret α) (seen : List (Obs Ret)) :
    p.wp (fun _ _ => True) ok (fun _ _ => True) seen := by
  induction p generalizing seen with
  | pure a => trivial
  | op o k ih => exact ⟨trivial, fun r _ => ih r _⟩

section Runs

variable {σ : Type}

inductive Runs (exec : (o : Op) → σ → Ret o → σ → Prop) {α : Type} : σ → Prog Ret α → σ → α → Prop
  | pure (s : σ) (a : α) : Runs exec s (.pure a) s a
  | request {s s' s'' : σ} {o : Op} {k : Ret o → Prog Ret α} {a : α} (r : Ret o)
      (run : exec o s r s') (rest : Runs exec s' (k r) s'' a) : Runs exec s (.op o k) s'' a

inductive Halts (exec : (o : Op) → σ → Ret o → σ → Prop) {α : Type} (P : Prog Ret α → Prop) :
    σ → Prog Ret α → σ → Prop
  | here (s : σ) (p : Prog Ret α) (left : P p) : Halts exec P s p s
  | request {s s' s'' : σ} {o : Op} {k : Ret o → Prog Ret α} (r : Ret o)
      (run : exec o s r s') (rest : Halts exec P s' (k r) s'') : Halts exec P s (.op o k) s''

variable {exec exec' : (o : Op) → σ → Ret o → σ → Prop} {s s' : σ}

theorem runs_pure {a b : α} : Runs exec s (.pure a) s' b ↔ s' = s ∧ b = a := by
  constructor
  · rintro ⟨⟩
    exact ⟨rfl, rfl⟩
  · rintro ⟨rfl, rfl⟩
    exact .pure _ _

theorem runs_op {o : Op} {k : Ret o → Prog Ret α} {a : α} :
    Runs exec s (.op o k) s' a ↔ ∃ r t, exec o s r t ∧ Runs exec t (k r) s' a := by
  constructor
  · rintro ⟨⟩
    rename_i t r run rest
    exact ⟨r, t, run, rest⟩
  · rintro ⟨r, t, run, rest⟩
    exact .request r run rest

theorem runs_bind {p : Prog Ret α} {f : α → Prog Ret β} {b : β} :
    Runs exec s (p >>= f) s' b ↔ ∃ t a, Runs exec s p t a ∧ Runs exec t (f a) s' b := by
  induction p generalizing s with
  | pure a =>
    rw [pure_bind]
    constructor
    · exact fun h => ⟨s, a, .pure _ _, h⟩
    · rintro ⟨t, c, h, rest⟩
      obtain ⟨rfl, rfl⟩ := runs_pure.mp h
      exact rest
  | op o k ih =>
    simp only [op_bind, runs_op, ih]
    constructor
    · rintro ⟨r, t, run, u, a, first, rest⟩
      exact ⟨u, a, ⟨r, t, run, first⟩, rest⟩
    · rintro ⟨u, a, ⟨r, t, run, first⟩, rest⟩
      exact ⟨r, t, run, u, a, first, rest⟩

theorem Runs.halts {p : Prog Ret α} {a : α} (h : Runs exec s p s' a) : Halts exec (· = .pure a) s p s' := by
  induction h with
  | pure s a => exact .here s _ rfl
  | request r run _ ih => exact .request r run ih

end Runs

end Prog

-- Tasks of a pool run concurrently. A crashed task is one that is never scheduled again.
structure Task (Call : Type) {Op : Type} (Ret : Op → Type) (α : Type) where
  call : Call
  seen : List (Obs Ret)
  rest : Prog Ret α

structure Pool (σ Call : Type) {Op : Type} (Ret : Op → Type) (α : Type) where
  shared : σ
  tasks : List (Task Call Ret α)

-- What tasks are made of and what one request may do to the shared world.
structure Environment (σ Call : Type) {Op : Type} (Ret : Op → Type) (α : Type) where
  program : Call → Prog Ret α
  exec : (o : Op) → σ → Ret o → σ → Prop
  ambient : σ → σ → Prop

-- The same moves, as long as G holds of the world.
def Environment.within {σ Call Op : Type} {Ret : Op → Type} {α : Type} (env : Environment σ Call Ret α)
    (G : σ → Prop) : Environment σ Call Ret α where
  program := env.program
  exec o s r s' := env.exec o s r s' ∧ G s'
  ambient s s' := env.ambient s s' ∧ G s'

namespace Pool

variable {σ Call Op : Type} {Ret : Op → Type} {α : Type}

inductive Step (env : Environment σ Call Ret α) : Pool σ Call Ret α → Pool σ Call Ret α → Prop
  | spawn (s : σ) (ts : List (Task Call Ret α)) (c : Call) :
      Step env ⟨s, ts⟩ ⟨s, ts ++ [⟨c, [], env.program c⟩]⟩
  | request (s s' : σ) (ts : List (Task Call Ret α)) (i : Nat) (c : Call)
      (seen : List (Obs Ret)) (o : Op) (k : Ret o → Prog Ret α) (r : Ret o)
      (task : ts[i]? = some ⟨c, seen, .op o k⟩) (run : env.exec o s r s') :
      Step env ⟨s, ts⟩ ⟨s', ts.set i ⟨c, seen ++ [⟨o, r⟩], k r⟩⟩
  | ambient (s s' : σ) (ts : List (Task Call Ret α)) (move : env.ambient s s') :
      Step env ⟨s, ts⟩ ⟨s', ts⟩

abbrev Steps (env : Environment σ Call Ret α) := Relation.ReflTransGen (Step env)

def Reachable (env : Environment σ Call Ret α) (start : σ) (c : Pool σ Call Ret α) : Prop :=
  Steps env ⟨start, []⟩ c

-- What holds at the end of a run, and held before each move if it holds after it, has held all along.
theorem Steps.within {env : Environment σ Call Ret α} {c c' : Pool σ Call Ret α} {G : σ → Prop}
    (exec : ∀ o s r s', env.exec o s r s' → G s' → G s) (ambient : ∀ s s', env.ambient s s' → G s' → G s)
    (steps : Steps env c c') (last : G c'.shared) : G c.shared ∧ Steps (env.within G) c c' := by
  induction steps using Relation.ReflTransGen.head_induction_on with
  | refl => exact ⟨last, .refl⟩
  | head step _ ih =>
    obtain ⟨held, steps⟩ := ih
    cases step with
    | spawn s ts call => exact ⟨held, .head (.spawn s ts call) steps⟩
    | request s s' ts i call seen o k r task run =>
      exact ⟨exec o s r s' run held, .head (.request s s' ts i call seen o k r task ⟨run, held⟩) steps⟩
    | ambient s s' ts move => exact ⟨ambient s s' move held, .head (.ambient s s' ts ⟨move, held⟩) steps⟩

abbrev Served (env : Environment σ Call Ret α) (s : σ) (p : Prog Ret α) (s' : σ) (a : α) : Prop :=
  Prog.Runs env.exec s p s' a

theorem Halts.steps {env : Environment σ Call Ret α} {s s' : σ} {seen : List (Obs Ret)} {p : Prog Ret α}
    {P : Prog Ret α → Prop} (h : Prog.Halts env.exec P s p s') {ts : List (Task Call Ret α)} {i : Nat} {c : Call}
    (task : ts[i]? = some ⟨c, seen, p⟩) :
    ∃ seen' q, P q ∧ Steps env ⟨s, ts⟩ ⟨s', ts.set i ⟨c, seen', q⟩⟩ := by
  induction h generalizing ts seen with
  | here s p left =>
    obtain ⟨hlt, htask⟩ := List.getElem?_eq_some_iff.mp task
    refine ⟨seen, p, left, ?_⟩
    rw [← htask, List.set_getElem_self]
  | request r run rest ih =>
    have hlt : i < ts.length := (List.getElem?_eq_some_iff.mp task).1
    obtain ⟨seen', q, left, steps⟩ := ih (List.getElem?_set_self (a := ⟨c, seen ++ [⟨_, r⟩], _⟩) hlt)
    rw [List.set_set] at steps
    exact ⟨seen', q, left, Relation.ReflTransGen.head (Step.request _ _ ts i c _ _ _ r task run) steps⟩

theorem Served.steps {env : Environment σ Call Ret α} {s s' : σ} {seen : List (Obs Ret)}
    {p : Prog Ret α} {a : α} (h : Served env s p s' a) {ts : List (Task Call Ret α)} {i : Nat}
    {c : Call} (task : ts[i]? = some ⟨c, seen, p⟩) :
    ∃ seen', Steps env ⟨s, ts⟩ ⟨s', ts.set i ⟨c, seen', .pure a⟩⟩ := by
  obtain ⟨seen', q, rfl, steps⟩ := Halts.steps (Prog.Runs.halts h) task
  exact ⟨seen', steps⟩

theorem spawned {c : Call} (env : Environment σ Call Ret α) (ts : List (Task Call Ret α)) :
    (ts ++ [⟨c, [], env.program c⟩])[ts.length]? = some ⟨c, [], env.program c⟩ := by simp

theorem Halts.call {env : Environment σ Call Ret α} {s s' : σ} {P : Prog Ret α → Prop} {c : Call}
    (h : Prog.Halts env.exec P s (env.program c) s') (ts : List (Task Call Ret α)) :
    ∃ seen q, P q ∧ Steps env ⟨s, ts⟩ ⟨s', ts ++ [⟨c, seen, q⟩]⟩ := by
  obtain ⟨seen, q, left, steps⟩ := Halts.steps h (spawned env ts)
  rw [List.set_append_right _ _ (Nat.le_refl _), Nat.sub_self] at steps
  exact ⟨seen, q, left, Relation.ReflTransGen.head (Step.spawn s ts c) steps⟩

theorem Served.call {env : Environment σ Call Ret α} {s s' : σ} {a : α} {c : Call}
    (h : Served env s (env.program c) s' a) (ts : List (Task Call Ret α)) :
    ∃ seen, Steps env ⟨s, ts⟩ ⟨s', ts ++ [⟨c, seen, .pure a⟩]⟩ := by
  obtain ⟨seen, q, rfl, steps⟩ := Halts.call (Prog.Runs.halts h) ts
  exact ⟨seen, steps⟩

-- The obligations under which an invariant of the shared world holds in every reachable pool:
-- `Knows s seen` is what the observations of a task still say about the world.
structure Discipline (env : Environment σ Call Ret α) where
  pre : Call → List (Obs Ret) → Op → Prop
  ok : List (Obs Ret) → (o : Op) → Ret o → Prop
  post : Call → List (Obs Ret) → α → Prop
  Inv : σ → Prop
  Knows : σ → List (Obs Ret) → Prop
  knows_nil : ∀ s, Knows s []
  request : ∀ {s call seen o r s'}, Inv s → Knows s seen → pre call seen o → env.exec o s r s' →
    Inv s' ∧ ok seen o r ∧ Knows s' (seen ++ [⟨o, r⟩])
  request_stable : ∀ {s call seen o r s' other}, Inv s → Knows s seen → pre call seen o →
    env.exec o s r s' → Knows s other → Knows s' other
  ambient : ∀ {s s'}, Inv s → env.ambient s s' → Inv s'
  ambient_stable : ∀ {s s' other}, Inv s → env.ambient s s' → Knows s other → Knows s' other
  program : ∀ c, (env.program c).wp (pre c) ok (post c) []

namespace Discipline

variable {env : Environment σ Call Ret α} (d : Discipline env)

structure Holds (c : Pool σ Call Ret α) : Prop where
  inv : d.Inv c.shared
  knows : ∀ t ∈ c.tasks, d.Knows c.shared t.seen
  wp : ∀ t ∈ c.tasks, t.rest.wp (d.pre t.call) d.ok (d.post t.call) t.seen

theorem holds_start {s : σ} (h : d.Inv s) : d.Holds ⟨s, []⟩ :=
  ⟨h, by simp, by simp⟩

theorem holds_step {c c' : Pool σ Call Ret α} (h : d.Holds c) (hs : Step env c c') :
    d.Holds c' := by
  cases hs with
  | spawn s ts call =>
    refine ⟨h.inv, ?_, ?_⟩
    · intro t ht
      rcases List.mem_append.mp ht with ht | ht
      · exact h.knows t ht
      · rw [List.mem_singleton.mp ht]
        exact d.knows_nil s
    · intro t ht
      rcases List.mem_append.mp ht with ht | ht
      · exact h.wp t ht
      · rw [List.mem_singleton.mp ht]
        exact d.program call
  | request s s' ts i call seen o k r task run =>
    have hmem : (⟨call, seen, .op o k⟩ : Task Call Ret α) ∈ ts := List.mem_of_getElem? task
    have hknows : d.Knows s seen := h.knows _ hmem
    obtain ⟨hpre, hk⟩ := h.wp _ hmem
    obtain ⟨hinv, hok, hnew⟩ := d.request h.inv hknows hpre run
    refine ⟨hinv, ?_, ?_⟩
    · intro t ht
      rcases List.mem_or_eq_of_mem_set ht with ht | rfl
      · exact d.request_stable h.inv hknows hpre run (h.knows t ht)
      · exact hnew
    · intro t ht
      rcases List.mem_or_eq_of_mem_set ht with ht | rfl
      · exact h.wp t ht
      · exact hk r hok
  | ambient s s' ts move =>
    exact ⟨d.ambient h.inv move, fun t ht => d.ambient_stable h.inv move (h.knows t ht), h.wp⟩

theorem holds_steps {c c' : Pool σ Call Ret α} (h : d.Holds c) (hs : Steps env c c') :
    d.Holds c' := by
  induction hs with
  | refl => exact h
  | tail _ hstep ih => exact d.holds_step ih hstep

theorem holds_reachable {start : σ} {c : Pool σ Call Ret α} (h : d.Inv start)
    (hc : Reachable env start c) : d.Holds c :=
  d.holds_steps (d.holds_start h) hc

theorem steps_invariant {P : Pool σ Call Ret α → Prop}
    (step : ∀ c c', d.Holds c → Step env c c' → P c → P c') {c c' : Pool σ Call Ret α}
    (h : d.Holds c) (hs : Steps env c c') (hp : P c) : P c' := by
  induction hs with
  | refl => exact hp
  | tail hpre hstep ih => exact step _ _ (d.holds_steps h hpre) hstep ih

end Discipline

end Pool

end Provisr.Foundation
