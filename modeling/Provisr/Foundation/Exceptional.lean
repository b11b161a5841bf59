import Provisr.Foundation.Interleaving
import Mathlib.Data.List.Forall2

namespace Provisr.Foundation

theorem except_bind_ok {ε α β : Type} {x : Except ε α} {f : α → Except ε β} {b : β} :
    (x >>= f) = .ok b ↔ ∃ a, x = .ok a ∧ f a = .ok b := by
  cases x <;> simp [bind, Except.bind]

theorem mapM_ok_iff {ε α β : Type} {f : α → Except ε β} {P : β → Prop} {xs : List α} :
    (∃ ys, xs.mapM f = .ok ys ∧ ∀ y ∈ ys, P y) ↔ ∀ x ∈ xs, ∃ y, f x = .ok y ∧ P y := by
  induction xs with
  | nil => simp [pure, Except.pure]
  | cons x xs ih =>
    rw [List.forall_mem_cons, ← ih]
    simp only [List.mapM_cons, except_bind_ok]
    constructor
    · rintro ⟨ys, ⟨y, head, zs, tail, same⟩, all⟩
      obtain rfl := Except.ok.inj same
      rw [List.forall_mem_cons] at all
      exact ⟨⟨y, head, all.1⟩, zs, tail, all.2⟩
    · rintro ⟨⟨y, head, first⟩, zs, tail, rest⟩
      exact ⟨y :: zs, ⟨y, head, zs, tail, rfl⟩, List.forall_mem_cons.mpr ⟨first, rest⟩⟩

theorem mapM_ok_length {ε α β : Type} {f : α → Except ε β} {xs : List α} {ys : List β} (run : xs.mapM f = .ok ys) :
    ys.length = xs.length := by
  induction xs generalizing ys with
  | nil =>
    cases run
    rfl
  | cons x xs ih =>
    rw [List.mapM_cons] at run
    obtain ⟨y, -, rest⟩ := except_bind_ok.mp run
    obtain ⟨zs, tail, same⟩ := except_bind_ok.mp rest
    obtain rfl := Except.ok.inj same
    rw [List.length_cons, List.length_cons, ih tail]

theorem mapM_ok_forall₂ {ε α β : Type} {f : α → Except ε β} {xs : List α} {ys : List β} :
    xs.mapM f = .ok ys ↔ List.Forall₂ (fun x y => f x = .ok y) xs ys := by
  induction xs generalizing ys with
  | nil => simp [pure, Except.pure, eq_comm, List.forall₂_nil_left_iff]
  | cons x xs ih =>
    rw [List.mapM_cons, except_bind_ok]
    constructor
    · rintro ⟨y, head, rest⟩
      obtain ⟨zs, tail, same⟩ := except_bind_ok.mp rest
      obtain rfl := Except.ok.inj same
      exact .cons head (ih.mp tail)
    · rintro (_ | ⟨head, tail⟩)
      exact ⟨_, head, except_bind_ok.mpr ⟨_, ih.mpr tail, rfl⟩⟩

abbrev Async {Op : Type} (Ret : Op → Type) (ε α : Type) := ExceptT ε (Prog Ret) α

namespace Async

variable {Op : Type} {Ret : Op → Type} {ε δ α β : Type}

def ofExcept (r : Except ε α) : Async Ret ε α := ExceptT.mk (Prog.pure r)

-- A request that cannot throw, and one whose reply is the outcome of the call.
def ask (o : Op) : Async Ret ε (Ret o) := ExceptT.mk (Prog.op o fun r => Prog.pure (Except.ok r))

def attempt (o : Op) (outcome : Ret o → Except ε α) : Async Ret ε α :=
  ExceptT.mk (Prog.op o fun r => Prog.pure (outcome r))

theorem ofExcept_ok (a : α) : (ofExcept (.ok a) : Async Ret ε α) = pure a := rfl

-- The exceptions of `p`, each with what `f` adds to it.
def relabel (f : ε → δ) (p : Async Ret ε α) : Async Ret δ α :=
  ExceptT.mk (p.run >>= fun r => Prog.pure (r.mapError f))

def handle (p : Async Ret ε α) (h : ε → Async Ret δ α) : Async Ret δ α :=
  ExceptT.mk (p.run >>= fun r => match r with
    | .ok a => Prog.pure (.ok a)
    | .error e => (h e).run)

-- `try { ... } finally { ... }`: what the last block throws replaces what the first one threw.
def finally_ (p : Async Ret ε α) (last : Async Ret ε Unit) : Async Ret ε α :=
  ExceptT.mk (p.run >>= fun r => last.run >>= fun l => match l with
    | .ok _ => Prog.pure r
    | .error e => Prog.pure (.error e))

section Wp

variable (pre : List (Obs Ret) → Op → Prop) (ok : List (Obs Ret) → (o : Op) → Ret o → Prop)

def outcome (Q : List (Obs Ret) → α → Prop) (E : List (Obs Ret) → ε → Prop)
    (seen : List (Obs Ret)) : Except ε α → Prop
  | .ok a => Q seen a
  | .error e => E seen e

def wp (p : Async Ret ε α) (Q : List (Obs Ret) → α → Prop) (E : List (Obs Ret) → ε → Prop)
    (seen : List (Obs Ret)) : Prop :=
  p.run.wp pre ok (outcome Q E) seen

variable {pre ok} {Q : List (Obs Ret) → α → Prop} {E : List (Obs Ret) → ε → Prop}
  {seen : List (Obs Ret)}

@[simp] theorem outcome_ok (a : α) : outcome Q E seen (.ok a) ↔ Q seen a := Iff.rfl

@[simp] theorem outcome_error (e : ε) : outcome Q E seen (.error e) ↔ E seen e := Iff.rfl

@[simp] theorem wp_pure (a : α) : wp pre ok (pure a : Async Ret ε α) Q E seen ↔ Q seen a := Iff.rfl

@[simp] theorem wp_throw (e : ε) : wp pre ok (throw e : Async Ret ε α) Q E seen ↔ E seen e := Iff.rfl

@[simp] theorem wp_ofExcept (r : Except ε α) :
    wp pre ok (ofExcept r : Async Ret ε α) Q E seen ↔ outcome Q E seen r := Iff.rfl

@[simp] theorem wp_ask (o : Op) {Q : List (Obs Ret) → Ret o → Prop} :
    wp pre ok (ask o : Async Ret ε (Ret o)) Q E seen ↔
      pre seen o ∧ ∀ r, ok seen o r → Q (seen ++ [⟨o, r⟩]) r := Iff.rfl

@[simp] theorem wp_attempt (o : Op) (f : Ret o → Except ε α) :
    wp pre ok (attempt o f) Q E seen ↔
      pre seen o ∧ ∀ r, ok seen o r → outcome Q E (seen ++ [⟨o, r⟩]) (f r) := Iff.rfl

@[simp] theorem wp_bind (p : Async Ret ε α) (f : α → Async Ret ε β) {Q : List (Obs Ret) → β → Prop} :
    wp pre ok (p >>= f) Q E seen ↔ wp pre ok p (fun s a => wp pre ok (f a) Q E s) E seen := by
  unfold wp
  rw [ExceptT.run_bind, Prog.wp_bind]
  refine ⟨fun h => Prog.wp_mono h ?_, fun h => Prog.wp_mono h ?_⟩ <;>
  · intro s r _ hr
    cases r with
    | ok a => exact hr
    | error e => exact hr

@[simp] theorem wp_map (p : Async Ret ε α) (f : α → β) {Q : List (Obs Ret) → β → Prop} :
    wp pre ok (f <$> p) Q E seen ↔ wp pre ok p (fun s a => Q s (f a)) E seen := by
  rw [map_eq_pure_bind, wp_bind]
  rfl

@[simp] theorem wp_lift (p : Prog Ret α) :
    wp pre ok (ExceptT.lift p : Async Ret ε α) Q E seen ↔ p.wp pre ok Q seen := by
  change (p >>= fun a => Prog.pure (Except.ok a)).wp pre ok (outcome Q E) seen ↔ _
  rw [Prog.wp_bind]
  rfl

@[simp] theorem wp_relabel (p : Async Ret ε α) (f : ε → δ) {E : List (Obs Ret) → δ → Prop} :
    wp pre ok (relabel f p) Q E seen ↔ wp pre ok p Q (fun s e => E s (f e)) seen := by
  change (p.run >>= fun r => Prog.pure (r.mapError f)).wp pre ok (outcome Q E) seen ↔ _
  rw [Prog.wp_bind]
  refine ⟨fun h => Prog.wp_mono h ?_, fun h => Prog.wp_mono h ?_⟩ <;>
  · intro s r _ hr
    cases r with
    | ok a => exact hr
    | error e => exact hr

@[simp] theorem wp_handle (p : Async Ret ε α) (h : ε → Async Ret δ α) {E : List (Obs Ret) → δ → Prop} :
    wp pre ok (handle p h) Q E seen ↔ wp pre ok p Q (fun s e => wp pre ok (h e) Q E s) seen := by
  unfold wp handle
  rw [ExceptT.run_mk, Prog.wp_bind]
  refine ⟨fun h => Prog.wp_mono h ?_, fun h => Prog.wp_mono h ?_⟩ <;>
  · intro s r _ hr
    cases r with
    | ok a => exact hr
    | error e => exact hr

@[simp] theorem wp_finally (p : Async Ret ε α) (last : Async Ret ε Unit) :
    wp pre ok (finally_ p last) Q E seen ↔
      wp pre ok p (fun s a => wp pre ok last (fun s' _ => Q s' a) E s)
        (fun s e => wp pre ok last (fun s' _ => E s' e) E s) seen := by
  unfold wp finally_
  rw [ExceptT.run_mk, Prog.wp_bind]
  have key : ∀ s (r : Except ε α), Prog.wp pre ok (last.run >>= fun l => match l with
        | .ok _ => Prog.pure r
        | .error e => Prog.pure (.error e)) (outcome Q E) s ↔
      outcome (fun s a => wp pre ok last (fun s' _ => Q s' a) E s)
        (fun s e => wp pre ok last (fun s' _ => E s' e) E s) s r := by
    intro s r
    rw [Prog.wp_bind]
    cases r <;>
    · refine ⟨fun h => Prog.wp_mono h ?_, fun h => Prog.wp_mono h ?_⟩ <;>
      · intro s' l _ hl
        cases l <;> exact hl
  exact ⟨fun h => Prog.wp_mono h fun s r _ => (key s r).mp,
    fun h => Prog.wp_mono h fun s r _ => (key s r).mpr⟩

theorem wp_mono {p : Async Ret ε α} {Q' : List (Obs Ret) → α → Prop} {E' : List (Obs Ret) → ε → Prop}
    (h : wp pre ok p Q E seen) (hQ : ∀ s a, seen <+: s → Q s a → Q' s a)
    (hE : ∀ s e, seen <+: s → E s e → E' s e) : wp pre ok p Q' E' seen := by
  refine Prog.wp_mono h ?_
  intro s r hs hr
  cases r with
  | ok a => exact hQ s a hs hr
  | error e => exact hE s e hs hr

end Wp

section Requests

variable {P P' : Op → Prop}

structure All (P : Op → Prop) (p : Async Ret ε α) : Prop where
  run : p.run.All P

theorem All.mono {p : Async Ret ε α} (h : All P p) (weaken : ∀ o, P o → P' o) : All P' p := ⟨h.run.mono weaken⟩

theorem all_pure {a : α} : All P (pure a : Async Ret ε α) := ⟨trivial⟩

theorem all_throw {e : ε} : All P (throw e : Async Ret ε α) := ⟨trivial⟩

theorem all_ofExcept {r : Except ε α} : All P (ofExcept r : Async Ret ε α) := ⟨trivial⟩

theorem all_ask {o : Op} (own : P o) : All P (ask o : Async Ret ε (Ret o)) := ⟨own, fun _ => trivial⟩

theorem all_attempt {o : Op} {f : Ret o → Except ε α} (own : P o) : All P (attempt o f) := ⟨own, fun _ => trivial⟩

theorem all_bind {p : Async Ret ε α} {f : α → Async Ret ε β} (first : All P p) (rest : ∀ a, All P (f a)) :
    All P (p >>= f) := by
  refine ⟨Prog.All.bind first.run fun r => ?_⟩
  cases r with
  | ok a => exact (rest a).run
  | error e => trivial

theorem all_finally {p : Async Ret ε α} {last : Async Ret ε Unit} (first : All P p) (then_ : All P last) :
    All P (finally_ p last) := by
  refine ⟨Prog.All.bind first.run fun r => Prog.All.bind then_.run fun l => ?_⟩
  cases l <;> trivial

theorem All.wp {pre : List (Obs Ret) → Op → Prop} {ok : List (Obs Ret) → (o : Op) → Ret o → Prop} {p : Async Ret ε α}
    (h : All P p) (owed : ∀ seen o, P o → pre seen o) (seen : List (Obs Ret)) :
    Async.wp pre ok p (fun _ _ => True) (fun _ _ => True) seen := by
  refine Prog.wp_mono (Prog.wp_of_all h.run owed seen) fun s r _ _ => ?_
  cases r <;> trivial

end Requests

section Runs

variable {σ : Type} {exec : (o : Op) → σ → Ret o → σ → Prop} {s s' : σ}

variable (exec) in
def Runs (s : σ) (p : Async Ret ε α) (s' : σ) (r : Except ε α) : Prop := Prog.Runs exec s p.run s' r

def After (next : σ → α → σ → Except ε β → Prop) (t : σ) (x : Except ε α) (s' : σ) (r : Except ε β) : Prop :=
  match x with
  | .ok a => next t a s' r
  | .error e => s' = t ∧ r = .error e

@[simp] theorem after_ok (next : σ → α → σ → Except ε β → Prop) (t : σ) (a : α) (r : Except ε β) :
    After next t (.ok a) s' r ↔ next t a s' r := Iff.rfl

@[simp] theorem after_error (next : σ → α → σ → Except ε β → Prop) (t : σ) (e : ε) (r : Except ε β) :
    After next t (.error e) s' r ↔ s' = t ∧ r = .error e := Iff.rfl

theorem runs_pure {a : α} {r : Except ε α} :
    Runs exec s (pure a : Async Ret ε α) s' r ↔ s' = s ∧ r = .ok a := Prog.runs_pure

theorem runs_ofExcept {x r : Except ε α} :
    Runs exec s (ofExcept x : Async Ret ε α) s' r ↔ s' = s ∧ r = x := Prog.runs_pure

theorem runs_bind {p : Async Ret ε α} {f : α → Async Ret ε β} {r : Except ε β} :
    Runs exec s (p >>= f) s' r ↔
      ∃ t x, Runs exec s p t x ∧ After (fun t a s' r => Runs exec t (f a) s' r) t x s' r := by
  unfold Runs
  rw [ExceptT.run_bind, Prog.runs_bind]
  refine exists_congr fun t => exists_congr fun x => and_congr_right fun _ => ?_
  cases x with
  | ok a => rfl
  | error e => exact Prog.runs_pure

theorem runs_map {p : Async Ret ε α} {f : α → β} {r : Except ε β} :
    Runs exec s (f <$> p) s' r ↔ ∃ x, Runs exec s p s' x ∧ r = x.map f := by
  rw [map_eq_pure_bind, runs_bind]
  constructor
  · rintro ⟨t, x, h, rest⟩
    cases x with
    | ok a =>
      obtain ⟨rfl, rfl⟩ := runs_pure.mp rest
      exact ⟨_, h, rfl⟩
    | error e =>
      obtain ⟨rfl, rfl⟩ := rest
      exact ⟨_, h, rfl⟩
  · rintro ⟨x, h, rfl⟩
    cases x with
    | ok a => exact ⟨s', _, h, runs_pure.mpr ⟨rfl, rfl⟩⟩
    | error e => exact ⟨s', _, h, rfl, rfl⟩

end Runs

end Async

end Provisr.Foundation
