import Provisr.Foundation.Interleaving
import Mathlib.Data.Set.Basic
import Mathlib.Order.CompletePartialOrder
import Mathlib.Data.Set.BooleanAlgebra
import Mathlib.Order.Disjoint
import Mathlib.Data.Set.Disjoint

namespace Provisr.Foundation

-- A database under READ COMMITTED. A statement sees what is committed at that moment with the writes of
-- its own transaction on it, waits for the locks it takes, and keeps them to the end of the transaction.
-- What it draws from a sequence is drawn for good. `commits` tells a result that ends in COMMIT.
structure Engine (Call : Type) {Op : Type} (Ret : Op → Type) (κ δ ω α : Type) where
  apply : ω → δ → δ
  locks : Op → δ → Set κ
  exec : (o : Op) → (seen : δ) → (drawn : Nat) → Ret o → List ω → (drawn' : Nat) → Prop
  program : Call → Prog Ret α
  commits : α → Bool

-- A transaction: `rest` is absent once it has ended.
structure Session (Call : Type) {Op : Type} (Ret : Op → Type) (κ ω α : Type) where
  call : Call
  held : Set κ
  writes : List ω
  rest : Option (Prog Ret α)

structure Database (Call : Type) {Op : Type} (Ret : Op → Type) (κ δ ω α : Type) where
  committed : δ
  drawn : Nat
  sessions : List (Session Call Ret κ ω α)

namespace Engine

variable {Call Op : Type} {Ret : Op → Type} {κ δ ω α β π : Type} (E : Engine Call Ret κ δ ω α)

def view (ws : List ω) (d : δ) : δ := ws.foldl (fun d w => E.apply w d) d

@[simp] theorem view_nil (d : δ) : E.view [] d = d := rfl

@[simp] theorem view_cons (w : ω) (ws : List ω) (d : δ) : E.view (w :: ws) d = E.view ws (E.apply w d) := rfl

theorem view_append (ws vs : List ω) (d : δ) : E.view (ws ++ vs) d = E.view vs (E.view ws d) :=
  List.foldl_append

def ended (t : Session Call Ret κ ω α) : Session Call Ret κ ω α := ⟨t.call, ∅, [], none⟩

inductive Step : Database Call Ret κ δ ω α → Database Call Ret κ δ ω α → Prop
  | start (s : Database Call Ret κ δ ω α) (c : Call) :
      Step s ⟨s.committed, s.drawn, s.sessions ++ [⟨c, ∅, [], some (E.program c)⟩]⟩
  | statement (s : Database Call Ret κ δ ω α) (i : Nat) (t : Session Call Ret κ ω α) (o : Op)
      (k : Ret o → Prog Ret α) (r : Ret o) (ws : List ω) (n : Nat) (session : s.sessions[i]? = some t)
      (next : t.rest = some (.op o k))
      (free : ∀ j u, s.sessions[j]? = some u → j ≠ i →
        Disjoint (E.locks o (E.view t.writes s.committed)) u.held)
      (run : E.exec o (E.view t.writes s.committed) s.drawn r ws n) :
      Step s ⟨s.committed, n, s.sessions.set i
        ⟨t.call, t.held ∪ E.locks o (E.view t.writes s.committed), t.writes ++ ws, some (k r)⟩⟩
  | commit (s : Database Call Ret κ δ ω α) (i : Nat) (t : Session Call Ret κ ω α) (a : α)
      (session : s.sessions[i]? = some t) (done : t.rest = some (.pure a)) (ok : E.commits a = true) :
      Step s ⟨E.view t.writes s.committed, s.drawn, s.sessions.set i (ended t)⟩
  | rollback (s : Database Call Ret κ δ ω α) (i : Nat) (t : Session Call Ret κ ω α)
      (session : s.sessions[i]? = some t) : Step s ⟨s.committed, s.drawn, s.sessions.set i (ended t)⟩

abbrev Steps := Relation.ReflTransGen E.Step

def Reachable (d : δ) (n : Nat) (s : Database Call Ret κ δ ω α) : Prop := E.Steps ⟨d, n, []⟩ s

def Commits (s s' : Database Call Ret κ δ ω α) (t : Session Call Ret κ ω α) (a : α) : Prop :=
  ∃ i : Nat, s.sessions[i]? = some t ∧ t.rest = some (.pure a) ∧ E.commits a = true ∧
    s' = ⟨E.view t.writes s.committed, s.drawn, s.sessions.set i (ended t)⟩

inductive Executes (d : δ) : Nat → List ω → Prog Ret α → Nat → List ω → α → Prop
  | pure (n : Nat) (ws : List ω) (a : α) : Executes d n ws (.pure a) n ws a
  | op {n n' : Nat} {ws ws' : List ω} {o : Op} {k : Ret o → Prog Ret α} {a : α} (r : Ret o) (vs : List ω)
      (m : Nat) (run : E.exec o (E.view ws d) n r vs m) (rest : Executes d m (ws ++ vs) (k r) n' ws' a) :
      Executes d n ws (.op o k) n' ws' a

variable {E}

theorem Commits.step {s s' : Database Call Ret κ δ ω α} {t : Session Call Ret κ ω α} {a : α}
    (h : E.Commits s s' t a) : E.Step s s' := by
  obtain ⟨i, session, done, ok, rfl⟩ := h
  exact .commit s i t a session done ok

theorem Step.discarded {s s' : Database Call Ret κ δ ω α} (step : E.Step s s') {i : Nat} {t : Session Call Ret κ ω α}
    {a : α} (session : s.sessions[i]? = some t) (done : t.rest = some (.pure a)) (never : E.commits a = false)
    (closed : s'.sessions[i]? = some (ended t)) : s'.committed = s.committed := by
  cases step with
  | start | statement | rollback => rfl
  | commit j u b session' done' ok =>
    have other : i ≠ j := by
      rintro rfl
      obtain rfl := Option.some.inj (session.symm.trans session')
      obtain rfl := Prog.pure.inj (Option.some.inj (done.symm.trans done'))
      exact Bool.false_ne_true (never.symm.trans ok)
    rw [List.getElem?_set_ne other.symm, session] at closed
    rw [Option.some.inj closed] at done
    cases done

theorem Executes.resumes {d : δ} {n n' : Nat} {ws ws' : List ω} {p : Prog Ret α} {a : α}
    (h : E.Executes d n ws p n' ws' a) {ts : List (Session Call Ret κ ω α)} {i : Nat} {c : Call} {held : Set κ}
    (session : ts[i]? = some ⟨c, held, ws, some p⟩) (idle : ∀ j u, ts[j]? = some u → j ≠ i → u.held = ∅) :
    ∃ held', E.Steps ⟨d, n, ts⟩ ⟨d, n', ts.set i ⟨c, held', ws', some (.pure a)⟩⟩ := by
  induction h generalizing ts held with
  | pure n ws a =>
    obtain ⟨bound, at_⟩ := List.getElem?_eq_some_iff.mp session
    refine ⟨held, ?_⟩
    rw [← at_, List.set_getElem_self]
  | @op n n' ws ws' o k a r vs m run rest ih =>
    have bound : i < ts.length := (List.getElem?_eq_some_iff.mp session).1
    have free : ∀ j u, ts[j]? = some u → j ≠ i → Disjoint (E.locks o (E.view ws d)) u.held := by
      intro j u at_ other
      rw [idle j u at_ other]
      exact Set.disjoint_empty _
    have step := Step.statement (E := E) ⟨d, n, ts⟩ i ⟨c, held, ws, some (.op o k)⟩ o k r vs m session rfl free run
    obtain ⟨held', steps⟩ := ih (List.getElem?_set_self bound)
      fun j u at_ other => idle j u ((List.getElem?_set_ne other.symm).symm.trans at_) other
    rw [List.set_set] at steps
    exact ⟨held', .head step steps⟩

theorem others_idle {ts : List (Session Call Ret κ ω α)} {t : Session Call Ret κ ω α} (idle : ∀ u ∈ ts, u.held = ∅) :
    ∀ j u, (ts ++ [t])[j]? = some u → j ≠ ts.length → u.held = ∅ := by
  intro j u at_ other
  have bound := (List.getElem?_eq_some_iff.mp at_).1
  rw [List.length_append, List.length_singleton] at bound
  rw [List.getElem?_append_left (by omega)] at at_
  exact idle u (List.mem_of_getElem? at_)

theorem Executes.steps {d : δ} {n n' : Nat} {ws ws' : List ω} {p : Prog Ret α} {a : α}
    (h : E.Executes d n ws p n' ws' a) {ts : List (Session Call Ret κ ω α)} (idle : ∀ t ∈ ts, t.held = ∅)
    (c : Call) (held : Set κ) :
    ∃ held', E.Steps ⟨d, n, ts ++ [⟨c, held, ws, some p⟩]⟩ ⟨d, n', ts ++ [⟨c, held', ws', some (.pure a)⟩]⟩ := by
  obtain ⟨held', steps⟩ := h.resumes List.getElem?_concat_length (others_idle idle)
  rw [List.set_append_right _ _ le_rfl, Nat.sub_self] at steps
  exact ⟨held', steps⟩

theorem Executes.ends {d : δ} {n n' : Nat} {ws ws' : List ω} {p : Prog Ret α} {a : α}
    (h : E.Executes d n ws p n' ws' a) (ok : E.commits a = true) {ts : List (Session Call Ret κ ω α)} {i : Nat} {c : Call}
    {held : Set κ} (session : ts[i]? = some ⟨c, held, ws, some p⟩) (idle : ∀ j u, ts[j]? = some u → j ≠ i → u.held = ∅) :
    E.Steps ⟨d, n, ts⟩ ⟨E.view ws' d, n', ts.set i ⟨c, ∅, [], none⟩⟩ := by
  obtain ⟨held', steps⟩ := h.resumes session idle
  have bound : i < ts.length := (List.getElem?_eq_some_iff.mp session).1
  have step := Step.commit (E := E) ⟨d, n', ts.set i ⟨c, held', ws', some (.pure a)⟩⟩ i ⟨c, held', ws', some (.pure a)⟩ a
    (List.getElem?_set_self bound) rfl ok
  simp only [List.set_set] at step
  exact steps.tail step

theorem Executes.commits {s : Database Call Ret κ δ ω α} {n : Nat} {ws : List ω} {a : α} {c : Call}
    (h : E.Executes s.committed s.drawn [] (E.program c) n ws a) (ok : E.commits a = true)
    (idle : ∀ t ∈ s.sessions, t.held = ∅) :
    E.Steps s ⟨E.view ws s.committed, n, s.sessions ++ [⟨c, ∅, [], none⟩]⟩ := by
  have started : (s.sessions ++ [⟨c, ∅, [], some (E.program c)⟩])[s.sessions.length]? =
      some ⟨c, ∅, [], some (E.program c)⟩ := List.getElem?_concat_length
  have ends := h.ends ok started (others_idle idle)
  rw [List.set_append_right _ _ le_rfl, Nat.sub_self] at ends
  exact .head (Step.start s c) ends

-- Where every statement has an answer, a program that nobody interrupts comes to an end.
theorem Executes.total (answers : ∀ o d n, ∃ r ws m, E.exec o d n r ws m) (p : Prog Ret α) (d : δ) (n : Nat)
    (ws : List ω) : ∃ n' ws' a, E.Executes d n ws p n' ws' a := by
  induction p generalizing n ws with
  | pure a => exact ⟨n, ws, a, .pure n ws a⟩
  | op o k ih =>
    obtain ⟨r, vs, m, run⟩ := answers o (E.view ws d) n
    obtain ⟨n', ws', a, rest⟩ := ih r m (ws ++ vs)
    exact ⟨n', ws', a, .op r vs m run rest⟩

-- What comes of a program of which nothing is locked: R says how what is committed may change between two of its
-- statements, and Q is owed of the result, the writes and the rows at the end.
def Leads (E : Engine Call Ret κ δ ω α) (R : δ → δ → Prop) (Q : β → List ω → δ → Prop) :
    δ → List ω → Prog Ret β → Prop
  | d, ws, .pure a => ∀ d', R d d' → Q a ws d'
  | d, ws, .op o k => ∀ d', R d d' → ∀ n r vs n', E.exec o (E.view ws d') n r vs n' → Leads E R Q d' (ws ++ vs) (k r)

variable {R : δ → δ → Prop} {Q : β → List ω → δ → Prop}

theorem Leads.later (trans : ∀ d d' d'', R d d' → R d' d'' → R d d'') {d d' : δ} {ws : List ω}
    {p : Prog Ret β} (h : E.Leads R Q d ws p) (grown : R d d') : E.Leads R Q d' ws p := by
  cases p with
  | pure a => exact fun d'' grown' => h d'' (trans _ _ _ grown grown')
  | op o k => exact fun d'' grown' => h d'' (trans _ _ _ grown grown')

theorem Leads.mono {S : β → List ω → δ → Prop} {d : δ} {ws : List ω} {p : Prog Ret β} (h : E.Leads R Q d ws p)
    (weaker : ∀ a ws d, Q a ws d → S a ws d) : E.Leads R S d ws p := by
  induction p generalizing d ws with
  | pure a => exact fun d' related => weaker _ _ _ (h d' related)
  | op o k ih => exact fun d' related n r vs n' run => ih r (h d' related n r vs n' run)

theorem Leads.of_forall (h : ∀ a ws d, Q a ws d) (d : δ) (ws : List ω) (p : Prog Ret β) : E.Leads R Q d ws p := by
  induction p generalizing d ws with
  | pure a => exact fun d' _ => h a ws d'
  | op o k ih => exact fun d' _ n r vs n' _ => ih r d' (ws ++ vs)

theorem Leads.of_ends {P : β → Prop} {p : Prog Ret β} (ends : p.Ends P) (h : ∀ a ws d, P a → Q a ws d) (d : δ)
    (ws : List ω) : E.Leads R Q d ws p := by
  induction p generalizing d ws with
  | pure a => exact fun d' _ => h a ws d' ends
  | op o k ih => exact fun d' _ n r vs n' _ => ih r (ends r) d' (ws ++ vs)

theorem Leads.executes {d : δ} {n n' : Nat} {ws ws' : List ω} {p : Prog Ret α} {a : α} {Q : α → List ω → δ → Prop}
    (h : E.Leads R Q d ws p) (refl : R d d) (run : E.Executes d n ws p n' ws' a) : Q a ws' d := by
  induction run with
  | pure n ws a => exact h d refl
  | op r vs m run rest ih => exact ih (h d refl _ r vs m run)

theorem Leads.orEnd {ε : Type} {Answer : Op → Type} {E : Engine Call (fun o => Except ε (Answer o)) κ δ ω α}
    {failure : ε → β} {d : δ} {ws : List ω} {o : Op} {next : Answer o → Prog (fun o => Except ε (Answer o)) β}
    (fails : ∀ e ws d, Q (failure e) ws d)
    (h : ∀ d', R d d' → ∀ n a vs n', E.exec o (E.view ws d') n (.ok a) vs n' → E.Leads R Q d' (ws ++ vs) (next a)) :
    E.Leads R Q d ws (Prog.orEnd failure o next) := by
  intro d' related n r vs n' run
  cases r with
  | error e => exact fun d'' _ => fails e _ _
  | ok a => exact h d' related n a vs n' run

theorem mem_set_call {ts : List (Session Call Ret κ ω α)} {i : Nat} {t t' u : Session Call Ret κ ω α}
    (session : ts[i]? = some t) (same : t'.call = t.call) (mem : u ∈ ts) : ∃ u' ∈ ts.set i t', u'.call = u.call := by
  obtain ⟨j, hj⟩ := List.mem_iff_getElem?.mp mem
  by_cases hij : i = j
  · subst hij
    obtain rfl := Option.some.inj (session.symm.trans hj)
    exact ⟨t', List.mem_iff_getElem?.mpr ⟨i, List.getElem?_set_self (List.getElem?_eq_some_iff.mp session).1⟩, same⟩
  · exact ⟨u, List.mem_iff_getElem?.mpr ⟨j, (List.getElem?_set_ne hij).trans hj⟩, rfl⟩

theorem Step.calls {s s' : Database Call Ret κ δ ω α} (step : E.Step s s') {allowed : Call → Prop}
    (calls : ∀ t ∈ s'.sessions, allowed t.call) : ∀ t ∈ s.sessions, allowed t.call := by
  intro u hu
  have kept : ∀ {i : Nat} {t t' : Session Call Ret κ ω α}, s.sessions[i]? = some t →
      (∀ t ∈ s.sessions.set i t', allowed t.call) → t'.call = t.call → allowed u.call := by
    intro i t t' session all same
    obtain ⟨u', hu', call⟩ := mem_set_call session same hu
    exact call ▸ all u' hu'
  cases step with
  | start c => exact calls u (List.mem_append.mpr (Or.inl hu))
  | statement i t o k r ws n session => exact kept session calls rfl
  | commit i t a session => exact kept session calls rfl
  | rollback i t session => exact kept session calls rfl

theorem Reachable.sessions {I : Session Call Ret κ ω α → Prop} (start : ∀ c, I ⟨c, ∅, [], some (E.program c)⟩)
    (closed : ∀ t : Session Call Ret κ ω α, I (ended t))
    (statement : ∀ (t : Session Call Ret κ ω α) (o : Op) (k : Ret o → Prog Ret α) (d : δ) (n : Nat) (r : Ret o)
      (ws : List ω) (n' : Nat), I t → t.rest = some (.op o k) → E.exec o d n r ws n' →
      I ⟨t.call, t.held ∪ E.locks o d, t.writes ++ ws, some (k r)⟩)
    {d : δ} {n : Nat} {s : Database Call Ret κ δ ω α} (reachable : E.Reachable d n s) : ∀ t ∈ s.sessions, I t := by
  induction reachable with
  | refl => exact fun t mem => absurd mem List.not_mem_nil
  | tail _ step ih =>
    intro t mem
    cases step with
    | start c =>
      rcases List.mem_append.mp mem with mem | mem
      · exact ih t mem
      · exact List.mem_singleton.mp mem ▸ start c
    | statement i u o k r ws n session next free run =>
      rcases List.mem_or_eq_of_mem_set mem with mem | rfl
      · exact ih t mem
      · exact statement u o k _ _ r ws n (ih u (List.mem_of_getElem? session)) next run
    | commit i u a session done ok =>
      rcases List.mem_or_eq_of_mem_set mem with mem | rfl
      · exact ih t mem
      · exact closed u
    | rollback i u session =>
      rcases List.mem_or_eq_of_mem_set mem with mem | rfl
      · exact ih t mem
      · exact closed u

def SessionLeads (E : Engine Call Ret κ δ ω α) (R : δ → δ → Prop) (Q : α → List ω → δ → Prop) (d : δ)
    (t : Session Call Ret κ ω α) : Prop :=
  ∀ p, t.rest = some p → E.Leads R Q d t.writes p

theorem SessionLeads.ended {Q : α → List ω → δ → Prop} (d : δ) (t : Session Call Ret κ ω α) :
    E.SessionLeads R Q d (ended t) := nofun

theorem SessionLeads.step {Q : α → List ω → δ → Prop} (trans : ∀ d d' d'', R d d' → R d' d'' → R d d'')
    {s s' : Database Call Ret κ δ ω α} (step : E.Step s s') (refl : R s.committed s.committed)
    (grown : R s.committed s'.committed) {i : Nat} {t : Session Call Ret κ ω α} (session : s.sessions[i]? = some t)
    (h : E.SessionLeads R Q s.committed t) :
    ∃ t', s'.sessions[i]? = some t' ∧ t'.call = t.call ∧ E.SessionLeads R Q s'.committed t' := by
  have later : E.SessionLeads R Q s'.committed t := fun p hp => (h p hp).later trans grown
  have placed : ∀ {j : Nat} {u u' : Session Call Ret κ ω α}, s.sessions[j]? = some u →
      (j = i → u'.call = u.call ∧ E.SessionLeads R Q s'.committed u') →
      ∃ t', (s.sessions.set j u')[i]? = some t' ∧ t'.call = t.call ∧ E.SessionLeads R Q s'.committed t' := by
    intro j u u' hu own
    by_cases hj : j = i
    · subst hj
      obtain rfl := Option.some.inj (session.symm.trans hu)
      obtain ⟨call, leads⟩ := own rfl
      exact ⟨u', List.getElem?_set_self (List.getElem?_eq_some_iff.mp hu).1, call, leads⟩
    · exact ⟨t, (List.getElem?_set_ne hj).trans session, rfl, later⟩
  cases step with
  | start c =>
    have hlt := (List.getElem?_eq_some_iff.mp session).1
    exact ⟨t, (List.getElem?_append_left hlt).trans session, rfl, later⟩
  | statement j u o k r ws n other next free run =>
    refine placed other fun hj => ⟨rfl, fun p hp => ?_⟩
    subst hj
    obtain rfl := Option.some.inj (session.symm.trans other)
    obtain rfl := Option.some.inj hp
    exact h _ next _ refl _ _ _ _ run
  | commit j u a other done ok => exact placed other fun _ => ⟨rfl, .ended _ u⟩
  | rollback j u other => exact placed other fun _ => ⟨rfl, .ended _ u⟩

theorem SessionLeads.steps {Q : α → List ω → δ → Prop} (trans : ∀ d d' d'', R d d' → R d' d'' → R d d'')
    {s s' : Database Call Ret κ δ ω α}
    (steps : Relation.ReflTransGen (fun a b => E.Step a b ∧ R a.committed b.committed ∧ R b.committed b.committed) s s')
    (refl : R s.committed s.committed) {i : Nat} {t : Session Call Ret κ ω α} (session : s.sessions[i]? = some t)
    (h : E.SessionLeads R Q s.committed t) :
    R s'.committed s'.committed ∧
      ∃ t', s'.sessions[i]? = some t' ∧ t'.call = t.call ∧ E.SessionLeads R Q s'.committed t' := by
  induction steps with
  | refl => exact ⟨refl, t, session, rfl, h⟩
  | tail _ step ih =>
    obtain ⟨refl', t', session', call, leads⟩ := ih
    obtain ⟨step, grown, refl''⟩ := step
    obtain ⟨u, hu, call', leads'⟩ := SessionLeads.step trans step refl' grown session' leads
    exact ⟨refl'', u, hu, call'.trans call, leads'⟩

theorem SessionLeads.all {Q : Call → α → List ω → δ → Prop} (trans : ∀ d d' d'', R d d' → R d' d'' → R d d'')
    {s s' : Database Call Ret κ δ ω α} (step : E.Step s s') (refl : R s.committed s.committed)
    (grown : R s.committed s'.committed) (program : ∀ c d, E.Leads R (Q c) d [] (E.program c))
    (h : ∀ (i : Nat) t, s.sessions[i]? = some t → E.SessionLeads R (Q t.call) s.committed t) :
    ∀ (i : Nat) t, s'.sessions[i]? = some t → E.SessionLeads R (Q t.call) s'.committed t := by
  intro i t ht
  by_cases hi : i < s.sessions.length
  · obtain ⟨t', ht', call, leads⟩ :=
      SessionLeads.step trans step refl grown (List.getElem?_eq_getElem hi) (h i _ (List.getElem?_eq_getElem hi))
    obtain rfl := Option.some.inj (ht.symm.trans ht')
    rwa [call]
  · cases step with
    | start c =>
      rw [List.getElem?_append_right (not_lt.mp hi)] at ht
      obtain rfl := List.mem_singleton.mp (List.mem_of_getElem? ht)
      intro p hp
      obtain rfl := Option.some.inj hp
      exact program c _
    | statement | commit | rollback =>
      rw [List.getElem?_eq_none (by simpa using hi)] at ht
      cases ht

-- A run after every step of which P holds of what is committed.
def Along (E : Engine Call Ret κ δ ω α) (P : δ → Prop) :
    Database Call Ret κ δ ω α → Database Call Ret κ δ ω α → Prop :=
  Relation.ReflTransGen fun a b => E.Step a b ∧ P b.committed

def started (E : Engine Call Ret κ δ ω α) (s : Database Call Ret κ δ ω α) (c : Call) : Database Call Ret κ δ ω α :=
  ⟨s.committed, s.drawn, s.sessions ++ [⟨c, ∅, [], some (E.program c)⟩]⟩

theorem Along.of_steps {P : δ → Prop} {s s' : Database Call Ret κ δ ω α}
    (kept : ∀ a b, E.Step a b → P a.committed → P b.committed) (steps : E.Steps s s') (now : P s.committed) :
    P s'.committed ∧ E.Along P s s' := by
  induction steps with
  | refl => exact ⟨now, .refl⟩
  | tail _ step ih =>
    have after := kept _ _ step ih.1
    exact ⟨after, ih.2.tail ⟨step, after⟩⟩

theorem Along.keeps {P I : δ → Prop} {s s' : Database Call Ret κ δ ω α}
    (kept : ∀ a b, E.Step a b → I a.committed → I b.committed) (along : E.Along P s s') (now : I s.committed) :
    I s'.committed ∧ E.Along (fun d => I d ∧ P d) s s' := by
  induction along with
  | refl => exact ⟨now, .refl⟩
  | tail _ step ih =>
    have after := kept _ _ step.1 ih.1
    exact ⟨after, ih.2.tail ⟨step.1, after, step.2⟩⟩

theorem Along.told {P : δ → Prop} {Q : α → List ω → δ → Prop} {s s' : Database Call Ret κ δ ω α}
    (along : E.Along P s s') {i : Nat} {u : Session Call Ret κ ω α}
    (leads : E.SessionLeads (fun _ d' => P d') Q s.committed u) (now : P s.committed) (own : s.sessions[i]? = some u)
    {t : Session Call Ret κ ω α} (session : s'.sessions[i]? = some t) {a : α} (answer : t.rest = some (.pure a)) :
    Q a t.writes s'.committed := by
  have steps : Relation.ReflTransGen (fun a b => E.Step a b ∧ P b.committed ∧ P b.committed) s s' := by
    refine Relation.ReflTransGen.mono ?_ _ _ along
    exact fun a b step => ⟨step.1, step.2, step.2⟩
  obtain ⟨after, t', session', -, leads'⟩ :=
    SessionLeads.steps (R := fun _ d' => P d') (fun _ _ _ _ h => h) steps now own leads
  obtain rfl := Option.some.inj (session.symm.trans session')
  exact leads' _ answer _ after

theorem Along.answered {P : δ → Prop} {Q : α → List ω → δ → Prop} {s s' : Database Call Ret κ δ ω α} {c : Call}
    (along : E.Along P (E.started s c) s') (leads : ∀ d, E.Leads (fun _ d' => P d') Q d [] (E.program c))
    (now : P s.committed) {t : Session Call Ret κ ω α} (session : s'.sessions[s.sessions.length]? = some t) {a : α}
    (answer : t.rest = some (.pure a)) : Q a t.writes s'.committed := by
  have own : (E.started s c).sessions[s.sessions.length]? = some ⟨c, ∅, [], some (E.program c)⟩ := by
    simp [started]
  exact along.told (fun p hp => Option.some.inj hp ▸ leads _) now own session answer

theorem Along.done {P : δ → Prop} {Q : Call → α → List ω → δ → Prop} {d : δ} {n : Nat} {s : Database Call Ret κ δ ω α}
    (along : E.Along P ⟨d, n, []⟩ s) (now : P d) (program : ∀ c d, E.Leads (fun _ d' => P d') (Q c) d [] (E.program c))
    {i : Nat} {t : Session Call Ret κ ω α} {a : α} (session : s.sessions[i]? = some t) (answer : t.rest = some (.pure a)) :
    Q t.call a t.writes s.committed := by
  have followed : P s.committed ∧
      ∀ (i : Nat) t, s.sessions[i]? = some t → E.SessionLeads (fun _ d' => P d') (Q t.call) s.committed t := by
    clear session answer
    induction along with
    | refl => exact ⟨now, fun _ _ ht => absurd (List.mem_of_getElem? ht) List.not_mem_nil⟩
    | tail _ step ih => exact ⟨step.2, SessionLeads.all (fun _ _ _ _ h => h) step.1 ih.1 step.2 program ih.2⟩
  exact followed.2 i t session _ answer _ followed.1

def Past (E : Engine Call Ret κ δ ω α) (s s' : Database Call Ret κ δ ω α) (d : δ) : Prop :=
  ∃ s₁, E.Steps s s₁ ∧ E.Steps s₁ s' ∧ s₁.committed = d

theorem along_past {s s' : Database Call Ret κ δ ω α} (steps : E.Steps s s') : E.Along (E.Past s s') s s' := by
  have upTo : ∀ {mid : Database Call Ret κ δ ω α}, E.Steps s mid → E.Steps mid s' → E.Along (E.Past s s') s mid := by
    intro mid before after
    induction before with
    | refl => exact .refl
    | tail before step ih => exact (ih (.head step after)).tail ⟨step, _, before.tail step, after, rfl⟩
  exact upTo steps .refl

structure Growing (E : Engine Call Ret κ δ ω α) where
  grows : δ → δ → Prop
  refl : ∀ d, grows d d
  trans : ∀ d d' d'', grows d d' → grows d' d'' → grows d d''
  apply : ∀ w d, grows d (E.apply w d)

namespace Growing

variable {G : Growing E} {s s' : Database Call Ret κ δ ω α}

theorem view (G : Growing E) (ws : List ω) (d : δ) : G.grows d (E.view ws d) := by
  induction ws generalizing d with
  | nil => exact G.refl d
  | cons w ws ih => exact G.trans _ _ _ (G.apply w d) (ih _)

theorem step (G : Growing E) (step : E.Step s s') : G.grows s.committed s'.committed := by
  cases step with
  | start | statement | rollback => exact G.refl _
  | commit i t a session done ok => exact G.view t.writes s.committed

theorem steps (G : Growing E) (steps : E.Steps s s') : G.grows s.committed s'.committed := by
  induction steps with
  | refl => exact G.refl _
  | tail _ step ih => exact G.trans _ _ _ ih (G.step step)

theorem sessions {Q : Call → α → List ω → δ → Prop} (program : ∀ c d, E.Leads G.grows (Q c) d [] (E.program c))
    {d : δ} {n : Nat} (reachable : E.Reachable d n s) :
    ∀ (i : Nat) t, s.sessions[i]? = some t → E.SessionLeads G.grows (Q t.call) s.committed t := by
  induction reachable with
  | refl => exact fun _ _ ht => absurd (List.mem_of_getElem? ht) List.not_mem_nil
  | tail _ step ih => exact SessionLeads.all G.trans step (G.refl _) (G.step step) program ih

theorem commit {Q : Call → α → List ω → δ → Prop} (program : ∀ c d, E.Leads G.grows (Q c) d [] (E.program c))
    {d : δ} {n : Nat} (reachable : E.Reachable d n s) {i : Nat} {t : Session Call Ret κ ω α} {a : α}
    (session : s.sessions[i]? = some t) (done : t.rest = some (.pure a)) : Q t.call a t.writes s.committed :=
  sessions program reachable i t session _ done _ (G.refl _)

end Growing

def unordered (E : Engine Call Ret κ δ ω α) : Growing E where
  grows _ _ := True
  refl _ := trivial
  trans _ _ _ _ _ := trivial
  apply _ _ := trivial

theorem Reachable.wrote {P : ω → Prop} {allowed : Call → Prop} (writes : ∀ c d, allowed c →
      E.Leads E.unordered.grows (fun _ ws _ => ∀ w ∈ ws, P w) d [] (E.program c))
    {d : δ} {n : Nat} {s : Database Call Ret κ δ ω α} (reachable : E.Reachable d n s)
    (calls : ∀ t ∈ s.sessions, allowed t.call) : ∃ ws, (∀ w ∈ ws, P w) ∧ s.committed = E.view ws d := by
  have program : ∀ c d, E.Leads E.unordered.grows (fun _ ws _ => allowed c → ∀ w ∈ ws, P w) d [] (E.program c) := by
    intro c d
    by_cases hc : allowed c
    · simpa only [hc, true_imp_iff] using writes c d hc
    · exact .of_forall (fun _ _ _ h => absurd h hc) _ _ _
  induction reachable with
  | refl => exact ⟨[], nofun, rfl⟩
  | tail reached step ih =>
    obtain ⟨ws, all, committed⟩ := ih (step.calls calls)
    have permitted := step.calls calls
    cases step with
    | start | statement | rollback => exact ⟨ws, all, committed⟩
    | commit i t a session done ok =>
      have written := Growing.commit program reached session done (permitted t (List.mem_of_getElem? session))
      refine ⟨ws ++ t.writes, fun w hw => (List.mem_append.mp hw).elim (all w) (written w), ?_⟩
      dsimp only
      rw [committed, E.view_append]

end Engine

-- The rows each lock stands for, what a write touches, and what is kept of the rows of a lock.
structure Protection {Call Op : Type} {Ret : Op → Type} {κ δ ω α : Type} (E : Engine Call Ret κ δ ω α)
    (π : Type) where
  part : κ → δ → π
  touches : ω → Set κ
  part_apply : ∀ {x w d d'}, part x d = part x d' → part x (E.apply w d) = part x (E.apply w d')
  part_untouched : ∀ {x w d}, x ∉ touches w → part x (E.apply w d) = part x d
  Kept : κ → π → Nat → Prop
  mono : ∀ {x p n n'}, n ≤ n' → Kept x p n → Kept x p n'

namespace Protection

variable {Call Op : Type} {Ret : Op → Type} {κ δ ω α β π : Type} {E : Engine Call Ret κ δ ω α}
  (G : Protection E π)

theorem part_view {x : κ} {d d' : δ} (h : G.part x d = G.part x d') (ws : List ω) :
    G.part x (E.view ws d) = G.part x (E.view ws d') := by
  induction ws generalizing d d' with
  | nil => exact h
  | cons w ws ih => exact ih (G.part_apply h)

theorem part_view_untouched {x : κ} {ws : List ω} (h : ∀ w ∈ ws, x ∉ G.touches w) (d : δ) :
    G.part x (E.view ws d) = G.part x d := by
  induction ws generalizing d with
  | nil => rfl
  | cons w ws ih =>
    have rest := ih (fun v hv => h v (by simp [hv])) (E.apply w d)
    exact rest.trans (G.part_untouched (h w (by simp)))

-- What a transaction knows of the rows it sees: those of the locks it holds change only by its own hand.
def Rely (held : Set κ) (d d' : δ) : Prop := ∀ x ∈ held, G.part x d = G.part x d'

theorem Rely.refl (held : Set κ) (d : δ) : G.Rely held d d := fun _ _ => rfl

variable {G} in
theorem Rely.trans {held : Set κ} {d d' d'' : δ} (h : G.Rely held d d') (h' : G.Rely held d' d'') :
    G.Rely held d d'' := fun x hx => (h x hx).trans (h' x hx)

def Intact (held : Set κ) (d : δ) (n : Nat) : Prop := ∀ x ∈ held, G.Kept x (G.part x d) n

variable {G} in
theorem Intact.rely {held : Set κ} {d d' : δ} {n n' : Nat} (h : G.Intact held d n) (rely : G.Rely held d d')
    (le : n ≤ n') : G.Intact held d' n' := fun x hx => G.mono le (rely x hx ▸ h x hx)

def wp (Q : β → Set κ → δ → Nat → Prop) : Prog Ret β → Set κ → δ → Nat → Prop
  | .pure a, held, d, n => ∀ d' n', G.Rely held d d' → n ≤ n' → Q a held d' n'
  | .op o k, held, d, n => ∀ d' n', G.Rely held d d' → n ≤ n' → (∀ x ∉ held, G.Kept x (G.part x d') n') →
      ∀ r ws n'', E.exec o d' n' r ws n'' →
        n' ≤ n'' ∧ (∀ w ∈ ws, G.touches w ⊆ held ∪ E.locks o d') ∧
          wp Q (k r) (held ∪ E.locks o d') (E.view ws d') n''

variable {G} {Q : α → Set κ → δ → Nat → Prop} {R : β → Set κ → δ → Nat → Prop}

theorem wp_rely {p : Prog Ret β} {held : Set κ} {d d' : δ} {n n' : Nat} (h : G.wp R p held d n)
    (rely : G.Rely held d d') (le : n ≤ n') : G.wp R p held d' n' := by
  cases p with
  | pure a => exact fun d'' n'' rely' le' => h d'' n'' (rely.trans rely') (le.trans le')
  | op o k => exact fun d'' n'' rely' le' => h d'' n'' (rely.trans rely') (le.trans le')

theorem wp_bind {γ : Type} {S : γ → Set κ → δ → Nat → Prop} {p : Prog Ret β} {f : β → Prog Ret γ}
    {held : Set κ} {d : δ} {n : Nat} (h : G.wp (fun a held d n => G.wp S (f a) held d n) p held d n) :
    G.wp S (p >>= f) held d n := by
  induction p generalizing held d n with
  | pure a => exact h d n (Rely.refl G held d) le_rfl
  | op o k ih =>
    intro d' n' rely le kept r ws n'' run
    obtain ⟨le', touched, rest⟩ := h d' n' rely le kept r ws n'' run
    exact ⟨le', touched, ih r rest⟩

theorem wp_mono {S : β → Set κ → δ → Nat → Prop} {p : Prog Ret β} {held : Set κ} {d : δ} {n : Nat}
    (h : G.wp R p held d n) (weaken : ∀ a held d n, R a held d n → S a held d n) : G.wp S p held d n := by
  induction p generalizing held d n with
  | pure a => exact fun d' n' rely le => weaken _ _ _ _ (h d' n' rely le)
  | op o k ih =>
    intro d' n' rely le kept r ws n'' run
    obtain ⟨le', touched, rest⟩ := h d' n' rely le kept r ws n'' run
    exact ⟨le', touched, ih r rest⟩

end Protection

structure Locking {Call Op : Type} {Ret : Op → Type} {κ δ ω α : Type} (E : Engine Call Ret κ δ ω α)
    (π : Type) extends Protection E π where
  Post : Call → α → Set κ → δ → Nat → Prop
  commits : ∀ {c a held d n}, E.commits a = true → Post c a held d n → toProtection.Intact held d n
  program : ∀ c d n, toProtection.wp (Post c) (E.program c) ∅ d n

namespace Locking

variable {Call Op : Type} {Ret : Op → Type} {κ δ ω α π : Type} {E : Engine Call Ret κ δ ω α}
  (L : Locking E π)

def Inv (d : δ) (n : Nat) : Prop := ∀ x, L.Kept x (L.part x d) n

structure SessionHolds (s : Database Call Ret κ δ ω α) (t : Session Call Ret κ ω α) : Prop where
  touched : ∀ w ∈ t.writes, L.touches w ⊆ t.held
  wp : ∀ p, t.rest = some p →
    L.toProtection.wp (L.Post t.call) p t.held (E.view t.writes s.committed) s.drawn

structure Holds (s : Database Call Ret κ δ ω α) : Prop where
  inv : L.Inv s.committed s.drawn
  exclusive : ∀ (i j : Nat) t u, s.sessions[i]? = some t → s.sessions[j]? = some u → i ≠ j →
    Disjoint t.held u.held
  sessions : ∀ (i : Nat) t, s.sessions[i]? = some t → L.SessionHolds s t

variable {L} {s s' : Database Call Ret κ δ ω α}

theorem Holds.start {d : δ} {n : Nat} (h : L.Inv d n) : L.Holds ⟨d, n, []⟩ :=
  ⟨h, by simp, by simp⟩

theorem SessionHolds.ended (t : Session Call Ret κ ω α) : L.SessionHolds s (Engine.ended t) :=
  ⟨by simp [Engine.ended], by simp [Engine.ended]⟩

theorem Holds.unheld (h : L.Holds s) {t : Session Call Ret κ ω α} (ht : L.SessionHolds s t) {x : κ}
    (hx : x ∉ t.held) : L.Kept x (L.part x (E.view t.writes s.committed)) s.drawn := by
  have same := L.toProtection.part_view_untouched
    (fun w hw touched => hx (ht.touched w hw touched)) s.committed
  exact same.symm ▸ h.inv x

theorem Holds.set {c : δ} {n : Nat} (h : L.Holds s) {i : Nat} {t t' : Session Call Ret κ ω α}
    (session : s.sessions[i]? = some t) (inv : L.Inv c n)
    (apart : ∀ j u, s.sessions[j]? = some u → j ≠ i → Disjoint t'.held u.held)
    (others : ∀ j u, s.sessions[j]? = some u → j ≠ i → L.SessionHolds ⟨c, n, []⟩ u)
    (own : L.SessionHolds ⟨c, n, []⟩ t') : L.Holds ⟨c, n, s.sessions.set i t'⟩ := by
  have hlt : i < s.sessions.length := (List.getElem?_eq_some_iff.mp session).1
  have cases_set : ∀ (j : Nat) u, (s.sessions.set i t')[j]? = some u →
      (j = i ∧ u = t') ∨ (j ≠ i ∧ s.sessions[j]? = some u) := by
    intro j u hu
    by_cases hj : i = j
    · subst hj
      rw [List.getElem?_set_self hlt] at hu
      exact Or.inl ⟨rfl, (Option.some.inj hu).symm⟩
    · rw [List.getElem?_set_ne hj] at hu
      exact Or.inr ⟨fun e => hj e.symm, hu⟩
  refine ⟨inv, ?_, ?_⟩
  · intro j k u v hu hv hne
    rcases cases_set j u hu with ⟨rfl, rfl⟩ | ⟨hj, hu'⟩
    · rcases cases_set k v hv with ⟨rfl, rfl⟩ | ⟨hk, hv'⟩
      · exact absurd rfl hne
      · exact apart k v hv' hk
    · rcases cases_set k v hv with ⟨rfl, rfl⟩ | ⟨hk, hv'⟩
      · exact (apart j u hu' hj).symm
      · exact h.exclusive j k u v hu' hv' hne
  · intro j u hu
    rcases cases_set j u hu with ⟨rfl, rfl⟩ | ⟨hj, hu'⟩
    · exact ⟨own.touched, own.wp⟩
    · exact ⟨(others j u hu' hj).touched, (others j u hu' hj).wp⟩

theorem Holds.statement (h : L.Holds s) {i : Nat} {t : Session Call Ret κ ω α} {o : Op}
    {k : Ret o → Prog Ret α} {r : Ret o} {ws : List ω} {n : Nat} (session : s.sessions[i]? = some t)
    (next : t.rest = some (.op o k))
    (free : ∀ j u, s.sessions[j]? = some u → j ≠ i →
      Disjoint (E.locks o (E.view t.writes s.committed)) u.held)
    (run : E.exec o (E.view t.writes s.committed) s.drawn r ws n) :
    L.Holds ⟨s.committed, n, s.sessions.set i
      ⟨t.call, t.held ∪ E.locks o (E.view t.writes s.committed), t.writes ++ ws, some (k r)⟩⟩ := by
  have ht := h.sessions i t session
  obtain ⟨le, touched, rest⟩ := ht.wp _ next _ _ (Protection.Rely.refl _ _ _) le_rfl
    (fun x hx => h.unheld ht hx) r ws n run
  refine h.set session (fun x => L.mono le (h.inv x)) ?_ ?_ ?_
  · intro j u hu hj
    exact Set.disjoint_union_left.mpr ⟨h.exclusive i j t u session hu (Ne.symm hj), free j u hu hj⟩
  · intro j u hu hj
    have hu' := h.sessions j u hu
    exact ⟨hu'.touched, fun p hp => Protection.wp_rely (hu'.wp p hp) (Protection.Rely.refl _ _ _) le⟩
  · refine ⟨?_, ?_⟩
    · intro w hw
      rcases List.mem_append.mp hw with hw | hw
      · exact (ht.touched w hw).trans Set.subset_union_left
      · exact touched w hw
    · intro p hp
      cases hp
      rw [E.view_append]
      exact rest

theorem Holds.committed_part (h : L.Holds s) {i j : Nat} {t u : Session Call Ret κ ω α}
    (session : s.sessions[i]? = some t) (other : s.sessions[j]? = some u) (hne : j ≠ i) {x : κ}
    (hx : x ∈ u.held) : L.part x s.committed = L.part x (E.view t.writes s.committed) := by
  have apart := h.exclusive i j t u session other (Ne.symm hne)
  refine (L.toProtection.part_view_untouched ?_ s.committed).symm
  intro w hw touched
  exact Set.disjoint_left.mp apart ((h.sessions i t session).touched w hw touched) hx

theorem Holds.commit_inv (h : L.Holds s) {i : Nat} {t : Session Call Ret κ ω α} {a : α}
    (session : s.sessions[i]? = some t) (done : t.rest = some (.pure a)) (ok : E.commits a = true) :
    L.Inv (E.view t.writes s.committed) s.drawn := by
  have ht := h.sessions i t session
  have post := ht.wp _ done _ _ (Protection.Rely.refl _ _ _) le_rfl
  intro x
  by_cases hx : x ∈ t.held
  · exact L.commits ok post x hx
  · exact h.unheld ht hx

theorem Holds.step (h : L.Holds s) (step : E.Step s s') : L.Holds s' := by
  cases step with
  | start c =>
    have cases_append : ∀ (j : Nat) u, (s.sessions ++ [⟨c, ∅, [], some (E.program c)⟩])[j]? = some u →
        s.sessions[j]? = some u ∨ (j = s.sessions.length ∧ u = ⟨c, ∅, [], some (E.program c)⟩) := by
      intro j u hu
      by_cases hj : j < s.sessions.length
      · rw [List.getElem?_append_left hj] at hu
        exact Or.inl hu
      · rw [List.getElem?_append_right (not_lt.mp hj)] at hu
        obtain ⟨hlt, rfl⟩ := List.getElem?_eq_some_iff.mp hu
        rw [List.length_singleton] at hlt
        exact Or.inr ⟨by omega, by simp⟩
    refine ⟨h.inv, ?_, ?_⟩
    · intro i j t u ht hu hne
      rcases cases_append i t ht with ht | ⟨hi, rfl⟩
      · rcases cases_append j u hu with hu | ⟨hj, rfl⟩
        · exact h.exclusive i j t u ht hu hne
        · exact Set.disjoint_empty _
      · exact Set.empty_disjoint _
    · intro i t ht
      rcases cases_append i t ht with ht | ⟨hi, rfl⟩
      · exact ⟨(h.sessions i t ht).touched, (h.sessions i t ht).wp⟩
      · refine ⟨by simp, ?_⟩
        intro p hp
        cases hp
        exact L.program c _ _
  | statement i t o k r ws n session next free run => exact h.statement session next free run
  | commit i t a session done ok =>
    refine h.set session (h.commit_inv session done ok) (fun _ _ _ _ => Set.empty_disjoint _) ?_
      (SessionHolds.ended t)
    intro j u hu hj
    have hu' := h.sessions j u hu
    refine ⟨hu'.touched, ?_⟩
    intro p hp
    refine Protection.wp_rely (hu'.wp p hp) ?_ le_rfl
    intro x hx
    exact L.toProtection.part_view (h.committed_part session hu hj hx) u.writes
  | rollback i t session =>
    refine h.set session h.inv (fun _ _ _ _ => Set.empty_disjoint _) ?_ (SessionHolds.ended t)
    intro j u hu hj
    exact ⟨(h.sessions j u hu).touched, (h.sessions j u hu).wp⟩

theorem Holds.steps (h : L.Holds s) (steps : E.Steps s s') : L.Holds s' := by
  induction steps with
  | refl => exact h
  | tail _ step ih => exact ih.step step

variable (L) in
theorem holds_reachable {d : δ} {n : Nat} (h : L.Inv d n) (reachable : E.Reachable d n s) : L.Holds s :=
  (Holds.start h).steps reachable

end Locking

end Provisr.Foundation
