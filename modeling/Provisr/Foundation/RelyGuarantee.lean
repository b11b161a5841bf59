import Provisr.Foundation.Clients
import Provisr.Foundation.Exceptional

namespace Provisr.Foundation.Service

variable {Call Op : Type} {Ret : Op → Type} {κ δ ω α β γ ε : Type} {V : Service Call Ret κ δ ω α}

-- What holds of the committed rows, what the others leave as it is under the locks of a client, and what a call may
-- change.
structure Pact (V : Service Call Ret κ δ ω α) where
  Inv : δ → Prop
  Rely : Set κ → δ → δ → Prop
  Guar : Call → δ → δ → Prop
  refl : ∀ held d, Rely held d d
  trans : ∀ {held d d' d''}, Rely held d d' → Rely held d' d'' → Rely held d d''
  fewer : ∀ {held held' d d'}, held ⊆ held' → Rely held' d d' → Rely held d d'
  unchanged : ∀ c d, Guar c d d

namespace Pact

variable (P : Pact V) (c : Call)

structure Fits (d : δ) (held : Set κ) (d' : δ) : Prop where
  inv : P.Inv d'
  guar : P.Guar c d d'
  rely : ∀ apart, Disjoint held apart → P.Rely apart d d'

-- A program all of whose commits fit, whatever the others commit between its requests and whether its transaction is
-- lost or not.
def Leads (Q : δ → Option (Tx κ ω) → β → Prop) : δ → Option (Tx κ ω) → Prog Ret β → Prop
  | d, tx, .pure a => Q d tx a
  | d, tx, .op o k => ∀ d' now, now = tx ∨ now = none → P.Inv d' → P.Rely (heldBy now) d d' → ∀ r d'' tx',
      V.Move d' now o r d'' tx' → P.Fits c d' (heldBy now) d'' ∧ Leads Q d'' tx' (k r)

variable {P c} {Q : δ → Option (Tx κ ω) → β → Prop} {d d' : δ} {tx : Option (Tx κ ω)} {t : Tx κ ω}

theorem Fits.none {held : Set κ} (inv : P.Inv d) : P.Fits c d held d :=
  ⟨inv, P.unchanged c d, fun apart _ => P.refl apart d⟩

section Whole

abbrev Follows (P : Pact V) (c : Call) (d : δ) (tx : Option (Tx κ ω)) (p : Prog Ret β) : Prop :=
  P.Leads c (fun _ _ _ => True) d tx p

theorem Leads.later {p : Prog Ret β} (h : P.Follows c d tx p) (rely : P.Rely (heldBy tx) d d') :
    P.Follows c d' tx p := by
  cases p with
  | pure a => trivial
  | op o k =>
    intro d'' now which inv rely' r e tx' move
    refine h d'' now which inv (P.trans ?_ rely') r e tx' move
    rcases which with rfl | rfl
    · exact rely
    · exact P.fewer (Set.empty_subset _) rely

theorem Leads.lost {p : Prog Ret β} (h : P.Follows c d tx p) : P.Follows c d none p := by
  cases p with
  | pure a => trivial
  | op o k =>
    intro d'' now which inv rely r e tx' move
    obtain rfl : now = none := which.elim id id
    exact h d'' none (.inr rfl) inv rely r e tx' move

end Whole

section Rules

theorem leads_bind {Q : δ → Option (Tx κ ω) → γ → Prop} {p : Prog Ret β} {f : β → Prog Ret γ} :
    P.Leads c Q d tx (p >>= f) ↔ P.Leads c (fun d tx a => P.Leads c Q d tx (f a)) d tx p := by
  induction p generalizing d tx with
  | pure a => rfl
  | op o k ih => simp only [Prog.op_bind, Leads, ih]

theorem Leads.mono {R : δ → Option (Tx κ ω) → β → Prop} {p : Prog Ret β} (h : P.Leads c Q d tx p)
    (weaken : ∀ d tx a, Q d tx a → R d tx a) : P.Leads c R d tx p := by
  induction p generalizing d tx with
  | pure a => exact weaken d tx a h
  | op o k ih =>
    intro d' now which inv rely r e tx' move
    obtain ⟨fits, rest⟩ := h d' now which inv rely r e tx' move
    exact ⟨fits, ih r rest⟩

variable {o : Op} {k : Ret o → Prog Ret β}

theorem leads_closed {p : Prog Ret β} (all : p.All fun o => V.part o ≠ .opens) (done : ∀ d a, Q d none a) :
    P.Leads c Q d none p := by
  induction p generalizing d with
  | pure a => exact done d a
  | op o k ih =>
    intro d' now which inv rely r e tx' move
    obtain rfl : now = none := which.elim id id
    cases move with
    | opens part => exact absurd part all.1
    | rollsBack | outside | failed => exact ⟨.none inv, ih r (all.2 r)⟩

theorem leads_outside (part : V.part o = .outside)
    (rest : ∀ d', P.Inv d' → P.Rely ∅ d d' → ∀ r, V.exec o d' r [] → P.Leads c Q d' none (k r)) :
    P.Leads c Q d none (.op o k) := by
  intro d' now which inv rely r e tx' move
  obtain rfl : now = none := which.elim id id
  cases move with
  | opens other | rollsBack other => cases part.symm.trans other
  | outside _ run => exact ⟨.none inv, rest d' inv rely r run⟩
  | failed other => exact absurd part other

theorem leads_opens (part : V.part o = .opens)
    (opened : ∀ d', P.Inv d' → P.Rely ∅ d d' → ∀ r, V.succeeds o r → P.Leads c Q d' (some ⟨∅, []⟩) (k r))
    (failed : ∀ d' r, ¬ V.succeeds o r → P.Leads c Q d' none (k r)) : P.Leads c Q d none (.op o k) := by
  intro d' now which inv rely r e tx' move
  obtain rfl : now = none := which.elim id id
  cases move with
  | opens _ ok => exact ⟨.none inv, opened d' inv rely r ok⟩
  | rollsBack other | outside other => cases part.symm.trans other
  | failed _ no => exact ⟨.none inv, failed d' r no⟩

theorem leads_aside (part : V.part o = .outside)
    (rest : ∀ d', P.Inv d' → P.Rely t.held d d' → ∀ r, V.exec o d' r [] → P.Leads c Q d' (some t) (k r))
    (lost : ∀ d' r, P.Leads c Q d' none (k r)) : P.Leads c Q d (some t) (.op o k) := by
  intro d' now which inv rely r e tx' move
  cases move with
  | opens other | statement other | commits other | rollsBack other => cases part.symm.trans other
  | outside _ run =>
    rcases which with rfl | rfl
    · exact ⟨.none inv, rest d' inv rely r run⟩
    · exact ⟨.none inv, lost d' r⟩
  | failed other => exact absurd part other

theorem leads_statement (part : V.part o = .statement)
    (rest : ∀ d', P.Inv d' → P.Rely t.held d d' → ∀ r ws, V.succeeds o r → V.exec o (V.view t.writes d') r ws →
      P.Leads c Q d' (some ⟨t.held ∪ V.locks o (V.view t.writes d'), t.writes ++ ws⟩) (k r))
    (lost : ∀ d' r, P.Leads c Q d' none (k r)) : P.Leads c Q d (some t) (.op o k) := by
  intro d' now which inv rely r e tx' move
  cases move with
  | opens other | commits other | rollsBack other | outside other => cases part.symm.trans other
  | statement _ ok run =>
    obtain rfl := Option.some.inj (which.resolve_right nofun)
    exact ⟨.none inv, rest d' inv rely r _ ok run⟩
  | failed => exact ⟨.none inv, lost d' r⟩

theorem leads_commits (part : V.part o = .commits)
    (fits : ∀ d', P.Inv d' → P.Rely t.held d d' → P.Fits c d' t.held (V.view t.writes d'))
    (rest : ∀ d' r, P.Leads c Q d' none (k r)) : P.Leads c Q d (some t) (.op o k) := by
  intro d' now which inv rely r e tx' move
  cases move with
  | opens other | statement other | rollsBack other | outside other => cases part.symm.trans other
  | commits =>
    obtain rfl := Option.some.inj (which.resolve_right nofun)
    exact ⟨fits d' inv rely, rest _ r⟩
  | failed => exact ⟨.none inv, rest d' r⟩

theorem leads_rollsBack (part : V.part o = .rollsBack) (rest : ∀ d' r, P.Leads c Q d' none (k r)) :
    P.Leads c Q d tx (.op o k) := by
  intro d' now which inv rely r e tx' move
  cases move with
  | opens other | statement other | commits other | outside other => cases part.symm.trans other
  | rollsBack | failed => exact ⟨.none inv, rest d' r⟩

end Rules

section Programs

-- Requests of a program that may throw, outside a transaction and within one; nothing is owed of what is thrown or
-- after the transaction.
structure Apart (P : Pact V) (c : Call) (Q : δ → β → Prop) (d : δ) (p : Async Ret ε β) : Prop where
  leads : P.Leads c (fun d tx r => tx = none ∧ ∀ a, r = .ok a → Q d a) d none p.run

structure Within (P : Pact V) (c : Call) (W : δ → Tx κ ω → β → Prop) (d : δ) (t : Tx κ ω) (p : Async Ret ε β) :
    Prop where
  leads : p.All (fun o => V.part o ≠ .opens) →
    P.Leads c (fun d tx r => ∀ t a, tx = some t → r = .ok a → W d t a) d (some t) p.run

variable {Q : δ → β → Prop} {W : δ → Tx κ ω → β → Prop} {o : Op} {f : Ret o → Except ε β}

theorem Apart.pure {a : β} (h : Q d a) : P.Apart c Q d (pure a : Async Ret ε β) :=
  ⟨rfl, fun _ same => Except.ok.inj same ▸ h⟩

theorem Apart.throw {e : ε} : P.Apart c Q d (throw e : Async Ret ε β) := ⟨rfl, nofun⟩

theorem Apart.ofExcept {r : Except ε β} (h : ∀ a, r = .ok a → Q d a) : P.Apart c Q d (Async.ofExcept r) := ⟨rfl, h⟩

theorem Apart.bind {Q : δ → γ → Prop} {p : Async Ret ε β} {f : β → Async Ret ε γ}
    (h : P.Apart c (fun d a => P.Apart c Q d (f a)) d p) : P.Apart c Q d (p >>= f) := by
  constructor
  rw [ExceptT.run_bind, leads_bind]
  refine Leads.mono h.leads ?_
  rintro d tx (e | a) ⟨rfl, rest⟩
  · exact ⟨rfl, nofun⟩
  · exact (rest a rfl).leads

theorem Apart.attempt (part : V.part o = .outside)
    (h : ∀ d', P.Inv d' → P.Rely ∅ d d' → ∀ r a, V.exec o d' r [] → f r = .ok a → Q d' a) :
    P.Apart c Q d (Async.attempt o f) :=
  ⟨leads_outside part fun d' inv rely r run => ⟨rfl, fun a same => h d' inv rely r a run same⟩⟩

theorem Within.pure {a : β} (h : W d t a) : P.Within c W d t (pure a : Async Ret ε β) := by
  constructor
  rintro - _ _ ⟨⟩ ⟨⟩
  exact h

theorem Within.throw {e : ε} : P.Within c W d t (throw e : Async Ret ε β) :=
  ⟨fun _ _ _ _ => nofun⟩

theorem Within.bind {W : δ → Tx κ ω → γ → Prop} {p : Async Ret ε β} {f : β → Async Ret ε γ}
    (h : P.Within c (fun d t a => P.Within c W d t (f a)) d t p) : P.Within c W d t (p >>= f) := by
  refine ⟨fun all => ?_⟩
  have whole : ∀ (q : Prog Ret (Except ε β)) {d tx}, (q >>= ExceptT.bindCont f).All (fun o => V.part o ≠ .opens) →
      P.Leads c (fun d tx r => ∀ t a, tx = some t → r = .ok a → P.Within c W d t (f a)) d tx q →
      P.Leads c (fun d tx r => ∀ t a, tx = some t → r = .ok a → W d t a) d tx (q >>= ExceptT.bindCont f) := by
    intro q
    induction q with
    | pure r =>
      intro d tx all h
      cases r with
      | error e => exact fun _ _ _ => nofun
      | ok a =>
        cases tx with
        | none => exact leads_closed all fun _ _ _ _ => nofun
        | some t => exact (h t a rfl rfl).leads ⟨all⟩
    | op o k ih =>
      intro d tx all h d' now which inv rely r e tx' move
      obtain ⟨fits, rest⟩ := h d' now which inv rely r e tx' move
      exact ⟨fits, ih r (all.2 r) rest⟩
  exact whole p.run all.run (h.leads ⟨Prog.All.of_bind all.run⟩)

theorem Within.attempt (part : V.part o = .statement)
    (h : ∀ d', P.Inv d' → P.Rely t.held d d' → ∀ r ws a, V.succeeds o r → V.exec o (V.view t.writes d') r ws →
      f r = .ok a → W d' ⟨t.held ∪ V.locks o (V.view t.writes d'), t.writes ++ ws⟩ a) :
    P.Within c W d t (Async.attempt o f) := by
  refine ⟨fun _ => ?_⟩
  refine leads_statement part ?_ fun d' r _ _ => nofun
  rintro d' inv rely r ws ok run _ a ⟨⟩ same
  exact h d' inv rely r ws a ok run same

theorem Within.aside (part : V.part o = .outside)
    (h : ∀ d', P.Inv d' → P.Rely t.held d d' → ∀ r a, V.exec o d' r [] → f r = .ok a → W d' t a) :
    P.Within c W d t (Async.attempt o f) := by
  refine ⟨fun _ => ?_⟩
  refine leads_aside part ?_ fun d' r _ _ => nofun
  rintro d' inv rely r run _ a ⟨⟩ same
  exact h d' inv rely r a run same

theorem Within.commits (part : V.part o = .commits)
    (fits : ∀ d', P.Inv d' → P.Rely t.held d d' → P.Fits c d' t.held (V.view t.writes d')) :
    P.Within c W d t (Async.attempt o f) :=
  ⟨fun _ => leads_commits part fits fun _ _ _ _ => nofun⟩

theorem Apart.transaction {body : β → Async Ret ε γ} {last : Async Ret ε Unit} (part : V.part o = .opens)
    (opened : ∀ r, V.succeeds o r ↔ ∃ a, f r = .ok a) (all : ∀ a, (body a).All fun o => V.part o ≠ .opens)
    (h : ∀ d' r a, P.Inv d' → P.Rely ∅ d d' → f r = .ok a → P.Within c (fun _ _ _ => True) d' ⟨∅, []⟩ (body a))
    (ends : ∀ d tx, P.Leads c (fun _ tx _ => tx = none) d tx last.run) :
    P.Apart c (fun _ _ => True) d (Async.attempt o f >>= fun a => Async.finally_ (body a) last) := by
  have whole : ∀ (a : β) {d : δ} {tx : Option (Tx κ ω)}, P.Leads c (fun _ _ _ => True) d tx (body a).run →
      P.Leads c (fun _ tx r => tx = none ∧ ∀ b, r = .ok b → True) d tx (Async.finally_ (body a) last).run := by
    intro a d tx h
    unfold Async.finally_
    rw [ExceptT.run_mk, leads_bind]
    refine Leads.mono h fun d tx r _ => ?_
    rw [leads_bind]
    refine Leads.mono (ends d tx) fun d tx l closed => ?_
    cases l <;> exact ⟨closed, fun _ _ => trivial⟩
  refine ⟨leads_opens part ?_ ?_⟩
  · intro d' inv rely r ok
    change P.Leads c _ d' _ ((ExceptT.bindCont fun a => Async.finally_ (body a) last) (f r))
    cases at_ : f r with
    | error e =>
      obtain ⟨a, same⟩ := (opened r).mp ok
      cases at_.symm.trans same
    | ok a => exact whole a (((h d' r a inv rely at_).leads (all a)).mono fun _ _ _ _ => trivial)
  · intro d' r no
    change P.Leads c _ d' _ ((ExceptT.bindCont fun a => Async.finally_ (body a) last) (f r))
    cases at_ : f r with
    | error e => exact ⟨rfl, nofun⟩
    | ok a => exact absurd ((opened r).mpr ⟨a, at_⟩) no

end Programs

section Runs

variable (P) in
structure Holds (s : System Call Ret κ δ ω α) : Prop where
  inv : P.Inv s.committed
  exclusive : ∀ (i j : Nat) t u, s.clients[i]? = some t → s.clients[j]? = some u → i ≠ j →
    Disjoint (heldBy t.tx) (heldBy u.tx)
  follows : ∀ t ∈ s.clients, P.Follows t.call s.committed t.tx t.rest

variable {s s' : System Call Ret κ δ ω α}

theorem Holds.start (inv : P.Inv d) : P.Holds ⟨d, []⟩ := ⟨inv, by simp, by simp⟩

theorem Holds.request (h : P.Holds s) {t : Client Call Ret κ ω α} (client : t ∈ s.clients) {o : Op}
    {k : Ret o → Prog Ret α} {r : Ret o} (next : t.rest = .op o k) (move : V.Move s.committed t.tx o r d tx) :
    P.Fits t.call s.committed (heldBy t.tx) d ∧ P.Follows t.call d tx (k r) := by
  have follows := h.follows t client
  rw [next] at follows
  exact follows _ t.tx (.inl rfl) h.inv (P.refl _ _) r d tx move

theorem Holds.step (program : ∀ c d, P.Follows c d none (V.program c)) (h : P.Holds s) (step : V.Step s s') :
    P.Holds s' := by
  cases step with
  | arrive c =>
    refine ⟨h.inv, ?_, ?_⟩
    · intro i j t u ht hu ne
      rw [List.getElem?_append] at ht hu
      split at ht
      · split at hu
        · exact h.exclusive i j t u ht hu ne
        · rw [List.mem_singleton.mp (List.mem_of_getElem? hu)]
          exact Set.disjoint_empty _
      · rw [List.mem_singleton.mp (List.mem_of_getElem? ht)]
        exact Set.empty_disjoint _
    · intro t mem
      rcases List.mem_append.mp mem with mem | mem
      · exact h.follows t mem
      · rw [List.mem_singleton.mp mem]
        exact program c _
  | request i t o k r d tx client next move free =>
    obtain ⟨fits, rest⟩ := h.request (List.mem_of_getElem? client) next move
    refine ⟨fits.inv, Duty.exclusive_set h.exclusive free, ?_⟩
    intro u mem
    obtain ⟨j, at_⟩ := List.mem_iff_getElem?.mp mem
    rw [List.getElem?_set] at at_
    split at at_
    · split at at_
      · obtain rfl := Option.some.inj at_
        exact rest
      · cases at_
    · rename_i ne
      exact (h.follows u (List.mem_of_getElem? at_)).later (fits.rely _ (h.exclusive i j t u client at_ ne))
  | lost i t client =>
    refine ⟨h.inv, Duty.exclusive_set h.exclusive (fun _ _ _ _ => Set.empty_disjoint _), ?_⟩
    intro u mem
    rcases List.mem_or_eq_of_mem_set mem with mem | rfl
    · exact h.follows u mem
    · exact (h.follows t (List.mem_of_getElem? client)).lost

theorem holds_reachable (program : ∀ c d, P.Follows c d none (V.program c)) (inv : P.Inv d)
    (reachable : V.Reachable d s) : P.Holds s := by
  induction reachable with
  | refl => exact .start inv
  | tail _ step ih => exact ih.step program step

end Runs

end Pact

end Provisr.Foundation.Service
