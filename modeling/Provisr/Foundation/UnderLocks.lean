import Provisr.Foundation.Transactions

namespace Provisr.Foundation

variable {Call Op : Type} {Ret : Op → Type} {κ δ ω α β π : Type} {E : Engine Call Ret κ δ ω α}

namespace Engine

-- What comes of a program when what is committed changes as R allows under the locks the program holds by then.
def LeadsUnder (E : Engine Call Ret κ δ ω α) (R : Set κ → δ → δ → Prop) (Q : β → Set κ → List ω → δ → Prop) :
    δ → Set κ → List ω → Prog Ret β → Prop
  | d, held, ws, .pure a => ∀ d', R held d d' → Q a held ws d'
  | d, held, ws, .op o k => ∀ d', R held d d' → ∀ n r vs n', E.exec o (E.view ws d') n r vs n' →
      LeadsUnder E R Q d' (held ∪ E.locks o (E.view ws d')) (ws ++ vs) (k r)

variable {R : Set κ → δ → δ → Prop} {Q : β → Set κ → List ω → δ → Prop}

theorem LeadsUnder.later (trans : ∀ held d d' d'', R held d d' → R held d' d'' → R held d d'') {d d' : δ} {held : Set κ}
    {ws : List ω} {p : Prog Ret β} (h : E.LeadsUnder R Q d held ws p) (kept : R held d d') :
    E.LeadsUnder R Q d' held ws p := by
  cases p with
  | pure a => exact fun d'' kept' => h d'' (trans _ _ _ _ kept kept')
  | op o k => exact fun d'' kept' => h d'' (trans _ _ _ _ kept kept')

theorem LeadsUnder.of_forall (h : ∀ a held ws d, Q a held ws d) (d : δ) (held : Set κ) (ws : List ω) (p : Prog Ret β) :
    E.LeadsUnder R Q d held ws p := by
  induction p generalizing d held ws with
  | pure a => exact fun d' _ => h a held ws d'
  | op o k ih => exact fun d' _ n r vs n' _ => ih r d' _ _

theorem LeadsUnder.of_kept {I : Set κ → δ → Prop}
    (later : ∀ held d d', R held d d' → I held d → I held d')
    (more : ∀ held held' d, held ⊆ held' → I held d → I held' d) (owed : ∀ a held ws d, I held d → Q a held ws d)
    {d : δ} {held : Set κ} {ws : List ω} (now : I held d) (p : Prog Ret β) : E.LeadsUnder R Q d held ws p := by
  induction p generalizing d held ws with
  | pure a => exact fun d' kept => owed a held ws d' (later held d d' kept now)
  | op o k ih =>
    intro d' kept n r vs n' _
    exact ih r (more _ _ _ Set.subset_union_left (later held d d' kept now))

theorem LeadsUnder.of_all {P : Op → Prop} {W : ω → Prop}
    (writes : ∀ {o d n r vs n'}, P o → E.exec o d n r vs n' → ∀ w ∈ vs, W w) {p : Prog Ret β} (all : p.All P)
    {ws : List ω} (sofar : ∀ w ∈ ws, W w) (d : δ) (held : Set κ) :
    E.LeadsUnder R (fun _ _ ws _ => ∀ w ∈ ws, W w) d held ws p := by
  induction p generalizing d held ws with
  | pure a => exact fun _ _ => sofar
  | op o k ih =>
    intro d' _ n r vs n' run
    refine ih r (all.2 r) (fun w hw => ?_) d' _
    exact (List.mem_append.mp hw).elim (sofar w) (writes all.1 run w)

theorem LeadsUnder.orEnd {ε : Type} {Answer : Op → Type} {E : Engine Call (fun o => Except ε (Answer o)) κ δ ω α}
    {failure : ε → β} {d : δ} {held : Set κ} {ws : List ω} {o : Op}
    {next : Answer o → Prog (fun o => Except ε (Answer o)) β}
    (fails : ∀ d' n e vs n', R held d d' → E.exec o (E.view ws d') n (.error e) vs n' → ∀ d'',
      R (held ∪ E.locks o (E.view ws d')) d' d'' → Q (failure e) (held ∪ E.locks o (E.view ws d')) (ws ++ vs) d'')
    (h : ∀ d', R held d d' → ∀ n a vs n', E.exec o (E.view ws d') n (.ok a) vs n' →
      E.LeadsUnder R Q d' (held ∪ E.locks o (E.view ws d')) (ws ++ vs) (next a)) :
    E.LeadsUnder R Q d held ws (Prog.orEnd failure o next) := by
  intro d' kept n r vs n' run
  cases r with
  | error e => exact fails d' n e vs n' kept run
  | ok a => exact h d' kept n a vs n' run

theorem LeadsUnder.mono {S : β → Set κ → List ω → δ → Prop} {d : δ} {held : Set κ} {ws : List ω} {p : Prog Ret β}
    (h : E.LeadsUnder R Q d held ws p) (weaken : ∀ a held ws d, Q a held ws d → S a held ws d) :
    E.LeadsUnder R S d held ws p := by
  induction p generalizing d held ws with
  | pure a => exact fun d' kept => weaken _ _ _ _ (h d' kept)
  | op o k ih => exact fun d' kept n r vs n' run => ih r (h d' kept n r vs n' run)

end Engine

theorem Protection.wp_of_all {G : Protection E π} {P : Op → Prop}
    (own : ∀ {o d n r ws n'}, P o → E.exec o d n r ws n' → n ≤ n' ∧ ∀ w ∈ ws, G.touches w ⊆ E.locks o d)
    {p : Prog Ret β} (all : p.All P) {held : Set κ} {d : δ} {n : Nat} : G.wp (fun _ _ _ _ => True) p held d n := by
  induction p generalizing held d n with
  | pure a => exact fun _ _ _ _ => trivial
  | op o k ih =>
      intro d' n' _ _ _ r ws n'' run
      obtain ⟨le, touched⟩ := own all.1 run
      exact ⟨le, fun w mem => (touched w mem).trans Set.subset_union_right, ih r (all.2 r)⟩

namespace Locking

structure Keeps (L : Locking E π) (G : Engine.Growing E) (held : Set κ) (d d' : δ) : Prop where
  same : L.Rely held d d'
  grown : G.grows d d'

variable {L : Locking E π} {G : Engine.Growing E}

theorem Keeps.trans {held : Set κ} {d d' d'' : δ} (h : L.Keeps G held d d') (h' : L.Keeps G held d' d'') :
    L.Keeps G held d d'' :=
  ⟨h.same.trans h'.same, G.trans _ _ _ h.grown h'.grown⟩

theorem Keeps.anti {held held' : Set κ} {d d' : δ} (h : L.Keeps G held' d d') (fewer : held ⊆ held') :
    L.Keeps G held d d' :=
  ⟨fun x hx => h.same x (fewer hx), h.grown⟩

theorem Keeps.refl (held : Set κ) (d : δ) : L.Keeps G held d d := ⟨Protection.Rely.refl _ _ _, G.refl d⟩

-- One session through one step of the database.
theorem session_step {d : δ} {n : Nat} (inv : L.Inv d n) {b c : Database Call Ret κ δ ω α}
    (reached : E.Reachable d n b) (step : E.Step b c) {R : Set κ → δ → δ → Prop} {Q : α → Set κ → List ω → δ → Prop}
    (trans : ∀ held d d' d'', R held d d' → R held d' d'' → R held d d'')
    (refl : ∀ held, R held b.committed b.committed)
    (kept : ∀ held, L.Keeps G held b.committed c.committed → R held b.committed c.committed)
    {i : Nat} {t : Session Call Ret κ ω α} (session : b.sessions[i]? = some t)
    (h : ∀ p, t.rest = some p → E.LeadsUnder R Q b.committed t.held t.writes p) :
    ∃ t', c.sessions[i]? = some t' ∧ t'.call = t.call ∧
      ∀ p, t'.rest = some p → E.LeadsUnder R Q c.committed t'.held t'.writes p := by
  have placed : ∀ {j : Nat} {u u' : Session Call Ret κ ω α}, b.sessions[j]? = some u →
      (j = i → u'.call = u.call ∧ ∀ p, u'.rest = some p → E.LeadsUnder R Q c.committed u'.held u'.writes p) →
      (j ≠ i → ∀ p, t.rest = some p → E.LeadsUnder R Q c.committed t.held t.writes p) →
      ∃ t', (b.sessions.set j u')[i]? = some t' ∧ t'.call = t.call ∧
        ∀ p, t'.rest = some p → E.LeadsUnder R Q c.committed t'.held t'.writes p := by
    intro j u u' hu own other
    by_cases hj : j = i
    · subst hj
      obtain rfl := Option.some.inj (session.symm.trans hu)
      exact ⟨u', List.getElem?_set_self (List.getElem?_eq_some_iff.mp hu).1, own rfl⟩
    · exact ⟨t, (List.getElem?_set_ne hj).trans session, rfl, other hj⟩
  cases step with
  | start call =>
    have hlt := (List.getElem?_eq_some_iff.mp session).1
    exact ⟨t, (List.getElem?_append_left hlt).trans session, rfl, h⟩
  | statement j u o k r ws m other next free run =>
    refine placed other (fun hj => ⟨rfl, fun p hp => ?_⟩) fun _ => h
    subst hj
    obtain rfl := Option.some.inj (session.symm.trans other)
    obtain rfl := Option.some.inj hp
    exact h _ next _ (refl _) _ _ _ _ run
  | commit j u a other done ok =>
    refine placed other (fun _ => ⟨rfl, fun _ hp => nomatch hp⟩) fun hj p hp => ?_
    refine (h p hp).later trans (kept _ ⟨fun x hx => ?_, G.view u.writes b.committed⟩)
    exact (L.holds_reachable inv reached).committed_part other session (Ne.symm hj) hx
  | rollback j u other => exact placed other (fun _ => ⟨rfl, fun _ hp => nomatch hp⟩) fun _ => h

theorem leads_under {d : δ} {n : Nat} (inv : L.Inv d n) {Q : Call → α → Set κ → List ω → δ → Prop}
    (program : ∀ c d, E.LeadsUnder (L.Keeps G) (Q c) d ∅ [] (E.program c)) {s : Database Call Ret κ δ ω α}
    (reachable : E.Reachable d n s) :
    ∀ (i : Nat) t, s.sessions[i]? = some t → ∀ p, t.rest = some p →
      E.LeadsUnder (L.Keeps G) (Q t.call) s.committed t.held t.writes p := by
  induction reachable with
  | refl => exact fun _ _ ht => absurd (List.mem_of_getElem? ht) List.not_mem_nil
  | @tail b c reached step ih =>
    intro i t ht p hp
    by_cases hi : i < b.sessions.length
    · obtain ⟨t', ht', call, leads⟩ := session_step inv reached step (fun _ _ _ _ => Keeps.trans)
        (fun held => .refl held _) (fun _ kept => kept) (List.getElem?_eq_getElem hi) (ih i _ (List.getElem?_eq_getElem hi))
      obtain rfl := Option.some.inj (ht.symm.trans ht')
      exact call ▸ leads p hp
    · cases step with
      | start call =>
        rw [List.getElem?_append_right (not_lt.mp hi)] at ht
        obtain rfl := List.mem_singleton.mp (List.mem_of_getElem? ht)
        obtain rfl := Option.some.inj hp
        exact program call _
      | statement | commit | rollback =>
        have := (List.getElem?_eq_some_iff.mp ht).1
        rw [List.length_set] at this
        exact absurd this hi

theorem answered_along {d : δ} {n : Nat} (inv : L.Inv d n) {P : δ → Prop} {Q : α → Set κ → List ω → δ → Prop}
    {s s' : Database Call Ret κ δ ω α} {call : Call} (reachable : E.Reachable d n s) (now : P s.committed)
    (along : E.Along P (E.started s call) s')
    (leads : ∀ d, E.LeadsUnder (fun held d d' => L.Keeps G held d d' ∧ P d') Q d ∅ [] (E.program call))
    {t : Session Call Ret κ ω α} (session : s'.sessions[s.sessions.length]? = some t) {a : α}
    (answer : t.rest = some (.pure a)) : Q a t.held t.writes s'.committed := by
  have followed : P s'.committed ∧ E.Reachable d n s' ∧ ∃ t', s'.sessions[s.sessions.length]? = some t' ∧
      ∀ p, t'.rest = some p →
        E.LeadsUnder (fun held d d' => L.Keeps G held d d' ∧ P d') Q s'.committed t'.held t'.writes p := by
    clear session answer
    induction along with
    | refl =>
      refine ⟨now, reachable.tail (Engine.Step.start s call), ⟨call, ∅, [], some (E.program call)⟩, ?_, ?_⟩
      · exact List.getElem?_concat_length
      · rintro p hp
        obtain rfl := Option.some.inj hp
        exact leads _
    | @tail b c before step ih =>
      obtain ⟨holds, reached, u, hu, leads'⟩ := ih
      obtain ⟨u', hu', -, leads''⟩ := session_step inv reached step.1 (fun _ _ _ _ h h' => ⟨h.1.trans h'.1, h'.2⟩)
        (fun held => ⟨.refl held _, holds⟩) (fun _ kept => ⟨kept, step.2⟩) hu leads'
      exact ⟨step.2, reached.tail step.1, u', hu', leads''⟩
  obtain ⟨holds, -, t', ht', leads'⟩ := followed
  obtain rfl := Option.some.inj (session.symm.trans ht')
  exact leads' _ answer _ ⟨.refl _ _, holds⟩

theorem commit_under {d : δ} {n : Nat} (inv : L.Inv d n) {Q : Call → α → Set κ → List ω → δ → Prop}
    (program : ∀ c d, E.LeadsUnder (L.Keeps G) (Q c) d ∅ [] (E.program c)) {s : Database Call Ret κ δ ω α}
    (reachable : E.Reachable d n s) {i : Nat} {t : Session Call Ret κ ω α} {a : α} (session : s.sessions[i]? = some t)
    (done : t.rest = some (.pure a)) : Q t.call a t.held t.writes s.committed :=
  leads_under inv program reachable i t session _ done _ (.refl _ _)

end Locking

end Provisr.Foundation
