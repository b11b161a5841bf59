import Provisr.Backend.ApprovalOrder
import Provisr.StateBackend.Attempts

namespace Provisr.StateBackend

open Provisr.Foundation Provisr.Backend
open Op (Ret)

abbrev Attempt := Client EnsureCall Ret Lock Write (Except Cause (Result × Settings))

abbrev Preparations := System EnsureCall Ret Lock Tables Write (Except Cause (Result × Settings))

def noBackends : Tables := ⟨fun _ => none, fun _ _ => none, [], 0⟩

theorem noBackends_kept : Kept noBackends := ⟨nofun, nofun⟩

section Notes

variable {d : Tables} {r : Result}

theorem Noted.result {c : EnsureCall} {tx : Option (Tx Lock Write)} {seen : Seen} {settings : Settings} (kept : Kept d)
    (noted : Noted d tx seen) (answered : Answered c seen (.ok (r, settings))) :
    d.requests r.id c.key = some r := by
  obtain ⟨a, -, ⟨b, _, -, replayed⟩ | ⟨-, recorded, committed⟩⟩ := answered
  · have found : d.requests b c.key = some r := noted.stands _ replayed
    rw [kept.named _ _ _ found]
    exact found
  · exact (noted.recorded _ _ _ recorded).2 committed

theorem calls_unrecorded {c : EnsureCall} {t : Tx Lock Write} {seen : Seen} {target : Target} {row : BackendRow}
    (noted : Noted d (some t) seen) (owed : Owed c seen (.driverEnsure target))
    (found : d.backends target.account.id = some row) : d.requests row.id c.key = none := by
  have opened := noted.opened t rfl
  obtain ⟨absent | ⟨b, settings, read, unrecorded⟩, -⟩ := owed
  · have none_ : d.backends target.account.id = none := (opened.held _ absent).2
    rw [found] at none_
    cases none_
  · obtain ⟨row', found', same⟩ := noted.stands _ (seen_of_since read)
    obtain rfl := Option.some.inj (found.symm.trans found')
    rw [same]
    exact (opened.held _ unrecorded).2

theorem Refused.of_append {a : String} {n : Nat} {seen : Seen} {o : Op} {x : Ret o} (h : Refused a n (seen ++ [⟨o, x⟩])) :
    Refused a n seen ∨ ∃ target cause, (⟨o, x⟩ : Obs Ret) = ⟨.driverEnsure target, (.error cause, n)⟩ := by
  obtain ⟨target, cause, mem, same⟩ := h
  rcases List.mem_append.mp mem with mem | mem
  · exact .inl ⟨target, cause, mem, same⟩
  · exact .inr ⟨target, cause, (List.mem_singleton.mp mem).symm⟩

end Notes

section Properties

variable [GoUnicode]

def Write.stores : Write → Prop
  | .ready .. | .request .. => True
  | .failed .. | .audit _ => False

-- A COMMIT that stores is carried out only if it is reported so.
def Acknowledged (s s' : Preparations) : Prop :=
  ∀ (i : Nat) (c c' : Attempt) t w, s.clients[i]? = some c → s'.clients[i]? = some c' → c.tx = some t →
    c'.seen = c.seen ++ [⟨.commit, false⟩] → w ∈ t.writes → w.stores → s'.committed = s.committed

-- What keeps an attempt on the account from its answer: a request of its own fails, or it is refused.
def Hinders (a : String) : (o : Op) → Ret o → Prop
  | .beginTx, r => r = none
  | .role .., r => permitted r ≠ .ok ()
  | .runExists .., r => inWorkspace r ≠ .ok ()
  | .account .., r => ∀ acc, active r = .ok acc → acc.id ≠ a
  | .lock _, r => r = false
  | .backend _, r => r = none
  | .replay .., r => r = none
  | _, _ => False

-- What preparing state backends promises in one state, and of every way on from it.
structure Prepared (m : Manager) (s : Preparations) : Prop where
  unrecorded : ∀ c ∈ s.clients, ∀ target k t row, c.rest = .op (.driverEnsure target) k → c.tx = some t →
    s.committed.backends target.account.id = some row → s.committed.requests row.id c.call.key = none
  returned : ∀ c ∈ s.clients, ∀ r settings, c.rest = .pure (.ok (r, settings)) →
    s.committed.requests r.id c.call.key = some r
  replayed : ∀ s' a row key r, (managerService m).Steps s s' → s.committed.backends a = some row →
    s.committed.requests row.id key = some r → ∀ i c, s.clients.length ≤ i → s'.clients[i]? = some c →
      c.call.key = key → (∀ target ended, (⟨.driverEnsure target, ended⟩ : Obs Ret) ∈ c.seen → target.account.id ≠ a) ∧
        (∀ w p acc r' settings, (⟨.account w p, some (some acc)⟩ : Obs Ret) ∈ c.seen → acc.id = a →
          c.rest = .pure (.ok (r', settings)) → r' = r) ∧
        ∀ x, (validRequest c.call.input).isSome → (∀ obs ∈ c.seen, ¬ Hinders a obs.1 obs.2) → c.rest = .pure x →
          ∃ settings, x = .ok (r, settings)
  failed : ∀ s' s'' (i : Nat) (c c' c'' : Attempt) cause, (managerService m).Step s s' → Acknowledged s s' →
    s.clients[i]? = some c → s'.clients[i]? = some c' → c'.seen ≠ c.seen → (managerService m).Steps s' s'' → s''.clients[i]? = some c'' →
      c''.rest = .pure (.error cause) → s'.committed.requests = s.committed.requests ∧
        ∀ a row, s'.committed.backends a = some row → row.status = "ready" → s.committed.backends a = some row
  monotone : ∀ s' (i : Nat) (c c' : Attempt) a n row, (managerService m).Step s s' → s.clients[i]? = some c → s'.clients[i]? = some c' →
    c'.seen ≠ c.seen → Refused a n c.seen → s.committed.backends a = some row → row.status = "ready" →
      n ≤ row.serial → s'.committed.backends a = some row

-- The transaction that commits a ready row began no earlier than the start of any attempt whose provider call has
-- failed and that is not at its end.
def Orderly (s s' : Preparations) : Prop :=
  ∀ (i : Nat) (c c' : Attempt) t a id w p settings now, s.clients[i]? = some c → s'.clients[i]? = some c' → c.tx = some t →
    c'.seen = c.seen ++ [⟨.commit, true⟩] → .ready a id w p settings now ∈ t.writes →
      ∀ (j : Nat) u, j ≠ i → s.clients[j]? = some u → (∀ x, u.rest ≠ .pure x) →
        ∀ started n, (⟨.clock, started⟩ : Obs Ret) ∈ u.seen → Refused a n u.seen → started ≤ now

structure Regular (s s' : Preparations) : Prop where
  orderly : Orderly s s'
  acknowledged : Acknowledged s s'

end Properties

section Steps

variable [GoUnicode] {m : Manager} {s s' : Preparations} {d : Tables} {ws : List Write} {a b key : String} {r : Result}

theorem view_ready {row : BackendRow} (found : ((managerService m).view ws d).backends a = some row)
    (ready : row.status = "ready") :
    (∃ id w p settings now, .ready a id w p settings now ∈ ws ∧ row.updatedAt = now) ∨ d.backends a = some row := by
  induction ws generalizing d with
  | nil => exact .inr found
  | cons w ws ih =>
    rw [Service.view_cons] at found
    rcases ih found with ⟨id, w', p, settings, now, mem, updated⟩ | old
    · exact .inl ⟨id, w', p, settings, now, List.mem_cons_of_mem _ mem, updated⟩
    · cases w with
      | ready a' id w' p settings now =>
        by_cases same : a = a'
        · subst same
          obtain rfl := Option.some.inj ((if_pos rfl).symm.trans old)
          refine .inl ⟨id, w', p, settings, now, List.mem_cons_self, ?_⟩
          unfold readyRow
          cases d.backends a <;> rfl
        · exact .inr ((if_neg same).symm.trans old)
      | failed a' id w' p code now =>
        by_cases same : a = a'
        · subst same
          obtain rfl := Option.some.inj ((if_pos rfl).symm.trans old)
          unfold failedRow at ready
          cases at_ : d.backends a <;> simp [at_] at ready
        · exact .inr ((if_neg same).symm.trans old)
      | request | audit => exact .inr old

structure Recorded (a b key : String) (r : Result) (d : Tables) : Prop where
  row : ∃ row, d.backends a = some row ∧ row.id = b
  request : d.requests b key = some r

def Repeats (a b key : String) (r : Result) : (o : Op) → Ret o → Prop
  | .driverEnsure target, _ => target.account.id ≠ a
  | .backend a', some none => a' ≠ a
  | .backend a', some (some (b', _)) => a' = a → b' = b
  | .replay b' key', some none => b' = b → key' ≠ key
  | .replay b' key', some (some r') => b' = b → key' = key → r' = r
  | _, _ => True

theorem Recorded.keep {tx tx' : Option (Tx Lock Write)} {seen : Seen} {o : Op} {x : Ret o} {d' : Tables}
    (h : Recorded a b key r d) (noted : Noted d tx seen) (move : (managerService m).Move d tx o x d' tx') :
    Recorded a b key r d' := by
  rcases move.committed with rfl | ⟨t, rfl, -, rfl⟩
  · exact h
  · have backed := (noted.opened t rfl).backed
    have row : Stands d (.backend a) (some (some (b, {}))) := h.row
    have request : Stands d (.replay b key) (some (some r)) := h.request
    exact ⟨row.stays backed, request.stays backed⟩

theorem Recorded.repeats {c : EnsureCall} {tx tx' : Option (Tx Lock Write)} {seen : Seen} {o : Op} {x : Ret o}
    {d' : Tables} (h : Recorded a b key r d) (noted : Noted d tx seen) (owed : Owed c seen o) (mine : c.key = key)
    (repeats : ∀ obs ∈ seen, Repeats a b key r obs.1 obs.2) (move : (managerService m).Move d tx o x d' tx') :
    Repeats a b key r o x := by
  obtain ⟨⟨row, found, rfl⟩, request⟩ := h
  cases o with
  | driverEnsure target =>
    rintro rfl
    obtain ⟨absent | ⟨b, settings, read, unrecorded⟩, -⟩ := owed
    · exact repeats _ (seen_of_since absent) rfl
    · exact repeats _ (seen_of_since unrecorded) (repeats _ (seen_of_since read) rfl) mine
  | backend a' =>
    cases move with
    | statement part ok run =>
      rw [((noted.opened _ rfl).quiet owed.2)] at run
      obtain ⟨rfl, -⟩ := run
      rw [Service.view_nil]
      by_cases same : a' = a
      · subst same
        rw [found]
        exact fun _ => rfl
      · cases d.backends a' with
        | none => exact same
        | some row' => exact fun here => absurd here same
    | failed part no =>
      cases x with
      | none => trivial
      | some x => exact absurd rfl no
    | _ part => cases part
  | replay b' key' =>
    cases move with
    | statement part ok run =>
      rw [((noted.opened _ rfl).quiet owed.2)] at run
      obtain ⟨rfl, -⟩ := run
      rw [Service.view_nil]
      by_cases same : b' = row.id ∧ key' = key
      · obtain ⟨rfl, rfl⟩ := same
        rw [request]
        exact fun _ _ => rfl
      · cases d.requests b' key' with
        | none => exact fun here also => same ⟨here, also⟩
        | some r' => exact fun here also => absurd ⟨here, also⟩ same
    | failed part no =>
      cases x with
      | none => trivial
      | some x => exact absurd rfl no
    | _ part => cases part
  | _ => trivial

theorem replayed (holds : (managerDuty m).Holds s) (recorded : Recorded a b key r s.committed)
    (steps : (managerService m).Steps s s') :
    Recorded a b key r s'.committed ∧ ∀ i c, s.clients.length ≤ i → s'.clients[i]? = some c → c.call.key = key →
      ∀ obs ∈ c.seen, Repeats a b key r obs.1 obs.2 := by
  refine holds.late (P := fun c seen => c.key = key → ∀ obs ∈ seen, Repeats a b key r obs.1 obs.2)
    (R := Recorded a b key r) (fun _ _ => nofun) ?_ (fun _ noted _ now move => now.keep noted move) recorded steps
  intro c d tx seen o x d' tx' _ noted owed now repeats move mine obs mem
  rcases List.mem_append.mp mem with mem | mem
  · exact repeats mine obs mem
  · cases List.mem_singleton.mp mem
    exact now.repeats noted owed mine (repeats mine) move

def Clear (a b key : String) (r : Result) (obs : Obs Ret) : Prop :=
  Repeats a b key r obs.1 obs.2 ∧ ¬ Hinders a obs.1 obs.2

omit [GoUnicode] in
theorem located_repeats {input : Request} {started now : Int} {seen : Seen} (mine : input.context.idempotencyKey = key) :
    (located m input started now).wp (fun _ _ => True) (fun _ o x => Clear a b key r ⟨o, x⟩) (fun _ x => x.1 = r)
      (fun _ _ => False) seen := by
  refine (Async.wp_bind _ _).mpr ⟨trivial, fun x clear => ?_⟩
  change Async.outcome _ _ _ (active x)
  have hinders : ¬ ∀ acc, active x = .ok acc → acc.id ≠ a := clear.2
  cases found : active x with
  | error e => exact hinders fun acc found' => absurd (found.symm.trans found') (by simp)
  | ok acc =>
    have own : acc.id = a := by
      by_contra other
      exact hinders fun acc' found' => Except.ok.inj (found.symm.trans found') ▸ other
    refine (Async.wp_bind _ _).mpr ⟨trivial, fun x clear => ?_⟩
    cases x with
    | false => exact absurd rfl clear.2
    | true =>
      refine (Async.wp_bind _ _).mpr ⟨trivial, fun x clear => ?_⟩
      rcases x with _ | _ | ⟨b', existing⟩
      · exact absurd rfl clear.2
      · exact absurd own clear.1
      · have backend : b' = b := clear.1 own
        refine (Async.wp_bind _ _).mpr ⟨trivial, fun x clear => ?_⟩
        rcases x with _ | _ | r'
        · exact absurd rfl clear.2
        · exact absurd mine (clear.1 backend)
        · exact clear.1 backend mine

omit [GoUnicode] in
theorem attempt_repeats {input : Request} {runID : String} {started now : Int} {seen : Seen}
    (mine : input.context.idempotencyKey = key) :
    (attempt m input runID started now).wp (fun _ _ => True) (fun _ o x => Clear a b key r ⟨o, x⟩) (fun _ x => x.1 = r)
      (fun _ _ => False) seen := by
  refine (Async.wp_bind _ _).mpr ⟨trivial, fun x clear => ?_⟩
  change Async.outcome _ _ _ (permitted x)
  have hinders : ¬ permitted x ≠ .ok () := clear.2
  cases allowed : permitted x with
  | error e => exact hinders (by simp [allowed])
  | ok _ =>
    change Async.wp _ _ (if runID ≠ "" then _ else _ : Ensuring (Result × Settings)) _ _ _
    split
    · refine (Async.wp_bind _ _).mpr ⟨trivial, fun x clear => ?_⟩
      change Async.outcome _ _ _ (inWorkspace x)
      have hinders : ¬ inWorkspace x ≠ .ok () := clear.2
      cases found : inWorkspace x with
      | error e => exact hinders (by simp [found])
      | ok _ => exact located_repeats mine
    · exact located_repeats mine

theorem ensure_repeats (m : Manager) {c : EnsureCall} (mine : c.key = key) (valid : (validRequest c.input).isSome) :
    ((managerService m).program c).wp (fun _ _ => True) (fun _ o x => Clear a b key r ⟨o, x⟩)
      (fun _ x => ∃ settings, x = .ok (r, settings)) [] := by
  obtain ⟨input, valid⟩ := Option.isSome_iff_exists.mp valid
  change (ensure m c.input c.runID).wp _ _ _ _
  unfold ensure
  rw [valid]
  refine ⟨trivial, fun started _ => ⟨trivial, fun x clear => ?_⟩⟩
  cases x with
  | none => exact absurd rfl clear.2
  | some now =>
    change ((attempt m input c.runID started now).run >>= fun outcome =>
      Prog.call Op.rollback >>= fun _ => pure outcome).wp _ _ _ _
    refine (Prog.wp_bind _ _ _ _).mpr
      (Prog.wp_mono (attempt_repeats ((validRequest_key valid).trans mine)) fun _ x _ told => ⟨trivial, fun _ _ => ?_⟩)
    cases x with
    | error e => exact told.elim
    | ok x => exact ⟨x.2, by rw [← (told : x.1 = r)]⟩

theorem view_stored {ws : List Write} (none_ : ∀ w ∈ ws, ¬ w.stores) :
    ((managerService m).view ws d).requests = d.requests ∧
      ∀ a row, ((managerService m).view ws d).backends a = some row → row.status = "ready" → d.backends a = some row := by
  refine ⟨?_, fun a row found ready => ?_⟩
  · funext b k
    exact view_request fun r mem => none_ _ mem trivial
  · rcases view_ready found ready with ⟨_, _, _, _, _, mem, -⟩ | old
    · exact absurd trivial (none_ _ mem)
    · exact old

omit [GoUnicode] in
theorem Noted.unstored {t : Tx Lock Write} {seen : Seen} (noted : Noted d (some t) seen) (tame : Tame seen) :
    ∀ w ∈ t.writes, ¬ w.stores := by
  intro w mem stores
  have backed := (noted.opened t rfl).backed w mem
  cases w with
  | ready => exact backed.2.1 tame
  | request => cases tame _ backed.2.2.2
  | failed | audit => exact stores

theorem failed_stores_nothing (holds : (managerDuty m).Holds s) {s'' : Preparations} {i : Nat} {c c' c'' : Attempt}
    {cause : Cause} (step : (managerService m).Step s s') (acknowledged : Acknowledged s s')
    (client : s.clients[i]? = some c) (after : s'.clients[i]? = some c') (saw : c'.seen ≠ c.seen)
    (steps : (managerService m).Steps s' s'') (last : s''.clients[i]? = some c'') (ended : c''.rest = .pure (.error cause)) :
    s'.committed.requests = s.committed.requests ∧
      ∀ a row, s'.committed.backends a = some row → row.status = "ready" → s.committed.backends a = some row := by
  obtain ⟨o, k, x, tx, next, move, rfl⟩ := step.moved client after saw
  have unchanged : s'.committed = s.committed → s'.committed.requests = s.committed.requests ∧
      ∀ a row, s'.committed.backends a = some row → row.status = "ready" → s.committed.backends a = some row := by
    intro same
    rw [same]
    exact ⟨rfl, fun a row found _ => found⟩
  rcases move.committed with same | ⟨t, open_, part, same⟩
  · exact unchanged same
  · cases o with
    | commit =>
      cases x with
      | true =>
        obtain ⟨c₂, last', -, before⟩ := steps.client after
        obtain rfl := Option.some.inj (last.symm.trans last')
        have answered := ((holds.step step).steps steps).wp c'' (List.mem_of_getElem? last)
        rw [ended] at answered
        have tame : Tame c''.seen := answered (before.subset (List.mem_append_right _ List.mem_cons_self))
        have noted := holds.knows c (List.mem_of_getElem? client)
        rw [open_] at noted
        rw [same]
        exact view_stored (noted.unstored fun obs mem => tame obs (before.subset (List.mem_append_left _ mem)))
      | false =>
        by_cases stored : ∃ w ∈ t.writes, w.stores
        · obtain ⟨w, mem, stores⟩ := stored
          exact unchanged (acknowledged i c _ t w client after open_ rfl mem stores)
        · rw [same]
          exact view_stored fun w mem stores => stored ⟨w, mem, stores⟩
    | _ => cases part

-- While an attempt with a failed call is not at its end, no ready row numbered after that call is older than its start.
def Newer (s : Preparations) : Prop :=
  ∀ u ∈ s.clients, (∀ x, u.rest ≠ .pure x) → ∀ a n started row, (⟨.clock, started⟩ : Obs Ret) ∈ u.seen →
    Refused a n u.seen → s.committed.backends a = some row → row.status = "ready" → n ≤ row.serial →
      started ≤ row.updatedAt

theorem driver_counts {tx tx' : Option (Tx Lock Write)} {d' : Tables} {target : Target}
    {x : Op.Ret (.driverEnsure target)} (move : (managerService m).Move d tx (.driverEnsure target) x d' tx') :
    d' = d ∧ x.2 = d.readied := by
  cases move with
  | outside part run => exact ⟨rfl, run.1⟩
  | failed part no => exact absurd trivial no
  | _ part => cases part

theorem Newer.own (holds : (managerDuty m).Holds s) (newer : Newer s) {c : Attempt} (client : c ∈ s.clients) {o : Op}
    {k : Ret o → Prog Ret (Except Cause (Result × Settings))} {x : Ret o} {tx : Option (Tx Lock Write)}
    (next : c.rest = .op o k) (move : (managerService m).Move s.committed c.tx o x d tx) {n : Nat} {started : Int}
    {row : BackendRow} (clock : (⟨.clock, started⟩ : Obs Ret) ∈ c.seen ++ [⟨o, x⟩])
    (refused : Refused a n (c.seen ++ [⟨o, x⟩])) (found : d.backends a = some row) (ready : row.status = "ready")
    (later : n ≤ row.serial) : started ≤ row.updatedAt := by
  have unfinished : ∀ x, c.rest ≠ .pure x := by
    rw [next]
    exact nofun
  have owed := holds.wp c client
  rw [next] at owed
  have noted := holds.knows c client
  rcases refused.of_append with old | ⟨target, cause, same⟩
  · have clock : (⟨.clock, started⟩ : Obs Ret) ∈ c.seen := by
      rcases List.mem_append.mp clock with clock | clock
      · exact clock
      · cases List.mem_singleton.mp clock
        have first : c.seen = [] := owed.1
        obtain ⟨target, cause, mem, -⟩ := old
        rw [first] at mem
        cases mem
    rcases move.committed with rfl | ⟨t, open_, -, rfl⟩
    · exact newer c client unfinished a n started row clock old found ready later
    · rcases view_ready found ready with ⟨_, _, _, _, _, mem, -⟩ | before
      · rw [open_] at noted
        exact absurd old (((noted.opened t rfl).backed _ mem).2.2 a n)
      · exact newer c client unfinished a n started row clock old before ready later
  · cases same
    obtain ⟨rfl, counted⟩ := driver_counts move
    obtain rfl : n = s.committed.readied := counted
    exact absurd (holds.inv.numbered a row found ready) (Nat.not_lt.mpr later)

theorem Newer.step (holds : (managerDuty m).Holds s) (newer : Newer s) (step : (managerService m).Step s s')
    (regular : Regular s s') : Newer s' := by
  intro u mem unfinished a n started row clock refused found ready later
  cases step with
  | arrive c =>
    rcases List.mem_append.mp mem with mem | mem
    · exact newer u mem unfinished a n started row clock refused found ready later
    · rw [List.mem_singleton.mp mem] at clock
      cases clock
  | lost i c client =>
    rcases List.mem_or_eq_of_mem_set mem with mem | rfl
    · exact newer u mem unfinished a n started row clock refused found ready later
    · exact newer c (List.mem_of_getElem? client) unfinished a n started row clock refused found ready later
  | request i c o k x d tx client next move free =>
    have bound : i < s.clients.length := (List.getElem?_eq_some_iff.mp client).1
    obtain ⟨j, at_⟩ := List.mem_iff_getElem?.mp mem
    rw [List.getElem?_set] at at_
    split at at_
    · obtain rfl := Option.some.inj at_
      exact newer.own holds (List.mem_of_getElem? client) next move clock refused found ready later
    · rename_i ne
      have here : u ∈ s.clients := List.mem_of_getElem? at_
      rcases move.committed with rfl | ⟨t, open_, part, rfl⟩
      · exact newer u here unfinished a n started row clock refused found ready later
      · rcases view_ready found ready with ⟨_, _, _, _, now, wrote, rfl⟩ | before
        · cases o with
          | commit =>
            cases x with
            | true =>
              exact regular.orderly i c _ t a _ _ _ _ _ client (List.getElem?_set_self bound) open_ rfl wrote j u
                (Ne.symm ne) at_ unfinished started n clock refused
            | false =>
              have same := regular.acknowledged i c _ t _ client (List.getElem?_set_self bound) open_ rfl wrote trivial
              exact newer u here unfinished a n started row clock refused (same ▸ found) ready later
          | _ => cases part
        · exact newer u here unfinished a n started row clock refused before ready later

theorem newer_monotone (holds : (managerDuty m).Holds s) (newer : Newer s) {i : Nat} {c c' : Attempt} {n : Nat}
    {row : BackendRow} (step : (managerService m).Step s s') (client : s.clients[i]? = some c)
    (after : s'.clients[i]? = some c') (saw : c'.seen ≠ c.seen) (refused : Refused a n c.seen)
    (found : s.committed.backends a = some row) (ready : row.status = "ready") (later : n ≤ row.serial) :
    s'.committed.backends a = some row := by
  obtain ⟨o, k, x, tx, next, move, rfl⟩ := step.moved client after saw
  rcases move.committed with same | ⟨t, open_, -, same⟩
  · rwa [same]
  · have here : c ∈ s.clients := List.mem_of_getElem? client
    have noted := holds.knows c here
    rw [open_] at noted
    rw [same, view_row fun w mem touches => ?_]
    · exact found
    have backed := (noted.opened t rfl).backed w mem
    cases w with
    | ready => exact backed.2.2 a n refused
    | failed a' =>
      obtain rfl : a' = a := touches
      obtain ⟨-, started, clock, -, older⟩ := backed
      have unfinished : ∀ x, c.rest ≠ .pure x := by
        rw [next]
        exact nofun
      have newest := newer c here unfinished a' n started row clock refused found ready later
      exact absurd (older row found) (Int.not_lt.mpr newest)
    | request | audit => exact touches

theorem regular_newer (run : Relation.ReflTransGen (fun s s' => (managerService m).Step s s' ∧ Regular s s')
    ⟨noBackends, []⟩ s) : (managerDuty m).Holds s ∧ Newer s := by
  induction run with
  | refl => exact ⟨.start noBackends_kept, nofun⟩
  | tail _ step ih => exact ⟨ih.1.step step.1, ih.2.step ih.1 step.1 step.2⟩

theorem state_backend_prepared_once (m : Manager) {s : Preparations}
    (run : Relation.ReflTransGen (fun s s' => (managerService m).Step s s' ∧ Regular s s') ⟨noBackends, []⟩ s) :
    Prepared m s := by
  obtain ⟨holds, newer⟩ := regular_newer run
  have reachable : (managerService m).Reachable noBackends s := Relation.ReflTransGen.mono (fun _ _ step => step.1) _ _ run
  constructor
  · intro c mem target k t row next open_ found
    have owed := holds.wp c mem
    have noted := holds.knows c mem
    rw [next] at owed
    rw [open_] at noted
    exact calls_unrecorded noted owed.1 found
  · intro c mem r settings ended
    have answered := holds.wp c mem
    rw [ended] at answered
    have answered : Answered c.call c.seen (.ok (r, settings)) := answered
    exact (holds.knows c mem).result holds.inv answered
  · intro s' a row key r steps found request i c later client mine
    obtain ⟨recorded, repeats⟩ := replayed holds ⟨⟨row, found, rfl⟩, request⟩ steps
    have repeats := repeats i c later client mine
    refine ⟨fun target ended called => repeats _ called, ?_, fun x valid clear ended => ?_⟩
    swap
    · have transcript := (Service.Reachable.transcripts (reachable.trans steps)) c (List.mem_of_getElem? client)
      rw [ended] at transcript
      exact transcript.result (ensure_repeats m mine valid) fun obs mem => ⟨repeats obs mem, clear obs mem⟩
    intro w p acc r' settings account same ended
    have holds' := holds.steps steps
    have mem := List.mem_of_getElem? client
    have answered := holds'.wp c mem
    rw [ended] at answered
    obtain ⟨a', accounts, ⟨b, settings', read, replayed⟩ | ⟨⟨target, _, called, its⟩, -⟩⟩ := answered
    · obtain rfl := (accounts w p acc account).symm.trans same
      have backend : b = row.id := repeats _ read rfl
      have stored : s'.committed.requests b c.call.key = some r' := (holds'.knows c mem).stands _ replayed
      rw [backend, mine, recorded.request] at stored
      exact (Option.some.inj stored).symm
    · obtain rfl := (accounts w p acc account).symm.trans same
      exact absurd its (repeats _ called)
  · intro s' s'' i c c' c'' cause step acknowledged client after saw steps last ended
    exact failed_stores_nothing holds step acknowledged client after saw steps last ended
  · intro s' i c c' a n row step client after saw refused found ready later
    exact newer_monotone holds newer step client after saw refused found ready later

end Steps

section Example

def anyDriver : Manager := ⟨fun _ => true, fun _ _ => none⟩

def preparing (key : String) : EnsureCall :=
  ⟨⟨"aws", ⟨"6f9619ff-8b86-4d01-b42d-00cf4fc964ff", "0e984725-c51c-4bf4-9960-e1c80e27aba0",
    "3d6f4f2e-1b0a-4c57-9d8e-5a7b6c8d9e0f", key, ["iac:write"]⟩⟩, ""⟩

def connected : Account := ⟨"acc", "active", ""⟩

def begun (started now : Int) : Seen := [⟨.clock, started⟩, ⟨.beginTx, some now⟩]

def asked (key id : String) (answer : Except Cause Outcome) : Seen :=
  let input := (preparing key).input
  let c := input.context
  [⟨.role c.workspaceId c.userId, some (some "admin")⟩, ⟨.account c.workspaceId "aws", some (some connected)⟩,
    ⟨.lock "acc", true⟩, ⟨.backend "acc", some none⟩, ⟨.newString, id⟩,
    ⟨.driverEnsure ⟨c.workspaceId, account input connected ⟨"", "", ""⟩, {}⟩, (answer, 0)⟩]

def provisioned (key : String) (now : Int) : Seen :=
  let input := (preparing key).input
  let c := input.context
  [⟨.upsertReady "acc" "b" c.workspaceId "aws" {} now, some now⟩,
    ⟨.insertRequest "b" key ⟨"b", "aws", "ready", true, now⟩, true⟩,
    ⟨.appendAudit (readyEvent c "aws" "acc" "b" ⟨{}, true, false⟩), true⟩, ⟨.commit, true⟩]

def recorded (key : String) (started now : Int) : Seen :=
  let input := (preparing key).input
  let c := input.context
  [⟨.beginTx, some now⟩, ⟨.lock "acc", true⟩,
    ⟨.upsertFailed "a" c.workspaceId "acc" "backend_unavailable" started now, some 1⟩, ⟨.idOf "acc", some (some "b")⟩,
    ⟨.appendAudit (failureEvent c "aws" "acc" "backend_unavailable" "b"), true⟩]

theorem begun_attempt {key : String} {started now : Int} :
    Transcript (ensured anyDriver (preparing key).input "") (begun started now)
      ((attempt anyDriver (preparing key).input "" started now).run >>= fun outcome =>
        Prog.call Op.rollback >>= fun _ => pure outcome) :=
  .reply (.reply (.start _))

theorem succeeding {key : String} {started now : Int} :
    Transcript ((attempt anyDriver (preparing key).input "" started now).run >>= fun outcome =>
        Prog.call Op.rollback >>= fun _ => pure outcome)
      (asked key "b" (.ok ⟨{}, true, false⟩) ++ provisioned key now)
      (Prog.call Op.rollback >>= fun _ => pure (.ok (⟨"b", "aws", "ready", true, now⟩, {}))) :=
  .reply (.reply (.reply (.reply (.reply (.reply (.reply (.reply (.reply (.reply (.start _))))))))))

theorem failing {key : String} {started now later : Int} :
    ∃ p k, Transcript ((attempt anyDriver (preparing key).input "" started now).run >>= fun outcome =>
        Prog.call Op.rollback >>= fun _ => pure outcome) (asked key "a" (.error .other) ++ [⟨.rollback, ()⟩]) p ∧
      Transcript p (recorded key started later) (.op .commit k) :=
  ⟨_, _, .reply (.reply (.reply (.reply (.reply (.reply (.reply (.start _))))))),
    .reply (.reply (.reply (.reply (.reply (.start _)))))⟩

section Runs

variable [GoUnicode]

def readied (now : Int) : BackendRow :=
  ⟨"b", (preparing "b").input.context.workspaceId, "aws", "ready", {}, none, some now, now, 0⟩

theorem begun_moves {d : Tables} {started now : Int} :
    (managerService anyDriver).Moves d none (begun started now) d (some ⟨∅, []⟩) :=
  .next (.outside rfl rfl) (.next (.opens rfl rfl) (.done _ _))

theorem asked_moves {key id : String} {answer : Except Cause Outcome} : ∃ held,
    (managerService anyDriver).Moves noBackends (some ⟨∅, []⟩) (asked key id answer) noBackends (some ⟨held, []⟩) :=
  ⟨_, .next (.statement rfl rfl rfl) (.next (.statement rfl rfl rfl) (.next (.statement rfl rfl rfl)
    (.next (.statement rfl rfl ⟨rfl, rfl⟩) (.next (.outside rfl rfl) (.next (.outside rfl ⟨rfl, rfl⟩) (.done _ _))))))⟩

theorem provisioned_moves {key : String} {now : Int} {held : Set Lock} : ∃ d,
    (managerService anyDriver).Moves noBackends (some ⟨held, []⟩) (provisioned key now) d none ∧
      d.backends "acc" = some (readied now) ∧ d.requests "b" key = some ⟨"b", "aws", "ready", true, now⟩ :=
  ⟨_, .next (.statement rfl rfl ⟨fun _ _ _ => nofun, rfl, rfl⟩) (.next (.statement rfl rfl ⟨rfl, ⟨"acc", _, rfl, rfl⟩, rfl⟩)
    (.next (.statement rfl rfl rfl) (.next (.commits rfl) (.done _ _)))), rfl, if_pos ⟨rfl, rfl⟩⟩

theorem provisions_moves : ∃ d, (managerService anyDriver).Moves noBackends (some ⟨∅, []⟩)
    (asked "b" "b" (.ok ⟨{}, true, false⟩) ++ provisioned "b" 5) d none ∧ d.backends "acc" = some (readied 5) := by
  obtain ⟨held, asks⟩ := asked_moves
  obtain ⟨d, writes, ready, -⟩ := provisioned_moves
  exact ⟨d, asks.append writes, ready⟩

theorem recorded_moves {d : Tables} {tx : Option (Tx Lock Write)} {key : String} {now started later : Int}
    (found : d.backends "acc" = some (readied now)) (older : now < started) : ∃ t,
    (managerService anyDriver).Moves d tx (recorded key started later) d (some t) ∧
      ∃ row, ((managerService anyDriver).view t.writes d).backends "acc" = some row ∧ row.status = "failed" := by
  have since_ : ∀ row, d.backends "acc" = some row → row.updatedAt < started := by
    intro row at_
    rw [← Option.some.inj (found.symm.trans at_)]
    exact older
  have taken : Op.freshFor d "acc" "a" := fun none_ => nomatch found.symm.trans none_
  let w : Write :=
    .failed "acc" "a" (preparing key).input.context.workspaceId "aws" "backend_unavailable" later
  have row : (w.apply d).backends "acc" = some
      { readied now with status := "failed", lastErrorCode := some "backend_unavailable", updatedAt := later } := by
    simp [w, Write.apply, failedRow, found]
  have named : some (some "b") = some (((w.apply d).backends "acc").map BackendRow.id) := by
    rw [row]
    rfl
  exact ⟨_, .next (.opens rfl rfl) (.next (.statement rfl rfl rfl)
    (.next (.statement rfl rfl (.inr ⟨rfl, taken, since_, "aws", rfl⟩)) (.next (.statement rfl rfl ⟨named, rfl⟩)
      (.next (.statement rfl rfl rfl) (.done _ _))))), _, row, rfl⟩

theorem ensure_of_valid {m : Manager} {input input' : Request} {runID : String} (valid : validRequest input = some input') :
    ensure m input runID = ensured m input' runID := by
  unfold ensure
  rw [valid]

theorem program_of_valid {c : EnsureCall} (valid : validRequest c.input = some c.input) :
    (managerService anyDriver).program c = ensured anyDriver c.input c.runID := by
  unfold managerService
  exact ensure_of_valid valid

section Pair

variable {m : Manager} {d d' : Tables} {tx tx' : Option (Tx Lock Write)} {before seen : Seen}
  {p q : Prog Ret (Except Cause (Result × Settings))} {call : EnsureCall} {other : Attempt}

theorem first_moves (ran : Transcript p seen q) (moves : (managerService m).Moves d tx seen d' tx')
    (free : heldBy other.tx = ∅) :
    (managerService m).Steps ⟨d, [⟨call, before, tx, p⟩, other]⟩ ⟨d', [⟨call, before ++ seen, tx', q⟩, other]⟩ := by
  refine Service.steps_alone (i := 0) ran rfl ?_ moves
  rintro (_ | _ | j) u at_ ne
  · exact absurd rfl ne
  · rw [← Option.some.inj at_]
    exact free
  · cases at_

theorem second_moves (ran : Transcript p seen q) (moves : (managerService m).Moves d tx seen d' tx')
    (free : heldBy other.tx = ∅) :
    (managerService m).Steps ⟨d, [other, ⟨call, before, tx, p⟩]⟩ ⟨d', [other, ⟨call, before ++ seen, tx', q⟩]⟩ := by
  refine Service.steps_alone (i := 1) ran rfl ?_ moves
  rintro (_ | _ | j) u at_ ne
  · rw [← Option.some.inj at_]
    exact free
  · exact absurd rfl ne
  · cases at_

end Pair

-- An attempt begins, another one starts later and fails at the provider; the first commits a ready row, and the failure
-- is recorded over it.
theorem failure_overwrites (first : validRequest (preparing "b").input = some (preparing "b").input)
    (second : validRequest (preparing "a").input = some (preparing "a").input) :
    ∃ s, (managerService anyDriver).Reachable noBackends s ∧ ¬ Prepared anyDriver s := by
  obtain ⟨wrote, provisions, ready⟩ := provisions_moves
  have refuses : (managerService anyDriver).Moves noBackends (some ⟨∅, []⟩)
      (asked "a" "a" (.error .other) ++ [⟨.rollback, ()⟩]) noBackends none := by
    obtain ⟨held, asks⟩ := asked_moves
    exact asks.append (.next (.rollsBack rfl) (.done _ _))
  obtain ⟨t, records, row, failed, status⟩ :
      ∃ t, (managerService anyDriver).Moves wrote none (recorded "a" 10 20) wrote (some t) ∧
        ∃ row, ((managerService anyDriver).view t.writes wrote).backends "acc" = some row ∧ row.status = "failed" :=
    recorded_moves ready (by decide)
  obtain ⟨p, k, fails, recordings⟩ : ∃ p k, Transcript ((attempt anyDriver (preparing "a").input "" 10 11).run >>=
      fun outcome => Prog.call Op.rollback >>= fun _ => pure outcome)
        (asked "a" "a" (.error .other) ++ [⟨.rollback, ()⟩]) p ∧ Transcript p (recorded "a" 10 20) (.op .commit k) :=
    failing
  have arrives : (managerService anyDriver).Steps ⟨noBackends, []⟩
      ⟨noBackends, [⟨preparing "b", [], none, ensured anyDriver (preparing "b").input ""⟩,
        ⟨preparing "a", [], none, ensured anyDriver (preparing "a").input ""⟩]⟩ := by
    have one := Service.Step.arrive (V := managerService anyDriver) ⟨noBackends, []⟩ (preparing "b")
    have two := Service.Step.arrive (V := managerService anyDriver)
      ⟨noBackends, [⟨preparing "b", [], none, (managerService anyDriver).program (preparing "b")⟩]⟩ (preparing "a")
    have both := (Relation.ReflTransGen.single one).tail two
    rw [List.singleton_append, program_of_valid first, program_of_valid second] at both
    exact both
  have starts : (managerService anyDriver).Moves noBackends none (begun 4 5) noBackends (some ⟨∅, []⟩) := begun_moves
  have run := ((((arrives.trans (first_moves begun_attempt starts rfl)).trans
    (second_moves begun_attempt begun_moves rfl)).trans (second_moves fails refuses rfl)).trans
      (first_moves succeeding provisions rfl)).trans (second_moves recordings records rfl)
  refine ⟨_, run, fun prepared => ?_⟩
  obtain ⟨target, cause, refused, account⟩ : Refused "acc" 0 (asked "a" "a" (.error .other)) :=
    ⟨_, .other, .tail _ (.tail _ (.tail _ (.tail _ (.tail _ (.head _))))), rfl⟩
  have commits : (managerService anyDriver).Move wrote (some t) .commit true
      ((managerService anyDriver).view t.writes wrote) none := .commits rfl
  have kept := prepared.monotone _ 1 _ _ "acc" 0 (readied 5)
    (.request _ 1 _ .commit k true _ none rfl rfl commits fun j u _ _ => Set.empty_disjoint _) rfl rfl (by simp)
    ⟨target, cause, by simp [refused], account⟩ ready rfl (Nat.le_refl 0)
  have same : row = readied 5 := Option.some.inj (failed.symm.trans kept)
  rw [same] at status
  exact absurd status (by decide)

def Calm (s : Preparations) : Prop := ∀ c ∈ s.clients, Unrefused c.seen ∧ (⟨.commit, false⟩ : Obs Ret) ∉ c.seen

theorem Calm.before {m : Manager} {s s' : Preparations} (calm : Calm s') (step : (managerService m).Step s s') : Calm s := by
  intro c mem
  obtain ⟨i, client⟩ := List.mem_iff_getElem?.mp mem
  obtain ⟨c', after, -, before⟩ := step.client client
  obtain ⟨unrefused, acknowledged⟩ := calm c' (List.mem_of_getElem? after)
  refine ⟨?_, fun mem => acknowledged (before.subset mem)⟩
  rintro a n ⟨target, cause, mem, same⟩
  exact unrefused a n ⟨target, cause, before.subset mem, same⟩

theorem regular_calm {m : Manager} {s s' : Preparations} (steps : (managerService m).Steps s s') (calm : Calm s') :
    Relation.ReflTransGen (fun s s' => (managerService m).Step s s' ∧ Regular s s') s s' := by
  induction steps with
  | refl => exact .refl
  | tail _ step ih =>
    have before := calm.before step
    refine (ih before).tail ⟨step, ?_, ?_⟩
    · intro i c c' t a id w p settings now client after open_ saw wrote j u ne other unfinished started n clock refused
      exact absurd refused ((before u (List.mem_of_getElem? other)).1 a n)
    · intro i c c' t w client after open_ saw mem stores
      refine absurd ?_ (calm c' (List.mem_of_getElem? after)).2
      rw [saw]
      exact List.mem_append_right _ List.mem_cons_self

def prepared (now : Int) : Result := ⟨"b", "aws", "ready", true, now⟩

def repeated (key : String) (now : Int) : Seen :=
  let c := (preparing key).input.context
  [⟨.role c.workspaceId c.userId, some (some "admin")⟩, ⟨.account c.workspaceId "aws", some (some connected)⟩,
    ⟨.lock "acc", true⟩, ⟨.backend "acc", some (some ("b", {}))⟩, ⟨.replay "b" key, some (some (prepared now))⟩,
    ⟨.rollback, ()⟩]

omit [GoUnicode] in
theorem repeating {key : String} {started now before : Int} :
    Transcript ((attempt anyDriver (preparing key).input "" started now).run >>= fun outcome =>
        Prog.call Op.rollback >>= fun _ => pure outcome) (repeated key before) (.pure (.ok (prepared before, {}))) :=
  .reply (.reply (.reply (.reply (.reply (.reply (.start _))))))

theorem repeated_moves {d : Tables} {key : String} {now : Int} (found : d.backends "acc" = some (readied now))
    (request : d.requests "b" key = some (prepared now)) :
    (managerService anyDriver).Moves d (some ⟨∅, []⟩) (repeated key now) d none := by
  have backend : some (some ("b", {})) = some ((d.backends "acc").map fun row => (row.id, row.settings)) := by
    rw [found]
    rfl
  exact .next (.statement rfl rfl rfl) (.next (.statement rfl rfl rfl) (.next (.statement rfl rfl rfl)
    (.next (.statement rfl rfl ⟨backend, rfl⟩) (.next (.statement rfl rfl ⟨congrArg some request.symm, rfl⟩)
      (.next (.rollsBack rfl) (.done _ _))))))

omit [GoUnicode] in
theorem alone {s : Preparations} {c : Attempt} (one : s.clients = [c]) (j : Nat) (u : Attempt)
    (at_ : s.clients[j]? = some u) (ne : j ≠ 0) : heldBy u.tx = ∅ := by
  rw [one] at at_
  rcases j with _ | j
  · exact absurd rfl ne
  · cases at_

omit [GoUnicode] in
theorem repeated_clear {started now later : Int} :
    ∀ obs ∈ begun started now ++ repeated "b" later, ¬ Hinders "acc" obs.1 obs.2 := by
  simp [begun, repeated, Hinders, permitted, active, connected]

theorem comes_again {d : Tables} {c : Attempt} (closed : heldBy c.tx = ∅) (found : d.backends "acc" = some (readied 5))
    (request : d.requests "b" "b" = some (prepared 5))
    (valid : validRequest (preparing "b").input = some (preparing "b").input) :
    (managerService anyDriver).Steps ⟨d, [c]⟩ ⟨d, [c, ⟨preparing "b", begun 6 7 ++ repeated "b" 5, none,
      .pure (.ok (prepared 5, {}))⟩]⟩ := by
  have arrives := Relation.ReflTransGen.single (Service.Step.arrive (V := managerService anyDriver) ⟨d, [c]⟩ (preparing "b"))
  rw [List.singleton_append, program_of_valid valid] at arrives
  have starts : (managerService anyDriver).Moves d none (begun 6 7) d (some ⟨∅, []⟩) := begun_moves
  exact (arrives.trans (second_moves begun_attempt starts closed)).trans
    (second_moves repeating (repeated_moves found request) closed)

theorem prepares_twice (valid : validRequest (preparing "b").input = some (preparing "b").input) :
    ∃ s s' : Preparations, (managerService anyDriver).Steps ⟨noBackends, []⟩ s ∧ (managerService anyDriver).Steps s s' ∧
      Calm s ∧ s.clients.length = 1 ∧ s.committed.backends "acc" = some (readied 5) ∧
      s.committed.requests "b" "b" = some (prepared 5) ∧ ∃ x, s'.clients[1]? =
        some ⟨preparing "b", begun 6 7 ++ repeated "b" 5, none, .pure x⟩ := by
  obtain ⟨held, asks⟩ := asked_moves
  obtain ⟨d, writes, ready, request⟩ := provisioned_moves
  have provisions := asks.append writes
  have arrives := Relation.ReflTransGen.single (Service.Step.arrive (V := managerService anyDriver) ⟨noBackends, []⟩
    (preparing "b"))
  rw [List.nil_append, program_of_valid valid] at arrives
  have starts : (managerService anyDriver).Moves noBackends none (begun 4 5) noBackends (some ⟨∅, []⟩) := begun_moves
  have first := Service.steps_alone
    (s := ⟨noBackends, [⟨preparing "b", [], none, ensured anyDriver (preparing "b").input ""⟩]⟩) (i := 0)
    begun_attempt rfl (alone rfl) starts
  have run := arrives.trans (first.trans (Service.steps_alone (i := 0) succeeding rfl (alone rfl) provisions))
  refine ⟨_, _, run, comes_again rfl ready request valid, ?_, rfl, ready, request, _, rfl⟩
  intro c mem
  cases List.mem_singleton.mp mem
  refine ⟨?_, ?_⟩
  · rintro a n ⟨target, cause, mem, same⟩
    simp [begun, asked, provisioned] at mem
  · simp [begun, asked, provisioned]

end Runs

theorem preparing_ids (key : String) : ∀ id ∈ [(preparing key).input.context.workspaceId,
    (preparing key).input.context.userId, (preparing key).input.context.correlationId], parseId id = some id := by
  simp only [preparing, List.forall_mem_cons, List.not_mem_nil, false_implies, implies_true, and_true]
  repeat' apply And.intro
  all_goals exact parseId_spelled (by decide) (by decide)

theorem preparing_given {key : String} : letI : GoUnicode := Approval.asciiTables
    normalProvider "aws" = "aws" ∧ TrimSpace key ≠ "" ∧ key.utf8ByteSize ≤ 255 →
      validRequest (preparing key).input = some (preparing key).input := by
  let _ : GoUnicode := Approval.asciiTables
  rintro ⟨aws, given, short⟩
  have ids := preparing_ids key
  simp only [List.forall_mem_cons] at ids
  obtain ⟨workspace, user, correlation, -⟩ := ids
  have provider : normalProvider (preparing key).input.provider = "aws" := aws
  unfold validRequest
  simp only [provider, workspace, user, correlation]
  simp [preparing, given, short]

theorem preparing_valid : letI : GoUnicode := Approval.asciiTables
    validRequest (preparing "b").input = some (preparing "b").input ∧
      validRequest (preparing "a").input = some (preparing "a").input := by
  let _ : GoUnicode := Approval.asciiTables
  exact ⟨preparing_given (by decide), preparing_given (by decide)⟩

theorem state_backend_prepared_repeated : letI : GoUnicode := Approval.asciiTables
    ∃ (s s' : Preparations) (c : Attempt), (managerService anyDriver).Steps s s' ∧ s.clients.length = 1 ∧
      Prepared anyDriver s ∧ s'.clients[1]? = some c ∧ ∃ settings, c.rest = .pure (.ok (prepared 5, settings)) := by
  let _ : GoUnicode := Approval.asciiTables
  obtain ⟨s, s', steps, again, calm, one, ready, request, x, second⟩ := prepares_twice preparing_valid.1
  have once := state_backend_prepared_once anyDriver (regular_calm steps calm)
  obtain ⟨-, -, answered⟩ := once.replayed s' "acc" (readied 5) "b" (prepared 5) again ready request 1 _ one.le second rfl
  obtain ⟨settings, same⟩ := answered x (Option.isSome_of_eq_some preparing_valid.1) repeated_clear rfl
  exact ⟨s, s', _, again, one, once, second, settings, congrArg Prog.pure same⟩

theorem preparation_not_monotone :
    ¬ ∀ [GoUnicode] (m : Manager) (s : Preparations), (managerService m).Reachable noBackends s → Prepared m s := by
  intro claim
  let _ : GoUnicode := Approval.asciiTables
  obtain ⟨s, reachable, not⟩ := failure_overwrites preparing_valid.1 preparing_valid.2
  exact not (claim anyDriver s reachable)

end Example

end Provisr.StateBackend
