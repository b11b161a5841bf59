import Provisr.Foundation.UnderLocks
import Provisr.Orchestrator.SessionPrograms

namespace Provisr.Orchestrator.Sessions

open Provisr.Foundation
open Provisr.Backend.Manifest (uuidIn textIn SqlError answers answers_ok)

section Parts

def runsOf (sessionId : String) (d : Db) : List RunRow := d.runs.filter fun r => r.sessionId == sessionId

def holders (e : Entry) (d : Db) : Nat :=
  d.runs.countP (fun r => decide (e ∈ r.entries)) + d.turns.countP (fun t => decide (e ∈ t.entries))

inductive Part where
  | session (row : Option SessionRow) (runs : Nat)
  | entry (holders : Nat)
  | other

def part : Key → Db → Part
  | .session id, d => .session (d.sessions id) (runsOf id d).length
  | .entry e, d => .entry (holders e d)
  | _, _ => .other

def Part.kept : Part → Prop
  | .entry n => n ≤ 1
  | _ => True

def touches : Write → Set Key
  | .openSession id _ _ => {.session id}
  | .deleteSession id => {.session id}
  | .run row => { x | x = .session row.sessionId ∨ ∃ e ∈ row.entries, x = .entry e }
  | .turn row => { x | ∃ e ∈ row.entries, x = .entry e }
  | _ => ∅

variable {d d' : Db}

@[simp] theorem update_sessionId (id : String) (a : Advance) (row : RunRow) : (a.update id row).sessionId = row.sessionId := by
  unfold Advance.update
  split <;> rfl

@[simp] theorem update_entries (id : String) (a : Advance) (row : RunRow) : (a.update id row).entries = row.entries := by
  unfold Advance.update RunRow.entries
  split <;> rfl

theorem runsOf_advance (id sessionId : String) (a : Advance) (d : Db) :
    runsOf sessionId (apply (.advance id a) d) = (runsOf sessionId d).map (a.update id) := by
  change (d.runs.map _).filter _ = _
  rw [List.filter_map]
  exact congrArg (List.map (a.update id)) (List.filter_congr fun r _ => by simp)

theorem runsOf_run (sessionId : String) (row : RunRow) (d : Db) :
    runsOf sessionId (apply (.run row) d) = runsOf sessionId d ++ if row.sessionId = sessionId then [row] else [] := by
  change (d.runs ++ [row]).filter _ = _
  rw [List.filter_append]
  by_cases own : row.sessionId = sessionId
  · simp [runsOf, own]
  · simp [runsOf, own]

theorem holders_advance (id : String) (e : Entry) (a : Advance) (d : Db) :
    holders e (apply (.advance id a) d) = holders e d := by
  unfold holders
  change (d.runs.map _).countP _ + _ = _
  rw [List.countP_map]
  congr 1
  exact List.countP_congr fun r _ => by simp

theorem holders_run (e : Entry) (row : RunRow) (d : Db) :
    holders e (apply (.run row) d) = holders e d + if e ∈ row.entries then 1 else 0 := by
  unfold holders
  change (d.runs ++ [row]).countP _ + d.turns.countP _ = _
  rw [List.countP_append, List.countP_singleton]
  simp only [decide_eq_true_eq]
  omega

theorem holders_turn (e : Entry) (row : TurnRow) (d : Db) :
    holders e (apply (.turn row) d) = holders e d + if e ∈ row.entries then 1 else 0 := by
  unfold holders
  change d.runs.countP _ + (d.turns ++ [row]).countP _ = _
  rw [List.countP_append, List.countP_singleton]
  simp only [decide_eq_true_eq]
  omega

theorem length_runsOf (id sessionId : String) (a : Advance) (d : Db) :
    (runsOf sessionId (apply (.advance id a) d)).length = (runsOf sessionId d).length := by
  rw [runsOf_advance, List.length_map]

theorem part_apply {x : Key} {w : Write} (h : part x d = part x d') : part x (apply w d) = part x (apply w d') := by
  cases x with
  | session id =>
    obtain ⟨row, runs⟩ := Part.session.inj h
    cases w with
    | openSession other workspaceId userId =>
      change Part.session (if _ then _ else _) (runsOf id d).length = Part.session (if _ then _ else _) (runsOf id d').length
      by_cases own : id = other
      · rw [runs, if_pos own, if_pos own, row]
      · rw [runs, if_neg own, if_neg own, row]
    | deleteSession other =>
      change Part.session (if _ then _ else _) (runsOf id d).length = Part.session (if _ then _ else _) (runsOf id d').length
      by_cases own : id = other
      · rw [runs, if_pos own, if_pos own, row]
      · rw [runs, if_neg own, if_neg own, row]
    | run new =>
      change Part.session (d.sessions id) _ = Part.session (d'.sessions id) _
      rw [runsOf_run, runsOf_run, List.length_append, List.length_append, row, runs]
    | advance other a =>
      change Part.session (d.sessions id) _ = Part.session (d'.sessions id) _
      rw [length_runsOf, length_runsOf, row, runs]
    | role | workspace | turn | message | audit | chat | outbox => exact h
  | entry e =>
    have same : holders e d = holders e d' := Part.entry.inj h
    cases w with
    | run new => exact congrArg Part.entry (by rw [holders_run, holders_run, same])
    | turn new => exact congrArg Part.entry (by rw [holders_turn, holders_turn, same])
    | advance other a => exact congrArg Part.entry (by rw [holders_advance, holders_advance, same])
    | role | workspace | openSession | deleteSession | message | audit | chat | outbox => exact h
  | run | advisory | sequence | outbox => rfl

theorem part_untouched {x : Key} {w : Write} (h : x ∉ touches w) : part x (apply w d) = part x d := by
  cases x with
  | session id =>
    cases w with
    | openSession other workspaceId userId =>
      have apart : id ≠ other := fun e => h (e ▸ rfl)
      change Part.session (if _ then _ else _) (runsOf id d).length = Part.session _ (runsOf id d).length
      rw [if_neg apart]
    | deleteSession other =>
      have apart : id ≠ other := fun e => h (e ▸ rfl)
      change Part.session (if _ then _ else _) (runsOf id d).length = Part.session _ (runsOf id d).length
      rw [if_neg apart]
    | run row =>
      have apart : row.sessionId ≠ id := fun e => h (Or.inl (e ▸ rfl))
      change Part.session (d.sessions id) _ = Part.session (d.sessions id) _
      rw [runsOf_run, if_neg apart, List.append_nil]
    | advance other a => exact congrArg (Part.session (d.sessions id)) (length_runsOf ..)
    | role | workspace | turn | message | audit | chat | outbox => rfl
  | entry e =>
    cases w with
    | run row =>
      have apart : e ∉ row.entries := fun he => h (Or.inr ⟨e, he, rfl⟩)
      exact congrArg Part.entry (by rw [holders_run, if_neg apart, Nat.add_zero])
    | turn row =>
      have apart : e ∉ row.entries := fun he => h ⟨e, he, rfl⟩
      exact congrArg Part.entry (by rw [holders_turn, if_neg apart, Nat.add_zero])
    | advance other a => exact congrArg Part.entry (holders_advance ..)
    | role | workspace | openSession | deleteSession | message | audit | chat | outbox => rfl
  | run | advisory | sequence | outbox => rfl

end Parts

section Statements

variable {faults : Bool} {d : Db} {n n' : Nat}

theorem exec_le {o : Op} {r : Ret o} {ws : List Write} (run : exec faults o d n r ws n') : n ≤ n' := by
  cases o with
  | select | lockSession | lockRun | advisoryLock | touchSession => exact run.2.2.ge
  | insertSession | deleteSession | insertRun | updateRun | insertTurn | insertMessage | setRole
    | setDeleted => exact run.2.ge
  | audit o =>
    obtain ⟨a, rows, -, run, -⟩ | ⟨-, same⟩ := run
    · exact Audit.exec_le run
    · exact same.ge
  | chat o =>
    obtain ⟨a, rows, -, run, -⟩ | ⟨-, same⟩ := run
    · cases o with
      | upsertSequence => exact run.2.2.ge
      | insertEvent => exact run.2.2.2.ge
    · exact same.ge
  | outbox o =>
    obtain ⟨a, rows, -, run, -⟩ | ⟨-, same⟩ := run
    · cases o with
      | advisoryLock => exact run.2.ge
      | insertEvent => exact run.2.1.le
    · exact same.ge

theorem exec_touches {o : Op} {r : Ret o} {ws : List Write} (run : exec faults o d n r ws n') {w : Write} (mem : w ∈ ws)
    {x : Key} (touched : x ∈ touches w) :
    x ∈ locks o d ∨ ∃ row inserted, o = .insertRun row ∧ insertedRun row = some inserted ∧ x = .session inserted.sessionId := by
  have none : ∀ {r : Ret o}, ¬ fails r ws := fun h => absurd (h.2 ▸ mem) List.not_mem_nil
  cases o with
  | select | lockSession | lockRun | advisoryLock | touchSession => exact absurd (run.2.1 ▸ mem) List.not_mem_nil
  | insertSession =>
    obtain ⟨⟨i, w', u, hi, -, -, -, -, rfl⟩ | failed, -⟩ := run
    · obtain rfl := List.mem_singleton.mp mem
      exact Or.inl ⟨i, hi, touched⟩
    · exact absurd failed none
  | deleteSession =>
    obtain ⟨⟨i, row, hi, own, -, rfl⟩ | ⟨-, -, rfl⟩ | failed, -⟩ := run
    · obtain rfl := List.mem_singleton.mp mem
      exact Or.inl ⟨i, hi, ⟨row, own⟩, touched⟩
    · cases mem
    · exact absurd failed none
  | insertRun row =>
    obtain ⟨⟨inserted, hi, -, fresh, -, rfl⟩ | ⟨-, -, rfl⟩ | failed, -⟩ := run
    · obtain rfl := List.mem_singleton.mp mem
      obtain rfl | ⟨e, he, rfl⟩ := touched
      · exact Or.inr ⟨row, inserted, rfl, hi, rfl⟩
      · exact Or.inl ⟨fresh, inserted, hi, e, he, rfl⟩
    · cases mem
    · exact absurd failed none
  | updateRun =>
    obtain ⟨⟨i, row, -, -, -, -, -, -, rfl⟩ | ⟨-, -, rfl⟩ | failed, -⟩ := run
    · obtain rfl := List.mem_singleton.mp mem
      exact absurd touched (Set.notMem_empty x)
    · cases mem
    · exact absurd failed none
  | insertTurn row =>
    obtain ⟨⟨inserted, hi, -, fresh, -, rfl⟩ | ⟨-, -, rfl⟩ | failed, -⟩ := run
    · obtain rfl := List.mem_singleton.mp mem
      obtain ⟨e, he, rfl⟩ := touched
      exact Or.inl ⟨fresh, inserted, hi, e, he, rfl⟩
    · cases mem
    · exact absurd failed none
  | insertMessage =>
    obtain ⟨⟨inserted, -, -, -, rfl⟩ | failed, -⟩ := run
    · obtain rfl := List.mem_singleton.mp mem
      exact absurd touched (Set.notMem_empty x)
    · exact absurd failed none
  | audit | chat | outbox =>
    obtain ⟨a, rows, -, -, rfl⟩ | ⟨failed, -⟩ := run
    · obtain ⟨row, -, rfl⟩ := List.mem_map.mp mem
      exact absurd touched (Set.notMem_empty x)
    · exact absurd failed none
  | setRole | setDeleted =>
    obtain ⟨⟨-, rfl⟩ | failed, -⟩ := run
    · obtain rfl := List.mem_singleton.mp mem
      exact absurd touched (Set.notMem_empty x)
    · exact absurd failed none

structure InsertedRun (row : RunInsertion) (inserted : RunRow) : Prop where
  id : uuidIn row.id = some inserted.id
  session : uuidIn row.sessionId = some inserted.sessionId
  workspace : uuidIn row.workspaceId = some inserted.workspaceId
  requester : uuidIn row.requesterId = some inserted.requesterId
  prompt : textIn row.prompt = some inserted.prompt
  key : varcharIn row.idempotencyKey = some inserted.idempotencyKey

theorem insertedRun_fields {row : RunInsertion} {inserted : RunRow} (h : insertedRun row = some inserted) :
    InsertedRun row inserted := by
  unfold insertedRun at h
  simp only [Option.bind_eq_bind, Option.bind_eq_some_iff, Option.some.injEq] at h
  obtain ⟨_, id, _, session, _, workspace, _, requester, _, prompt, _, key, _, -, rfl⟩ := h
  exact ⟨id, session, workspace, requester, prompt, key⟩

theorem holders_run_eq_zero {row : RunInsertion} {inserted : RunRow} (h : insertedRun row = some inserted)
    (fresh : ¬ takenRun row d) {e : Entry} (mem : e ∈ inserted.entries) : holders e d = 0 := by
  have runs : d.runs.countP (fun r => decide (e ∈ r.entries)) = 0 :=
    List.countP_eq_zero.mpr fun r hr he => fresh ⟨inserted, h, r, hr, e, of_decide_eq_true he, mem⟩
  have turns : d.turns.countP (fun t => decide (e ∈ t.entries)) = 0 := by
    refine List.countP_eq_zero.mpr fun t _ he => ?_
    have own := of_decide_eq_true he
    unfold RunRow.entries at mem
    unfold TurnRow.entries at own
    simp only [List.mem_cons, List.not_mem_nil, or_false] at mem own
    rcases mem with rfl | rfl <;> simp at own
  unfold holders
  omega

theorem holders_turn_eq_zero {row : TurnInsertion} {inserted : TurnRow} (h : insertedTurn row = some inserted)
    (fresh : ¬ takenTurn row d) {e : Entry} (mem : e ∈ inserted.entries) : holders e d = 0 := by
  have turns : d.turns.countP (fun t => decide (e ∈ t.entries)) = 0 :=
    List.countP_eq_zero.mpr fun t ht he => fresh ⟨inserted, h, t, ht, e, of_decide_eq_true he, mem⟩
  have runs : d.runs.countP (fun r => decide (e ∈ r.entries)) = 0 := by
    refine List.countP_eq_zero.mpr fun r _ he => ?_
    have own := of_decide_eq_true he
    unfold TurnRow.entries at mem
    unfold RunRow.entries at own
    simp only [List.mem_cons, List.not_mem_nil, or_false] at mem own
    rcases own with rfl | rfl <;> simp at mem
  unfold holders
  omega

end Statements

section Kinds

-- Statements that insert no run, and those that change no session, run, turn or message but by an advance.
def Op.plain : Op → Prop
  | .insertRun _ => False
  | _ => True

def Op.quiet : Op → Prop
  | .insertRun _ | .deleteSession .. | .insertTurn _ | .insertMessage _ => False
  | _ => True

theorem Op.quiet.plain {o : Op} (h : o.quiet) : o.plain := by
  cases o with
  | insertRun row => exact h
  | _ => trivial

variable {P : Op → Prop}

theorem all_statement {o : Op} {next : Answer o → Prog Ret Outcome} (own : P o) (rest : ∀ a, (next a).All P) :
    (statement o next).All P := by
  refine ⟨own, fun r => ?_⟩
  cases r with
  | error e => trivial
  | ok a => exact rest a

theorem all_audited {α : Type} (own : ∀ o, P (.audit o)) (p : Prog Audit.Ret α) {next : α → Prog Ret Outcome}
    (rest : ∀ a, (next a).All P) : (audited p next).All P := by
  induction p with
  | pure a => exact rest a
  | op o k ih => exact all_statement (own o) fun a => ih a

theorem all_chatted {α : Type} (own : ∀ o, P (.chat o)) (p : Prog Events.Chat.Ret α) {next : α → Prog Ret Outcome}
    (rest : ∀ a, (next a).All P) : (chatted p next).All P := by
  induction p with
  | pure a => exact rest a
  | op o k ih => exact all_statement (own o) fun a => ih a

theorem all_published {α : Type} (own : ∀ o, P (.outbox o)) (p : Prog Events.Sse.Ret α) {next : α → Prog Ret Outcome}
    (rest : ∀ a, (next a).All P) : (published p next).All P := by
  induction p with
  | pure a => exact rest a
  | op o k ih => exact all_statement (own o) fun a => ih a

theorem all_require {q : Query} {holds : q.Answer → Bool} {r : Refusal} {next : Prog Ret Outcome} (own : P (.select q))
    (rest : next.All P) : (require q holds r next).All P := by
  refine all_statement own fun a => ?_
  split
  · exact rest
  · trivial

theorem createSession_quiet (id workspaceId userId : String) :
    (ChatPersistenceService.createSession id workspaceId userId).All Op.quiet :=
  all_require trivial (all_statement trivial fun _ => trivial)

theorem deleteSession_plain (id workspaceId userId : String) :
    (ChatPersistenceService.deleteSession id workspaceId userId).All Op.plain := by
  refine all_statement trivial fun found => ?_
  cases found with
  | none => trivial
  | some row =>
    refine all_statement trivial fun runs => ?_
    split
    · exact all_statement trivial fun _ => trivial
    · trivial

end Kinds

variable [Platform]

section Programs

theorem fallback_quiet (params : ChatPersistenceService.PlanningTurn) (error : Outcome) :
    (ChatPersistenceService.fallback params error).All Op.quiet := by
  refine ⟨trivial, fun r => ?_⟩
  cases r with
  | error e => trivial
  | ok found => cases found <;> trivial

theorem advance_quiet (m : RunsService.Mutation) (run : RunRow) (change : RunsService.Change) :
    (RunsService.advance m run change).All Op.quiet := by
  unfold RunsService.advance
  cases RunsService.target run change with
  | error message => trivial
  | ok a =>
    refine all_statement trivial fun updated => ?_
    cases updated with
    | none => trivial
    | some updated =>
      exact all_audited (fun _ => trivial) _ fun _ => all_published (fun _ => trivial) _ fun _ => trivial

theorem mutate_quiet (m : RunsService.Mutation) : (RunsService.mutate m).All Op.quiet := by
  refine all_statement trivial fun found => ?_
  cases found with
  | none => trivial
  | some run =>
    dsimp only
    split
    · trivial
    · cases m.operation run with
      | none => trivial
      | some change =>
        dsimp only
        split
        · exact advance_quiet m run change
        · cases run.state == .approving && change.state != some .cancelled
          · exact all_require trivial (advance_quiet m run change)
          · exact all_require trivial (advance_quiet m run change)

theorem transition_quiet (t : Transition) : (transition t).All Op.quiet := by
  unfold transition
  split
  · trivial
  · refine all_statement trivial fun updated => ?_
    cases updated with
    | none => trivial
    | some updated =>
      exact all_audited (fun _ => trivial) _ fun _ => all_published (fun _ => trivial) _ fun _ => trivial

theorem recordRun_plain (request : RunsService.CreateRun) (fresh : ChatPersistenceService.Fresh) (run : RunRow) :
    (RunsService.recordRun request fresh run).All Op.plain :=
  all_audited (fun _ => trivial) _ fun _ => all_published (fun _ => trivial) _ fun _ => trivial

theorem insertTurn_plain (params : ChatPersistenceService.PlanningTurn) (fresh : ChatPersistenceService.Fresh)
    (run : RunRow) : (ChatPersistenceService.insertTurn params fresh run).All Op.plain :=
  all_statement trivial fun _ => all_statement trivial fun _ =>
    all_chatted (fun _ => trivial) _ fun _ => all_statement trivial fun _ => trivial

end Programs

def protection (faults : Bool) : Protection (engine faults) Part where
  part := part
  touches := touches
  part_apply := part_apply
  part_untouched := part_untouched
  Kept _ p _ := p.kept
  mono _ h := h

variable {faults : Bool} {held : Set Key} {d d' : Db} {n n' : Nat}

section Rows

def Single (held : Set Key) (d : Db) : Prop := ∀ e, .entry e ∈ held → holders e d ≤ 1

theorem Single.intact (h : Single held d) : (protection faults).Intact held d n := by
  intro x hx
  cases x with
  | entry e => exact h e hx
  | session | run | advisory | sequence | outbox => trivial

theorem Single.rely (h : Single held d) (rely : (protection faults).Rely held d d') : Single held d' := by
  intro e he
  have same : holders e d = holders e d' := Part.entry.inj (rely _ he)
  rw [← same]
  exact h e he

theorem view_singleton (w : Write) : (engine faults).view [w] d = apply w d := rfl

theorem inserted_single {o : Op} {r : Ret o} {ws : List Write} (run : exec faults o d n r ws n') {e : Entry}
    (locked : Key.entry e ∈ locks o d) : holders e ((engine faults).view ws d) ≤ 1 := by
  cases o with
  | insertRun row =>
    obtain ⟨fresh, inserted, hi, e', he, same⟩ := locked
    obtain rfl := Key.entry.inj same
    have before := holders_run_eq_zero hi fresh he
    obtain ⟨⟨other, ho, -, -, -, rfl⟩ | ⟨-, -, rfl⟩ | ⟨-, rfl⟩, -⟩ := run
    · obtain rfl := Option.some.inj (hi.symm.trans ho)
      rw [view_singleton, holders_run, before, if_pos he]
    · exact before.le.trans (Nat.zero_le 1)
    · exact before.le.trans (Nat.zero_le 1)
  | insertTurn row =>
    obtain ⟨fresh, inserted, hi, e', he, same⟩ := locked
    obtain rfl := Key.entry.inj same
    have before := holders_turn_eq_zero hi fresh he
    obtain ⟨⟨other, ho, -, -, -, rfl⟩ | ⟨-, -, rfl⟩ | ⟨-, rfl⟩, -⟩ := run
    · obtain rfl := Option.some.inj (hi.symm.trans ho)
      rw [view_singleton, holders_turn, before, if_pos he]
    · exact before.le.trans (Nat.zero_le 1)
    · exact before.le.trans (Nat.zero_le 1)
  | lockSession | deleteSession | touchSession | insertSession | lockRun | updateRun | audit | chat | outbox =>
    simp [locks] at locked
  | advisoryLock => cases locked
  | select | insertMessage | setRole | setDeleted => cases locked

theorem Single.exec {o : Op} {r : Ret o} {ws : List Write} (h : Single held d) (run : exec faults o d n r ws n') :
    Single (held ∪ locks o d) ((engine faults).view ws d) := by
  intro e he
  by_cases locked : Key.entry e ∈ locks o d
  · exact inserted_single run locked
  · have untouched : ∀ w ∈ ws, Key.entry e ∉ touches w := by
      intro w hw touched
      rcases exec_touches run hw touched with own | ⟨_, _, -, -, same⟩
      · exact locked own
      · cases same
    have same := Part.entry.inj ((protection faults).part_view_untouched untouched d)
    rw [same]
    exact h e (he.resolve_right locked)

end Rows

section Preserved

def Settled (faults : Bool) (_ : Call) (_ : Outcome) (held : Set Key) (d : Db) (n : Nat) : Prop :=
  (protection faults).Intact held d n

variable {c : Call}

theorem pure_wp {o : Outcome} (single : Single held d) : (protection faults).wp (Settled faults c) (.pure o) held d n :=
  fun _ _ rely _ => (single.rely rely).intact

theorem op_wp {o : Op} {k : Ret o → Prog Ret Outcome} (single : Single held d)
    (own : ∀ row inserted, o = .insertRun row → insertedRun row = some inserted → Key.session inserted.sessionId ∈ held)
    (h : ∀ d' n' r ws n'', exec faults o d' n' r ws n'' → Single (held ∪ locks o d') ((engine faults).view ws d') →
      (protection faults).wp (Settled faults c) (k r) (held ∪ locks o d') ((engine faults).view ws d') n'') :
    (protection faults).wp (Settled faults c) (.op o k) held d n := by
  intro d' n' rely _ _ r ws n'' run
  refine ⟨exec_le run, fun w hw x hx => ?_, h d' n' r ws n'' run ((single.rely rely).exec run)⟩
  rcases exec_touches run hw hx with locked | ⟨row, inserted, insert, hi, rfl⟩
  · exact Or.inr locked
  · exact Or.inl (own row inserted insert hi)

theorem plain_wp {p : Prog Ret Outcome} (all : p.All Op.plain) (single : Single held d) :
    (protection faults).wp (Settled faults c) p held d n := by
  induction p generalizing held d n with
  | pure o => exact pure_wp single
  | op o k ih =>
    refine op_wp single (fun row _ insert _ => ?_) fun d' n' r ws n'' _ after => ih r (all.2 r) after
    have plain := all.1
    rw [insert] at plain
    exact plain.elim

theorem statement_wp {o : Op} {next : Answer o → Prog Ret Outcome} (single : Single held d)
    (own : ∀ row inserted, o = .insertRun row → insertedRun row = some inserted → Key.session inserted.sessionId ∈ held)
    (h : ∀ d' n' a ws n'', exec faults o d' n' (.ok a) ws n'' → Single (held ∪ locks o d') ((engine faults).view ws d') →
      (protection faults).wp (Settled faults c) (next a) (held ∪ locks o d') ((engine faults).view ws d') n'') :
    (protection faults).wp (Settled faults c) (statement o next) held d n := by
  refine op_wp single own fun d' n' r ws n'' run after => ?_
  cases r with
  | error e => exact pure_wp after
  | ok a => exact h d' n' a ws n'' run after

theorem require_wp {q : Query} {holds : q.Answer → Bool} {refusal : Refusal} {next : Prog Ret Outcome}
    (single : Single held d)
    (h : ∀ held d n, Single held d → (protection faults).wp (Settled faults c) next held d n) :
    (protection faults).wp (Settled faults c) (require q holds refusal next) held d n := by
  refine statement_wp single nofun fun d' n' a ws n'' _ after => ?_
  split
  · exact h _ _ _ after
  · exact pure_wp after

variable {params : ChatPersistenceService.PlanningTurn} {fresh : ChatPersistenceService.Fresh}
  {request : RunsService.CreateRun}

theorem submitPlanningTurn_wp (single : Single held d) :
    (protection faults).wp (Settled faults c) (ChatPersistenceService.submitPlanningTurn params fresh) held d n := by
  refine require_wp single fun held d n single => require_wp single fun held d n single => ?_
  refine statement_wp single nofun fun d₁ n₁ _ _ _ _ single => ?_
  refine statement_wp single nofun fun d₂ n₂ found _ _ _ single => ?_
  cases found with
  | some turn => exact pure_wp single
  | none =>
    refine statement_wp single nofun fun d₃ n₃ owned _ _ run single => ?_
    cases owned with
    | none => exact pure_wp single
    | some row =>
      refine statement_wp single (fun insertion inserted same hi => ?_) fun d₄ n₄ run _ _ _ single => ?_
      · cases same
        exact Or.inr ⟨inserted.sessionId, (insertedRun_fields hi).session, ⟨row, answers_ok run.1⟩, rfl⟩
      · exact plain_wp (all_audited (fun _ => trivial) _ fun _ => insertTurn_plain params fresh run) single

theorem createRun_wp (single : Single held d) :
    (protection faults).wp (Settled faults c) (RunsService.createRun request fresh) held d n := by
  refine require_wp single fun held d n single => require_wp single fun held d n single => ?_
  refine statement_wp single nofun fun d₁ n₁ _ _ _ _ single => ?_
  refine statement_wp single nofun fun d₂ n₂ found _ _ _ single => ?_
  cases found with
  | some run => exact pure_wp single
  | none =>
    refine statement_wp single nofun fun d₃ n₃ owned _ _ run single => ?_
    cases owned with
    | none => exact pure_wp single
    | some row =>
      refine statement_wp single (fun insertion inserted same hi => ?_) fun d₄ n₄ run _ _ _ single => ?_
      · cases same
        exact Or.inr ⟨inserted.sessionId, (insertedRun_fields hi).session, ⟨row, answers_ok run.1⟩, rfl⟩
      · exact plain_wp (recordRun_plain request fresh run) single

theorem program_wp (call : Call) (single : Single held d) :
    (protection faults).wp (Settled faults c) (program call) held d n := by
  cases call with
  | createSession id workspaceId userId =>
    exact plain_wp ((createSession_quiet id workspaceId userId).mono fun _ => Op.quiet.plain) single
  | deleteSession id workspaceId userId => exact plain_wp (deleteSession_plain id workspaceId userId) single
  | submitPlanningTurn params fresh => exact submitPlanningTurn_wp single
  | fallback params error => exact plain_wp ((fallback_quiet params error).mono fun _ => Op.quiet.plain) single
  | createRun request fresh => exact createRun_wp single
  | mutate m => exact plain_wp ((mutate_quiet m).mono fun _ => Op.quiet.plain) single
  | transition t => exact plain_wp ((transition_quiet t).mono fun _ => Op.quiet.plain) single
  | other deed => cases deed <;> exact plain_wp (all_statement trivial fun _ => trivial) single

end Preserved

def locking (faults : Bool) : Locking (engine faults) Part where
  toProtection := protection faults
  Post := Settled faults
  commits _ intact := intact
  program c _ _ := program_wp c nofun

end Provisr.Orchestrator.Sessions
