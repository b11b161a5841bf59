import Provisr.Orchestrator.TurnAuthorization

namespace Provisr.Orchestrator.Sessions

open Provisr.Foundation
open Provisr.Backend.Manifest (uuidIn textIn uuidIn_self answers_ok)

section Apart

variable {α β : Type} [DecidableEq β] {entries : α → List β} {rows : List α}

theorem disjoint_of_countP (single : ∀ e, rows.countP (fun a => decide (e ∈ entries a)) ≤ 1) :
    rows.Pairwise fun a b => List.Disjoint (entries a) (entries b) := by
  induction rows with
  | nil => exact .nil
  | cons a rows ih =>
    refine List.pairwise_cons.mpr ⟨fun b mem e own own' => ?_, ih fun e => ?_⟩
    · have more : 0 < rows.countP fun a => decide (e ∈ entries a) :=
        List.countP_pos_iff.mpr ⟨b, mem, decide_eq_true own'⟩
      have bound := single e
      rw [List.countP_cons, if_pos (decide_eq_true own)] at bound
      omega
    · exact (List.Sublist.countP_le (List.sublist_cons_self a rows)).trans (single e)

omit [DecidableEq β] in
theorem eq_of_disjoint (apart : rows.Pairwise fun a b => List.Disjoint (entries a) (entries b)) {a b : α}
    (mem : a ∈ rows) (mem' : b ∈ rows) {e : β} (own : e ∈ entries a) (own' : e ∈ entries b) : a = b := by
  by_contra other
  have symmetric : Std.Symm fun a b : α => List.Disjoint (entries a) (entries b) := ⟨fun _ _ h => List.disjoint_symm h⟩
  exact apart.forall mem mem' other own own'

end Apart

section Rows

structure Backed (d : Db) (turn : TurnRow) (message : MessageRow) : Prop where
  said : message = ⟨turn.sessionId, turn.workspaceId, turn.id, "user", message.content⟩
  input : turn.input = Json.jsonb (.obj [("kind", .str "text"), ("text", .str message.content)])
  key : turn.idempotencyKey.length ≤ 255
  run : ∃ run ∈ d.runs, run.id = turn.provisioningRunId ∧ run.sessionId = turn.sessionId ∧
    run.workspaceId = turn.workspaceId ∧ run.requesterId = turn.requesterId ∧ run.correlationId = turn.correlationId ∧
    run.prompt = message.content

def Recorded (d : Db) : Prop := List.Forall₂ (Backed d) d.turns d.messages

structure Unshared (d : Db) : Prop where
  runs : d.runs.Pairwise fun r r' => List.Disjoint r.entries r'.entries
  turns : d.turns.Pairwise fun t t' => List.Disjoint t.entries t'.entries

structure FiledAt (params : ChatPersistenceService.PlanningTurn) (turn : TurnRow) : Prop where
  workspace : uuidIn params.workspaceId = some turn.workspaceId
  requester : uuidIn params.userId = some turn.requesterId
  key : varcharIn params.idempotencyKey = some turn.idempotencyKey

variable {d d' : Db} {params : ChatPersistenceService.PlanningTurn} {turn turn' : TurnRow}

theorem unshared_of_holders (single : ∀ e, holders e d ≤ 1) : Unshared d := by
  unfold holders at single
  constructor
  · exact disjoint_of_countP fun e => (Nat.le_add_right _ _).trans (single e)
  · exact disjoint_of_countP fun e => (Nat.le_add_left _ _).trans (single e)

theorem Backed.grows {message : MessageRow} (h : Backed d turn message) (grown : Grows d d') : Backed d' turn message := by
  obtain ⟨run, mem, rest⟩ := h.run
  obtain ⟨run', mem', evolves⟩ := grown.mem mem
  refine ⟨h.said, h.input, h.key, run', mem', ?_⟩
  rw [evolves.same]
  exact rest

theorem Recorded.unless (h : Recorded d) (grown : Grows d d') (turns : d'.turns = d.turns)
    (messages : d'.messages = d.messages) : Recorded d' := by
  unfold Recorded
  rw [turns, messages]
  exact h.imp fun _ _ backed => backed.grows grown

theorem FiledAt.entry (h : FiledAt params turn) (h' : FiledAt params turn') :
    .turnKey turn.workspaceId turn.requesterId turn.idempotencyKey ∈ turn'.entries := by
  have workspace := Option.some.inj (h.workspace.symm.trans h'.workspace)
  have requester := Option.some.inj (h.requester.symm.trans h'.requester)
  have key := Option.some.inj (h.key.symm.trans h'.key)
  rw [workspace, requester, key]
  exact List.mem_cons_of_mem _ List.mem_cons_self

theorem FiledAt.unique (h : FiledAt params turn) (h' : FiledAt params turn') (apart : Unshared d) (mem : turn ∈ d.turns)
    (mem' : turn' ∈ d.turns) : turn = turn' :=
  eq_of_disjoint apart.turns mem mem' (h.entry h) (h.entry h')

end Rows

section Insertions

structure InsertedTurn (row : TurnInsertion) (inserted : TurnRow) : Prop where
  id : uuidIn row.id = some inserted.id
  session : uuidIn row.sessionId = some inserted.sessionId
  workspace : uuidIn row.workspaceId = some inserted.workspaceId
  requester : uuidIn row.requesterId = some inserted.requesterId
  key : varcharIn row.idempotencyKey = some inserted.idempotencyKey
  fingerprint : inserted.requestFingerprint = row.requestFingerprint
  input : inserted.input = Json.jsonb row.input
  correlation : uuidIn row.correlationId = some inserted.correlationId
  run : uuidIn row.provisioningRunId = some inserted.provisioningRunId

theorem insertedTurn_fields {row : TurnInsertion} {inserted : TurnRow} (h : insertedTurn row = some inserted) :
    InsertedTurn row inserted := by
  unfold insertedTurn at h
  simp only [Option.bind_eq_bind, Option.bind_eq_some_iff] at h
  obtain ⟨_, id, _, session, _, workspace, _, requester, _, -, _, key, _, correlation, _, run, storable⟩ := h
  split at storable
  · obtain rfl := Option.some.inj storable
    exact ⟨id, session, workspace, requester, key, rfl, rfl, correlation, run⟩
  · cases storable

theorem insertedRun_correlation {row : RunInsertion} {inserted : RunRow} (h : insertedRun row = some inserted) :
    uuidIn row.correlationId = some inserted.correlationId := by
  unfold insertedRun at h
  simp only [Option.bind_eq_bind, Option.bind_eq_some_iff, Option.some.injEq] at h
  obtain ⟨_, -, _, -, _, -, _, -, _, -, _, -, _, correlation, rfl⟩ := h
  exact correlation

theorem insertedMessage_eq {row : MessageInsertion} {inserted : MessageRow} (h : insertedMessage row = some inserted)
    {turn : TurnRow} (session : uuidIn row.sessionId = some turn.sessionId)
    (workspace : uuidIn row.workspaceId = some turn.workspaceId) (id : uuidIn row.turnId = some turn.id) :
    inserted = ⟨turn.sessionId, turn.workspaceId, turn.id, "user", inserted.content⟩ ∧
      textIn row.content = some inserted.content := by
  unfold insertedMessage at h
  simp only [Option.bind_eq_bind, Option.bind_eq_some_iff, Option.some.injEq] at h
  obtain ⟨_, session', _, workspace', _, id', _, content, rfl⟩ := h
  obtain rfl := Option.some.inj (session.symm.trans session')
  obtain rfl := Option.some.inj (workspace.symm.trans workspace')
  obtain rfl := Option.some.inj (id.symm.trans id')
  exact ⟨rfl, content⟩

theorem textIn_same {s s' : String} (h : textIn s = some s') : s' = s := by
  unfold textIn at h
  split at h
  · exact (Option.some.inj h).symm
  · cases h

theorem varcharIn_length {s s' : String} (h : varcharIn s = some s') : s'.length ≤ 255 := by
  unfold varcharIn at h
  obtain ⟨t, -, h⟩ := Option.bind_eq_some_iff.mp h
  split at h
  · rename_i short
    exact Option.some.inj h ▸ short
  · split at h
    · obtain rfl := Option.some.inj h
      rw [String.length_ofList, List.length_take]
      exact Nat.min_le_left _ _
    · cases h

theorem varcharIn_of_textIn {s s' : String} (h : textIn s = some s') (short : s'.length ≤ 255) :
    varcharIn s = some s' := by
  unfold varcharIn
  rw [h, Option.bind_some, if_pos short]

variable [Platform] {params : ChatPersistenceService.PlanningTurn} {fresh : ChatPersistenceService.Fresh} {d : Db}

theorem backed_of_inserted {run run' : RunRow} {turn : TurnRow} {message : MessageRow}
    (inserted : insertedRun (ChatPersistenceService.runInsertion params fresh) = some run)
    (turned : insertedTurn (ChatPersistenceService.turnInsertion params fresh run.id) = some turn)
    (said : insertedMessage (ChatPersistenceService.messageInsertion params turn.id) = some message)
    (mem : run' ∈ d.runs) (evolves : run.Evolves run') : Backed d turn message := by
  have own := insertedRun_fields inserted
  have fields := insertedTurn_fields turned
  obtain ⟨same, content⟩ := insertedMessage_eq said fields.session fields.workspace (uuidIn_self fields.id)
  have prompt := textIn_same content
  refine ⟨same, ?_, varcharIn_length fields.key, run', mem, ?_⟩
  · rw [fields.input, prompt]
    rfl
  · rw [evolves.same]
    have id := Option.some.inj ((uuidIn_self own.id).symm.trans fields.run)
    have session := Option.some.inj (own.session.symm.trans fields.session)
    have workspace := Option.some.inj (own.workspace.symm.trans fields.workspace)
    have requester := Option.some.inj (own.requester.symm.trans fields.requester)
    have correlation := Option.some.inj ((insertedRun_correlation inserted).symm.trans fields.correlation)
    exact ⟨id, session, workspace, requester, correlation, Option.some.inj (own.prompt.symm.trans content)⟩

end Insertions

section Transactions

def Write.silent : Write → Prop
  | .turn _ | .message _ => False
  | _ => True

theorem Write.quiet.silent {w : Write} (h : w.quiet) : w.silent := by
  cases w with
  | turn | message => exact h
  | role | workspace | openSession | deleteSession | run | advance | audit | chat | outbox => trivial

theorem Write.record.silent {w : Write} (h : w.record) : w.silent := by
  cases w with
  | turn | message => exact h
  | role | workspace | openSession | deleteSession | run | advance | audit | chat | outbox => trivial

variable [Platform] {faults : Bool} {d : Db} {ws : List Write}

variable (faults) in
theorem turns_silent (silent : ∀ w ∈ ws, w.silent) (d : Db) :
    ((engine faults).view ws d).turns = d.turns ∧ ((engine faults).view ws d).messages = d.messages := by
  induction ws generalizing d with
  | nil => exact ⟨rfl, rfl⟩
  | cons w ws ih =>
    obtain ⟨turns, messages⟩ := ih (fun v mem => silent v (List.mem_cons_of_mem w mem)) (apply w d)
    have own := silent w List.mem_cons_self
    cases w with
    | turn | message => exact own.elim
    | role | workspace | openSession | deleteSession | run | advance | audit | chat | outbox => exact ⟨turns, messages⟩

theorem Recorded.silent (h : Recorded d) (silent : ∀ w ∈ ws, w.silent) : Recorded ((engine faults).view ws d) :=
  h.unless ((growing faults).view ws d) (turns_silent faults silent d).1 (turns_silent faults silent d).2

structure Added (run : RunRow) (turn : TurnRow) (message : MessageRow) (d d' : Db) : Prop where
  turns : d'.turns = d.turns ++ [turn]
  messages : d'.messages = d.messages ++ [message]
  run : ∃ run' ∈ d'.runs, run.Evolves run'

variable (faults) in
theorem added_view {run : RunRow} {turn : TurnRow} {message : MessageRow} {vs vs' : List Write}
    (recorded : ∀ w ∈ vs, w.record) (recorded' : ∀ w ∈ vs', w.record) (d : Db) :
    Added run turn message d ((engine faults).view (.run run :: (vs ++ .turn turn :: .message message :: vs')) d) := by
  have first : ∀ w ∈ Write.run run :: vs, w.silent := by
    intro w mem
    rcases List.mem_cons.mp mem with rfl | mem
    · trivial
    · exact (recorded w mem).silent
  have before := turns_silent faults first d
  have after := turns_silent faults (fun w mem => (recorded' w mem).silent)
    (apply (.message message) (apply (.turn turn) ((engine faults).view (.run run :: vs) d)))
  have whole : (engine faults).view (.run run :: (vs ++ .turn turn :: .message message :: vs')) d =
      (engine faults).view vs'
        (apply (.message message) (apply (.turn turn) ((engine faults).view (.run run :: vs) d))) := by
    rw [Engine.view_cons, Engine.view_append]
    rfl
  refine ⟨?_, ?_, ?_⟩
  · rw [whole, after.1, ← before.1]
    rfl
  · rw [whole, after.2, ← before.2]
    rfl
  · have inserted : run ∈ (apply (.run run) d).runs := List.mem_append_right _ List.mem_cons_self
    exact ((growing faults).view (vs ++ .turn turn :: .message message :: vs') (apply (.run run) d)).mem inserted

variable {params : ChatPersistenceService.PlanningTurn} {fresh : ChatPersistenceService.Fresh}
  {request : RunsService.CreateRun} {c : Call} {o : Outcome}

theorem Accepts.recorded (told : Accepts params fresh o d ws) (commits : o.commits = true) (h : Recorded d) :
    Recorded ((engine faults).view ws d) := by
  cases told with
  | @accepted run turn message vs vs' _ inserted turned said opened recorded recorded' =>
    have added : Added run turn message d _ := added_view faults recorded recorded' d
    obtain ⟨run', mem, evolves⟩ := added.run
    have own := backed_of_inserted inserted turned said mem evolves
    have grown := (growing faults).view (.run run :: (vs ++ .turn turn :: .message message :: vs')) d
    unfold Recorded
    rw [added.turns, added.messages]
    exact List.rel_append (h.imp fun _ _ backed => backed.grows grown) (.cons own .nil)
  | replayed => exact h
  | refused | lost | obstructed | obstructedTurn => cases commits

theorem Creates.recorded (told : Creates fresh request o d ws) (commits : o.commits = true) (h : Recorded d) :
    Recorded ((engine faults).view ws d) := by
  cases told with
  | created inserted opened recorded =>
    refine h.silent fun w mem => ?_
    rcases List.mem_cons.mp mem with rfl | mem
    · trivial
    · exact (recorded w mem).silent
  | existing => exact h
  | refused | lost | obstructed => cases commits

theorem Deletes.recorded {id : String} (told : Deletes id o d ws) (h : Recorded d) :
    Recorded ((engine faults).view ws d) := by
  cases told with
  | deleted session found ended =>
    refine h.silent fun w mem => ?_
    obtain rfl := List.mem_singleton.mp mem
    trivial
  | kept => exact h

theorem Told.recorded (told : Told c o d ws) (commits : o.commits = true) (h : Recorded d) :
    Recorded ((engine faults).view ws d) := by
  cases c with
  | deleteSession => exact Deletes.recorded told h
  | submitPlanningTurn => exact Accepts.recorded told commits h
  | createRun => exact Creates.recorded told commits h
  | createSession | fallback | mutate | transition | other => exact h.silent fun w mem => (told w mem).silent

omit [Platform] in
theorem Recorded.filed {turn : TurnRow} (h : Recorded d) (own : turnAt params turn) (mem : turn ∈ d.turns) :
    FiledAt params turn := by
  obtain ⟨same, each⟩ := List.forall₂_iff_get.mp h
  obtain ⟨i, rfl⟩ := List.mem_iff_get.mp mem
  have backed := each i.1 i.2 (same ▸ i.2)
  exact ⟨own.1, own.2.1, varcharIn_of_textIn own.2.2 backed.key⟩

structure Answers (params : ChatPersistenceService.PlanningTurn) (id runId : String) (turn : TurnRow) : Prop where
  filed : FiledAt params turn
  id : turn.id = id
  run : turn.provisioningRunId = runId
  fingerprint : turn.requestFingerprint = ChatPersistenceService.fingerprint params

inductive Answered (faults : Bool) (params : ChatPersistenceService.PlanningTurn) (d : Db) (id runId : String) :
    Bool → List Write → Prop
  | replayed {turn : TurnRow} (mem : turn ∈ d.turns) (answers : Answers params id runId turn) :
      Answered faults params d id runId true []
  | accepted {turn : TurnRow} {ws : List Write} (added : ((engine faults).view ws d).turns = d.turns ++ [turn])
      (answers : Answers params id runId turn) : Answered faults params d id runId false ws

def Reused (params : ChatPersistenceService.PlanningTurn) (d : Db) (ws : List Write) : Prop :=
  ws = [] ∧ ∃ turn ∈ d.turns, FiledAt params turn ∧
    turn.requestFingerprint ≠ ChatPersistenceService.fingerprint params

theorem replayTurn_answered {turn : TurnRow} (h : Recorded d) (mem : turn ∈ d.turns) (own : turnAt params turn)
    {id runId : String} {replayed : Bool}
    (answered : ChatPersistenceService.replayTurn params turn = .turn id runId replayed) :
    Answered faults params d id runId replayed [] := by
  unfold ChatPersistenceService.replayTurn at answered
  split at answered
  · cases answered
  · rename_i same
    obtain ⟨rfl, rfl, rfl⟩ := Outcome.turn.inj answered
    exact .replayed mem ⟨h.filed own mem, rfl, rfl, not_not.mp same⟩

theorem replayTurn_reused {turn : TurnRow} (h : Recorded d) (mem : turn ∈ d.turns) (own : turnAt params turn)
    {message : String} (refused : ChatPersistenceService.replayTurn params turn = .refused (.conflict message)) :
    Reused params d [] := by
  unfold ChatPersistenceService.replayTurn at refused
  split at refused
  · rename_i other
    exact ⟨rfl, turn, mem, h.filed own mem, other⟩
  · cases refused

theorem Accepts.answered (told : Accepts params fresh o d ws) (h : Recorded d) {id runId : String} {replayed : Bool}
    (answered : o = .turn id runId replayed) : Answered faults params d id runId replayed ws := by
  cases told with
  | @accepted run turn message vs vs' _ inserted turned said opened recorded recorded' =>
    obtain ⟨rfl, rfl, rfl⟩ := Outcome.turn.inj answered
    have fields := insertedTurn_fields turned
    have own := Option.some.inj ((uuidIn_self (insertedRun_fields inserted).id).symm.trans fields.run)
    have added : Added run turn message d _ := added_view faults recorded recorded' d
    exact .accepted added.turns ⟨⟨fields.workspace, fields.requester, fields.key⟩, rfl, own.symm, fields.fingerprint⟩
  | replayed found own => exact replayTurn_answered h found own answered
  | refused | lost | obstructed | obstructedTurn => cases answered

theorem Accepts.reused (told : Accepts params fresh o d ws) (h : Recorded d) {message : String}
    (refused : o = .refused (.conflict message)) : Reused params d ws := by
  cases told with
  | replayed found own => exact replayTurn_reused h found own refused
  | refused other => exact absurd (Outcome.refused.inj refused) (other message)
  | accepted | lost | obstructed | obstructedTurn => cases refused

end Transactions

section Runs

variable [Platform] {faults : Bool} {d₀ : Db} {n : Nat} {s : SessionDatabase} {o : Outcome}

theorem recorded_reachable (unused : Unused d₀) (reachable : (engine faults).Reachable d₀ n s) :
    Recorded s.committed := by
  induction reachable with
  | refl =>
    unfold Recorded
    rw [unused.turns, unused.messages]
    exact .nil
  | tail reached step ih =>
    cases step with
    | start | statement | rollback => exact ih
    | commit i t o session done commits => exact (told_of_done unused reached session done).recorded commits ih

theorem unshared_reachable (unused : Unused d₀) (reachable : (engine faults).Reachable d₀ n s) : Unshared s.committed :=
  unshared_of_holders fun e => ((locking faults).holds_reachable unused.inv reachable).inv (.entry e)

theorem unshared_committed (unused : Unused d₀) (reachable : (engine faults).Reachable d₀ n s) {i : Nat}
    {t : Session Call Ret Key Write Outcome} (session : s.sessions[i]? = some t) (done : t.rest = some (.pure o))
    (commits : o.commits = true) : Unshared ((engine faults).view t.writes s.committed) :=
  unshared_reachable unused (reachable.tail (.commit s i t o session done commits))

def Replays (params : ChatPersistenceService.PlanningTurn) (o : Outcome) (ws : List Write) (d : Db) : Prop :=
  ws = [] ∧ ∃ turn ∈ d.turns, turnAt params turn ∧ o = ChatPersistenceService.replayTurn params turn

theorem fallback_leads {params : ChatPersistenceService.PlanningTurn} {error : Outcome} (d : Db) :
    (engine faults).LeadsUnder (Between faults) (fun o _ ws d => o ≠ error → Replays params o ws d) d ∅ []
      (ChatPersistenceService.fallback params error) := by
  intro d₁ _ n₁ found vs n₁' executed
  obtain ⟨answer, rfl, -⟩ := executed
  cases found with
  | error e => exact fun _ _ other => absurd rfl other
  | ok found =>
    cases found with
    | none => exact fun _ _ other => absurd rfl other
    | some turn =>
      obtain ⟨mem, own⟩ := turnByKey_mem (answers_ok answer)
      exact fun d₂ between _ => ⟨rfl, turn, between.grown.turns.subset mem, own, rfl⟩

theorem fallback_of_done (unused : Unused d₀) (reachable : (engine faults).Reachable d₀ n s) {i : Nat}
    {t : Session Call Ret Key Write Outcome} (session : s.sessions[i]? = some t) (done : t.rest = some (.pure o))
    {params : ChatPersistenceService.PlanningTurn} {error : Outcome} (call : t.call = .fallback params error)
    (other : o ≠ error) : Replays params o t.writes s.committed := by
  refine Locking.commit_under (G := growing faults) (Q := fun c o _ ws d => ∀ params error, c = .fallback params error →
    o ≠ error → Replays params o ws d) unused.inv (fun c d => ?_) reachable session done params error call other
  cases c with
  | fallback params error =>
    refine (fallback_leads d).mono fun o held ws d own params' error' same => ?_
    obtain ⟨rfl, rfl⟩ := Call.fallback.inj same
    exact own
  | createSession | deleteSession | submitPlanningTurn | createRun | mutate | transition | other =>
    exact .of_forall (fun _ _ _ _ _ _ same => by cases same) d ∅ [] _

-- A submission, or its look-up after a rollback, that is told something else than the error of its transaction.
inductive Asked (params : ChatPersistenceService.PlanningTurn) : Call → Outcome → Prop
  | submitted (fresh : ChatPersistenceService.Fresh) (o : Outcome) : Asked params (.submitPlanningTurn params fresh) o
  | recovered (error o : Outcome) (other : o ≠ error) : Asked params (.fallback params error) o

variable {params : ChatPersistenceService.PlanningTurn} {i : Nat} {t : Session Call Ret Key Write Outcome} {turn : TurnRow}

theorem asked_answered (unused : Unused d₀) (reachable : (engine faults).Reachable d₀ n s)
    (session : s.sessions[i]? = some t) (done : t.rest = some (.pure o)) (asked : Asked params t.call o)
    {id runId : String} {replayed : Bool} (answered : o = .turn id runId replayed) :
    Answered faults params s.committed id runId replayed t.writes := by
  have recorded := recorded_reachable unused reachable
  generalize call : t.call = c at asked
  cases asked with
  | submitted fresh =>
    have told := told_of_done unused reachable session done
    rw [call] at told
    exact Accepts.answered told recorded answered
  | recovered error _ other =>
    obtain ⟨none_, turn, mem, own, same⟩ := fallback_of_done unused reachable session done call other
    rw [none_]
    exact replayTurn_answered recorded mem own (same.symm.trans answered)

theorem asked_reused (unused : Unused d₀) (reachable : (engine faults).Reachable d₀ n s)
    (session : s.sessions[i]? = some t) (done : t.rest = some (.pure o)) (asked : Asked params t.call o) {message : String}
    (refused : o = .refused (.conflict message)) : Reused params s.committed t.writes := by
  have recorded := recorded_reachable unused reachable
  generalize call : t.call = c at asked
  cases asked with
  | submitted fresh =>
    have told := told_of_done unused reachable session done
    rw [call] at told
    exact Accepts.reused told recorded refused
  | recovered error _ other =>
    obtain ⟨none_, turn, mem, own, same⟩ := fallback_of_done unused reachable session done call other
    rw [none_]
    exact replayTurn_reused recorded mem own (same.symm.trans refused)

-- What a submission is told once a turn of its requester is stored under its key.
structure Retold (turn : TurnRow) (params : ChatPersistenceService.PlanningTurn) (ws : List Write) (o : Outcome) :
    Prop where
  answered : ∀ id runId replayed, o = .turn id runId replayed →
    replayed = true ∧ ws = [] ∧ Answers params id runId turn
  refused : ∀ message, o = .refused (.conflict message) →
    ws = [] ∧ turn.requestFingerprint ≠ ChatPersistenceService.fingerprint params

theorem retold (unused : Unused d₀) (reachable : (engine faults).Reachable d₀ n s) (session : s.sessions[i]? = some t)
    (done : t.rest = some (.pure o)) (asked : Asked params t.call o) (mem : turn ∈ s.committed.turns)
    (filed : FiledAt params turn) : Retold turn params t.writes o := by
  have apart := unshared_reachable unused reachable
  refine ⟨fun id runId replayed answered => ?_, fun message refused => ?_⟩
  · have told := asked_answered unused reachable session done asked answered
    generalize written : t.writes = ws at told
    cases told with
    | replayed mem' answers =>
      obtain rfl := filed.unique answers.filed apart mem mem'
      exact ⟨rfl, rfl, answers⟩
    | accepted added answers =>
      -- There would be two turns under one key.
      have commits : o.commits = true := by
        rw [answered]
        rfl
      have after := (unshared_committed unused reachable session done commits).turns
      rw [written, added] at after
      have two := (List.pairwise_append.mp after).2.2 turn mem _ List.mem_cons_self
      exact (two (filed.entry filed) (filed.entry answers.filed)).elim
  · obtain ⟨none_, turn', mem', filed', other⟩ := asked_reused unused reachable session done asked refused
    obtain rfl := filed.unique filed' apart mem mem'
    exact ⟨none_, other⟩

-- However transactions interleave, what is stored of the turns is whole and nothing is stored twice, and a submission
-- that is told of a turn is told of the only one there will ever be under its key.
theorem turns_recorded_once (unused : Unused d₀) (reachable : (engine faults).Reachable d₀ n s) :
    Recorded s.committed ∧ Unshared s.committed ∧
      (∀ (i : Nat) t params id runId replayed, s.sessions[i]? = some t →
        t.rest = some (.pure (.turn id runId replayed)) → Asked params t.call (.turn id runId replayed) →
          ∃ turn ∈ ((engine faults).view t.writes s.committed).turns, Answers params id runId turn) ∧
      ∀ s', (engine faults).Steps s s' → ∀ turn ∈ s.committed.turns, turn ∈ s'.committed.turns ∧
        ∀ (i : Nat) t params o, s'.sessions[i]? = some t → t.rest = some (.pure o) → Asked params t.call o →
          FiledAt params turn → Retold turn params t.writes o := by
  refine ⟨recorded_reachable unused reachable, unshared_reachable unused reachable, ?_, fun s' steps turn mem => ?_⟩
  · intro i t params id runId replayed session done asked
    have told := asked_answered unused reachable session done asked rfl
    generalize t.writes = ws at told
    cases told with
    | @replayed turn mem answers => exact ⟨turn, mem, answers⟩
    | @accepted turn ws added answers => exact ⟨turn, added ▸ List.mem_append_right _ List.mem_cons_self, answers⟩
  · have kept : turn ∈ s'.committed.turns := ((growing faults).steps steps).turns.subset mem
    exact ⟨kept, fun i t params o session done asked filed =>
      retold unused (reachable.trans steps) session done asked kept filed⟩

end Runs

section Example

open Provisr.Backend.Manifest (uuidIn_spelled)

def acceptedRun : RunRow :=
  ⟨freshIds.runId, ownedSessionId, ownerWorkspace, owner, "a bucket", freshIds.correlationId, runKeyDigest,
    .received, 0⟩

def acceptedTurn : TurnRow :=
  ⟨freshIds.turnId, ownedSessionId, ownerWorkspace, owner, prompted.clientMessageId, "key", fingerprintDigest,
    Json.jsonb (.obj [("kind", .str "text"), ("text", .str "a bucket")]), freshIds.correlationId, freshIds.runId⟩

def acceptedMessage : MessageRow := ⟨ownedSessionId, ownerWorkspace, freshIds.turnId, "user", "a bucket"⟩

def acceptedEvent : Events.ChatEvent :=
  ⟨"7d8f4c5e-2b5a-4d11-9a57-1f1f6b1f0a09", ownedSessionId, ownerWorkspace, some freshIds.turnId, 1, "turn.accepted",
    Json.jsonb (.obj [("runId", .str freshIds.runId)]), "2026-01-05 09:30:00+00"⟩

def accepted : List Write :=
  [.run acceptedRun, .audit (createdEntry.row createdDigest 0), .turn acceptedTurn, .message acceptedMessage,
    .chat (.sequence ownerWorkspace 2), .chat (.event acceptedEvent)]

theorem turnId_in : uuidIn freshIds.turnId = some freshIds.turnId := by
  unfold freshIds
  exact uuidIn_spelled (by decide)

theorem clientMessageId_in : uuidIn prompted.clientMessageId = some prompted.clientMessageId := by
  unfold prompted
  exact uuidIn_spelled (by decide)

theorem prompted_fingerprint : letI := digestPlatform
    ChatPersistenceService.fingerprint prompted = fingerprintDigest := by decide +kernel

theorem prompted_runKey : letI := digestPlatform
    ChatPersistenceService.runKey prompted = runKeyDigest := by decide +kernel

theorem acceptedRun_inserted : letI := digestPlatform
    insertedRun (ChatPersistenceService.runInsertion prompted freshIds) = some acceptedRun := by
  let _ := digestPlatform
  have digest : varcharIn runKeyDigest = some runKeyDigest := by decide +kernel
  unfold insertedRun
  simp only [ChatPersistenceService.runInsertion, prompted_runKey]
  rw [runId_in, show uuidIn prompted.sessionId = some ownedSessionId from ownedSession_in,
    show uuidIn prompted.workspaceId = some ownerWorkspace from ownerWorkspace_in,
    show uuidIn prompted.userId = some owner from owner_in, show textIn prompted.prompt = some "a bucket" from bucket_in,
    digest, correlationId_in]
  rfl

theorem acceptedTurn_inserted : letI := digestPlatform
    insertedTurn (ChatPersistenceService.turnInsertion prompted freshIds acceptedRun.id) = some acceptedTurn := by
  let _ := digestPlatform
  have storable : (Json.obj [("kind", .str "text"), ("text", .str prompted.prompt)] : JsJson).storable = true := by decide
  unfold insertedTurn
  simp only [ChatPersistenceService.turnInsertion, prompted_fingerprint]
  rw [turnId_in, show uuidIn prompted.sessionId = some ownedSessionId from ownedSession_in,
    show uuidIn prompted.workspaceId = some ownerWorkspace from ownerWorkspace_in,
    show uuidIn prompted.userId = some owner from owner_in, clientMessageId_in,
    show varcharIn prompted.idempotencyKey = some "key" from key_in, correlationId_in,
    show uuidIn acceptedRun.id = some freshIds.runId from runId_in]
  exact @if_pos _ _ storable _ _ none

theorem acceptedMessage_inserted :
    insertedMessage (ChatPersistenceService.messageInsertion prompted acceptedTurn.id) = some acceptedMessage := by
  unfold insertedMessage
  simp only [ChatPersistenceService.messageInsertion]
  rw [show uuidIn prompted.sessionId = some ownedSessionId from ownedSession_in,
    show uuidIn prompted.workspaceId = some ownerWorkspace from ownerWorkspace_in,
    show uuidIn acceptedTurn.id = some freshIds.turnId from turnId_in,
    show textIn prompted.prompt = some "a bucket" from bucket_in]
  rfl

theorem submission_executes : letI := digestPlatform
    ∃ n ws, (engine true).Executes idleDb 0 [] ((engine true).program (.submitPlanningTurn prompted freshIds)) n ws
      (.turn freshIds.turnId freshIds.runId false) ∧ ((engine true).view ws idleDb).turns = [acceptedTurn] ∧
        ((engine true).view ws idleDb).runs = [acceptedRun] := by
  let _ := digestPlatform
  have member : (Query.membership prompted.workspaceId prompted.userId).answer idleDb = some true := by
    simp [Query.answer, prompted, ownerWorkspace_in, owner_in, idleDb]
  have permitted : (Query.mutationPermission prompted.workspaceId prompted.userId).answer idleDb = some true := by
    simp [Query.answer, prompted, ownerWorkspace_in, owner_in, idleDb, mayMutate]
  have key : textIn "key" = some "key" := by decide
  have unused : (Query.turnByKey prompted.workspaceId prompted.userId prompted.idempotencyKey).answer idleDb =
      some none := by
    simp [Query.answer, prompted, ownerWorkspace_in, owner_in, key, idleDb, findTurn]
  have owned : ownSession idleDb prompted.sessionId prompted.workspaceId prompted.userId = some (some activeSession) := by
    simp [ownSession, prompted, ownedSession_in, ownerWorkspace_in, owner_in, ownedSession, idleDb, activeSession]
  have executes : (engine true).Executes idleDb 0 [] ((engine true).program (.submitPlanningTurn prompted freshIds)) 1 accepted
      (.turn freshIds.turnId freshIds.runId false) := by
    refine .op (.ok true) [] 0 ⟨Or.inl ⟨_, member, rfl⟩, rfl, rfl⟩ ?_
    refine .op (.ok true) [] 0 ⟨Or.inl ⟨_, permitted, rfl⟩, rfl, rfl⟩ ?_
    refine .op (.ok ()) [] 0 ⟨Or.inl ⟨_, rfl, rfl⟩, rfl, rfl⟩ ?_
    refine .op (.ok none) [] 0 ⟨Or.inl ⟨_, unused, rfl⟩, rfl, rfl⟩ ?_
    refine .op (.ok (some activeSession)) [] 0 ⟨Or.inl ⟨_, owned, rfl⟩, rfl, rfl⟩ ?_
    refine .op (.ok acceptedRun) [.run acceptedRun] 0 ⟨Or.inl ⟨acceptedRun, acceptedRun_inserted,
      ⟨activeSession, rfl, rfl⟩, ?_, rfl, rfl⟩, rfl⟩ ?_
    · rintro ⟨_, -, r, mem, -⟩
      cases mem
    refine audited_executes createdEntry rfl rfl created_digest List.not_mem_nil
      (fun h same => absurd same (Option.not_mem_none h)) ?_
    refine .op (.ok acceptedTurn) [.turn acceptedTurn] 1 ⟨Or.inl ⟨acceptedTurn, acceptedTurn_inserted,
      ⟨acceptedRun, List.mem_cons_self, rfl, rfl, rfl⟩, ?_, rfl, rfl⟩, rfl⟩ ?_
    · rintro ⟨_, -, t, mem, -⟩
      cases mem
    refine .op (.ok ()) [.message acceptedMessage] 1 ⟨Or.inl ⟨acceptedMessage, acceptedMessage_inserted,
      ⟨acceptedTurn, List.mem_cons_self, rfl, rfl, rfl⟩, rfl, rfl⟩, rfl⟩ ?_
    refine .op (.ok 1) [.chat (.sequence ownerWorkspace 2)] 1
      (Or.inl ⟨1, [.sequence ownerWorkspace 2], rfl, ⟨rfl, rfl, rfl⟩, rfl⟩) ?_
    refine .op (.ok acceptedEvent) [.chat (.event acceptedEvent)] 1 (Or.inl ⟨acceptedEvent, [.event acceptedEvent], rfl,
      ⟨fun e mem => absurd mem List.not_mem_nil, ⟨_, _, rfl⟩, rfl, rfl⟩, rfl⟩) ?_
    refine .op (.ok ()) [] 1 ⟨Or.inl ⟨(), ?_, rfl⟩, rfl, rfl⟩ (.pure _ _ _)
    rw [show uuidIn prompted.sessionId = some ownedSessionId from ownedSession_in]
    rfl
  exact ⟨_, _, executes, rfl, rfl⟩

theorem bucket_recorded_once :
    letI := digestPlatform
    ∃ s, (engine true).Reachable idleDb 0 s ∧ s.committed.turns = [acceptedTurn] ∧ Recorded s.committed ∧
      ∀ s', (engine true).Steps s s' → acceptedTurn ∈ s'.committed.turns := by
  let _ := digestPlatform
  obtain ⟨n, ws, executes, turns, -⟩ := submission_executes
  have reachable := executes.commits (s := ⟨idleDb, 0, []⟩) rfl (by simp)
  obtain ⟨recorded, -, -, lasting⟩ := turns_recorded_once idle_unused reachable
  have stored : acceptedTurn ∈ ((engine true).view ws idleDb).turns := turns ▸ List.mem_cons_self
  exact ⟨_, reachable, turns, recorded, fun s' steps => (lasting s' steps acceptedTurn stored).1⟩

end Example

end Provisr.Orchestrator.Sessions
