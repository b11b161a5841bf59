import Provisr.Orchestrator.SessionTables

namespace Provisr.Orchestrator.Sessions

open Provisr.Foundation
open Provisr.Backend.Manifest (uuidIn textIn SqlError answers)
open Provisr.Events (SseRow SseKey Uuid)

section Results

inductive Refusal where
  | forbidden (message : String)
  | notFound (message : String)
  | conflict (message : String)
  deriving DecidableEq, Repr

inductive Outcome where
  | deleted
  | session (id : String)
  -- What createRun returns: a run that it has inserted, and one that is there.
  | created (run : RunRow)
  | existing (run : RunRow)
  | turn (turnId runId : String) (replayed : Bool)
  | updated (run : RunRow)
  | refused (r : Refusal)
  | failed (e : SqlError)
  | done
  deriving DecidableEq

def Outcome.commits : Outcome → Bool
  | .refused _ | .failed _ => false
  | _ => true

def statement (o : Op) (next : Answer o → Prog Ret Outcome) : Prog Ret Outcome :=
  Prog.orEnd .failed o next

def audited {α : Type} : Prog Audit.Ret α → (α → Prog Ret Outcome) → Prog Ret Outcome :=
  Prog.within fun o => statement (.audit o)

def chatted {α : Type} : Prog Events.Chat.Ret α → (α → Prog Ret Outcome) → Prog Ret Outcome :=
  Prog.within fun o => statement (.chat o)

def published {α : Type} : Prog Events.Sse.Ret α → (α → Prog Ret Outcome) → Prog Ret Outcome :=
  Prog.within fun o => statement (.outbox o)

def require (q : Query) (holds : q.Answer → Bool) (r : Refusal) (next : Prog Ret Outcome) : Prog Ret Outcome :=
  statement (.select q) fun answer => if holds answer then next else .pure (.refused r)

end Results

theorem live_of_transition {a b : WorkflowState} {c : TransitionConditions} {t : TransitionDefinition}
    (h : assertTransition a b c = .ok t) : a.isTerminal = false := by
  cases terminal : a.isTerminal with
  | false => rfl
  | true => rw [terminal_absorbing terminal c] at h; cases h

variable [Platform]

namespace ChatPersistenceService

def assertMembership (workspaceId userId : String) : Prog Ret Outcome → Prog Ret Outcome :=
  require (.membership workspaceId userId) id (.notFound "workspace membership")

def assertMutationPermission (workspaceId userId : String) : Prog Ret Outcome → Prog Ret Outcome :=
  require (.mutationPermission workspaceId userId) id (.forbidden "Provisioning permission required")

def assertSessionOwner (sessionId workspaceId userId : String) (next : Prog Ret Outcome) : Prog Ret Outcome :=
  statement (.lockSession sessionId workspaceId userId) fun
    | some _ => next
    | none => .pure (.refused (.notFound "chat session"))

def createSession (id workspaceId userId : String) : Prog Ret Outcome :=
  assertMembership workspaceId userId
    (statement (.insertSession id workspaceId userId) fun _ => .pure (.session id))

def deleteSession (id workspaceId userId : String) : Prog Ret Outcome :=
  assertSessionOwner id workspaceId userId
    (statement (.select (.liveRuns id workspaceId)) fun runs =>
      if runs = [] then
        statement (.deleteSession id workspaceId userId) fun deleted =>
          .pure (if deleted then .deleted else .refused (.notFound "chat session"))
      else .pure (.refused (.conflict "Cannot delete session with active runs")))

structure PlanningTurn where
  sessionId : String
  workspaceId : String
  userId : String
  prompt : String
  clientMessageId : String
  idempotencyKey : String
  deriving DecidableEq

structure Fresh where
  runId : String
  turnId : String
  correlationId : String
  eventId : Uuid

variable (params : PlanningTurn) (fresh : Fresh)

def hash (value : JsJson) : String := Platform.sha256Hex (Json.stringify value)

def fingerprint : String :=
  hash (.obj [("sessionId", .str params.sessionId), ("workspaceId", .str params.workspaceId),
    ("userId", .str params.userId), ("prompt", .str params.prompt), ("clientMessageId", .str params.clientMessageId)])

-- hash({ ...params, fingerprint })
def runKey : String :=
  hash (.obj [("sessionId", .str params.sessionId), ("workspaceId", .str params.workspaceId),
    ("userId", .str params.userId), ("prompt", .str params.prompt), ("clientMessageId", .str params.clientMessageId),
    ("idempotencyKey", .str params.idempotencyKey), ("fingerprint", .str (fingerprint params))])

def keyReused : Refusal := .conflict "idempotency key was already used for a different request"

def replayTurn (turn : TurnRow) : Outcome :=
  if turn.requestFingerprint ≠ fingerprint params then .refused keyReused
  else .turn turn.id turn.provisioningRunId true

def runInsertion : RunInsertion :=
  ⟨fresh.runId, params.sessionId, params.workspaceId, params.userId, params.prompt, runKey params, fresh.correlationId⟩

def turnInsertion (runId : String) : TurnInsertion :=
  ⟨fresh.turnId, params.sessionId, params.workspaceId, params.userId, params.clientMessageId, params.idempotencyKey,
    fingerprint params, .obj [("kind", .str "text"), ("text", .str params.prompt)], fresh.correlationId, runId⟩

def messageInsertion (turnId : String) : MessageInsertion :=
  ⟨params.sessionId, params.workspaceId, turnId, params.prompt⟩

def acceptTurn (run : RunRow) (turn : TurnRow) : Prog Ret Outcome :=
  statement (.insertMessage (messageInsertion params turn.id)) fun _ =>
    chatted (Events.ChatEventsService.append
      ⟨params.sessionId, params.workspaceId, some turn.id, "turn.accepted", some [("runId", .str run.id)]⟩) fun _ =>
        statement (.touchSession params.sessionId) fun _ => .pure (.turn turn.id run.id false)

def insertTurn (run : RunRow) : Prog Ret Outcome :=
  statement (.insertTurn (turnInsertion params fresh run.id)) (acceptTurn params run)

def insertPlanningRun : Prog Ret Outcome :=
  statement (.insertRun (runInsertion params fresh)) fun run =>
    audited (Audit.AuditService.executeAppend ⟨params.workspaceId, .runCreated, params.userId, .user,
      "provisioning_run", run.id, [("sessionId", .str params.sessionId)], fresh.correlationId⟩) fun _ =>
        insertTurn params fresh run

def lockTurn : Prog Ret Outcome :=
  statement (.advisoryLock ("chat_turn:" ++ params.workspaceId ++ ":" ++ params.userId ++ ":" ++ params.idempotencyKey)) fun _ =>
    statement (.select (.turnByKey params.workspaceId params.userId params.idempotencyKey)) fun
      | some turn => .pure (replayTurn params turn)
      | none => assertSessionOwner params.sessionId params.workspaceId params.userId (insertPlanningRun params fresh)

def submitPlanningTurn : Prog Ret Outcome :=
  assertMembership params.workspaceId params.userId
    (assertMutationPermission params.workspaceId params.userId (lockTurn params fresh))

-- What is looked up once the transaction has been rolled back, for errors that are no conflict and no refusal.
def fallback (error : Outcome) : Prog Ret Outcome :=
  .op (.select (.turnByKey params.workspaceId params.userId params.idempotencyKey)) fun
    | .ok (some turn) => .pure (replayTurn params turn)
    | .ok none => .pure error
    | .error _ => .pure error

end ChatPersistenceService

namespace RunsService

def assertMembership (workspaceId userId : String) : Prog Ret Outcome → Prog Ret Outcome :=
  require (.workspaceMember workspaceId userId) id (.forbidden "Workspace membership required")

def assertMutationPermission (workspaceId actorId : String) (approval : Bool) : Prog Ret Outcome → Prog Ret Outcome :=
  match approval with
  | true => require (.approvalPermission workspaceId actorId) id (.forbidden "Provisioning permission required")
  | false => require (.mutationPermission workspaceId actorId) id (.forbidden "Provisioning permission required")

structure CreateRun where
  sessionId : String
  workspaceId : String
  requesterId : String
  prompt : String
  idempotencyKey : String
  deriving DecidableEq

variable (request : CreateRun) (fresh : ChatPersistenceService.Fresh)

def sameRequest (run : RunRow) : Bool :=
  run.workspaceId == request.workspaceId && run.requesterId == request.requesterId &&
    run.sessionId == request.sessionId && run.prompt == request.prompt

def keyUsed : Refusal := .conflict "Idempotency key already used for a different request"

def replayRun (run : RunRow) : Outcome := if sameRequest request run then .existing run else .refused keyUsed

def runInsertion : RunInsertion :=
  ⟨fresh.runId, request.sessionId, request.workspaceId, request.requesterId, request.prompt, request.idempotencyKey,
    fresh.correlationId⟩

def recordRun (run : RunRow) : Prog Ret Outcome :=
  audited (Audit.AuditService.executeAppend ⟨request.workspaceId, .runCreated, request.requesterId, .user,
    "provisioning_run", run.id, [("sessionId", .str request.sessionId)], fresh.correlationId⟩) fun _ =>
      published (Events.RunsService.publish run.workspaceId run.correlationId "RunCreatedEvent"
        [("run_id", .str run.id)] fresh.eventId) fun _ => .pure (.created run)

def insertRun : Prog Ret Outcome :=
  statement (.lockSession request.sessionId request.workspaceId request.requesterId) fun
    | none => .pure (.refused (.notFound "Chat session not found"))
    | some _ => statement (.insertRun (runInsertion request fresh)) (recordRun request fresh)

def lockKey : Prog Ret Outcome :=
  statement (.advisoryLock
      ("create_run:" ++ request.workspaceId ++ ":" ++ request.requesterId ++ ":" ++ request.idempotencyKey)) fun _ =>
    statement (.select (.runByKey request.idempotencyKey)) fun
      | some run => .pure (replayRun request run)
      | none => insertRun request fresh

def createRun : Prog Ret Outcome :=
  assertMembership request.workspaceId request.requesterId
    (assertMutationPermission request.workspaceId request.requesterId false (lockKey request fresh))

-- What an operation makes of the run that is locked: no state, or another one under the conditions that hold.
structure Change where
  state : Option WorkflowState
  conditions : TransitionConditions
  audit : RunRow → Audit.AuditAppendParams
  eventType : String
  payload : JsFields

structure Mutation where
  id : String
  workspaceId : String
  expectedVersion : Nat
  actorId : String
  operation : RunRow → Option Change
  eventId : Uuid

def target (run : RunRow) (change : Change) : Except String Advance :=
  match change.state with
  | none =>
    if live : run.state.isTerminal = false then .ok ⟨run.state, run.stateVersion, run.state, live⟩
    else .error "Run is terminal"
  | some state =>
    match allowed : assertTransition run.state state change.conditions with
    | .ok _ => .ok ⟨run.state, run.stateVersion, state, live_of_transition allowed⟩
    | .error error => .error error.message

def writeChange (m : Mutation) (change : Change) (a : Advance) : Prog Ret Outcome :=
  statement (.updateRun m.id (some m.workspaceId) a) fun
    | none => .pure (.refused (.conflict "State version conflict"))
    | some updated =>
      audited (Audit.AuditService.executeAppend (change.audit updated)) fun _ =>
        published (Events.RunsService.publish updated.workspaceId updated.correlationId change.eventType change.payload
          m.eventId) fun _ => .pure (.updated updated)

def advance (m : Mutation) (run : RunRow) (change : Change) : Prog Ret Outcome :=
  match target run change with
  | .ok a => writeChange m change a
  | .error message => .pure (.refused (.conflict message))

def mutate (m : Mutation) : Prog Ret Outcome :=
  statement (.lockRun m.id m.workspaceId) fun
    | none => .pure (.refused (.notFound "Run not found"))
    | some run =>
      if run.stateVersion ≠ m.expectedVersion then .pure (.refused (.conflict "State version conflict"))
      else match m.operation run with
        | none => .pure (.failed .other)
        | some change =>
          if m.actorId = "orchestrator" then advance m run change
          else
            assertMutationPermission m.workspaceId m.actorId
              (run.state == .approving && change.state != some .cancelled) (advance m run change)

end RunsService

structure Transition where
  id : String
  state : WorkflowState
  stateVersion : Nat
  nextState : WorkflowState
  conditions : TransitionConditions
  audit : Audit.AuditAppendParams
  event : Events.StateChangedEvent

def transition (t : Transition) : Prog Ret Outcome :=
  match allowed : assertTransition t.state t.nextState t.conditions with
  | .error _ => .pure (.failed .other)
  | .ok _ =>
    statement (.updateRun t.id none ⟨t.state, t.stateVersion, t.nextState, live_of_transition allowed⟩) fun
      | none => .pure (.refused (.conflict ("Run " ++ t.id ++ " was modified before state version " ++
          toString t.stateVersion ++ " could be transitioned")))
      | some updated =>
        audited (Audit.AuditService.executeAppend t.audit) fun _ =>
          published (Events.PostgresOutboxWriter.appendStateChangedOutboxEvent t.event) fun _ => .pure (.updated updated)

section Engine

inductive Deed where
  | setRole (workspaceId userId : String) (role : Option String)
  | setDeleted (workspaceId : String) (deleted : Bool)

def Deed.op : Deed → Op
  | .setRole workspaceId userId role => .setRole workspaceId userId role
  | .setDeleted workspaceId deleted => .setDeleted workspaceId deleted

inductive Call where
  | createSession (id workspaceId userId : String)
  | deleteSession (id workspaceId userId : String)
  | submitPlanningTurn (params : ChatPersistenceService.PlanningTurn) (fresh : ChatPersistenceService.Fresh)
  | fallback (params : ChatPersistenceService.PlanningTurn) (error : Outcome)
  | createRun (request : RunsService.CreateRun) (fresh : ChatPersistenceService.Fresh)
  | mutate (m : RunsService.Mutation)
  | transition (t : Transition)
  | other (deed : Deed)

def program : Call → Prog Ret Outcome
  | .createSession id workspaceId userId => ChatPersistenceService.createSession id workspaceId userId
  | .deleteSession id workspaceId userId => ChatPersistenceService.deleteSession id workspaceId userId
  | .submitPlanningTurn params fresh => ChatPersistenceService.submitPlanningTurn params fresh
  | .fallback params error => ChatPersistenceService.fallback params error
  | .createRun request fresh => RunsService.createRun request fresh
  | .mutate m => RunsService.mutate m
  | .transition t => transition t
  | .other (.setRole workspaceId userId role) => statement (.setRole workspaceId userId role) fun _ => .pure .done
  | .other (.setDeleted workspaceId deleted) => statement (.setDeleted workspaceId deleted) fun _ => .pure .done

def engine (faults : Bool) : Engine Call Ret Key Db Write Outcome where
  apply := apply
  locks := locks
  exec := exec faults
  program := program
  commits := Outcome.commits

end Engine

end Provisr.Orchestrator.Sessions
