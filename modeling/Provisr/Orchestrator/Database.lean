import Provisr.Orchestrator.Components
import Provisr.Orchestrator.IacContracts

namespace Provisr.Orchestrator

open Provisr.Foundation

inductive RunEventType where
  | runCreated
  | stateChanged
  | manifestConfirmed
  | clarificationQuestion
  | clarificationAnswered
  | manifestRevisionRequested
  | approvalDecision
  | iacProgress
  | agentSessionLinked
  | manifestValidationFailed
  | manifestReady
  | componentPayload
  | assistantMessage
  | componentPayloadRejected
  deriving DecidableEq, Repr

def RunEventType.label : RunEventType → String
  | .runCreated => "RunCreatedEvent"
  | .stateChanged => "StateChangedEvent"
  | .manifestConfirmed => "ManifestConfirmedEvent"
  | .clarificationQuestion => "ClarificationQuestionEvent"
  | .clarificationAnswered => "ClarificationAnsweredEvent"
  | .manifestRevisionRequested => "ManifestRevisionRequestedEvent"
  | .approvalDecision => "ApprovalDecisionEvent"
  | .iacProgress => "IacProgressEvent"
  | .agentSessionLinked => "AgentSessionLinkedEvent"
  | .manifestValidationFailed => "ManifestValidationFailedEvent"
  | .manifestReady => "ManifestReadyEvent"
  | .componentPayload => "ComponentPayloadEvent"
  | .assistantMessage => "AssistantMessageEvent"
  | .componentPayloadRejected => "ComponentPayloadRejectedEvent"

inductive AuditEventType where
  | runCreated
  | stateTransition
  | toolCall
  deriving DecidableEq, Repr

inductive ActorType where
  | user
  | system
  deriving DecidableEq, Repr

structure AuditEvent where
  workspaceId : String
  eventType : AuditEventType
  actorId : String
  actorType : ActorType
  resourceType : String
  resourceId : String
  payload : JsFields
  correlationId : String
  deriving DecidableEq

structure SseEvent where
  workspaceId : String
  eventId : String
  eventType : RunEventType
  correlationId : String
  payload : JsFields
  deriving DecidableEq

structure ManifestRow where
  id : String
  runId : String
  version : Nat
  content : JsJson
  idempotencyKey : Option String
  deriving DecidableEq

inductive ArtifactType where
  | terraform
  | other
  deriving DecidableEq, Repr

structure ArtifactRow where
  id : String
  runId : String
  manifestId : String
  type : ArtifactType
  generation : JsJson
  hash : String
  idempotencyKey : String
  deriving DecidableEq

inductive Role where
  | admin
  | engineer
  | approver
  | viewer
  deriving DecidableEq, Repr

-- The tables this service writes. Rows that other services append to the audit and event tables are
-- left out: nothing here reads them.
structure Db where
  runs : List ProvisioningRun
  audits : List AuditEvent
  sseEvents : List SseEvent
  deriving DecidableEq

namespace Db

def run? (db : Db) (id : String) : Option ProvisioningRun := db.runs.find? fun r => r.id == id

-- SELECT ... WHERE id = $1 AND workspace_id = $2
def selectRun (db : Db) (id workspaceId : String) : Option ProvisioningRun :=
  db.runs.find? fun r => r.id == id && r.workspaceId == workspaceId

def selectByKey (db : Db) (idempotencyKey : String) : Option ProvisioningRun :=
  db.runs.find? fun r => r.idempotencyKey == idempotencyKey

-- UPDATE ... WHERE id = $2 AND workspace_id = $3 AND state_version = $4
def updateRun (db : Db) (updated : ProvisioningRun) (expectedVersion : Nat) : Db :=
  { db with runs := db.runs.map fun r =>
      if r.id == updated.id && r.workspaceId == updated.workspaceId &&
        r.stateVersion == expectedVersion then updated else r }

def appendAudit (db : Db) (event : AuditEvent) : Db := { db with audits := db.audits ++ [event] }

def publish (db : Db) (event : SseEvent) : Db := { db with sseEvents := db.sseEvents ++ [event] }

end Db

-- The statements of a transaction: any of them may fail, and then the transaction is rolled back.
inductive Statement where
  | begin
  | membership
  | permission
  | advisoryLock
  | selectRun
  | evidence
  | selectSession
  | writeRun
  | audit
  | publish
  | commit
  deriving DecidableEq, Repr

-- What a transaction meets besides the tables of this service: faults, clocks, generated ids, and
-- the rows of other services it reads.
structure TxEnv where
  fails : Statement → Bool
  now : Date
  dateNow : Date
  uuid : String
  eventId : String
  newRunId : String
  member : Bool
  role : Option Role
  activeSession : Bool
  manifests : List ManifestRow
  artifacts : List ArtifactRow

namespace TxEnv

def query (env : TxEnv) (s : Statement) : Except ServiceError Unit :=
  if env.fails s then .error .infrastructure else .ok ()

def assertMembership (env : TxEnv) : Except ServiceError Unit := do
  env.query .membership
  if env.member then .ok () else .error (.forbidden "Workspace membership required")

def assertMutationPermission (env : TxEnv) (approval : Bool) : Except ServiceError Unit := do
  env.query .permission
  let roles := if approval then [Role.admin, Role.approver] else [Role.admin, Role.engineer]
  if env.role.any roles.contains then .ok () else .error (.forbidden "Provisioning permission required")

end TxEnv

-- `randomUUID()` and the clock, as the closure of a mutation reads them.
structure Ambient where
  dateNow : Date
  uuid : String

structure Change where
  state : Option WorkflowState := none
  updates : RunUpdates := {}
  eventType : Option RunEventType := none
  payload : JsFields := []

abbrev Operation := ProvisioningRun → Ambient → Except ServiceError Change

def orchestrator : String := "orchestrator"

section Mutate

variable [Platform] [ComponentRegistry]

def malformedComponent : ServiceError := .plain "Malformed component event"

def validateSseComponent (value : Option JsJson) : Except ServiceError Unit :=
  match value with
  | some (.obj fields) =>
    match fields.lookup "type", fields.lookup "version" with
    | some (.str type), some (.str version) => do
      let _ ← validateComponent type (fields.lookup "data") version
      return ()
    | _, _ => .error malformedComponent
  | some (.arr _) => .error malformedComponent
  | _ => .error malformedComponent

def validateSseComponents (eventType : Option RunEventType) (payload : JsFields) :
    Except ServiceError Unit :=
  match eventType with
  | some .manifestReady =>
    match payload.lookup "components" with
    | some (.arr values) => values.forM fun v => validateSseComponent (some v)
    | _ => .error malformedComponent
  | some .componentPayload | some .clarificationQuestion =>
    validateSseComponent (payload.lookup "component")
  | _ => .ok ()

structure EvidenceRow where
  generation : JsJson
  manifestId : String
  hash : String
  idempotencyKey : String
  deriving DecidableEq

def selectEvidence (env : TxEnv) (artifactId runId : String) (version : Option Nat) : Option EvidenceRow :=
  env.artifacts.findSome? fun a =>
    if a.id = artifactId ∧ a.runId = runId ∧ a.type = .terraform then
      (env.manifests.find? fun m => m.id == a.manifestId && m.runId == a.runId && some m.version == version).map
        fun m => ⟨a.generation, m.id, a.hash, a.idempotencyKey⟩
    else none

def verifyEvidence (env : TxEnv) (candidate : ProvisioningRun) (artifactId : String)
    (payload : JsFields) : Except ServiceError EvidenceRow := do
  assertConfirmedManifest candidate
  env.query .evidence
  let invalid := ServiceError.iacGeneration "IAC_INVALID_ARTIFACT" "Generated Terraform could not be verified."
  match selectEvidence env artifactId candidate.id candidate.manifestVersion with
  | none => .error invalid
  | some row =>
    let artifact ← verifyIacArtifact row.generation candidate row.manifestId
    if artifact.iacArtifactId = artifactId ∧ artifact.hash = row.hash ∧
        row.idempotencyKey = iacIdempotencyKey candidate row.manifestId then
      match payload.lookup "hash" with
      | some hash => if hash = .str row.hash then .ok row else .error invalid
      | none => .ok row
    else .error invalid

def iacGenerated (env : TxEnv) (candidate : ProvisioningRun) (state : WorkflowState)
    (payload : JsFields) : Except ServiceError Bool :=
  match state, candidate.iacArtifactId with
  | .planCreating, some artifactId =>
    if artifactId = "" then .ok false
    else do
      let _ ← verifyEvidence env candidate artifactId payload
      return true
  | _, _ => .ok false

def checkChange (env : TxEnv) (run : ProvisioningRun) (change : Change) : Except ServiceError Unit :=
  match change.state with
  | some state => do
    let candidate := run.with change.updates
    let generated ← iacGenerated env candidate state change.payload
    match assertTransition run.state state { candidate.conditions with iacGenerated := generated } with
    | .ok _ => .ok ()
    | .error e => .error (.conflict e.message)
  | none => if run.state.isTerminal then .error (.conflict "Run is terminal") else .ok ()

def writtenRun (env : TxEnv) (run : ProvisioningRun) (change : Change) : ProvisioningRun :=
  let state := change.state.getD run.state
  { run.with change.updates.stored with
    state := state
    stateVersion := run.stateVersion + 1
    updatedAt := env.now
    completedAt := if state.isTerminal then some env.now else run.completedAt }

def textOrNull (t : Option String) : JsJson := (t.map Json.str).getD .null

def changePayload (run updated : ProvisioningRun) (change : Change) : JsFields :=
  Json.spread ([("run_id", .str run.id), ("from", .str run.state.label), ("to", .str updated.state.label),
      ("state_version", .num (JsNumber.ofNat updated.stateVersion))] ++
    (if updated.state = .failed then
      [("error_code", textOrNull updated.errorCode), ("error_message", textOrNull updated.errorMessage)]
    else [])) change.payload

def changeAudit (actorId : String) (run updated : ProvisioningRun) (change : Change) : AuditEvent where
  workspaceId := run.workspaceId
  eventType := if change.state.isSome then .stateTransition else .toolCall
  actorId := actorId
  actorType := if actorId = orchestrator then .system else .user
  resourceType := "provisioning_run"
  resourceId := run.id
  payload := changePayload run updated change
  correlationId := run.correlationId

def changeEvent (env : TxEnv) (run updated : ProvisioningRun) (change : Change) : SseEvent where
  workspaceId := updated.workspaceId
  eventId := env.eventId
  eventType := change.eventType.getD .stateChanged
  correlationId := updated.correlationId
  payload := changePayload run updated change

def referencesExist (env : TxEnv) (run : ProvisioningRun) : Bool :=
  let manifestExists (version : Option Nat) : Bool :=
    version.all fun v => env.manifests.any fun m => m.runId == run.id && m.version == v
  manifestExists run.manifestVersion && manifestExists run.manifestConfirmedVersion &&
    run.iacArtifactId.all fun a => env.artifacts.any fun row => row.id == a

def writeRun (env : TxEnv) (change : Change) (updated : ProvisioningRun) : Except ServiceError Unit := do
  env.query .writeRun
  if change.updates.storable && updated.satisfiesChecks && referencesExist env updated then .ok ()
  else .error .infrastructure

def recordChange (env : TxEnv) (payload : JsFields) : Except ServiceError Unit := do
  env.query .audit
  env.query .publish
  if Json.storableFields payload then .ok () else .error .infrastructure

structure Commit where
  actorId : String
  env : TxEnv
  before : ProvisioningRun
  change : Change
  after : ProvisioningRun

def Commit.apply (c : Commit) (db : Db) : Db :=
  ((db.updateRun c.after c.before.stateVersion).appendAudit
    (changeAudit c.actorId c.before c.after c.change)).publish
      (changeEvent c.env c.before c.after c.change)

def mutateLocked (env : TxEnv) (actorId : String) (operation : Operation) (run : ProvisioningRun) :
    Except ServiceError Commit := do
  let change ← operation run ⟨env.dateNow, env.uuid⟩
  validateSseComponents change.eventType change.payload
  if actorId ≠ orchestrator then
    env.assertMutationPermission (run.state == .approving && change.state != some .cancelled)
  checkChange env run change
  let updated := writtenRun env run change
  writeRun env change updated
  recordChange env (changePayload run updated change)
  env.query .commit
  return ⟨actorId, env, run, change, updated⟩

def mutate (env : TxEnv) (db : Db) (id workspaceId : String) (expectedVersion : Nat) (actorId : String)
    (operation : Operation) : Except ServiceError Commit := do
  env.query .begin
  env.query .selectRun
  match db.selectRun id workspaceId with
  | none => .error (.notFound "Run not found")
  | some run =>
    if run.stateVersion ≠ expectedVersion then .error (.conflict "State version conflict")
    else mutateLocked env actorId operation run

end Mutate

section CreateRun

structure CreateRun where
  sessionId : String
  workspaceId : String
  requesterId : String
  prompt : String
  idempotencyKey : String
  correlationId : String

def initialRun (env : TxEnv) (c : CreateRun) : ProvisioningRun where
  id := env.newRunId
  sessionId := c.sessionId
  workspaceId := c.workspaceId
  requesterId := c.requesterId
  state := .received
  stateVersion := 0
  prompt := c.prompt
  manifestVersion := none
  policyDecision := none
  approvalStatus := .notRequired
  executionStatus := .pending
  idempotencyKey := c.idempotencyKey
  correlationId := c.correlationId
  errorCode := none
  errorMessage := none
  createdAt := env.now
  updatedAt := env.now
  completedAt := none
  policyRequirements := none
  policyRequirementsLoadedAt := none
  cloudContext := none
  cloudContextLoadedAt := none
  agentSessionId := none
  agentTurnPending := true
  agentInput := none
  currentQuestion := none
  clarificationExpiresAt := none
  answersHistory := []
  manifestValidationAttempts := 0
  manifestValidatedVersion := none
  manifestConfirmedVersion := none
  manifestConfirmedAt := none
  iacArtifactId := none

def createdAudit (c : CreateRun) (run : ProvisioningRun) : AuditEvent where
  workspaceId := c.workspaceId
  eventType := .runCreated
  actorId := c.requesterId
  actorType := .user
  resourceType := "provisioning_run"
  resourceId := run.id
  payload := [("sessionId", .str c.sessionId)]
  correlationId := c.correlationId

def createdEvent (env : TxEnv) (run : ProvisioningRun) : SseEvent where
  workspaceId := run.workspaceId
  eventId := env.eventId
  eventType := .runCreated
  correlationId := run.correlationId
  payload := [("run_id", .str run.id)]

-- INSERT: the primary key and the unique idempotency key.
def Db.insertRun (env : TxEnv) (db : Db) (run : ProvisioningRun) : Except ServiceError Db := do
  env.query .writeRun
  if (db.run? run.id).isSome || (db.selectByKey run.idempotencyKey).isSome ||
      !Json.storableText run.prompt || !Json.storableText run.idempotencyKey then .error .infrastructure
  else return { db with runs := db.runs ++ [run] }

def createRun (env : TxEnv) (db : Db) (c : CreateRun) : Except ServiceError (ProvisioningRun × Db) := do
  env.query .begin
  env.assertMembership
  env.assertMutationPermission false
  env.query .advisoryLock
  env.query .selectRun
  match db.selectByKey c.idempotencyKey with
  | some run =>
    if run.workspaceId ≠ c.workspaceId ∨ run.requesterId ≠ c.requesterId ∨
        run.sessionId ≠ c.sessionId ∨ run.prompt ≠ c.prompt then
      .error (.conflict "Idempotency key already used for a different request")
    else do
      env.query .commit
      return (run, db)
  | none =>
    env.query .selectSession
    if !env.activeSession then .error (.notFound "Chat session not found")
    else do
      let run := initialRun env c
      let db ← db.insertRun env run
      env.query .audit
      env.query .publish
      env.query .commit
      return (run, (db.appendAudit (createdAudit c run)).publish (createdEvent env run))

end CreateRun

end Provisr.Orchestrator
