import Provisr.Foundation.GoJson
import Provisr.Foundation.Transactions
import Provisr.Foundation.HashChain
import Provisr.Orchestrator.IacContracts
import Mathlib.Data.List.Lex
import Mathlib.Data.List.MinMax

namespace Provisr.Audit

open Provisr.Foundation Provisr.Orchestrator

-- The enumeration provisr_audit.event_type, in the order its values were added.
inductive EventType where
  | promptReceived
  | runCreated
  | stateTransition
  | toolCall
  | manifestCreated
  | artifactGenerated
  | policyCheck
  | confirmation
  | approvalDecision
  | executionStarted
  | executionCompleted
  | executionFailed
  | cloudStateSynced
  | driftDetected
  | error
  | cloudAccountCreated
  | cloudAccountStatusChanged
  | cloudAccountDeleted
  | workspaceCreated
  | workspaceUpdated
  | workspaceDeleted
  | memberAdded
  | memberRoleUpdated
  | memberRemoved
  | invitationCreated
  | invitationRevoked
  | invitationAccepted
  | policyPreflightLoaded
  | policyPreflightSkipped
  | approvalRequirementsEvaluated
  | stateBackendProvisioned
  | stateBackendVerified
  | stateBackendFailed
  deriving DecidableEq, Repr

def EventType.label : EventType → String
  | .promptReceived => "prompt_received"
  | .runCreated => "run_created"
  | .stateTransition => "state_transition"
  | .toolCall => "tool_call"
  | .manifestCreated => "manifest_created"
  | .artifactGenerated => "artifact_generated"
  | .policyCheck => "policy_check"
  | .confirmation => "confirmation"
  | .approvalDecision => "approval_decision"
  | .executionStarted => "execution_started"
  | .executionCompleted => "execution_completed"
  | .executionFailed => "execution_failed"
  | .cloudStateSynced => "cloud_state_synced"
  | .driftDetected => "drift_detected"
  | .error => "error"
  | .cloudAccountCreated => "cloud_account_created"
  | .cloudAccountStatusChanged => "cloud_account_status_changed"
  | .cloudAccountDeleted => "cloud_account_deleted"
  | .workspaceCreated => "workspace_created"
  | .workspaceUpdated => "workspace_updated"
  | .workspaceDeleted => "workspace_deleted"
  | .memberAdded => "member_added"
  | .memberRoleUpdated => "member_role_updated"
  | .memberRemoved => "member_removed"
  | .invitationCreated => "invitation_created"
  | .invitationRevoked => "invitation_revoked"
  | .invitationAccepted => "invitation_accepted"
  | .policyPreflightLoaded => "policy_preflight_loaded"
  | .policyPreflightSkipped => "policy_preflight_skipped"
  | .approvalRequirementsEvaluated => "approval_requirements_evaluated"
  | .stateBackendProvisioned => "state_backend_provisioned"
  | .stateBackendVerified => "state_backend_verified"
  | .stateBackendFailed => "state_backend_failed"

inductive ActorType where
  | user
  | agent
  | system
  deriving DecidableEq, Repr

def ActorType.label : ActorType → String
  | .user => "user"
  | .agent => "agent"
  | .system => "system"

structure Entry where
  workspaceId : String
  eventType : EventType
  actorId : String
  actorType : ActorType
  resourceType : String
  resourceId : String
  payload : JsJson
  previousHash : Option String
  correlationId : String
  deriving DecidableEq

structure AuditRow extends Entry where
  hash : String
  seq : Nat
  deriving DecidableEq

-- The payload is stored as jsonb.
def Entry.row (e : Entry) (hash : String) (seq : Nat) : AuditRow :=
  ⟨{ e with payload := Json.jsonb e.payload }, hash, seq⟩

section Formulas

-- An array index, as JavaScript knows it: such keys stand before the others, in the order of their numbers.
def arrayIndex (key : String) : Nat :=
  match key.toNat? with
  | some n => if toString n = key ∧ n < 2 ^ 32 - 1 then n else 2 ^ 32
  | none => 2 ^ 32

def utf16 (c : Char) : List Nat :=
  if c.toNat < 0x10000 then [c.toNat]
  else [0xD800 + (c.toNat - 0x10000) / 0x400, 0xDC00 + (c.toNat - 0x10000) % 0x400]

def keyRank (key : String) : Nat ×ₗ List Nat ×ₗ String :=
  toLex (arrayIndex key, toLex (key.toList.flatMap utf16, key))

def serializeAuditPayload (payload : JsJson) : String := Json.stringify (Json.normalize keyRank payload)

def separated (separator : String) : List String → String
  | [] => ""
  | [field] => field
  | field :: rest => field ++ separator ++ separated separator rest

-- The texts the writers hash.
def AuditService.preimage (e : Entry) : String :=
  separated "|" [e.previousHash.getD "", e.workspaceId, e.eventType.label, e.resourceId,
    serializeAuditPayload e.payload, e.correlationId]

def StateService.preimage (e : Entry) : String :=
  separated "|" [e.previousHash.getD "", e.workspaceId, e.eventType.label, e.resourceId,
    GoJson.marshal e.payload, e.correlationId]

def WorkspaceService.preimage (e : Entry) : String :=
  separated "|" [e.previousHash.getD "", e.workspaceId, e.eventType.label, e.actorId, e.actorType.label,
    e.resourceType, e.resourceId, GoJson.marshal e.payload, e.correlationId]

def PolicyService.preimage (e : Entry) : String :=
  separated "\x00" [e.previousHash.getD "", e.workspaceId, e.actorId, e.actorType.label, e.resourceType,
    e.resourceId, e.eventType.label, GoJson.marshal e.payload, e.correlationId]

def CloudAccount.preimage (e : Entry) : String :=
  e.previousHash.getD "" ++ e.eventType.label ++ GoJson.marshal e.payload ++ e.correlationId

end Formulas

section Database

inductive Op where
  | advisoryLock (key : String)
  | selectTail
  | insertEvent (entry : Entry) (hash : String)

abbrev Ret : Op → Type
  | .advisoryLock _ => Unit
  | .selectTail => Option String
  | .insertEvent _ _ => Unit

-- SELECT hash FROM provisr_audit.audit_events ORDER BY seq DESC LIMIT 1
def selectTail (rows : List AuditRow) : Option String := (rows.argmax AuditRow.seq).map AuditRow.hash

def locks : Op → List AuditRow → Set String
  | .advisoryLock key, _ => {key}
  | _, _ => ∅

-- `hash` is unique, and a predecessor is a row; `seq` is drawn from a sequence others draw from as well.
def exec : (o : Op) → List AuditRow → Nat → Ret o → List AuditRow → Nat → Prop
  | .advisoryLock _, _, n, _, ws, n' => ws = [] ∧ n' = n
  | .selectTail, rows, n, r, ws, n' => r = selectTail rows ∧ ws = [] ∧ n' = n
  | .insertEvent entry hash, rows, n, _, ws, n' =>
    hash ∉ rows.map AuditRow.hash ∧ (∀ h ∈ entry.previousHash, h ∈ rows.map AuditRow.hash) ∧
      ∃ seq, n ≤ seq ∧ n' = seq + 1 ∧ ws = [entry.row hash seq]

section Statements

variable {o : Op} {rows new : List AuditRow} {n n' : Nat} {r : Ret o}

theorem exec_le (run : exec o rows n r new n') : n ≤ n' := by
  cases o with
  | advisoryLock key => exact run.2.ge
  | selectTail => exact run.2.2.ge
  | insertEvent entry hash =>
    obtain ⟨-, -, seq, le, rfl, -⟩ := run
    exact le.trans (Nat.le_succ seq)

theorem exec_silent (run : exec o rows n r new n') (other : ∀ entry hash, o ≠ .insertEvent entry hash) : new = [] := by
  cases o with
  | advisoryLock key => exact run.1
  | selectTail => exact run.2.1
  | insertEvent entry hash => exact absurd rfl (other entry hash)

end Statements

def chainLock : String := "provisr_audit.chain"

def appendEvent [Platform] (preimage : Entry → String) (columns : Option String → Entry) : Prog Ret Unit := do
  Prog.call (Op.advisoryLock chainLock)
  let previous ← Prog.call Op.selectTail
  Prog.call (Op.insertEvent (columns previous) (Platform.sha256Hex (preimage (columns previous))))

theorem appendEvent_leads [Platform] {Call Op' : Type} {Ret' : Op' → Type} {κ δ ω α β : Type}
    {E : Engine Call Ret' κ δ ω α} {R : δ → δ → Prop} {Q : β → List ω → δ → Prop}
    {embed : (o : Op) → (Ret o → Prog Ret' β) → Prog Ret' β} (trail : δ → List AuditRow) (write : AuditRow → ω)
    (embedded : ∀ o d ws k, (∀ d', R d d' → ∀ n a rows n', exec o (trail (E.view ws d')) n a rows n' →
      E.Leads R Q d' (ws ++ rows.map write) (k a)) → E.Leads R Q d ws (embed o k))
    (trans : ∀ d d' d'', R d d' → R d' d'' → R d d'') {preimage : Entry → String} {columns : Option String → Entry}
    {next : Unit → Prog Ret' β} {d : δ} {ws : List ω}
    (h : ∀ d' previous hash seq, R d d' → E.Leads R Q d' (ws ++ [write ((columns previous).row hash seq)]) (next ())) :
    E.Leads R Q d ws ((appendEvent preimage columns).within embed next) := by
  refine embedded _ _ _ _ fun d₁ related₁ _ _ rows₁ _ run₁ => ?_
  obtain rfl := exec_silent run₁ (by simp)
  refine embedded _ _ _ _ fun d₂ related₂ _ previous rows₂ _ run₂ => ?_
  obtain rfl := exec_silent run₂ (by simp)
  refine embedded _ _ _ _ fun d₃ related₃ _ _ rows₃ _ run₃ => ?_
  obtain ⟨-, -, seq, -, -, rfl⟩ := run₃
  rw [List.map_nil, List.append_nil, List.append_nil]
  exact h d₃ previous _ seq (trans _ _ _ related₁ (trans _ _ _ related₂ related₃))

end Database

section Writers

variable [Platform]

structure AuditAppendParams where
  workspaceId : String
  eventType : EventType
  actorId : String
  actorType : ActorType
  resourceType : String
  resourceId : String
  payload : JsFields
  correlationId : String

def AuditService.executeAppend (params : AuditAppendParams) : Prog Ret Unit :=
  appendEvent AuditService.preimage fun previousHash =>
    ⟨params.workspaceId, params.eventType, params.actorId, params.actorType, params.resourceType,
      params.resourceId, .obj params.payload, previousHash, params.correlationId⟩

-- uuid.Parse of the request's headers, and what uuid.NewString draws when it refuses them.
structure Correlation where
  parses : String → Bool
  header : String
  request : String
  fresh : String

def WorkspaceService.correlationId (c : Correlation) : String :=
  if c.parses c.header then c.header else if c.parses c.request then c.request else c.fresh

def WorkspaceService.appendAuditEvent (workspaceId : String) (eventType : EventType)
    (actorId resourceType resourceId : String) (payload : JsFields) (c : Correlation) : Prog Ret Unit :=
  let actor := if actorId = "" then ("system", ActorType.system) else (actorId, ActorType.user)
  appendEvent WorkspaceService.preimage fun previousHash =>
    ⟨workspaceId, eventType, actor.1, actor.2, resourceType, resourceId, .obj payload, previousHash,
      WorkspaceService.correlationId c⟩

-- An empty correlation id is replaced by a fresh one.
def PolicyService.correlationId (correlationId fresh : String) : String :=
  if correlationId = "" then fresh else correlationId

def PolicyService.emitAudit (workspaceId : String) (eventType : EventType) (resourceId : String)
    (payload : JsFields) (correlationId fresh : String) : Prog Ret Unit :=
  if workspaceId = "" then pure ()
  else appendEvent PolicyService.preimage fun previousHash =>
    ⟨workspaceId, eventType, "policy-service", .system, "policy", resourceId, .obj payload, previousHash,
      PolicyService.correlationId correlationId fresh⟩

structure AuditRecord where
  workspaceId : String
  resourceId : String
  payload : JsFields

def ApprovalService.recordEvaluation (record : AuditRecord) (correlationId fresh : String)
    (parses : String → Bool) : Prog Ret Unit :=
  appendEvent PolicyService.preimage fun previousHash =>
    ⟨record.workspaceId, .approvalRequirementsEvaluated, "approval-service", .system, "approval_requirement",
      record.resourceId, .obj record.payload, previousHash, if parses correlationId then correlationId else fresh⟩

def StateService.store (workspaceId runId : String) (version : Nat) (correlationId : String) : Prog Ret Unit :=
  appendEvent StateService.preimage fun previousHash =>
    ⟨workspaceId, .manifestCreated, "state-service", .system, "provisioning_run", runId,
      .obj [("manifest_version", .num (JsNumber.ofNat version)), ("run_id", .str runId)], previousHash,
      correlationId⟩

structure ArtifactEvidence where
  id : String
  manifestId : String
  manifestVersion : Nat
  runId : String
  hash : String
  fileCount : Nat
  templateSource : String

def IacArtifact.appendAudit (workspaceId correlationId : String) (a : ArtifactEvidence) : Prog Ret Unit :=
  appendEvent StateService.preimage fun previousHash =>
    ⟨workspaceId, .artifactGenerated, "manifest-service", .system, "iac_artifact", a.id,
      .obj [("artifact_id", .str a.id), ("manifest_id", .str a.manifestId),
        ("manifest_version", .num (JsNumber.ofNat a.manifestVersion)), ("run_id", .str a.runId),
        ("hash", .str a.hash), ("file_count", .num (JsNumber.ofNat a.fileCount)),
        ("template_source", .str a.templateSource)], previousHash, correlationId⟩

def StateBackend.appendAudit (workspaceId correlationId : String) (event : EventType) (resourceId : String)
    (fields : JsFields) : Prog Ret Unit :=
  appendEvent StateService.preimage fun previousHash =>
    ⟨workspaceId, event, "provisioning-service", .system, "state_backend", resourceId, .obj fields,
      previousHash, correlationId⟩

def CloudAccount.emitAudit (workspaceId : String) (eventType : EventType) (resourceId : String)
    (payload : JsFields) (correlationId : String) : Prog Ret Unit :=
  appendEvent CloudAccount.preimage fun previousHash =>
    ⟨workspaceId, eventType, "cloud-account-service", .system, "cloud_account", resourceId, .obj payload,
      previousHash, correlationId⟩

end Writers

end Provisr.Audit
