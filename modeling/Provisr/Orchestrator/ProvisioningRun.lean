import Provisr.Orchestrator.Transitions
import Provisr.Orchestrator.PlanningContracts

namespace Provisr.Orchestrator

open Provisr.Foundation

-- Milliseconds since the epoch.
abbrev Date := Nat

inductive PolicyDecision where
  | allow
  | warn
  | deny
  | requiresApproval
  deriving DecidableEq, Repr

inductive ApprovalStatus where
  | notRequired
  | pending
  | approved
  | rejected
  deriving DecidableEq, Repr

inductive ExecutionStatus where
  | pending
  | running
  | succeeded
  | failed
  deriving DecidableEq, Repr

structure PolicyRequirements where
  enabled : Bool
  allowedRegions : List String
  maxBudget : Option JsNumber
  requiredTags : List (String × String)
  prohibitedResourceTypes : List String
  requiredEncryption : Bool
  requiredBackup : Bool
  deriving DecidableEq

def PolicyRequirements.toJson (p : PolicyRequirements) : JsJson :=
  .obj [("enabled", .bool p.enabled), ("allowed_regions", .arr (p.allowedRegions.map .str)),
    ("max_budget", (p.maxBudget.map Json.num).getD .null),
    ("required_tags", .obj (p.requiredTags.map fun t => (t.1, .str t.2))),
    ("prohibited_resource_types", .arr (p.prohibitedResourceTypes.map .str)),
    ("required_encryption", .bool p.requiredEncryption), ("required_backup", .bool p.requiredBackup)]

structure AnswerEntry where
  question : ClarificationQuestion
  answers : JsFields
  answeredAt : Date
  idempotencyKey : String
  deriving DecidableEq

structure ProvisioningRun where
  id : String
  sessionId : String
  workspaceId : String
  requesterId : String
  state : WorkflowState
  stateVersion : Nat
  prompt : String
  manifestVersion : Option Nat
  policyDecision : Option PolicyDecision
  approvalStatus : ApprovalStatus
  executionStatus : ExecutionStatus
  idempotencyKey : String
  correlationId : String
  errorCode : Option String
  errorMessage : Option String
  createdAt : Date
  updatedAt : Date
  completedAt : Option Date
  policyRequirements : Option PolicyRequirements
  policyRequirementsLoadedAt : Option Date
  cloudContext : Option CloudContext
  cloudContextLoadedAt : Option Date
  agentSessionId : Option String
  agentTurnPending : Bool
  agentInput : Option String
  currentQuestion : Option ClarificationQuestion
  clarificationExpiresAt : Option Date
  answersHistory : List AnswerEntry
  manifestValidationAttempts : Nat
  manifestValidatedVersion : Option Nat
  manifestConfirmedVersion : Option Nat
  manifestConfirmedAt : Option Date
  iacArtifactId : Option String
  deriving DecidableEq

-- `Partial<Pick<ProvisioningRun, keyof typeof columns>>`: `none` leaves the column as it is.
structure RunUpdates where
  iacArtifactId : Option (Option String) := none
  approvalStatus : Option ApprovalStatus := none
  policyDecision : Option (Option PolicyDecision) := none
  errorCode : Option (Option String) := none
  errorMessage : Option (Option String) := none
  policyRequirements : Option (Option PolicyRequirements) := none
  policyRequirementsLoadedAt : Option (Option Date) := none
  cloudContext : Option (Option CloudContext) := none
  cloudContextLoadedAt : Option (Option Date) := none
  agentSessionId : Option (Option String) := none
  agentTurnPending : Option Bool := none
  agentInput : Option (Option String) := none
  currentQuestion : Option (Option ClarificationQuestion) := none
  clarificationExpiresAt : Option (Option Date) := none
  answersHistory : Option (List AnswerEntry) := none
  manifestValidationAttempts : Option Nat := none
  manifestVersion : Option (Option Nat) := none
  manifestValidatedVersion : Option (Option Nat) := none
  manifestConfirmedVersion : Option (Option Nat) := none
  manifestConfirmedAt : Option (Option Date) := none

-- `{ ...run, ...updates }`
def ProvisioningRun.with (run : ProvisioningRun) (u : RunUpdates) : ProvisioningRun :=
  { run with
    iacArtifactId := u.iacArtifactId.getD run.iacArtifactId
    approvalStatus := u.approvalStatus.getD run.approvalStatus
    policyDecision := u.policyDecision.getD run.policyDecision
    errorCode := u.errorCode.getD run.errorCode
    errorMessage := u.errorMessage.getD run.errorMessage
    policyRequirements := u.policyRequirements.getD run.policyRequirements
    policyRequirementsLoadedAt := u.policyRequirementsLoadedAt.getD run.policyRequirementsLoadedAt
    cloudContext := u.cloudContext.getD run.cloudContext
    cloudContextLoadedAt := u.cloudContextLoadedAt.getD run.cloudContextLoadedAt
    agentSessionId := u.agentSessionId.getD run.agentSessionId
    agentTurnPending := u.agentTurnPending.getD run.agentTurnPending
    agentInput := u.agentInput.getD run.agentInput
    currentQuestion := u.currentQuestion.getD run.currentQuestion
    clarificationExpiresAt := u.clarificationExpiresAt.getD run.clarificationExpiresAt
    answersHistory := u.answersHistory.getD run.answersHistory
    manifestValidationAttempts := u.manifestValidationAttempts.getD run.manifestValidationAttempts
    manifestVersion := u.manifestVersion.getD run.manifestVersion
    manifestValidatedVersion := u.manifestValidatedVersion.getD run.manifestValidatedVersion
    manifestConfirmedVersion := u.manifestConfirmedVersion.getD run.manifestConfirmedVersion
    manifestConfirmedAt := u.manifestConfirmedAt.getD run.manifestConfirmedAt }

-- What the jsonb columns give back: a typed value keeps its fields, an object of free keys comes
-- back with its keys in jsonb order.
section Stored

def storedFields (fs : JsFields) : JsFields :=
  Json.sortFields Json.jsonbRank (Json.normalizeFields Json.jsonbRank fs)

def PolicyRequirements.stored (p : PolicyRequirements) : PolicyRequirements :=
  { p with requiredTags := Json.sortFields Json.jsonbRank p.requiredTags }

def ActiveAccount.stored (a : ActiveAccount) : ActiveAccount :=
  { a with
    resourceCounts := a.resourceCounts.map storedFields
    quotaLimits := a.quotaLimits.map storedFields }

def CloudContext.stored (c : CloudContext) : CloudContext :=
  { c with activeAccounts := c.activeAccounts.map ActiveAccount.stored }

def AnswerEntry.stored (e : AnswerEntry) : AnswerEntry :=
  { e with answers := storedFields e.answers }

def RunUpdates.stored (u : RunUpdates) : RunUpdates :=
  { u with
    policyRequirements := u.policyRequirements.map (Option.map PolicyRequirements.stored)
    cloudContext := u.cloudContext.map (Option.map CloudContext.stored)
    answersHistory := u.answersHistory.map (List.map AnswerEntry.stored) }

def AnswerEntry.toJson (e : AnswerEntry) : JsJson :=
  .obj [("question", e.question.toJson), ("answers", .obj e.answers),
    ("answeredAt", .str (JsText.toISOString e.answeredAt)), ("idempotencyKey", .str e.idempotencyKey)]

def optionAll {α : Type} (test : α → Bool) : Option (Option α) → Bool
  | some (some a) => test a
  | _ => true

def RunUpdates.storable (u : RunUpdates) : Bool :=
  optionAll (fun p => Json.storable p.toJson) u.policyRequirements &&
    optionAll (fun c => Json.storable c.toJson) u.cloudContext &&
    optionAll (fun q => Json.storable q.toJson) u.currentQuestion &&
    (u.answersHistory.all fun es => es.all fun e => Json.storable e.toJson) &&
    optionAll Json.storableText u.agentInput && optionAll Json.storableText u.errorCode &&
    optionAll Json.storableText u.errorMessage

end Stored

namespace ProvisioningRun

def conditions (run : ProvisioningRun) : TransitionConditions :=
  { emptyTransitionConditions with
    policiesEnabled := !(run.policyRequirements.any fun p => !p.enabled)
    policyRequirementsLoaded := run.policyRequirementsLoadedAt.isSome
    cloudContextLoaded := run.cloudContextLoadedAt.isSome && run.cloudContext.isSome
    clarificationCompleted := run.currentQuestion.isNone && !run.answersHistory.isEmpty
    manifestCreated := run.manifestVersion.isSome
    manifestValidationPassed :=
      run.manifestVersion.isSome && run.manifestValidatedVersion == run.manifestVersion
    manifestConfirmed :=
      run.manifestConfirmedVersion.isSome && run.manifestConfirmedVersion == run.manifestVersion
    policyCheckPassed := match run.policyDecision with
      | some .allow | some .warn | some .requiresApproval => true
      | _ => false
    confirmationCompleted := false
    approvalRequired := run.approvalStatus != .notRequired
    approvalCompleted := run.approvalStatus == .approved }

-- The CHECK constraints of provisioning_runs.
def satisfiesChecks (run : ProvisioningRun) : Bool :=
  (run.manifestConfirmedVersion.isNone == run.manifestConfirmedAt.isNone) &&
    (run.currentQuestion.isNone == run.clarificationExpiresAt.isNone) &&
    (run.manifestConfirmedVersion.isNone ||
      (run.manifestVersion.isSome && run.manifestConfirmedVersion == run.manifestVersion))

end ProvisioningRun

end Provisr.Orchestrator
