import Provisr.Orchestrator.World

namespace Provisr.Orchestrator

open Provisr.Foundation Zod

structure PlanningConfig where
  serviceToken : String
  policyServiceToken : Option String

def jsonOr (j : Option JsJson) : JsJson := j.getD .null

def ProvisioningRun.policyJson (run : ProvisioningRun) : JsJson :=
  jsonOr (run.policyRequirements.map fun p => Json.jsonb p.toJson)

def ProvisioningRun.cloudJson (run : ProvisioningRun) : JsJson :=
  jsonOr (run.cloudContext.map fun c => Json.jsonb c.toJson)

def ProvisioningRun.historyJson (run : ProvisioningRun) : JsJson :=
  Json.jsonb (.arr (run.answersHistory.map AnswerEntry.toJson))

namespace PlanningClients

variable (config : PlanningConfig)

def unavailable : ServiceError :=
  .planningDependency "A planning service is unavailable. Please try again."

def parse {α : Type} (r : Checked α) : Action α := Async.ofExcept (r.parsed.mapError .zod)

def fetch (r : HttpRequest) : Action HttpResponse := Async.attempt (.fetch r) id

def headers (service : Service) (run : ProvisioningRun) : List (String × String) :=
  [("Content-Type", "application/json"), ("X-Request-ID", run.id), ("X-Correlation-ID", run.correlationId)] ++
    if service = .agent then [("Authorization", "Bearer " ++ config.serviceToken)] else []

def post (service : Service) (path : String) (run : ProvisioningRun) (body : JsJson) : HttpRequest where
  service := service
  method := .post
  path := path
  headers := headers config service run
  body := some body

def request (service : Service) (path : String) (run : ProvisioningRun) (body : JsJson) :
    Action JsJson := do
  let response ← fetch (post config service path run body)
  if !response.ok then throw unavailable
  match response.json with
  | some j => return j
  | none => throw (.plain "Unexpected token in JSON")

def contextFields (run : ProvisioningRun) : JsFields :=
  [("workspace_id", .str run.workspaceId), ("user_id", .str run.requesterId),
    ("permissions", .arr [.str "manifest:read", .str "manifest:write"]), ("request_id", .str run.id),
    ("correlation_id", .str run.correlationId), ("session_id", .str run.sessionId),
    ("idempotency_key", .str ("manifest:" ++ run.id ++ ":" ++ toString run.stateVersion))]

section Policy

def anyTagValue : String := "*"

def textArray : Option JsJson → Option (List String)
  | some (.arr items) => items.mapM fun
    | .str s => some s
    | _ => none
  | _ => none

def malformed : ServiceError := .policyServiceClient "Policy service returned malformed requirements"

def budget : Option JsJson → Option (Option JsNumber)
  | none | some .null => some none
  | some (.num n) => if n.negative || n.digits.isEmpty then none else some (some n)
  | _ => none

def encryption : Option JsJson → Option Bool
  | none | some .null => some false
  | some (.bool b) => some b
  | _ => none

def projectPolicy (fs : JsFields) : Except ServiceError PolicyRequirements :=
  let regions := match fs.lookup "allowed_regions" with
    | none => some []
    | some j => textArray (some j)
  match regions, budget (fs.lookup "max_monthly_budget_usd"),
    textArray (some (nullishOr (fs.lookup "required_tags") (.arr []))),
    textArray (some (nullishOr (fs.lookup "prohibited_resource_types") (.arr []))),
    encryption (fs.lookup "required_encryption") with
  | some regions, some maxBudget, some tags, some prohibited, some encrypted =>
    if (fs.lookup "warnings").isSome && (textArray (fs.lookup "warnings")).isNone then .error malformed
    else if (fs.lookup "allowed_regions").isSome && regions.isEmpty then .error .policyDeniesAllRegions
    else .ok ⟨true, regions, maxBudget, (distinct tags).map fun tag => (tag, anyTagValue), prohibited,
      encrypted, false⟩
  | _, _, _, _, _ => .error malformed

def getPolicyRequirements (workspaceId : String) : Action PolicyRequirements := do
  let response ← fetch
    { service := .policy, method := .get
      path := "/v1/workspaces/" ++ workspaceId ++ "/policy-requirements"
      headers := match config.policyServiceToken with
        | some token => [("Authorization", "Bearer " ++ token)]
        | none => []
      body := none }
  if !response.ok then
    throw (.policyServiceClient ("Policy service returned " ++ toString response.status))
  match response.json with
  | none => throw (.plain "Unexpected token in JSON")
  | some (.obj fs) => Async.ofExcept (projectPolicy fs)
  | some _ => throw (.policyServiceClient "Policy service returned an invalid requirements payload")

end Policy

section CloudContext

structure Capability where
  id : String
  provider : Provider
  status : AccountStatus
  accountAlias : String
  availableRegions : List String
  checkedAt : Option String
  executionReady : Bool

def capabilitySchema : Schema Capability := object fun fs => do
  let ((id, provider, status), accountAlias, regions, checkedAt, ready) ←
    both (both (uuid (fs.lookup "id")) (both (enum providers (fs.lookup "provider"))
        (enum accountStatuses (fs.lookup "status"))))
      (both (string (fs.lookup "account_alias")) (both (strings (fs.lookup "available_regions"))
        (both (nullable (regex JsText.isDatetime string) (fs.lookup "checked_at"))
          (boolean (fs.lookup "execution_ready")))))
  return ⟨id, provider, status, accountAlias, regions, checkedAt, ready⟩

def capabilitiesSchema : Schema (String × List Capability) := object fun fs =>
  both (uuid (fs.lookup "workspace_id")) (array capabilitySchema (fs.lookup "accounts"))

def usableAccount (workspaceId : String) (a : Capability) : Option ActiveAccount :=
  match a.status, a.checkedAt, a.availableRegions with
  | .active, some checkedAt, _ :: _ =>
    if checkedAt = "" then none
    else some ⟨a.id, workspaceId, a.provider, a.accountAlias, .active, .value checkedAt,
      a.availableRegions, none, none⟩
  | _, _, _ => none

def loadCloudContext (run : ProvisioningRun) : Action CloudContext := do
  let reply ← request config .mcp "/tools/get_cloud_account_capabilities" run
    (.obj [("context", .obj (Json.spread (contextFields run) [("permissions", .arr [.str "cloud:read"])]))])
  let (workspaceId, found) ← parse (capabilitiesSchema (some reply))
  if workspaceId ≠ run.workspaceId then throw unavailable
  let accounts := found.filterMap (usableAccount run.workspaceId)
  if accounts.isEmpty then throw .noConnectedProvider
  parse (cloudContextSchema (some
    (CloudContext.mk (distinct (accounts.map ActiveAccount.provider)) accounts).toJson))

end CloudContext

section Agent

def agentSessionSchema : Schema String := object fun fs =>
  object (fun session => uuid (session.lookup "session_id")) (fs.lookup "session")

def createAgentSession (run : ProvisioningRun) : Action String := do
  let reply ← request config .agent "/v1/sessions" run
    (.obj [("organization_id", .str run.workspaceId), ("request_id", .str run.id),
      ("execution_context", .obj [("workspace_id", .str run.workspaceId), ("user_id", .str run.requesterId),
        ("policy_context", run.policyJson), ("cloud_context", run.cloudJson)])])
  parse (agentSessionSchema (some reply))

def agentTurn (run : ProvisioningRun) (message : String) : Action AgentEnvelope := do
  match run.agentSessionId with
  | none => throw unavailable
  | some sessionId =>
    let reply ← request config .agent ("/v1/sessions/" ++ sessionId ++ "/turns") run
      (.obj [("message", .str message)])
    let result ← parse (agentResponseSchema (some reply))
    if result.requestId ≠ run.id then
      throw (.planningDependency "Agent response could not be correlated to this run.")
    parse (agentEnvelopeSchema result)

end Agent

section Manifest

inductive ManifestReply where
  | stored (version : Nat)
  | rejected (errors : List String)
  deriving DecidableEq

variable [Platform]

def storedManifestSchema : Schema Nat := object fun fs => do
  let (_, version, _, _) ← both (uuid (fs.lookup "manifest_id"))
    (both (natural 1 none (fs.lookup "version"))
      (both (regex Platform.isUrl string (fs.lookup "url"))
        (object (fun v => literal (.bool true) (v.lookup "valid")) (fs.lookup "validation"))))
  return version

def manifestErrorSchema : Schema String := fun j =>
  union (string j) <| object (fun fs => do
    let (field, message, code) ← both (optional string (fs.lookup "field"))
      (both (optional string (fs.lookup "message")) (optional string (fs.lookup "code")))
    return field.getD "manifest" ++ ": " ++ (message <|> code).getD "validation failed") j

def rejectedManifestSchema : Schema (List String) := object fun fs => do
  let (_, errors) ← both (literal (.bool false) (fs.lookup "valid"))
    (withDefault [] (array manifestErrorSchema) (fs.lookup "errors"))
  return errors

def manifestReplySchema : Schema ManifestReply := fun j =>
  union ((storedManifestSchema j).map .stored) ((rejectedManifestSchema j).map .rejected)

def createManifestBody (run : ProvisioningRun) (output : JsFields) : JsJson :=
  .obj [("context", .obj (contextFields run)), ("prompt", .str run.prompt),
    ("policies_enabled", .bool (run.policyRequirements.any PolicyRequirements.enabled)),
    ("policy_requirements", run.policyJson), ("cloud_context", run.cloudJson),
    ("clarifications", run.historyJson), ("agent_output", .obj output)]

def createManifest (run : ProvisioningRun) (output : JsFields) : Action ManifestReply := do
  let reply ← request config .mcp "/tools/create_manifest" run (createManifestBody run output)
  parse (manifestReplySchema (some reply))

end Manifest

section Iac

def iacUnavailable : ServiceError :=
  .iacGeneration "IAC_DEPENDENCY_UNAVAILABLE" "Terraform generation is unavailable. Please try again."

def iacContextSchema : Schema JsFields := object fun fs => do
  let _ ← both (both (uuid (fs.lookup "workspace_id")) (both (uuid (fs.lookup "user_id"))
      (array (literal (.str "iac:write")) (fs.lookup "permissions"))))
    (both (both (uuid (fs.lookup "request_id")) (uuid (fs.lookup "correlation_id")))
      (both (uuid (fs.lookup "session_id")) (max 255 (min 1 string) (fs.lookup "idempotency_key"))))
  return fs

def iacContext (run : ProvisioningRun) (key : String) : JsFields :=
  [("workspace_id", .str run.workspaceId), ("user_id", .str run.requesterId),
    ("permissions", .arr [.str "iac:write"]), ("request_id", .str run.id),
    ("correlation_id", .str run.correlationId), ("session_id", .str run.sessionId),
    ("idempotency_key", .str key)]

def maxIacBytes : Nat := 8 * 1024 * 1024

def generateIac (run : ProvisioningRun) (manifestId : String) : Action JsJson := do
  let key := iacIdempotencyKey run manifestId
  let context ← parse (iacContextSchema (some (.obj (iacContext run key))))
  Async.handle (do
    let manifest ← parse (uuid (some (.str manifestId)))
    let response ← fetch
      { service := .mcp, method := .post, path := "/tools/generate_iac"
        headers := [("Content-Type", "application/json"), ("X-Request-ID", run.id),
          ("X-Correlation-ID", run.correlationId), ("Idempotency-Key", key),
          ("Authorization", "Bearer " ++ config.serviceToken)]
        body := some (.obj [("context", .obj context), ("manifest_id", .str manifest)]) }
    if !response.ok || maxIacBytes < response.size then throw iacUnavailable
    match response.json with
    | some j => return j
    | none => throw iacUnavailable)
    fun _ => throw iacUnavailable

end Iac

end PlanningClients

end Provisr.Orchestrator
