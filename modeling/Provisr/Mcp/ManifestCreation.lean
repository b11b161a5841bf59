import Provisr.Foundation.PyText
import Provisr.Backend.ManifestStore
import Provisr.Orchestrator.PlanningClients

namespace Provisr.Mcp

open Provisr.Foundation Provisr.Backend
open Provisr.Orchestrator (ManifestRow HttpResponse)

section Context

def isWord : List Char → Bool
  | [] => false
  | c :: cs => JsText.isLower c && cs.all fun d => JsText.isLower d || d.isDigit || d == '_'

def isValidPermission (value : String) : Bool :=
  isWord (value.toList.takeWhile (· != ':')) &&
    match value.toList.dropWhile (· != ':') with
    | _ :: cs => isWord cs
    | [] => false

structure MCPContext where
  workspaceId : String
  userId : String
  permissions : List String
  requestId : String
  correlationId : String
  sessionId : String
  idempotencyKey : Option String

def contextKeys : List String :=
  ["workspace_id", "user_id", "permissions", "request_id", "correlation_id", "session_id",
    "idempotency_key"]

def uuidField : Option JsJson → Option String
  | some (.str s) => PyText.uuid s
  | _ => none

def permissionsField : Option JsJson → Option (List String)
  | some (.arr items) => do
    let values ← items.mapM fun
      | .str s => some s
      | _ => none
    if values ≠ [] ∧ values.Nodup ∧ values.all isValidPermission = true then return values else none
  | _ => none

def keyField : Option JsJson → Option (Option String)
  | none | some .null => some none
  | some (.str s) =>
    if s.length ≤ 255 ∧ PyText.strip s ≠ "" then some (some (PyText.strip s)) else none
  | _ => none

def MCPContext.modelValidate : Option JsJson → Option MCPContext
  | some (.obj fs) =>
    if fs.all (fun f => contextKeys.contains f.1) then do
      return ⟨← uuidField (fs.lookup "workspace_id"), ← uuidField (fs.lookup "user_id"),
        ← permissionsField (fs.lookup "permissions"), ← uuidField (fs.lookup "request_id"),
        ← uuidField (fs.lookup "correlation_id"), ← uuidField (fs.lookup "session_id"),
        ← keyField (fs.lookup "idempotency_key")⟩
    else none
  | _ => none

-- The context of a call that needs a key: who is no member, or lacks the permission, has none.
def requireContext (permission : String) (member : Bool) (raw : Option JsJson) :
    Option (MCPContext × String) := do
  let context ← MCPContext.modelValidate raw
  if member ∧ permission ∈ context.permissions then return (context, ← context.idempotencyKey) else none

end Context

section Draft

def truthy : JsJson → Bool
  | .null => false
  | .bool b => b
  | .num n => !n.digits.isEmpty
  | .str s => s != ""
  | .arr items => !items.isEmpty
  | .obj fields => !fields.isEmpty

def policiesEnabled : Option JsJson → Bool
  | some (.obj fs) => ((fs.lookup "enabled" <|> fs.lookup "has_policies").map truthy).getD false
  | _ => false

def agentDraft : Option JsJson → Option JsFields
  | some (.obj output) =>
    match output.lookup "manifest" with
    | some (.obj manifest) => some manifest
    | _ => some output
  | _ => none

def half : JsNumber := ⟨false, ['5'], 0, rfl, rfl, rfl, by simp⟩

def agentConfidence : Option JsJson → String × JsNumber
  | some (.obj output) =>
    match output.lookup "metadata" with
    | some (.obj metadata) =>
      let confidence := match metadata.lookup "confidence" with
        | some (.num n) => if n.negative then 0 else if n.atMostOne then n else 1
        | _ => half
      (if metadata.lookup "source" = some (.str "user_input") then "user_prompt" else "ai_assumption",
        confidence)
    | _ => ("ai_assumption", half)
  | _ => ("ai_assumption", half)

def resourceTypes : List (String × String) :=
  [("aws_ec2", "compute.aws.instance"), ("aws_rds", "database.aws.rds"), ("aws_s3", "storage.aws.s3")]

def draftTags (draft : JsFields) : JsJson := (draft.lookup "tags").getD (.obj [])

def backendResource (draft : JsFields) (index : Nat) : JsJson → Option JsFields
  | .obj resource => do
    let some (.str type) := resource.lookup "type" | none
    return [("logical_name", .str ("resource_" ++ toString index)),
      ("type", .str (← resourceTypes.lookup type)),
      ("properties", .obj (resource.filter fun f => f.1 != "type")),
      ("security_settings", ← draft.lookup "security"), ("tags", draftTags draft)]
  | _ => none

def backendResources (draft : JsFields) : Option (List JsFields) :=
  match draft.lookup "resources" with
  | some (.arr resources) => (resources.mapIdx (backendResource draft)).mapM id
  | _ => none

-- A missing key, and a type that is not in the table, raise.
def backendManifest (draft : JsFields) (annotate : JsFields → JsFields) : Option JsFields := do
  let region ← draft.lookup "region"
  let environment ← draft.lookup "environment"
  let resources ← backendResources draft
  return [("schema_version", (draft.lookup "schema_version").getD (.str "1.0")),
    ("provider", (draft.lookup "provider").getD (.str "aws")), ("region", region),
    ("environment", environment), ("tags", draftTags draft),
    ("resources", .arr (resources.map fun r => .obj (annotate r)))]

-- resource.setdefault("source", ...)
def setSource (source : String × JsNumber) (resource : JsFields) : JsFields :=
  if (resource.lookup "source").isSome then resource
  else resource ++ [("source", .obj [("source", .str source.1), ("confidence", .num source.2)])]

def canonicalManifest (source : String × JsNumber) (draft : JsFields) : Option JsFields :=
  backendManifest draft (setSource source)

end Draft

-- `validate_contextual_manifest`: its errors, or nothing where it raises.
structure ManifestChecks where
  contextual : (draft cloud : JsFields) → (policy : Option JsJson) → (workspaceId : String) →
    Option (List String)

structure Prepared where
  runId : String
  key : String
  manifest : JsFields
  deriving DecidableEq

inductive Stopped where
  | refused (status : Nat)
  | invalid (errors : List JsJson)
  deriving DecidableEq

variable (checks : ManifestChecks)

def policyGiven : Option JsJson → Bool
  | some (.obj (_ :: _)) => true
  | _ => false

def inspectDraft (context : MCPContext) (key : String) (output policy cloud : Option JsJson)
    (enabled : Bool) : Except Stopped Prepared :=
  match agentDraft output with
  | none => .error (.refused 422)
  | some draft =>
    if enabled && !policyGiven policy then .error (.refused 422)
    else match cloud with
      | some (.obj cloud) =>
        match checks.contextual draft cloud policy context.workspaceId with
        | none => .error (.refused 500)
        | some (e :: es) => .error (.invalid ((e :: es).map .str))
        | some [] =>
          match canonicalManifest (agentConfidence output) draft with
          | some manifest => .ok ⟨context.requestId, key, manifest⟩
          | none => .error (.refused 500)
      | _ => .error (.refused 422)

def prepareManifest (member : Bool) (body : Option JsJson) : Except Stopped Prepared :=
  match body with
  | some (.obj fs) =>
    match requireContext "manifest:write" member (fs.lookup "context") with
    | none => .error (.refused 403)
    | some (context, key) =>
      inspectDraft checks context key (fs.lookup "agent_output") (fs.lookup "policy_requirements")
        (fs.lookup "cloud_context")
        (((fs.lookup "policies_enabled").map truthy).getD (policiesEnabled (fs.lookup "policy_requirements")))
  | _ => .error (.refused 403)

-- How the services a call meets behave: the membership lookup, the errors of the validator's verdict
-- (nothing where there is none), whether the request to store arrives and whether its reply does.
structure ToolEnv where
  member : Bool
  validation : Option (List JsJson)
  arrives : Bool
  answered : Bool
  newId : String
  backendUrl : String

-- The body of a refusal is read by no caller.
def refuse (status : Nat) : HttpResponse := ⟨false, status, 0, none⟩

def rejectDraft (errors : List JsJson) : HttpResponse :=
  ⟨true, 200, 0, some (.obj [("valid", .bool false), ("errors", .arr errors)])⟩

def manifestUrl (backendUrl runId : String) (version : Nat) : String :=
  backendUrl ++ "/v1/runs/" ++ runId ++ "/manifests/" ++ toString version

def manifestCreated (backendUrl runId : String) (record : ManifestRow) : HttpResponse :=
  ⟨true, 200, 0, some (.obj [("manifest_id", .str record.id),
    ("version", .num (JsNumber.ofNat record.version)),
    ("url", .str (manifestUrl backendUrl runId record.version)),
    ("validation", .obj [("valid", .bool true)])])⟩

-- POST /v1/runs/{run_id}/manifests answers 409 or 500 where nothing is stored.
def storeManifest (env : ToolEnv) (rows : List ManifestRow) (p : Prepared) :
    HttpResponse × List ManifestRow :=
  if env.arrives then
    match storeManifestVersionWithKey rows env.newId p.runId p.key (.obj p.manifest) with
    | .error _ => (refuse 502, rows)
    | .ok (record, rows') =>
      if env.answered then (manifestCreated env.backendUrl p.runId record, rows') else (refuse 502, rows')
  else (refuse 502, rows)

def createManifest (env : ToolEnv) (rows : List ManifestRow) (body : Option JsJson) :
    HttpResponse × List ManifestRow :=
  match prepareManifest checks env.member body with
  | .error (.refused status) => (refuse status, rows)
  | .error (.invalid errors) => (rejectDraft errors, rows)
  | .ok p =>
    match env.validation with
    | none => (refuse 502, rows)
    | some (e :: es) => (rejectDraft (e :: es), rows)
    | some [] => storeManifest env rows p

end Provisr.Mcp
