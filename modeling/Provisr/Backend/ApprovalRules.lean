import Provisr.Foundation.Float64
import Provisr.Foundation.GoJson
import Provisr.Foundation.StableSort
import Provisr.Backend.Strings
import Provisr.Orchestrator.IacContracts
import Mathlib.Data.Prod.Lex

namespace Provisr.Backend.Approval

open Provisr.Foundation
open Provisr.Orchestrator (Platform)

inductive RiskLevel where
  | low
  | medium
  | high
  | critical
  deriving DecidableEq, Repr

def riskRank : RiskLevel → Nat
  | .low => 0
  | .medium => 1
  | .high => 2
  | .critical => 3

inductive ApproverRole where
  | admin
  | security
  | finance
  deriving DecidableEq, Repr

def approverRank : ApproverRole → Nat
  | .admin => 0
  | .security => 1
  | .finance => 2

inductive Rule where
  | environment
  | cost
  | resourceType
  | publicExposure
  | policyViolation
  | role
  deriving DecidableEq, Repr

inductive EvaluateError where
  | validation (field message : String)
  | policyDenied
  deriving DecidableEq, Repr

inductive ErrorKind where
  | validation
  | policyDenied
  deriving DecidableEq, Repr

def EvaluateError.kind : EvaluateError → ErrorKind
  | .validation _ _ => .validation
  | .policyDenied => .policyDenied

-- A decoded map[string]any, its keys in the order in which encoding/json writes them.
abbrev GoMap := { fields : JsFields // Json.normalize id (Json.obj fields) = .obj fields }

structure ResourceChange where
  address : String
  type : String
  action : String
  isPublic : Bool
  properties : GoMap
  deriving DecidableEq

structure Violation where
  ruleKey : String
  severity : String
  description : String
  evidence : String
  remediationHint : String
  deriving DecidableEq

structure RunContext where
  workspaceId : String
  runId : String
  userId : String
  environment : String
  provider : String
  region : String
  publicExposure : Bool
  resourceChanges : List ResourceChange
  estimatedMonthlyUSD : Option Float64
  costSource : String
  decision : String
  violations : List Violation
  userRole : String
  workspaceEnvironment : String

structure Input where
  workspaceId : String
  runId : String
  userId : String
  environment : String
  provider : String
  region : String
  publicExposure : Bool
  resourceChanges : List ResourceChange
  cost : JsNumber
  costSource : String
  decision : String
  violations : List Violation
  userRole : String
  workspaceEnvironment : String
  deriving DecidableEq

structure TriggeredRule where
  rule : Rule
  reason : String
  approverRole : ApproverRole
  riskLevel : RiskLevel
  deriving DecidableEq

structure Requirement where
  requiresApproval : Bool
  reason : String
  requiredApproverRole : Option ApproverRole
  riskLevel : RiskLevel
  triggeredRules : List TriggeredRule
  ruleSetVersion : String
  inputDigest : String
  costThresholdUSD : JsNumber
  costSource : String
  deriving DecidableEq

def RuleSetVersion : String := "be-e01.v1"

def highCostMultiplier : Nat := 5

def maxResourceChanges : Nat := 1000

def costSourceManifestEstimate : String := "manifest_estimate"

def environmentAliases : List (String × String) :=
  [("dev", "dev"), ("development", "dev"), ("test", "dev"), ("staging", "staging"), ("stage", "staging"),
    ("prod", "prod"), ("production", "prod")]

def validActions : List String := ["create", "update", "delete", "replace", "no-op", "read"]

def validDecisions : List String := ["ALLOW", "WARN", "REQUIRES_APPROVAL", "WAIVED", "DENY"]

section Normalize

variable [GoUnicode]

def ResourceChange.trimmed (c : ResourceChange) : ResourceChange :=
  let type := ToLower (TrimSpace c.type)
  let action := ToLower (TrimSpace c.action)
  { c with
    type := type
    address := if TrimSpace c.address = "" then type else TrimSpace c.address
    action := if action = "" then "create" else action }

def checkChanges : Nat → List ResourceChange → Except EvaluateError Unit
  | _, [] => .ok ()
  | i, c :: cs =>
    if c.type = "" then .error (.validation ("resource_changes[" ++ toString i ++ "].type") "is required")
    else if validActions.contains c.action then checkChanges (i + 1) cs
    else .error (.validation ("resource_changes[" ++ toString i ++ "].action")
      "must be one of create, update, delete, replace, no-op, read")

def ResourceChange.key (c : ResourceChange) : String ×ₗ String ×ₗ String := toLex (c.address, toLex (c.type, c.action))

def Violation.key (v : Violation) : String ×ₗ String ×ₗ String := toLex (v.ruleKey, toLex (v.severity, v.evidence))

def nonNegative : Float64 → Option JsNumber
  | .finite n => if n.negative then none else some n
  | _ => none

def normalizeCost : Option Float64 → Except EvaluateError JsNumber
  | none => .error (.validation "cost_estimate.estimated_monthly_usd" "is required")
  | some estimate => match nonNegative estimate with
    | none => .error (.validation "cost_estimate.estimated_monthly_usd" "must be a non-negative number")
    | some cost => .ok cost

def normalizeDecision (text : String) : Except EvaluateError String :=
  let decision := ToUpper (TrimSpace text)
  if validDecisions.contains decision then
    if decision = "DENY" then .error .policyDenied else .ok decision
  else .error (.validation "policy.decision" "must be one of ALLOW, WARN, REQUIRES_APPROVAL, WAIVED, DENY")

def normalizeWorkspace (text : String) : String :=
  let workspace := ToLower (TrimSpace text)
  if workspace = "" then text else (environmentAliases.lookup workspace).getD ""

def normalizeSource (text : String) : String :=
  let source := ToLower (TrimSpace text)
  if source = "" then costSourceManifestEstimate else source

def Input.of (input : RunContext) (environment : String) (cost : JsNumber) (decision : String) : Input where
  workspaceId := input.workspaceId
  runId := input.runId
  userId := input.userId
  environment := environment
  provider := ToLower (TrimSpace input.provider)
  region := ToLower (TrimSpace input.region)
  publicExposure := input.publicExposure
  -- sort.SliceStable
  resourceChanges := sortStable ResourceChange.key (input.resourceChanges.map ResourceChange.trimmed)
  cost := cost
  costSource := normalizeSource input.costSource
  decision := decision
  violations := sortStable Violation.key input.violations
  userRole := ToLower (TrimSpace input.userRole)
  workspaceEnvironment := normalizeWorkspace input.workspaceEnvironment

def normalizeEnvironment (text : String) : Except EvaluateError String :=
  match environmentAliases.lookup (ToLower (TrimSpace text)) with
  | none => .error (.validation "environment" "must be one of dev, staging, prod")
  | some environment => .ok environment

def checkCount (changes : List ResourceChange) : Except EvaluateError Unit :=
  if maxResourceChanges < changes.length then
    .error (.validation "resource_changes" ("must not exceed " ++ toString maxResourceChanges ++ " entries"))
  else .ok ()

def normalize (input : RunContext) : Except EvaluateError Input := do
  let environment ← normalizeEnvironment input.environment
  checkCount input.resourceChanges
  checkChanges 0 (input.resourceChanges.map ResourceChange.trimmed)
  let cost ← normalizeCost input.estimatedMonthlyUSD
  let decision ← normalizeDecision input.decision
  return Input.of input environment cost decision

end Normalize

section Digest

def ResourceChange.json (c : ResourceChange) : JsJson :=
  .obj ([("address", .str c.address), ("type", .str c.type), ("action", .str c.action), ("public", .bool c.isPublic)] ++
    if c.properties.val = [] then [] else [("properties", .obj c.properties.val)])

def Violation.json (v : Violation) : JsJson :=
  .obj [("rule_key", .str v.ruleKey), ("severity", .str v.severity), ("description", .str v.description),
    ("evidence", .str v.evidence), ("remediation_hint", .str v.remediationHint)]

def Input.json (input : Input) : JsJson :=
  .obj ([("workspace_id", .str input.workspaceId)] ++
    (if input.runId = "" then [] else [("run_id", .str input.runId)]) ++
    [("user_id", .str input.userId), ("environment", .str input.environment), ("provider", .str input.provider),
      ("region", .str input.region), ("public_exposure", .bool input.publicExposure),
      ("resource_changes", .arr (input.resourceChanges.map ResourceChange.json)),
      ("cost_estimate", .obj [("estimated_monthly_usd", .num input.cost), ("source", .str input.costSource)]),
      ("policy", .obj [("decision", .str input.decision), ("violations", .arr (input.violations.map Violation.json))])])

def payload (input : Input) (threshold : JsNumber) : JsJson :=
  .obj [("rule_set_version", .str RuleSetVersion), ("input", input.json), ("user_role", .str input.userRole),
    ("workspace_environment", .str input.workspaceEnvironment),
    ("config", .obj [("cost_threshold_usd", .num threshold)])]

-- json.Marshal of a struct keeps the order of its fields.
def encoded (input : Input) (threshold : JsNumber) : String :=
  String.ofList (GoJson.htmlEscape (Json.write (payload input threshold)))

def inputDigest [Platform] (input : Input) (threshold : JsNumber) : String :=
  Platform.sha256Hex (encoded input threshold)

end Digest

section Rules

variable [GoUnicode]

def mutating (action : String) : Bool := ["create", "update", "delete", "replace"].contains action

def destructive (action : String) : Bool := action == "delete" || action == "replace"

def databaseTypePrefixes : List String :=
  ["database.", "aws_db_instance", "aws_db_cluster", "aws_rds_cluster", "aws_dynamodb_table", "aws_docdb_cluster",
    "aws_neptune_cluster", "aws_redshift_cluster", "aws_elasticache_cluster", "aws_elasticache_replication_group",
    "aws_memorydb_cluster", "aws_opensearch_domain", "aws_elasticsearch_domain", "aws_timestreamwrite_database",
    "google_sql_", "google_spanner_", "google_bigtable_", "google_firestore_database", "google_alloydb_",
    "google_redis_instance", "google_bigquery_dataset", "google_bigquery_table", "azurerm_mssql_", "azurerm_sql_",
    "azurerm_postgresql_", "azurerm_mysql_", "azurerm_mariadb_", "azurerm_cosmosdb_", "azurerm_redis_cache"]

def isDatabase (t : String) : Bool := databaseTypePrefixes.any fun start => HasPrefix t start

def isIAM (t : String) : Bool := Contains t "iam" || HasPrefix t "azurerm_role_" || HasPrefix t "azuread_"

def isFirewall (t : String) : Bool :=
  Contains t "security_group" || Contains t "firewall" || Contains t "network_security_rule" || HasSuffix t ".nsg"

def outward (fields : JsFields) : Bool :=
  ["direction", "type"].any fun field => match fields.lookup field with
    | some (.str s) => ToLower s == "egress" || ToLower s == "outbound"
    | _ => false

def denied (fields : JsFields) : Bool := match fields.lookup "access" with
  | some (.str s) => EqualFold s "deny"
  | _ => false

def passedOver (key : String) : Bool :=
  Contains key "egress" || Contains key "outbound" || Contains key "destination"

mutual

def wideOpenIngress : JsJson → String → Bool
  | .obj fields, _ => !outward fields && !denied fields && wideOpenFields fields
  | .arr items, key => wideOpenItems items key
  | .str text, key =>
    let s := ToLower (TrimSpace text)
    s == "0.0.0.0/0" || s == "::/0" ||
      (Contains key "source_address_prefix" && (s == "*" || s == "internet" || s == "any"))
  | _, _ => false

def wideOpenItems : List JsJson → String → Bool
  | [], _ => false
  | x :: xs, key => wideOpenIngress x key || wideOpenItems xs key

def wideOpenFields : JsFields → Bool
  | [] => false
  | (k, v) :: fs => (!passedOver (ToLower k) && wideOpenIngress v (ToLower k)) || wideOpenFields fs

end

def checkEnvironment (input : Input) : List TriggeredRule :=
  if input.environment ≠ "prod" ∧ input.workspaceEnvironment ≠ "prod" then []
  else [⟨.environment, "production environment requires admin approval", .admin, .high⟩]

def checkCost (input : Input) (threshold : JsNumber) : List TriggeredRule :=
  let cost := Float64.magnitude input.cost
  let limit := Float64.magnitude threshold
  if cost ≤ limit then []
  else
    let risk := if Float64.atLeast cost highCostMultiplier limit then RiskLevel.high else .medium
    [⟨.cost, "estimated cost $" ++ Float64.fixed2 cost ++ "/month exceeds $" ++ Float64.fixed2 limit ++
      " approval threshold", .finance, risk⟩]

def deletesDatabase (c : ResourceChange) : Bool := mutating c.action && destructive c.action && isDatabase c.type

def changesIAM (c : ResourceChange) : Bool := mutating c.action && isIAM c.type

def opensGroup (c : ResourceChange) : Bool :=
  mutating c.action && c.action != "delete" && isFirewall c.type && wideOpenIngress (.obj c.properties.val) ""

def exposes (c : ResourceChange) : Bool := c.isPublic && mutating c.action && c.action != "delete"

def addresses (p : ResourceChange → Bool) (changes : List ResourceChange) : List String :=
  (changes.filter p).map ResourceChange.address

def category (reason : String) (approverRole : ApproverRole) (riskLevel : RiskLevel) (found : List String) :
    List TriggeredRule :=
  if found = [] then [] else [⟨.resourceType, reason ++ ", ".intercalate found, approverRole, riskLevel⟩]

def checkResourceTypes (input : Input) : List TriggeredRule :=
  category "database deletion requires admin approval: " .admin .critical
      (addresses deletesDatabase input.resourceChanges) ++
    category "IAM changes require security approval: " .security .high (addresses changesIAM input.resourceChanges) ++
    category "security group open to the internet requires security approval: " .security .high
      (addresses opensGroup input.resourceChanges)

def checkPublicExposure (input : Input) : List TriggeredRule :=
  let found := addresses exposes input.resourceChanges
  if input.publicExposure = false ∧ found = [] then []
  else
    let reason := "public internet exposure requires security approval"
    [⟨.publicExposure, if found = [] then reason else reason ++ ": " ++ ", ".intercalate found, .security, .high⟩]

def approvalKeys (violations : List Violation) : List String :=
  violations.foldl (fun keys v => if v.severity = "approval" ∧ v.ruleKey ∉ keys then keys ++ [v.ruleKey] else keys) []

def checkPolicy (input : Input) : List TriggeredRule :=
  let keys := approvalKeys input.violations
  if input.decision ≠ "REQUIRES_APPROVAL" ∧ keys = [] then []
  else
    let reason := "policy decision requires approval"
    [⟨.policyViolation, if keys = [] then reason else reason ++ ": " ++ ", ".intercalate keys, .security, .medium⟩]

def checkRole (input : Input) : List TriggeredRule :=
  if input.userRole = "admin" then []
  else
    let anyChange := input.resourceChanges.any fun c => mutating c.action
    let anyDestructive := input.resourceChanges.any fun c => destructive c.action
    let role := if input.userRole = "" then "unknown" else input.userRole
    if input.userRole ≠ "engineer" ∧ anyChange = true then
      [⟨.role, "role " ++ Quote role ++ " cannot provision without admin approval", .admin, .medium⟩]
    else if anyDestructive then
      [⟨.role, "destructive changes by role " ++ Quote role ++ " require admin approval", .admin, .medium⟩]
    else []

def triggered (input : Input) (threshold : JsNumber) : List TriggeredRule :=
  checkEnvironment input ++ checkCost input threshold ++ checkResourceTypes input ++ checkPublicExposure input ++
    checkPolicy input ++ checkRole input

end Rules

structure Summary where
  riskLevel : RiskLevel
  top : TriggeredRule
  production : Bool
  highCount : Nat

def Summary.add (s : Summary) (t : TriggeredRule) : Summary where
  riskLevel := if riskRank s.riskLevel < riskRank t.riskLevel then t.riskLevel else s.riskLevel
  top :=
    if riskRank s.top.riskLevel < riskRank t.riskLevel ∨
        (t.riskLevel = s.top.riskLevel ∧ approverRank t.approverRole < approverRank s.top.approverRole) then t
    else s.top
  production := s.production || t.rule == .environment
  highCount := if t.riskLevel = .high then s.highCount + 1 else s.highCount

def Summary.risk (s : Summary) : RiskLevel :=
  if s.production = true ∧ s.riskLevel = .high ∧ 1 < s.highCount then .critical else s.riskLevel

section Evaluate

variable [GoUnicode] [Platform]

def requirement (input : Input) (threshold : JsNumber) : Requirement :=
  let digest := inputDigest input threshold
  match triggered input threshold with
  | [] => ⟨false, "no approval rules matched", none, .low, [], RuleSetVersion, digest, threshold, input.costSource⟩
  | first :: rest =>
    let summary := (first :: rest).foldl Summary.add ⟨.low, first, false, 0⟩
    ⟨true, "; ".intercalate ((first :: rest).map TriggeredRule.reason), some summary.top.approverRole, summary.risk,
      first :: rest, RuleSetVersion, digest, threshold, input.costSource⟩

def Evaluate (input : RunContext) (costThresholdUSD : Float64) : Except EvaluateError Requirement :=
  match normalize input with
  | .error e => .error e
  | .ok normalized =>
    match nonNegative costThresholdUSD with
    | none => .error (.validation "config.cost_threshold_usd" "must be a non-negative number")
    | some threshold => .ok (requirement normalized threshold)

end Evaluate

section Checks

theorem checkCount_ok {cs : List ResourceChange} : checkCount cs = .ok () ↔ cs.length ≤ maxResourceChanges := by
  unfold checkCount
  split <;> simp <;> omega

theorem checkChanges_ok {cs : List ResourceChange} {i : Nat} :
    checkChanges i cs = .ok () ↔ ∀ c ∈ cs, c.type ≠ "" ∧ c.action ∈ validActions := by
  induction cs generalizing i with
  | nil => simp [checkChanges]
  | cons c cs ih =>
    unfold checkChanges
    by_cases empty : c.type = ""
    · simp [empty]
    · by_cases valid : validActions.contains c.action = true
      · rw [if_neg empty, if_pos valid, ih]
        simp [empty, List.contains_iff_mem.mp valid]
      · rw [if_neg empty, if_neg valid]
        simp only [reduceCtorEq, false_iff, List.forall_mem_cons, not_and_or]
        exact Or.inl (Or.inr fun h => valid (List.contains_iff_mem.mpr h))

theorem checkChanges_kind {cs : List ResourceChange} {i : Nat} {e : EvaluateError}
    (h : checkChanges i cs = .error e) : e.kind = .validation := by
  induction cs generalizing i with
  | nil => cases h
  | cons c cs ih =>
    unfold checkChanges at h
    split at h
    · cases h
      rfl
    · split at h
      · exact ih h
      · cases h
        rfl

theorem checkCount_kind {cs : List ResourceChange} {e : EvaluateError} (h : checkCount cs = .error e) :
    e.kind = .validation := by
  unfold checkCount at h
  split at h
  · cases h
    rfl
  · cases h

theorem normalizeCost_kind {estimate : Option Float64} {e : EvaluateError} (h : normalizeCost estimate = .error e) :
    e.kind = .validation := by
  unfold normalizeCost at h
  split at h
  · cases h
    rfl
  · split at h
    · cases h
      rfl
    · cases h

theorem normalizeEnvironment_kind [GoUnicode] {text : String} {e : EvaluateError}
    (h : normalizeEnvironment text = .error e) : e.kind = .validation := by
  unfold normalizeEnvironment at h
  split at h
  · cases h
    rfl
  · cases h

theorem normalizeEnvironment_ok [GoUnicode] {text environment : String}
    (h : normalizeEnvironment text = .ok environment) :
    (environmentAliases.lookup (ToLower (TrimSpace text))).isSome = true := by
  unfold normalizeEnvironment at h
  split at h
  · cases h
  · rename_i known
    rw [known]
    rfl

theorem normalizeCost_ok {estimate : Option Float64} {cost : JsNumber} (h : normalizeCost estimate = .ok cost) :
    (estimate.bind nonNegative).isSome = true := by
  unfold normalizeCost at h
  split at h
  · cases h
  · split at h
    · cases h
    · rename_i amount
      rw [Option.bind_some, amount]
      rfl

theorem normalizeDecision_ok [GoUnicode] {text decision : String} (h : normalizeDecision text = .ok decision) :
    ToUpper (TrimSpace text) ∈ validDecisions ∧ ToUpper (TrimSpace text) ≠ "DENY" := by
  unfold normalizeDecision at h
  dsimp only at h
  split at h
  · rename_i valid
    split at h
    · cases h
    · exact ⟨List.contains_iff_mem.mp valid, ‹_›⟩
  · cases h

variable [GoUnicode] {a : RunContext}

structure Checked (input : RunContext) (environment : String) (cost : JsNumber) : Prop where
  environment : normalizeEnvironment input.environment = .ok environment
  count : input.resourceChanges.length ≤ maxResourceChanges
  changes : ∀ c ∈ input.resourceChanges, c.trimmed.type ≠ "" ∧ c.trimmed.action ∈ validActions
  cost : normalizeCost input.estimatedMonthlyUSD = .ok cost

theorem Checked.normalize {environment : String} {cost : JsNumber} (checked : Checked a environment cost) :
    normalize a = (normalizeDecision a.decision).map (Input.of a environment cost) := by
  have check : checkChanges 0 (a.resourceChanges.map .trimmed) = .ok () :=
    checkChanges_ok.mpr (List.forall_mem_map.mpr checked.changes)
  unfold Approval.normalize
  rw [checked.environment, checkCount_ok.mpr checked.count, check, checked.cost]
  cases normalizeDecision a.decision <;> rfl

theorem checked_or (input : RunContext) : (∃ environment cost, Checked input environment cost) ∨
    ∃ e, normalize input = .error e ∧ e.kind = .validation := by
  unfold normalize
  cases environment : normalizeEnvironment input.environment with
  | error e => exact Or.inr ⟨e, rfl, normalizeEnvironment_kind environment⟩
  | ok environment' =>
    cases count : checkCount input.resourceChanges with
    | error e => exact Or.inr ⟨e, rfl, checkCount_kind count⟩
    | ok _ =>
      cases check : checkChanges 0 (input.resourceChanges.map ResourceChange.trimmed) with
      | error e => exact Or.inr ⟨e, rfl, checkChanges_kind check⟩
      | ok _ =>
        cases cost : normalizeCost input.estimatedMonthlyUSD with
        | error e => exact Or.inr ⟨e, rfl, normalizeCost_kind cost⟩
        | ok cost' =>
          have changes := List.forall_mem_map.mp (checkChanges_ok.mp check)
          exact Or.inl ⟨environment', cost', environment, checkCount_ok.mp count, changes, cost⟩

theorem normalize_ok {n : Input} (h : normalize a = .ok n) : ∃ environment cost decision,
    Checked a environment cost ∧ normalizeDecision a.decision = .ok decision ∧
      n = Input.of a environment cost decision := by
  rcases checked_or a with ⟨environment, cost, checked⟩ | ⟨e, refused, -⟩
  · rw [checked.normalize] at h
    cases decided : normalizeDecision a.decision with
    | error e =>
      rw [decided] at h
      cases h
    | ok decision =>
      rw [decided] at h
      cases h
      exact ⟨environment, cost, decision, checked, rfl, rfl⟩
  · rw [h] at refused
    cases refused

end Checks

end Provisr.Backend.Approval
