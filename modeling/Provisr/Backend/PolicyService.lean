import Provisr.Backend.PolicyTables

namespace Provisr.Backend.Policy

open Provisr.Foundation
open Provisr.Orchestrator (Platform)
open Provisr.Audit (EventType)

section Results

inductive Outcome where
  | created (id : PgUuid) (row : PackRow)
  | settings (workspaceID : String) (row : SettingsRow)
  | rule (id : PgUuid) (row : RuleRow)
  | done
  | refused (status : Nat) (code message : String)

def Outcome.commits : Outcome → Bool
  | .refused .. => false
  | _ => true

def internalError (message : String) : Outcome := .refused 500 "internal_error" message

def badRequest (message : String) : Prog Ret Outcome := .pure (.refused 400 "validation_error" message)

def statement (o : Op) (message : String) (next : Answer o → Prog Ret Outcome) : Prog Ret Outcome :=
  Prog.orEnd (fun _ => internalError message) o next

def audited (p : Prog Audit.Ret Unit) (message : String) (next : Prog Ret Outcome) : Prog Ret Outcome :=
  p.within (fun o => statement (.audit o) message) fun _ => next

end Results

section Requests

structure Principal where
  id : String
  role : String
  workspaceID : String
deriving DecidableEq

-- What a request has besides its path and its body. The server draws `fresh` where there is no correlation id.
structure Context where
  principal : Option Principal
  idempotencyKey : String
  workspaceQuery : String
  correlationID : String
  fresh : String
deriving DecidableEq

def isAdmin (ctx : Context) : Bool := ctx.principal.any fun p => p.role == "admin"

-- Bodies that are JSON; a member that is absent is empty or nil.
structure CreatePackRequest where
  workspaceID : String
  name : String
  description : String
  category : String
deriving DecidableEq

structure UpdateSettingsRequest where
  enabledPackIDs : Option (List String)
  mode : Option String
deriving DecidableEq

structure UpdateRuleParametersRequest where
  parametersSchema : String
deriving DecidableEq

def invalidJson : Prog Ret Outcome := .pure (.refused 400 "invalid_json" "request body is not valid JSON")

def keyMissing : Outcome :=
  .refused 400 "idempotency_key_required" "Idempotency-Key header is required for mutations"

def keyInvalid : Outcome :=
  .refused 400 "idempotency_key_invalid" "Idempotency-Key header must not exceed 128 characters"

def keyUsed : Outcome :=
  .refused 409 "duplicate_idempotency_key" "Idempotency-Key was already used for a mutation"

def Context.key (ctx : Context) : String := TrimSpace ctx.idempotencyKey

def claimIdempotencyKey (ctx : Context) (workspaceID mutation : String) (next : Prog Ret Outcome) :
    Prog Ret Outcome :=
  if ctx.key = "" then .pure keyMissing
  else if 128 < ctx.key.utf8ByteSize then .pure keyInvalid
  else if workspaceID = "" then next
  else statement (.claimKey workspaceID ctx.key mutation) "failed to process mutation" fun claimed =>
    if claimed then next else .pure keyUsed

variable [Platform]

def emitAudit (ctx : Context) (workspaceID resourceID : String) (payload : JsFields) (message : String)
    (next : Prog Ret Outcome) : Prog Ret Outcome :=
  audited (Audit.PolicyService.emitAudit workspaceID .stateTransition resourceID payload ctx.correlationID ctx.fresh)
    message next

section Packs

def packNotCreated : String := "failed to create policy pack"

def workspaceMissing : Prog Ret Outcome := .pure (.refused 400 "workspace_not_found" "workspace does not exist")

def createPack (ctx : Context) (req : CreatePackRequest) : Prog Ret Outcome :=
  claimIdempotencyKey ctx req.workspaceID "create_policy_pack" <|
  statement (.insertPack req.workspaceID req.name req.description req.category) packNotCreated fun
    | none => workspaceMissing
    | some (id, row) =>
      emitAudit ctx req.workspaceID id.text
        [("pack_id", .str id.text), ("name", .str row.name), ("category", .str row.category)] packNotCreated
        (.pure (.created id row))

def handleCreatePack (ctx : Context) (body : Option CreatePackRequest) : Prog Ret Outcome :=
  match body with
  | none => invalidJson
  | some req =>
    if req.workspaceID = "" ∨ req.name = "" ∨ req.category = "" then
      badRequest "workspace_id, name, and category are required"
    else if (parseUuid req.workspaceID).isNone then badRequest "workspace_id must be a valid UUID"
    else if !packCategories.contains req.category then
      badRequest "category must be one of: security, cost, compliance, environment"
    else createPack ctx req

end Packs

section Settings

def settingsNotUpdated : String := "failed to update settings"

omit [Platform] in
def handleGetSettings (workspaceID : String) : Prog Ret Outcome :=
  if (parseUuid workspaceID).isNone then badRequest "workspace_id must be a valid UUID"
  else
    statement (.selectSettings workspaceID) "failed to get policy settings" fun
      | some row => .pure (.settings workspaceID row)
      | none =>
        statement (.initSettings workspaceID) "failed to initialize policy settings" fun
          | none => .pure (.refused 404 "workspace_not_found" "workspace does not exist")
          | some row => .pure (.settings workspaceID row)

def finalMode (req : UpdateSettingsRequest) (existing : Option SettingsRow) : String :=
  req.mode.getD ((existing.map SettingsRow.mode).getD "enforced")

def finalPacks (req : UpdateSettingsRequest) (existing : Option SettingsRow) : List String :=
  req.enabledPackIDs.getD ((existing.map fun row => row.enabledPackIDs.map PgUuid.text).getD defaultPacks)

def updateSettings (ctx : Context) (workspaceID : String) (req : UpdateSettingsRequest) : Prog Ret Outcome :=
  claimIdempotencyKey ctx workspaceID "update_policy_settings" <|
  statement (.lockSettings workspaceID) settingsNotUpdated fun existing =>
  statement (.upsertSettings workspaceID (finalPacks req existing) (finalMode req existing)) settingsNotUpdated fun
    | none => workspaceMissing
    | some row =>
      emitAudit ctx workspaceID workspaceID
        [("enabled_pack_ids", .arr (row.enabledPackIDs.map fun id => .str id.text)), ("mode", .str row.mode)]
        settingsNotUpdated (.pure (.settings workspaceID row))

def requirePacks (workspaceID : String) (next : Prog Ret Outcome) : List String → Prog Ret Outcome
  | [] => next
  | packID :: rest =>
    statement (.packExists packID workspaceID) settingsNotUpdated fun found =>
      if found then requirePacks workspaceID next rest
      else .pure (.refused 400 "pack_not_found" ("policy pack " ++ packID ++ " not found"))

def handleUpdateSettings (ctx : Context) (workspaceID : String) (body : Option UpdateSettingsRequest) :
    Prog Ret Outcome :=
  if (parseUuid workspaceID).isNone then badRequest "workspace_id must be a valid UUID"
  else
    match body with
    | none => invalidJson
    | some req =>
      if req.mode.any fun mode => !policyModes.contains mode then badRequest "mode must be enforced or audit_only"
      else
        match (req.enabledPackIDs.getD []).find? fun id => (parseUuid id).isNone with
        | some id => badRequest ("invalid pack id: " ++ id)
        | none => requirePacks workspaceID (updateSettings ctx workspaceID req) (req.enabledPackIDs.getD [])

end Settings

section Rules

-- strconv.ParseFloat, where the number is in range.
class GoFloat where
  parseFloat : Literal → Option JsNumber

variable [GoFloat]

-- json.Unmarshal into a map: a key that comes again replaces the one before.
def unmarshal (text : String) : Option JsFields :=
  match JsonReader.read (some (Char.ofNat 0xFFFD)) text with
  | none => none
  | some j =>
    if j.allNum fun l => (GoFloat.parseFloat l).isSome then
      match Json.normalize id (j.mapNum fun l => (GoFloat.parseFloat l).getD 0) with
      | .obj fields => some fields
      | _ => none
    else none

def rulesNotUpdated : String := "failed to update policy rule parameters"

-- The workspace of the pack, else that of the principal, else the one asked for.
def workspaceOf (ctx : Context) (packWorkspace : Option PgUuid) : String :=
  match packWorkspace with
  | some w => w.text
  | none =>
    match ctx.principal.filter fun p => p.workspaceID != "" with
    | some p => p.workspaceID
    | none => ctx.workspaceQuery

def updateParameters (ctx : Context) (ruleID parametersSchema : String) (schema : JsFields) (found : FoundRule) :
    Prog Ret Outcome :=
  claimIdempotencyKey ctx (workspaceOf ctx found.workspaceID) "policy_rule.update_parameters" <|
  statement (.updateParameters parametersSchema ruleID) rulesNotUpdated fun (id, row) =>
    emitAudit ctx (workspaceOf ctx found.workspaceID) ruleID
      [("rule_id", .str ruleID), ("pack_id", .str row.packID.text), ("rule_key", .str row.ruleKey),
        ("parameters_schema", .obj schema)] rulesNotUpdated (.pure (.rule id row))

def lockRule (ctx : Context) (ruleID parametersSchema : String) (schema : JsFields) : Prog Ret Outcome :=
  statement (.lockRule ruleID) rulesNotUpdated fun
    | none => .pure (.refused 404 "not_found" "policy rule not found")
    | some found =>
      match validateRuleParameters found.row.ruleKey schema with
      | .error message => badRequest message
      | .ok _ => updateParameters ctx ruleID parametersSchema schema found

def handleUpdateRuleParameters (ctx : Context) (ruleID : String) (body : Option UpdateRuleParametersRequest) :
    Prog Ret Outcome :=
  if (parseUuid ruleID).isNone then badRequest "rule_id must be a valid UUID"
  else if !isAdmin ctx then
    .pure (.refused 403 "forbidden" "only admins can update policy rule parameters")
  else
    match body with
    | none => invalidJson
    | some req =>
      if req.parametersSchema = "" then badRequest "parameters_schema is required"
      else
        match unmarshal req.parametersSchema with
        | none => badRequest "parameters_schema must be a valid JSON object"
        | some schema => lockRule ctx ruleID req.parametersSchema schema

end Rules

end Requests

section Engine

inductive Deed where
  | workspace (id : PgUuid)
  | claim (workspaceID key mutation : String)
  | append (preimage : Audit.Entry → String) (columns : Option String → Audit.Entry)

inductive Call where
  | createPack (ctx : Context) (body : Option CreatePackRequest)
  | getSettings (workspaceID : String)
  | updateSettings (ctx : Context) (workspaceID : String) (body : Option UpdateSettingsRequest)
  | updateRuleParameters (ctx : Context) (ruleID : String) (body : Option UpdateRuleParametersRequest)
  | other (deeds : List Deed)

variable [Platform]

def perform : List Deed → Prog Ret Outcome
  | [] => .pure .done
  | .workspace id :: rest => statement (.insertWorkspace id) "" fun _ => perform rest
  | .claim workspaceID key mutation :: rest =>
    statement (.claimKey workspaceID key mutation) "" fun claimed => if claimed then perform rest else .pure keyUsed
  | .append preimage columns :: rest => audited (Audit.appendEvent preimage columns) "" (perform rest)

variable [GoFloat]

def Call.program : Call → Prog Ret Outcome
  | .createPack ctx body => handleCreatePack ctx body
  | .getSettings workspaceID => handleGetSettings workspaceID
  | .updateSettings ctx workspaceID body => handleUpdateSettings ctx workspaceID body
  | .updateRuleParameters ctx ruleID body => handleUpdateRuleParameters ctx ruleID body
  | .other deeds => perform deeds

def engine : Foundation.Engine Call Ret Key Db Write Outcome where
  apply := apply
  locks := locks
  exec := exec
  program := Call.program
  commits := Outcome.commits

end Engine

end Provisr.Backend.Policy
