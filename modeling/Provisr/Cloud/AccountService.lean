import Provisr.Backend.Strings
import Provisr.Cloud.AccountTables
import Provisr.Foundation.Exceptional

namespace Provisr.Cloud.Accounts

open Provisr.Foundation Provisr.Backend
open Provisr.Audit (EventType)
open Provisr.Backend.SourceMetadata (Map Unmarshal)
open Op (Ret)

-- HMAC-SHA256 in hexadecimal digits, AES-256-GCM with its nonce in base64, the master key, and time.RFC3339Nano.
class CloudPlatform where
  master : String
  mac : (key text : String) → String
  sealed : (key nonce plaintext : String) → String
  opened : (key blob : String) → Option String
  format : Int → String

section Crypto

variable [CloudPlatform]

def DeriveWorkspaceKey (workspaceID : String) : Option String :=
  if workspaceID = "" then none else some (CloudPlatform.mac CloudPlatform.master ("cloud-account:v1:" ++ workspaceID))

def EncryptJSON (key : String) (payload : Map) (nonce : Option String) : Option String :=
  nonce.map fun nonce => CloudPlatform.sealed key nonce (GoJson.marshal (.obj payload.entries))

-- The map after it, none for the nil map.
def DecryptJSON (key encoded : String) (target : Map) : Option (Option Map) := do
  let plaintext ← CloudPlatform.opened key encoded
  match Unmarshal plaintext (some target) with
  | (m, true) => some m
  | (_, false) => none

def HashExternalID (key externalID : String) : Option String :=
  let externalID := TrimSpace externalID
  if externalID = "" then none else some (CloudPlatform.mac key ("external-id:" ++ externalID))

end Crypto

section Requests

structure CreateRequest where
  workspaceID : String
  provider : String
  label : String
  externalAccountID : String
  -- none where the request has no map of metadata
  metadata : Option Map

-- Of the headers, and what the context has for a correlation id.
structure Headers where
  idempotencyKey : String
  correlationID : String

inductive Response where
  | error (status : Nat) (code message : String)
  | json (status : Nat) (body : List (String × Json Literal))
  | noContent

abbrev Handling := Async Ret Response

def internal (message : String) : Response := .error 500 "internal_error" message

def invalid (message : String) : Response := .error 400 "validation_error" message

def require (holds : Bool) (refusal : Response) : Handling Unit := if holds then pure () else throw refusal

def orElse {α : Type} (refusal : Response) : Option α → Except Response α
  | some a => .ok a
  | none => .error refusal

def done (refusal : Response) : Bool → Except Response Unit
  | true => .ok ()
  | false => .error refusal

def validProvider (provider : String) : Bool := provider == "aws" || provider == "azure" || provider == "gcp"

def validLabel (label : String) : Bool := TrimSpace label != "" && decide (label.utf8ByteSize ≤ 255)

def validExternalAccountID (provider externalAccountID : String) : Bool := externalAccountID == "" || provider == "aws"

def validIdempotencyKey (key : String) : Bool := TrimSpace key != "" && decide ((TrimSpace key).utf8ByteSize ≤ 128)

def requireWorkspaceID (workspaceID : String) : Handling Unit := do
  require (workspaceID != "") (invalid "workspace_id query parameter is required")
  require (validWorkspaceID workspaceID) (invalid "workspace_id must be a valid UUID")

def requireAccount (workspaceID id : String) : Handling Unit := do
  requireWorkspaceID workspaceID
  require (validWorkspaceID id) (invalid "id must be a valid UUID")

def decoded {α : Type} (body : Option α) : Handling α :=
  Async.ofExcept (orElse (.error 400 "invalid_json" "request body is not valid JSON") body)

def claimed : Option Bool → Except Response Unit
  | none => .error (internal "failed to process mutation")
  | some false => .error (.error 409 "duplicate_idempotency_key" "Idempotency-Key was already used for a mutation")
  | some true => .ok ()

def claimIdempotencyKey (headers : Headers) (workspaceID mutation : String) : Handling Unit := do
  let key := TrimSpace headers.idempotencyKey
  require (validIdempotencyKey key)
    (.error 400 "idempotency_key_required" "Idempotency-Key header is required for mutations")
  Async.attempt (Op.claimKey workspaceID key mutation) claimed

def event (headers : Headers) (workspaceID : String) (eventType : EventType) (resourceID : String)
    (payload : JsFields) : AuditEvent := ⟨workspaceID, eventType, resourceID, payload, headers.correlationID⟩

def inTransaction (message : String) (body : Int → Handling Response) : Handling Response := do
  let now ← Async.attempt Op.beginTx (orElse (internal message))
  Async.finally_ (body now) (Async.ask Op.rollback)

-- emitAudit and Commit
def record (message : String) (e : AuditEvent) (response : Response) : Handling Response := do
  Async.attempt (Op.emitAudit e) (done (internal message))
  Async.attempt Op.commit (done (internal message))
  pure response

end Requests

section Handlers

variable [CloudPlatform]

def workspaceKey (workspaceID : String) : Except Response String :=
  orElse (internal "failed to derive encryption key") (DeriveWorkspaceKey workspaceID)

section Create

def createFailed : String := "failed to create cloud account"

def createPayload (row : Insertion) : JsFields := [("provider", .str row.provider), ("label", .str row.label)]

def createBody (row : Insertion) (id : PgUuid) : List (String × Json Literal) :=
  [("id", .str id.text), ("workspace_id", .str row.workspaceID), ("provider", .str row.provider),
    ("label", .str row.label), ("status", .str "pending")]

def tryRetryPending (headers : Headers) (row : Insertion) (now : Int) : Handling Response := do
  Async.attempt Op.rollbackTo (done (internal createFailed))
  match ← Async.attempt (Op.retryPending row now) (orElse (internal createFailed)) with
  | none =>
    throw (.error 409 "provider_slot_taken"
      ("workspace already has a " ++ row.provider ++ " account; delete or reconnect it first"))
  | some id =>
    record createFailed
      (event headers row.workspaceID .cloudAccountCreated id.text (createPayload row ++ [("retried", .bool true)]))
      (.json 200 (createBody row id))

def insert (headers : Headers) (row : Insertion) (now : Int) : Handling Response := do
  claimIdempotencyKey headers row.workspaceID "cloud_account.create"
  Async.attempt Op.savepoint (done (internal createFailed))
  let id ← Async.ask Op.newId
  match ← Async.ask (Op.insertAccount id row now) with
  | .inserted =>
    record createFailed (event headers row.workspaceID .cloudAccountCreated id.text (createPayload row))
      (.json 201 (createBody row id))
  | .uniqueViolation => tryRetryPending headers row now
  | .foreignKeyViolation => throw (.error 400 "workspace_not_found" "workspace does not exist")
  | .error => throw (internal createFailed)

def hashed (key externalAccountID : String) : Except Response (Option String) :=
  if externalAccountID = "" then .ok none
  else (orElse (internal "failed to hash external account id") (HashExternalID key externalAccountID)).map some

def handleCreate (headers : Headers) (body : Option CreateRequest) : Handling Response := do
  let req ← decoded body
  require (validProvider req.provider) (invalid "provider must be aws, azure, or gcp")
  require (validLabel req.label) (invalid "label must be between 1 and 255 characters")
  require (validWorkspaceID req.workspaceID) (invalid "workspace_id must be a valid UUID")
  require (validExternalAccountID req.provider req.externalAccountID)
    (invalid "external_account_id is only valid for aws accounts")
  let key ← Async.ofExcept (workspaceKey req.workspaceID)
  let nonce ← Async.ask Op.nonce
  let encrypted ← Async.ofExcept
    (orElse (internal "failed to encrypt account metadata") (EncryptJSON key (req.metadata.getD .empty) nonce))
  let externalIDHash ← Async.ofExcept (hashed key req.externalAccountID)
  inTransaction createFailed
    (insert headers ⟨req.workspaceID, req.provider, TrimSpace req.label, externalIDHash, encrypted⟩)

end Create

section Read

def fields (id : PgUuid) (row : AccountRow) : List (String × Json Literal) :=
  [("id", .str id.text), ("workspace_id", .str row.workspaceID.text), ("provider", .str row.provider),
    ("label", .str row.label), ("status", .str row.status.text)]

def times (row : AccountRow) : List (String × Json Literal) :=
  [("created_at", .str (CloudPlatform.format row.createdAt)),
    ("updated_at", .str (CloudPlatform.format row.updatedAt))] ++
    (row.verifiedAt.map fun at_ => ("verified_at", Json.str (CloudPlatform.format at_))).toList

def handleList (workspaceID : String) : Handling Response := do
  requireWorkspaceID workspaceID
  let rows ← Async.attempt (Op.list workspaceID) (orElse (internal "failed to list cloud accounts"))
  pure (.json 200 [("accounts", .arr (rows.map fun r => .obj (fields r.1 r.2 ++ times r.2)))])

def discoverySecret (key : String) : Bool := EqualFold (String.ofList (key.toList.filter (· != '_'))) "externalid"

def redactDiscoverySecrets (metadata : List (String × Json Literal)) : List (String × Json Literal) :=
  metadata.filter fun field => !discoverySecret field.1

def found (message : String) : Option (Option (PgUuid × AccountRow)) → Except Response (PgUuid × AccountRow)
  | none => .error (internal message)
  | some none => .error (.error 404 "not_found" "cloud account not found")
  | some (some row) => .ok row

-- An empty value stands for an account from before the encryption.
def storedMetadata (key encrypted : String) : Except Response (Option Map) :=
  if encrypted = "" then .ok (some .empty)
  else orElse (internal "failed to decrypt account metadata") (DecryptJSON key encrypted .empty)

def metadataJson : Option Map → Json Literal
  | none => .null
  | some m => .obj (redactDiscoverySecrets m.entries)

def handleGet (workspaceID id : String) : Handling Response := do
  requireAccount workspaceID id
  let (i, row) ← Async.attempt (Op.select id workspaceID) (found "failed to get cloud account")
  let key ← Async.ofExcept (workspaceKey row.workspaceID.text)
  let metadata ← Async.ofExcept (storedMetadata key row.metadataEncrypted)
  pure (.json 200 (fields i row ++ [("metadata", metadataJson metadata)] ++ times row))

end Read

section Update

def updateFailed : String := "failed to update cloud account status"

def affected (message : String) : Option Nat → Except Response Unit
  | none => .error (internal message)
  | some 0 => .error (.error 404 "not_found" "cloud account not found")
  | some _ => .ok ()

def validStatus (status : String) : Except Response AccountStatus :=
  orElse (invalid "status must be pending, active, failed, or disconnected") (AccountStatus.parse status)

def update (headers : Headers) (workspaceID id : String) (status : AccountStatus) (now : Int) : Handling Response := do
  claimIdempotencyKey headers workspaceID "cloud_account.update_status"
  Async.attempt (Op.updateStatus id workspaceID status now) (affected updateFailed)
  record updateFailed (event headers workspaceID .cloudAccountStatusChanged id [("status", .str status.text)])
    (.json 200 [("id", .str id), ("status", .str status.text)])

def handleUpdateStatus (headers : Headers) (workspaceID id : String) (body : Option String) : Handling Response := do
  requireAccount workspaceID id
  let text ← decoded body
  let status ← Async.ofExcept (validStatus text)
  inTransaction updateFailed (update headers workspaceID id status)

end Update

section Verify

def validateVerificationPreconditions (provider : String) (status : AccountStatus) (externalID : String) :
    Except Response Unit :=
  if provider ≠ "aws" then
    .error (.error 400 "invalid_provider" "verification is only supported for aws accounts")
  else if status = .active then .error (.error 409 "already_active" "cloud account is already active")
  else if status ≠ .pending ∧ status ≠ .failed then
    .error (.error 400 "invalid_status" ("cannot verify account with status \"" ++ status.text ++ "\""))
  else if TrimSpace externalID = "" then .error (invalid "external_id is required")
  else .ok ()

def verifyExternalIDHash (key externalID : String) (storedHash : Option String) : Bool :=
  match storedHash with
  | none => false
  | some stored => stored != "" && HashExternalID key externalID == some stored

-- The status of an account whose verification fails; what goes wrong here is not noticed.
def markFailed (headers : Headers) (workspaceID id reason text : String) : Prog Ret Unit := do
  match ← Prog.call Op.beginTx with
  | none => pure ()
  | some now => do
    let _ ← Prog.call (Op.failAccount id workspaceID now)
    let _ ← Prog.call (Op.emitAudit (event headers workspaceID .cloudAccountStatusChanged id
      [("status", .str "failed"), (reason, .str text), ("provider", .str "aws")]))
    let _ ← Prog.call Op.commit
    Prog.call Op.rollback

def failing {α : Type} (headers : Headers) (workspaceID id reason text : String) (response : Response) :
    Handling α := do
  ExceptT.lift (markFailed headers workspaceID id reason text)
  throw response

def textUnder (metadata : Option Map) (key : String) : String :=
  match metadata.bind (·.get? key) with
  | some (.str s) => s
  | _ => ""

def roleARN (metadata : Option Map) : String :=
  if textUnder metadata "role_arn" = "" then textUnder metadata "roleArn" else textUnder metadata "role_arn"

def verifiedMetadata (metadata : Map) (result : AWSVerificationResult) (externalID : String) (now : Int) : Map :=
  (((metadata.set "verified_account_id" (.str result.accountID)).set "external_id" (.str externalID)).set "regions"
    (.arr (result.regions.map .str))).set "verified_at" (.str (CloudPlatform.format now))

def verifyPayload (result : AWSVerificationResult) : JsFields :=
  [("status", .str "active"), ("provider", .str "aws"), ("account_id", .str result.accountID),
    ("regions", .arr (result.regions.map .str))]

def activate (headers : Headers) (workspaceID id : String) (result : AWSVerificationResult) (encrypted : String)
    (_ : Int) : Handling Response := do
  if TrimSpace headers.idempotencyKey ≠ "" then claimIdempotencyKey headers workspaceID "cloud_account.verify"
  let now ← Async.ask Op.clock
  Async.attempt (Op.verifyAccount id workspaceID encrypted now) (done (internal "failed to update cloud account"))
  Async.attempt (Op.emitAudit (event headers workspaceID .cloudAccountStatusChanged id (verifyPayload result)))
    (done (internal "failed to emit audit event"))
  Async.attempt Op.commit (done (internal "failed to commit verification"))
  pure (.json 200 [("id", .str id), ("workspace_id", .str workspaceID), ("provider", .str "aws"),
    ("status", .str "active"), ("account_id", .str result.accountID), ("regions", .arr (result.regions.map .str)),
    ("verified_at", .str (CloudPlatform.format now))])

-- From the metadata on. Without a map of them, the first assignment panics.
def assume (headers : Headers) (workspaceID id externalID key : String) (metadata : Option Map) :
    Handling Response := do
  if roleARN metadata = "" then
    failing headers workspaceID id "reason" "missing_role_arn"
      (.error 400 "missing_role_arn" "account metadata does not contain a valid role_arn")
  else
    match ← Async.ask (Op.verifyRole (roleARN metadata) externalID) with
    | .error err => failing headers workspaceID id "error" err (.error 422 "verification_failed" err)
    | .ok result =>
      match metadata with
      | none => throw (internal "unexpected server error")
      | some metadata => do
        let now ← Async.ask Op.clock
        let nonce ← Async.ask Op.nonce
        let encrypted ← Async.ofExcept (orElse (internal "failed to encrypt account metadata")
          (EncryptJSON key (verifiedMetadata metadata result externalID now) nonce))
        inTransaction "failed to verify cloud account" (activate headers workspaceID id result encrypted)

def handleVerify (headers : Headers) (workspaceID id : String) (body : Option String) : Handling Response := do
  requireAccount workspaceID id
  let externalID ← decoded body
  require (TrimSpace externalID != "") (invalid "external_id is required")
  let (_, row) ← Async.attempt (Op.select id workspaceID) (found "failed to query cloud account")
  Async.ofExcept (validateVerificationPreconditions row.provider row.status externalID)
  let key ← Async.ofExcept (workspaceKey workspaceID)
  if verifyExternalIDHash key externalID row.externalIDHash then do
    let metadata ← Async.ofExcept (storedMetadata key row.metadataEncrypted)
    assume headers workspaceID id externalID key metadata
  else
    failing headers workspaceID id "reason" "external_id_mismatch"
      (.error 400 "external_id_mismatch" "provided external_id does not match configured account external id")

end Verify

section Delete

def deleteFailed : String := "failed to delete cloud account"

def runsExist : Response := .error 409 "active_runs_exist" "cannot delete cloud account with active provisioning runs"

def idle : Option Bool → Except Response Unit
  | none => .error (internal deleteFailed)
  | some true => .error runsExist
  | some false => .ok ()

def deleted : Option Nat → Except Response Unit
  | none => .error (internal deleteFailed)
  | some 0 => .error runsExist
  | some _ => .ok ()

def located : Option (Option (PgUuid × String)) → Except Response (PgUuid × String)
  | none => .error (internal deleteFailed)
  | some none => .error (.error 404 "not_found" "cloud account not found")
  | some (some row) => .ok row

def delete (headers : Headers) (workspaceID id : String) (_ : Int) : Handling Response := do
  claimIdempotencyKey headers workspaceID "cloud_account.delete"
  let (accountWorkspaceID, provider) ← Async.attempt (Op.selectProvider id workspaceID) located
  Async.attempt (Op.activeRuns accountWorkspaceID) idle
  Async.attempt (Op.deleteAccount id workspaceID) deleted
  record deleteFailed (event headers workspaceID .cloudAccountDeleted id [("provider", .str provider)]) .noContent

def handleDelete (headers : Headers) (workspaceID id : String) : Handling Response := do
  requireAccount workspaceID id
  inTransaction deleteFailed (delete headers workspaceID id)

end Delete

end Handlers

section Ordinary

variable {headers : Headers} {message mutation workspaceID id : String} {now : Int}

theorem require_all {P : Op → Prop} {holds : Bool} {refusal : Response} : (require holds refusal).All P := by
  unfold require
  split
  · exact Async.all_pure
  · exact Async.all_throw

theorem claim_ordinary : (claimIdempotencyKey headers workspaceID mutation).All (·.ordinary = true) :=
  Async.all_bind require_all fun _ => Async.all_attempt rfl

theorem record_ordinary {e : AuditEvent} {response : Response} :
    (record message e response).All (·.ordinary = true) :=
  Async.all_bind (Async.all_attempt rfl) fun _ => Async.all_bind (Async.all_attempt rfl) fun _ => Async.all_pure

theorem tryRetryPending_ordinary {row : Insertion} : (tryRetryPending headers row now).All (·.ordinary = true) := by
  refine Async.all_bind (Async.all_attempt rfl) fun _ => Async.all_bind (Async.all_attempt rfl) fun found => ?_
  cases found with
  | none => exact Async.all_throw
  | some id => exact record_ordinary

theorem insert_ordinary {row : Insertion} : (insert headers row now).All (·.ordinary = true) := by
  refine Async.all_bind claim_ordinary fun _ => Async.all_bind (Async.all_attempt rfl) fun _ => ?_
  refine Async.all_bind (Async.all_ask rfl) fun id => Async.all_bind (Async.all_ask rfl) fun reply => ?_
  cases reply with
  | inserted => exact record_ordinary
  | uniqueViolation => exact tryRetryPending_ordinary
  | foreignKeyViolation | error => exact Async.all_throw

theorem update_ordinary {status : AccountStatus} :
    (update headers workspaceID id status now).All (·.ordinary = true) :=
  Async.all_bind claim_ordinary fun _ => Async.all_bind (Async.all_attempt rfl) fun _ => record_ordinary

theorem delete_ordinary : (delete headers workspaceID id now).All (·.ordinary = true) := by
  refine Async.all_bind claim_ordinary fun _ => Async.all_bind (Async.all_attempt rfl) fun found => ?_
  refine Async.all_bind (Async.all_attempt rfl) fun _ => Async.all_bind (Async.all_attempt rfl) fun _ => ?_
  exact record_ordinary

end Ordinary

section Service

inductive Call where
  | create (headers : Headers) (body : Option CreateRequest)
  | list (workspaceID : String)
  | get (workspaceID id : String)
  | updateStatus (headers : Headers) (workspaceID id : String) (body : Option String)
  | verify (headers : Headers) (workspaceID id : String) (body : Option String)
  | delete (headers : Headers) (workspaceID id : String)

variable [CloudPlatform]

def handler : Call → Handling Response
  | .create headers body => handleCreate headers body
  | .list workspaceID => handleList workspaceID
  | .get workspaceID id => handleGet workspaceID id
  | .updateStatus headers workspaceID id body => handleUpdateStatus headers workspaceID id body
  | .verify headers workspaceID id body => handleVerify headers workspaceID id body
  | .delete headers workspaceID id => handleDelete headers workspaceID id

def answer : Except Response Response → Response
  | .ok r | .error r => r

def server : Service Call Ret Lock Tables Write Response where
  apply := Write.apply
  part := Op.part
  locks := Op.locks
  exec := Op.exec
  succeeds := Op.succeeds
  program c := answer <$> (handler c).run

end Service

end Provisr.Cloud.Accounts
