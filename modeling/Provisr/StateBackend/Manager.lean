import Provisr.Cloud.Capabilities
import Provisr.Foundation.Clients
import Provisr.StateBackend.Bucket

namespace Provisr.StateBackend

open Provisr.Foundation Provisr.Backend
open Provisr.Cloud (CapabilityAccount)

structure Context where
  workspaceId : String
  userId : String
  correlationId : String
  idempotencyKey : String
  permissions : List String
  deriving DecidableEq

structure Request where
  provider : String
  context : Context
  deriving DecidableEq

structure Settings where
  bucket : String := ""
  region : String := ""
  lockTable : String := ""
  resourceGroup : String := ""
  storageAccount : String := ""
  container : String := ""
  deriving DecidableEq

structure Result where
  id : String
  provider : String
  status : String
  created : Bool
  verifiedAt : Int
  deriving DecidableEq

structure Account where
  id : String
  status : String
  encrypted : String
  deriving DecidableEq

structure Target where
  workspaceId : String
  account : CapabilityAccount
  existing : Settings
  deriving DecidableEq

structure Outcome where
  settings : Settings
  created : Bool
  repaired : Bool
  deriving DecidableEq

inductive Cause where
  | failure (f : Failure)
  | other
  deriving DecidableEq

-- A row of provisr_iac.state_backends. What a ready row is numbered by is not kept by the code: how many ready
-- records were committed before it.
structure BackendRow where
  id : String
  workspaceId : String
  provider : String
  status : String
  settings : Settings
  lastErrorCode : Option String
  verifiedAt : Option Int
  updatedAt : Int
  serial : Nat
  deriving DecidableEq

structure AuditEvent where
  workspaceId : String
  correlationId : String
  event : String
  resourceId : String
  payload : JsFields

structure Tables where
  backends : String → Option BackendRow
  requests : String → String → Option Result
  audits : List AuditEvent
  readied : Nat

inductive Write where
  | ready (accountId id workspaceId provider : String) (settings : Settings) (now : Int)
  | failed (accountId id workspaceId provider code : String) (now : Int)
  | request (backendId key : String) (response : Result)
  | audit (e : AuditEvent)

def readyRow (d : Tables) (accountId id workspaceId provider : String) (settings : Settings) (now : Int) : BackendRow :=
  match d.backends accountId with
  | some row =>
    { row with
      status := "ready", settings := settings, lastErrorCode := none, verifiedAt := some now, updatedAt := now,
      serial := d.readied }
  | none => ⟨id, workspaceId, provider, "ready", settings, none, some now, now, d.readied⟩

def failedRow (d : Tables) (accountId id workspaceId provider code : String) (now : Int) : BackendRow :=
  match d.backends accountId with
  | some row => { row with status := "failed", lastErrorCode := some code, updatedAt := now }
  | none => ⟨id, workspaceId, provider, "failed", {}, some code, none, now, 0⟩

def Write.apply : Write → Tables → Tables
  | .ready a id w p settings now, d =>
    { d with
      backends := fun b => if b = a then some (readyRow d a id w p settings now) else d.backends b
      readied := d.readied + 1 }
  | .failed a id w p code now, d =>
    { d with backends := fun b => if b = a then some (failedRow d a id w p code now) else d.backends b }
  | .request backendId key response, d =>
    { d with
      requests := fun b k => if b = backendId ∧ k = key then some response else d.requests b k }
  | .audit e, d => { d with audits := d.audits ++ [e] }

inductive Lock where
  | advisory (accountId : String)
  | row (backendId : String)
  deriving DecidableEq

inductive Op where
  | clock
  | beginTx
  | role (workspaceId userId : String)
  | runExists (runID workspaceId : String)
  | account (workspaceId provider : String)
  | lock (accountId : String)
  | backend (accountId : String)
  | replay (backendId key : String)
  | newString
  | driverEnsure (target : Target)
  | upsertReady (accountId id workspaceId provider : String) (settings : Settings) (now : Int)
  | insertRequest (backendId key : String) (response : Result)
  | appendAudit (e : AuditEvent)
  | upsertFailed (id workspaceId accountId code : String) (started now : Int)
  | idOf (accountId : String)
  | commit
  | rollback

namespace Op

-- No reply, or false, is an error. beginTx replies with the time of the transaction, driverEnsure also with the
-- number of ready records when it ended.
abbrev Ret : Op → Type
  | .clock => Int
  | .beginTx => Option Int
  | .role .. => Option (Option String)
  | .runExists .. => Option Bool
  | .account .. => Option (Option Account)
  | .lock _ | .insertRequest .. | .appendAudit _ | .commit => Bool
  | .backend _ => Option (Option (String × Settings))
  | .replay .. => Option (Option Result)
  | .newString => String
  | .driverEnsure _ => Except Cause Outcome × Nat
  | .upsertReady .. => Option Int
  | .upsertFailed .. => Option Nat
  | .idOf _ => Option (Option String)
  | .rollback => Unit

def part : Op → Part
  | .clock | .newString | .driverEnsure _ => .outside
  | .beginTx => .opens
  | .commit => .commits
  | .rollback => .rollsBack
  | _ => .statement

def succeeds : (o : Op) → Ret o → Prop
  | .beginTx, r | .role .., r | .runExists .., r | .account .., r | .backend _, r | .replay .., r | .upsertReady .., r
  | .upsertFailed .., r | .idOf _, r => r.isSome = true
  | .lock _, r | .insertRequest .., r | .appendAudit _, r | .commit, r => r = true
  | _, _ => True

-- The row of a backend stays locked by whoever read it for update or refers to it. The locks of the upserts are left
-- out: who gets there holds the advisory lock of the account.
def locks : Op → Tables → Set Lock
  | .lock accountId, _ => {.advisory accountId}
  | .backend accountId, d => {l | ∃ row, d.backends accountId = some row ∧ l = .row row.id}
  | .insertRequest backendId _ _, _ => {.row backendId}
  | _, _ => ∅

def freshFor (d : Tables) (accountId id : String) : Prop :=
  d.backends accountId = none → ∀ a row, d.backends a = some row → row.id ≠ id

-- Memberships, runs and cloud accounts belong to other services, which may answer anything.
def exec : (o : Op) → Tables → Ret o → List Write → Prop
  | .backend accountId, d, r, ws => r = some ((d.backends accountId).map fun row => (row.id, row.settings)) ∧ ws = []
  | .replay backendId key, d, r, ws => r = some (d.requests backendId key) ∧ ws = []
  | .driverEnsure _, d, r, ws => r.2 = d.readied ∧ ws = []
  | .upsertReady a id w p settings now, d, r, ws =>
    freshFor d a id ∧ r = some now ∧ ws = [.ready a id w p settings now]
  | .insertRequest backendId key response, d, _, ws =>
    d.requests backendId key = none ∧ (∃ a row, d.backends a = some row ∧ row.id = backendId) ∧
      ws = [.request backendId key response]
  | .appendAudit e, _, _, ws => ws = [.audit e]
  | .upsertFailed id w a code started now, d, r, ws =>
    r = some 0 ∧ ws = [] ∨
      r = some 1 ∧ freshFor d a id ∧ (∀ row, d.backends a = some row → row.updatedAt < started) ∧
        ∃ provider, ws = [.failed a id w provider code now]
  | .idOf accountId, d, r, ws => r = some ((d.backends accountId).map BackendRow.id) ∧ ws = []
  | _, _, _, ws => ws = []

end Op

open Op (Ret)

structure DelegatedIdentity where
  roleArn : String
  externalId : String
  defaultRegion : String
  deriving DecidableEq

structure Manager where
  drivers : String → Bool
  DecryptIdentity : (workspaceId encrypted : String) → Option DelegatedIdentity

section Ensure

variable [GoUnicode]

def normalProvider (provider : String) : String := ToLower (TrimSpace provider)

@[irreducible] def validRequest (r : Request) : Option Request := do
  let provider := normalProvider r.provider
  if provider != "aws" && provider != "azure" && provider != "gcp" then none
  let c := r.context
  let workspaceId ← parseId c.workspaceId
  let userId ← parseId c.userId
  let correlationId ← parseId c.correlationId
  if TrimSpace c.idempotencyKey = "" ∨ 255 < c.idempotencyKey.utf8ByteSize ∨ "iac:write" ∉ c.permissions then none
  else some ⟨provider, ⟨workspaceId, userId, correlationId, c.idempotencyKey, c.permissions⟩⟩

abbrev Ensuring := Async Ret Cause

def fail {α : Type} (status : Nat) (code message : String) : Except Cause α := .error (.failure ⟨status, code, message⟩)

def or {α : Type} : Option α → Except Cause α
  | some a => .ok a
  | none => .error .other

def done : Bool → Except Cause Unit
  | true => .ok ()
  | false => .error .other

def permitted : Option (Option String) → Except Cause Unit
  | none => .error .other
  | some role =>
    if role = some "admin" ∨ role = some "engineer" then .ok ()
    else fail 403 "forbidden" "Provisioning permission required"

def inWorkspace : Option Bool → Except Cause Unit
  | none => .error .other
  | some true => .ok ()
  | some false => fail 404 "not_found" "Run not found in workspace"

def active : Option (Option Account) → Except Cause Account
  | none => .error .other
  | some none => fail 404 "cloud_account_not_active" "No active cloud account for this provider"
  | some (some a) =>
    if a.status = "active" then .ok a
    else fail 404 "cloud_account_not_active" "No active cloud account for this provider"

def errorCode : Cause → String
  | .failure f => f.code
  | .other => "backend_unavailable"

def failureEvent (c : Context) (provider accountId code id : String) : AuditEvent :=
  ⟨c.workspaceId, c.correlationId, "state_backend_failed", id,
    [("state_backend_id", .str id), ("cloud_account_id", .str accountId), ("provider", .str provider),
      ("error_code", .str code), ("user_id", .str c.userId)]⟩

def recording (input : Request) (accountId backendID code : String) (started now : Int) : Ensuring Unit := do
  let c := input.context
  Async.attempt (.lock accountId) done
  let n ← Async.attempt (.upsertFailed backendID c.workspaceId accountId code started now) or
  if n = 0 then pure ()
  else do
    let id ← Async.attempt (.idOf accountId) or
    match id with
    | none => pure ()
    | some id => do
      Async.attempt (.appendAudit (failureEvent c input.provider accountId code id)) done
      Async.attempt .commit done

def recordFailure (input : Request) (accountId backendID : String) (started : Int) (cause : Cause) : Prog Ret Unit :=
  if errorCode cause = errNotOnboard.code then pure ()
  else do
    match ← Prog.call Op.beginTx with
    | none => pure ()
    | some now => do
      let _ ← (recording input accountId backendID (errorCode cause) started now).run
      Prog.call Op.rollback

def readyEvent (c : Context) (provider accountId id : String) (outcome : Outcome) : AuditEvent :=
  ⟨c.workspaceId, c.correlationId, if outcome.created then "state_backend_provisioned" else "state_backend_verified", id,
    [("state_backend_id", .str id), ("cloud_account_id", .str accountId), ("provider", .str provider),
      ("created", .bool outcome.created), ("repaired", .bool outcome.repaired), ("user_id", .str c.userId)]⟩

def persist (input : Request) (accountId backendID : String) (now : Int) (outcome : Outcome) :
    Ensuring (Result × Settings) := do
  let c := input.context
  let verified ← Async.attempt (.upsertReady accountId backendID c.workspaceId input.provider outcome.settings now) or
  let result : Result := ⟨backendID, input.provider, "ready", outcome.created, verified⟩
  Async.attempt (.insertRequest backendID c.idempotencyKey result) done
  Async.attempt (.appendAudit (readyEvent c input.provider accountId backendID outcome)) done
  Async.attempt .commit done
  pure (result, outcome.settings)

def account (input : Request) (a : Account) (identity : DelegatedIdentity) : CapabilityAccount :=
  ⟨a.id, input.context.workspaceId, input.provider, "", a.status, identity.roleArn, identity.externalId,
    identity.defaultRegion, "", 0⟩

def provision (m : Manager) (input : Request) (a : Account) (backendID : String) (existing : Settings)
    (started now : Int) : Ensuring (Result × Settings) :=
  if m.drivers input.provider = false then throw (.failure errNotOnboard)
  else match if a.encrypted ≠ "" then m.DecryptIdentity input.context.workspaceId a.encrypted else some ⟨"", "", ""⟩ with
    | none => throw (.failure errUnavailable)
    | some identity => do
      let ended ← Async.ask (Op.driverEnsure ⟨input.context.workspaceId, account input a identity, existing⟩)
      match ended.1 with
      | .error cause => do
        Async.ask Op.rollback
        ExceptT.lift (recordFailure input a.id backendID started cause)
        throw cause
      | .ok outcome => persist input a.id backendID now outcome

def located (m : Manager) (input : Request) (started now : Int) : Ensuring (Result × Settings) := do
  let c := input.context
  let a ← Async.attempt (.account c.workspaceId input.provider) active
  Async.attempt (.lock a.id) done
  let row ← Async.attempt (.backend a.id) or
  match row with
  | none => do
    let backendID ← Async.ask Op.newString
    provision m input a backendID {} started now
  | some (backendID, existing) => do
    let replay ← Async.attempt (.replay backendID c.idempotencyKey) or
    match replay with
    | some result => pure (result, existing)
    | none => provision m input a backendID existing started now

def attempt (m : Manager) (input : Request) (runID : String) (started now : Int) : Ensuring (Result × Settings) := do
  let c := input.context
  Async.attempt (.role c.workspaceId c.userId) permitted
  if runID ≠ "" then Async.attempt (.runExists runID c.workspaceId) inWorkspace
  located m input started now

def ensured (m : Manager) (input : Request) (runID : String) : Prog Ret (Except Cause (Result × Settings)) := do
  let started ← Prog.call Op.clock
  match ← Prog.call Op.beginTx with
  | none => pure (.error .other)
  | some now => do
    let outcome ← (attempt m input runID started now).run
    Prog.call Op.rollback
    pure outcome

def ensure (m : Manager) (input : Request) (runID : String) : Prog Ret (Except Cause (Result × Settings)) :=
  match validRequest input with
  | none => pure (fail 400 "invalid_request" "Valid provider and complete idempotent context required")
  | some input => ensured m input runID

end Ensure

-- Ensure has no run; Prepare has one.
structure EnsureCall where
  input : Request
  runID : String
  deriving DecidableEq

def managerService [GoUnicode] (m : Manager) : Service EnsureCall Ret Lock Tables Write (Except Cause (Result × Settings)) where
  apply := Write.apply
  part := Op.part
  locks := Op.locks
  exec := Op.exec
  succeeds := Op.succeeds
  program c := ensure m c.input c.runID

end Provisr.StateBackend
