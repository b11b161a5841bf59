import Provisr.Audit.Writers
import Provisr.Backend.MetadataBytes
import Provisr.Cloud.Capabilities
import Provisr.Foundation.Clients
import Provisr.Foundation.PgUuid

namespace Provisr.Cloud.Accounts

open Provisr.Foundation
open Provisr.Audit (EventType)
open Provisr.Backend.Manifest (textIn)
open Provisr.Backend.SourceMetadata (Map)

section Rows

inductive AccountStatus where
  | pending
  | active
  | failed
  | disconnected
  deriving DecidableEq

def AccountStatus.text : AccountStatus → String
  | .pending => "pending"
  | .active => "active"
  | .failed => "failed"
  | .disconnected => "disconnected"

def AccountStatus.parse : String → Option AccountStatus
  | "pending" => some .pending
  | "active" => some .active
  | "failed" => some .failed
  | "disconnected" => some .disconnected
  | _ => none

@[simp] theorem AccountStatus.parse_text (s : AccountStatus) : parse s.text = some s := by
  cases s <;> rfl

-- Times count microseconds.
structure AccountRow where
  workspaceID : PgUuid
  provider : String
  label : String
  externalIDHash : Option String
  metadataEncrypted : String
  status : AccountStatus
  verifiedAt : Option Int
  createdAt : Int
  updatedAt : Int

-- The audit rows of the resource type cloud_account. Their hashes are those of the chain that all services share.
structure AuditEvent where
  workspaceID : String
  eventType : EventType
  resourceID : String
  payload : JsFields
  correlationID : String

structure Tables where
  accounts : PgUuid → Option AccountRow
  keys : PgUuid → String → Option String
  audits : List AuditEvent

inductive Write where
  | insert (id : PgUuid) (row : AccountRow)
  | retry (id : PgUuid) (label : String) (externalIDHash : Option String) (encrypted : String) (now : Int)
  | status (id : PgUuid) (status : AccountStatus) (now : Int)
  | failed (id : PgUuid) (now : Int)
  | verified (id : PgUuid) (encrypted : String) (now : Int)
  | delete (id : PgUuid)
  | key (workspaceID : PgUuid) (key mutation : String)
  | audit (e : AuditEvent)

def AccountRow.retry (row : AccountRow) (label : String) (externalIDHash : Option String) (encrypted : String)
    (now : Int) : AccountRow :=
  { row with metadataEncrypted := encrypted, externalIDHash, label, updatedAt := now }

def AccountRow.setStatus (row : AccountRow) (status : AccountStatus) (now : Int) : AccountRow :=
  { row with status, verifiedAt := if status = .active then some now else row.verifiedAt, updatedAt := now }

def AccountRow.fail (row : AccountRow) (now : Int) : AccountRow := { row with status := .failed, updatedAt := now }

def AccountRow.verify (row : AccountRow) (encrypted : String) (now : Int) : AccountRow :=
  { row with status := .active, verifiedAt := some now, metadataEncrypted := encrypted, updatedAt := now }

def Tables.change (d : Tables) (id : PgUuid) (f : Option AccountRow → Option AccountRow) : Tables :=
  { d with accounts := fun i => if i = id then f (d.accounts i) else d.accounts i }

def Write.apply : Write → Tables → Tables
  | .insert id row, d => d.change id fun _ => some row
  | .retry id label hash encrypted now, d => d.change id (Option.map (·.retry label hash encrypted now))
  | .status id s now, d => d.change id (Option.map (·.setStatus s now))
  | .failed id now, d => d.change id (Option.map (·.fail now))
  | .verified id encrypted now, d => d.change id (Option.map (·.verify encrypted now))
  | .delete id, d => d.change id fun _ => none
  | .key workspaceID k mutation, d =>
    { d with keys := fun w l => if w = workspaceID ∧ l = k then some mutation else d.keys w l }
  | .audit e, d => { d with audits := d.audits ++ [e] }

end Rows

section Statements

structure Insertion where
  workspaceID : String
  provider : String
  label : String
  externalIDHash : Option String
  encrypted : String

inductive Inserted where
  | inserted
  | uniqueViolation
  | foreignKeyViolation
  | error
  deriving DecidableEq

structure AWSVerificationResult where
  accountID : String
  regions : List String

inductive Lock where
  | account (id : PgUuid)
  | slot (workspaceID : PgUuid) (provider : String)
  | key (workspaceID : PgUuid) (key : String)
  | chain
  deriving DecidableEq

inductive Op where
  | clock
  | nonce
  | newId
  | verifyRole (roleARN externalID : String)
  | list (workspaceID : String)
  | select (id workspaceID : String)
  | beginTx
  | claimKey (workspaceID key mutation : String)
  | savepoint
  | insertAccount (id : PgUuid) (row : Insertion) (now : Int)
  | rollbackTo
  | retryPending (row : Insertion) (now : Int)
  | updateStatus (id workspaceID : String) (status : AccountStatus) (now : Int)
  | failAccount (id workspaceID : String) (now : Int)
  | verifyAccount (id workspaceID encrypted : String) (now : Int)
  | selectProvider (id workspaceID : String)
  | activeRuns (workspaceID : PgUuid)
  | deleteAccount (id workspaceID : String)
  | emitAudit (e : AuditEvent)
  | commit
  | rollback

namespace Op

-- No reply, or false, is an error; a number counts the rows. beginTx replies with the time of the transaction.
abbrev Ret : Op → Type
  | .clock => Int
  | .nonce => Option String
  | .newId => PgUuid
  | .verifyRole .. => Except String AWSVerificationResult
  | .list _ => Option (List (PgUuid × AccountRow))
  | .select .. => Option (Option (PgUuid × AccountRow))
  | .beginTx => Option Int
  | .claimKey .. | .activeRuns _ => Option Bool
  | .insertAccount .. => Inserted
  | .retryPending .. => Option (Option PgUuid)
  | .updateStatus .. | .deleteAccount .. => Option Nat
  | .selectProvider .. => Option (Option (PgUuid × String))
  | .savepoint | .rollbackTo | .failAccount .. | .verifyAccount .. | .emitAudit _ | .commit => Bool
  | .rollback => Unit

def part : Op → Part
  | .clock | .nonce | .newId | .verifyRole .. | .list _ | .select .. => .outside
  | .beginTx => .opens
  | .commit => .commits
  | .rollback => .rollsBack
  | _ => .statement

def ordinary : Op → Bool
  | .beginTx | .verifyRole .. | .failAccount .. | .verifyAccount .. => false
  | _ => true

-- A violated slot is taken back to the savepoint.
def succeeds : (o : Op) → Ret o → Prop
  | .beginTx, r | .claimKey .., r | .activeRuns _, r | .retryPending .., r | .updateStatus .., r | .deleteAccount .., r
  | .selectProvider .., r => r.isSome = true
  | .insertAccount .., r => r = .inserted ∨ r = .uniqueViolation
  | .savepoint, r | .rollbackTo, r | .failAccount .., r | .verifyAccount .., r | .emitAudit _, r | .commit, r =>
    r = true
  | _, _ => True

-- WHERE id = $1 AND workspace_id = $2
def Finds (d : Tables) (id workspaceID : String) (i : PgUuid) (row : AccountRow) : Prop :=
  PgUuid.parse id = some i ∧ PgUuid.parse workspaceID = some row.workspaceID ∧ d.accounts i = some row

def Missing (d : Tables) (id workspaceID : String) : Prop := ¬ ∃ i row, Finds d id workspaceID i row

-- WHERE workspace_id = $1 AND provider = $2 AND status = 'pending'
def Pending (d : Tables) (workspaceID provider : String) (i : PgUuid) (row : AccountRow) : Prop :=
  PgUuid.parse workspaceID = some row.workspaceID ∧ row.provider = provider ∧ row.status = .pending ∧
    d.accounts i = some row

def SlotTaken (d : Tables) (workspaceID : PgUuid) (provider : String) : Prop :=
  ∃ i row, d.accounts i = some row ∧ row.workspaceID = workspaceID ∧ row.provider = provider

-- gen_random_uuid() gives an id that no account has had.
def Unheard (d : Tables) (id : PgUuid) : Prop := ∀ e ∈ d.audits, PgUuid.parse e.resourceID ≠ some id

-- A row that is not deleted because of a run is locked like one that is. A violated slot is not waited for, and the
-- savepoint keeps no lock of it.
def locks : Op → Tables → Set Lock
  | .claimKey workspaceID key _, _ => {l | ∃ w, PgUuid.parse workspaceID = some w ∧ l = .key w key}
  | .insertAccount id row _, d =>
    {l | ∃ w, PgUuid.parse row.workspaceID = some w ∧ ¬ SlotTaken d w row.provider ∧
      (l = .account id ∨ l = .slot w row.provider)}
  | .retryPending row _, d => {l | ∃ i found, Pending d row.workspaceID row.provider i found ∧ l = .account i}
  | .updateStatus id workspaceID .., d | .failAccount id workspaceID _, d | .verifyAccount id workspaceID .., d =>
    {l | ∃ i row, Finds d id workspaceID i row ∧ l = .account i}
  | .deleteAccount id workspaceID, d =>
    {l | ∃ i row, Finds d id workspaceID i row ∧ (l = .account i ∨ l = .slot row.workspaceID row.provider)}
  | .emitAudit _, _ => {.chain}
  | _, _ => ∅

def Insertion.row (row : Insertion) (workspaceID : PgUuid) (now : Int) : AccountRow :=
  ⟨workspaceID, row.provider, row.label, row.externalIDHash, row.encrypted, .pending, none, now, now⟩

-- The runs belong to another service, which may answer anything.
def exec : (o : Op) → Tables → Ret o → List Write → Prop
  | .list workspaceID, d, r, ws =>
    (∀ rows ∈ r,
      (∀ i row, (i, row) ∈ rows ↔ PgUuid.parse workspaceID = some row.workspaceID ∧ d.accounts i = some row) ∧
      rows.Pairwise fun a b => b.2.createdAt ≤ a.2.createdAt) ∧ ws = []
  | .select id workspaceID, d, r, ws =>
    (∀ found ∈ r, (∃ i row, Finds d id workspaceID i row ∧ found = some (i, row)) ∨
      Missing d id workspaceID ∧ found = none) ∧ ws = []
  | .claimKey workspaceID key mutation, d, r, ws =>
    ∃ w, PgUuid.parse workspaceID = some w ∧
      (d.keys w key = none ∧ r = some true ∧ ws = [.key w key mutation] ∨
        (d.keys w key).isSome ∧ r = some false ∧ ws = [])
  | .insertAccount id row now, d, r, ws =>
    ∃ w, PgUuid.parse row.workspaceID = some w ∧ textIn row.label = some row.label ∧
      (¬ SlotTaken d w row.provider ∧ d.accounts id = none ∧ Unheard d id ∧ r = .inserted ∧
          ws = [.insert id (Insertion.row row w now)] ∨
        SlotTaken d w row.provider ∧ r = .uniqueViolation ∧ ws = [])
  | .retryPending row now, d, r, ws =>
    (∃ i found, Pending d row.workspaceID row.provider i found ∧ r = some (some i) ∧
      ws = [.retry i row.label row.externalIDHash row.encrypted now]) ∨
    (¬ ∃ i found, Pending d row.workspaceID row.provider i found) ∧ r = some none ∧ ws = []
  | .updateStatus id workspaceID status now, d, r, ws =>
    (∃ i row, Finds d id workspaceID i row ∧ r = some 1 ∧ ws = [.status i status now]) ∨
      Missing d id workspaceID ∧ r = some 0 ∧ ws = []
  | .failAccount id workspaceID now, d, _, ws =>
    (∃ i row, Finds d id workspaceID i row ∧ ws = [.failed i now]) ∨ Missing d id workspaceID ∧ ws = []
  | .verifyAccount id workspaceID encrypted now, d, _, ws =>
    (∃ i row, Finds d id workspaceID i row ∧ ws = [.verified i encrypted now]) ∨ Missing d id workspaceID ∧ ws = []
  | .selectProvider id workspaceID, d, r, ws =>
    ((∃ i row, Finds d id workspaceID i row ∧ r = some (some (row.workspaceID, row.provider))) ∨
      Missing d id workspaceID ∧ r = some none) ∧ ws = []
  | .deleteAccount id workspaceID, d, r, ws =>
    (∃ i row, Finds d id workspaceID i row ∧ r = some 1 ∧ ws = [.delete i]) ∨ r = some 0 ∧ ws = []
  | .emitAudit e, _, _, ws => ws = [.audit e]
  | _, _, _, ws => ws = []

end Op

end Statements

end Provisr.Cloud.Accounts
