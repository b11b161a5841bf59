import Provisr.Audit.Writers
import Provisr.Backend.ManifestTables
import Provisr.Workspace.Permissions

namespace Provisr.Workspace

open Provisr.Foundation
open Provisr.Audit (AuditRow)
open Provisr.Backend.Manifest (SqlError textIn answers)
open Provisr.Orchestrator (WorkflowState)

section Rows

structure UserRow where
  clerkID : String
  name : String
  email : String

structure WorkspaceRow where
  name : String
  slug : String
  environment : String
  description : Option String
  settings : JsJson
  -- deleted_at IS NOT NULL
  deleted : Bool
deriving DecidableEq

structure MembershipRow where
  role : MemberRole
  invitedBy : Option PgUuid
deriving DecidableEq

structure InvitationRow where
  workspaceID : PgUuid
  email : String
  role : MemberRole
  code : String
  expiresAt : Int
  -- revoked_at IS NOT NULL
  revoked : Bool
deriving DecidableEq

structure RunRow where
  workspaceID : PgUuid
  requesterID : PgUuid
  state : WorkflowState

-- The tables by their primary keys, and the column idempotency_key by its unique index. The runs are written by the
-- orchestrator.
structure Db where
  users : PgUuid → Option UserRow
  workspaces : PgUuid → Option WorkspaceRow
  creations : String → Option PgUuid
  memberships : PgUuid → PgUuid → Option MembershipRow
  -- How many rows of a membership are gone: what tells a row from one that was there before it.
  removals : PgUuid → PgUuid → Nat
  invitations : PgUuid → Option InvitationRow
  keys : PgUuid → String → Option String
  runs : List RunRow
  audits : List AuditRow

inductive Key where
  | user (id : PgUuid)
  | clerk (clerkID : String)
  | workspace (id : PgUuid)
  | slug (slug : String)
  | creationKey (key : String)
  | membership (userID workspaceID : PgUuid)
  | invitation (id : PgUuid)
  | code (code : String)
  | key (workspaceID : PgUuid) (key : String)
  -- pg_advisory_xact_lock: of a key of handleCreate, and of the audit chain
  | creation (key : String)
  | chain (key : String)
deriving DecidableEq

inductive Write where
  | user (id : PgUuid) (row : UserRow)
  | workspace (id : PgUuid) (row : WorkspaceRow) (key : String)
  | rename (id : PgUuid) (name slug environment : String) (description : Option String)
  | deleteWorkspace (id : PgUuid)
  | membership (userID workspaceID : PgUuid) (row : MembershipRow)
  | role (userID workspaceID : PgUuid) (role : MemberRole)
  | removal (userID workspaceID : PgUuid)
  | invitation (id : PgUuid) (row : InvitationRow)
  | revoke (id : PgUuid)
  | key (workspaceID : PgUuid) (key mutation : String)
  | runs (runs : List RunRow)
  | audit (row : AuditRow)

def WorkspaceRow.rename (row : WorkspaceRow) (name slug environment : String) (description : Option String) :
    WorkspaceRow :=
  { row with name, slug, environment, description }

-- An INSERT writes where there is no row.
def apply : Write → Db → Db
  | .user id row, d => { d with users := fun i => if i = id then some row else d.users i }
  | .workspace id row key, d =>
    { d with
      workspaces := fun i => if i = id then some ((d.workspaces i).getD row) else d.workspaces i
      creations := fun k => if k = key then some ((d.creations k).getD id) else d.creations k }
  | .rename id name slug environment description, d =>
    { d with workspaces := fun i =>
        if i = id then (d.workspaces i).map (·.rename name slug environment description) else d.workspaces i }
  | .deleteWorkspace id, d =>
    { d with workspaces := fun i =>
        if i = id then (d.workspaces i).map ({ · with deleted := true }) else d.workspaces i }
  | .membership userID workspaceID row, d =>
    { d with memberships := fun u w =>
        if u = userID ∧ w = workspaceID then some ((d.memberships u w).getD row) else d.memberships u w }
  | .role userID workspaceID role, d =>
    { d with memberships := fun u w =>
        if u = userID ∧ w = workspaceID then (d.memberships u w).map ({ · with role := role })
        else d.memberships u w }
  | .removal userID workspaceID, d =>
    { d with
      memberships := fun u w => if u = userID ∧ w = workspaceID then none else d.memberships u w
      removals := fun u w => if u = userID ∧ w = workspaceID then d.removals u w + 1 else d.removals u w }
  | .invitation id row, d =>
    { d with invitations := fun i => if i = id then some ((d.invitations i).getD row) else d.invitations i }
  | .revoke id, d =>
    { d with invitations := fun i =>
        if i = id then (d.invitations i).map ({ · with revoked := true }) else d.invitations i }
  | .key workspaceID key mutation, d =>
    { d with keys := fun w k => if w = workspaceID ∧ k = key then some mutation else d.keys w k }
  | .runs runs, d => { d with runs }
  | .audit row, d => { d with audits := d.audits ++ [row] }

end Rows

section Queries

-- VARCHAR(n): what is too long is an error, unless it is blanks that are too many.
def varcharIn (width : Nat) (s : String) : Option String :=
  (textIn s).bind fun s =>
    if s.length ≤ width then some s
    else if (s.toList.drop width).all (· == ' ') then some (String.ofList (s.toList.take width)) else none

def MemberRole.parse : String → Option MemberRole
  | "admin" => some .admin
  | "engineer" => some .engineer
  | "approver" => some .approver
  | "auditor" => some .auditor
  | "viewer" => some .viewer
  | _ => none

structure Member where
  id : PgUuid
  name : String
  email : String
  role : MemberRole

inductive Query where
  | workspaceExists (id : String)
  | userExists (id : String)
  | activeRuns (workspaceID : String) (requesterID : Option String)
  | isAdmin (workspaceID userID : String)
  | isMember (userID workspaceID : String)
  | member (userID workspaceID : String)

abbrev Query.Answer : Query → Type
  | .member .. => Option Member
  | _ => Bool

variable (d : Db)

def liveWorkspace (id : PgUuid) : Option WorkspaceRow := (d.workspaces id).filter fun row => !row.deleted

def hasAdmin (workspaceID userID : PgUuid) : Bool :=
  (d.memberships userID workspaceID).any fun row => row.role == .admin

-- A row of workspace_members that a query has returned.
structure MembershipTuple where
  userID : PgUuid
  removals : Nat
deriving DecidableEq

def isAdminTuple (workspaceID : PgUuid) (a : MembershipTuple) : Bool :=
  hasAdmin d workspaceID a.userID && d.removals a.userID workspaceID == a.removals

def activeRun (workspaceID : PgUuid) (requesterID : Option PgUuid) : Bool :=
  d.runs.any fun run => run.workspaceID == workspaceID && requesterID.all (run.requesterID == ·) &&
    !run.state.isTerminal

def findMember (userID workspaceID : PgUuid) : Option Member :=
  match d.users userID, d.memberships userID workspaceID with
  | some user, some row => some ⟨userID, user.name, user.email, row.role⟩
  | _, _ => none

def Query.answer : (q : Query) → Option q.Answer
  | .workspaceExists id => (PgUuid.parse id).map fun id => (liveWorkspace d id).isSome
  | .userExists id => (PgUuid.parse id).map fun id => (d.users id).isSome
  | .activeRuns workspaceID none => (PgUuid.parse workspaceID).map fun id => activeRun d id none
  | .activeRuns workspaceID (some requesterID) => do
    let requester ← PgUuid.parse requesterID
    let workspace ← PgUuid.parse workspaceID
    some (activeRun d workspace (some requester))
  | .isAdmin workspaceID userID => do
    let workspace ← PgUuid.parse workspaceID
    let user ← PgUuid.parse userID
    some (hasAdmin d workspace user)
  | .isMember userID workspaceID => do
    let user ← PgUuid.parse userID
    let workspace ← PgUuid.parse workspaceID
    some (d.memberships user workspace).isSome
  | .member userID workspaceID => do
    let user ← PgUuid.parse userID
    let workspace ← PgUuid.parse workspaceID
    some (findMember d user workspace)

end Queries

section Statements

structure Replay where
  id : PgUuid
  row : WorkspaceRow
  creator : Option PgUuid

structure WorkspaceInsertion where
  id : PgUuid
  name : String
  slug : String
  environment : String
  description : Option String
  settings : JsJson
  key : String

structure InvitationInsertion where
  id : PgUuid
  workspaceID : String
  email : String
  role : String
  code : String

inductive Op where
  | select (q : Query)
  | selectReplay (key creatorID : String)
  | slugTaken (slug : String) (besides : Option String)
  -- FOR UPDATE finds its rows in the snapshot of its statement and then waits for one after another: each counts if it
  -- is not deleted and still is what was asked for once it is locked.
  | selectAdmins (workspaceID : String)
  | lockAdmins (workspaceID : String) (admins : List MembershipTuple)
  | lockWorkspace (id : String)
  | lockInvitation (code : String)
  | lockCreation (key : String)
  | now
  | claimKey (workspaceID key mutation : String)
  | insertUser (id name email : String)
  | insertWorkspace (row : WorkspaceInsertion)
  | insertMembership (userID workspaceID role : String) (invitedBy : Option String) (orNothing : Bool)
  | insertInvitation (row : InvitationInsertion)
  | updateWorkspace (id name slug environment : String) (description : Option String)
  | deleteWorkspace (id : String)
  | updateRole (role userID workspaceID : String)
  | deleteMembership (userID workspaceID : String)
  | revokeInvitation (id workspaceID : String)
  | revokeUsed (id : String)
  | audit (o : Audit.Op)
  | setRuns (runs : List RunRow)

abbrev Answer : Op → Type
  | .select q => q.Answer
  | .selectReplay .. => Option Replay
  | .slugTaken .. | .claimKey .. | .insertMembership .. | .updateRole .. | .deleteMembership .. |
    .revokeInvitation .. => Bool
  | .selectAdmins _ => List MembershipTuple
  | .lockAdmins .. => Nat
  | .lockWorkspace _ | .updateWorkspace .. => Option WorkspaceRow
  | .lockInvitation _ => Option (PgUuid × InvitationRow)
  | .now => Int
  | .insertWorkspace _ => WorkspaceRow
  | .insertInvitation _ => InvitationRow
  | .audit o => Audit.Ret o
  | _ => Unit

abbrev Ret (o : Op) : Type := Except SqlError (Answer o)

-- clerk_id is $1::text of a parameter that is a uuid.
def insertedUser (id : PgUuid) (name email : String) : Option UserRow := do
  let name ← varcharIn 255 name
  let email ← varcharIn 255 email
  some ⟨id.text, name, email⟩

def insertedWorkspace (row : WorkspaceInsertion) : Option (WorkspaceRow × String) := do
  let name ← varcharIn 255 row.name
  let slug ← varcharIn 128 row.slug
  let description ← row.description.mapM textIn
  let key ← varcharIn 128 row.key
  if row.settings.storable then
    some (⟨name, slug, row.environment, description, Json.jsonb row.settings, false⟩, key)
  else none

-- now() + interval '7 days'
def insertedInvitation (row : InvitationInsertion) (now : Int) : Option InvitationRow := do
  let workspaceID ← PgUuid.parse row.workspaceID
  let email ← varcharIn 255 row.email
  let role ← MemberRole.parse row.role
  let code ← varcharIn 64 row.code
  some ⟨workspaceID, email, role, code, now + 7 * 24 * 3600 * 1000000, false⟩

structure Membership where
  user : PgUuid
  workspace : PgUuid
  row : MembershipRow

def insertedMembership (userID workspaceID role : String) (invitedBy : Option String) : Option Membership := do
  let user ← PgUuid.parse userID
  let workspace ← PgUuid.parse workspaceID
  let role ← MemberRole.parse role
  let invitedBy ← invitedBy.mapM PgUuid.parse
  some ⟨user, workspace, role, invitedBy⟩

def slugUsed (d : Db) (slug : String) : Prop := ∃ id row, d.workspaces id = some row ∧ row.slug = slug

def codeUsed (d : Db) (code : String) : Prop := ∃ id row, d.invitations id = some row ∧ row.code = code

def clerkUsed (d : Db) (clerkID : String) : Prop := ∃ id row, d.users id = some row ∧ row.clerkID = clerkID

def referenced (d : Db) (m : Membership) : Prop :=
  (d.users m.user).isSome ∧ (d.workspaces m.workspace).isSome ∧ ∀ u ∈ m.row.invitedBy, (d.users u).isSome

def creatorOf (d : Db) (id creator : PgUuid) : Option PgUuid :=
  if d.memberships creator id = some ⟨.admin, some creator⟩ then some creator else none

def findReplay (d : Db) (key : String) (creator : PgUuid) : Option Replay := do
  let id ← d.creations key
  let row ← liveWorkspace d id
  some ⟨id, row, creatorOf d id creator⟩

def selectReplay (d : Db) (key creatorID : String) : Option (Option Replay) := do
  let key ← textIn key
  let creator ← PgUuid.parse creatorID
  some (findReplay d key creator)

def isInvitation (d : Db) (code : String) (r : Option (PgUuid × InvitationRow)) : Prop :=
  (∃ id row, d.invitations id = some row ∧ row.code = code ∧ r = some (id, row)) ∨
    ¬ codeUsed d code ∧ r = none

def locks : Op → Db → Set Key
  | .lockAdmins workspaceID admins, d =>
    { x | ∃ w ∈ PgUuid.parse workspaceID, ∃ a ∈ admins, (d.memberships a.userID w).isSome ∧
      d.removals a.userID w = a.removals ∧ x = .membership a.userID w }
  | .lockWorkspace id, d => { x | ∃ i ∈ PgUuid.parse id, (liveWorkspace d i).isSome ∧ x = .workspace i }
  | .updateWorkspace id _ slug _ _, d =>
    { x | ∃ i ∈ PgUuid.parse id, (liveWorkspace d i).isSome ∧ (x = .workspace i ∨ x = .slug slug) }
  | .deleteWorkspace id, d => { x | ∃ i ∈ PgUuid.parse id, (liveWorkspace d i).isSome ∧ x = .workspace i }
  | .lockInvitation code, d => { x | ∃ i row, d.invitations i = some row ∧ row.code = code ∧ x = .invitation i }
  | .lockCreation key, _ => {.creation key}
  | .claimKey workspaceID key _, _ => { x | ∃ w ∈ PgUuid.parse workspaceID, x = .key w key }
  | .insertUser id _ _, _ => { x | ∃ i ∈ PgUuid.parse id, x = .user i ∨ x = .clerk i.text }
  | .insertWorkspace row, _ => {.workspace row.id, .slug row.slug, .creationKey row.key}
  | .insertMembership userID workspaceID _ _ _, _ =>
    { x | ∃ u ∈ PgUuid.parse userID, ∃ w ∈ PgUuid.parse workspaceID, x = .membership u w }
  | .insertInvitation row, _ => {.invitation row.id, .code row.code}
  | .updateRole _ userID workspaceID, d | .deleteMembership userID workspaceID, d =>
    { x | ∃ u ∈ PgUuid.parse userID, ∃ w ∈ PgUuid.parse workspaceID, (d.memberships u w).isSome ∧ x = .membership u w }
  | .revokeInvitation id workspaceID, d =>
    { x | ∃ i ∈ PgUuid.parse id, ∃ w ∈ PgUuid.parse workspaceID, ∃ row, d.invitations i = some row ∧
      row.workspaceID = w ∧ row.revoked = false ∧ x = .invitation i }
  | .revokeUsed id, d => { x | ∃ i ∈ PgUuid.parse id, (d.invitations i).isSome ∧ x = .invitation i }
  | .audit o, d => { x | ∃ key ∈ Audit.locks o d.audits, x = .chain key }
  | _, _ => ∅

-- A statement whose rows a constraint refuses, or that fails for reasons of its own.
def fails {α : Type} (r : Except SqlError α) (ws : List Write) : Prop := r = .error .other ∧ ws = []

def exec (faults : Bool) : (o : Op) → Db → Nat → Ret o → List Write → Nat → Prop
  | .select q, d, n, r, ws, n' => answers faults (q.answer d) r ∧ ws = [] ∧ n' = n
  | .selectReplay key creatorID, d, n, r, ws, n' => answers faults (selectReplay d key creatorID) r ∧ ws = [] ∧ n' = n
  | .slugTaken slug besides, d, n, r, ws, n' =>
    ((∃ taken : Bool, (∀ id ∈ besides, (PgUuid.parse id).isSome) ∧
        (taken = true ↔ ∃ id row, liveWorkspace d id = some row ∧ row.slug = slug ∧
          ∀ own ∈ besides, PgUuid.parse own ≠ some id) ∧ r = .ok taken) ∨ r = .error .other) ∧ ws = [] ∧ n' = n
  | .selectAdmins workspaceID, d, n, r, ws, n' =>
    ((∃ w admins, PgUuid.parse workspaceID = some w ∧ admins.Nodup ∧
        (∀ a, a ∈ admins ↔ isAdminTuple d w a = true) ∧ r = .ok admins) ∨ r = .error .other) ∧ ws = [] ∧ n' = n
  | .lockAdmins workspaceID admins, d, n, r, ws, n' =>
    ((∃ w, PgUuid.parse workspaceID = some w ∧ r = .ok (admins.countP (isAdminTuple d w))) ∨ r = .error .other) ∧
      ws = [] ∧ n' = n
  | .lockWorkspace id, d, n, r, ws, n' =>
    answers faults ((PgUuid.parse id).map (liveWorkspace d)) r ∧ ws = [] ∧ n' = n
  | .lockInvitation code, d, n, r, ws, n' =>
    ((∃ found, (textIn code).isSome ∧ isInvitation d code found ∧ r = .ok found) ∨ r = .error .other) ∧ ws = [] ∧
      n' = n
  | .lockCreation _, _, n, r, ws, n' => answers faults (some ()) r ∧ ws = [] ∧ n' = n
  -- What the clock says.
  | .now, _, n, r, ws, n' => (∃ time, r = .ok time) ∧ ws = [] ∧ n' = n
  | .claimKey workspaceID key mutation, d, n, r, ws, n' =>
    ((∃ w, PgUuid.parse workspaceID = some w ∧ (textIn key).isSome ∧ (d.workspaces w).isSome ∧
        ((d.keys w key = none ∧ r = .ok true ∧ ws = [.key w key mutation]) ∨
          ((d.keys w key).isSome ∧ r = .ok false ∧ ws = []))) ∨ fails r ws) ∧ n' = n
  | .insertUser id name email, d, n, r, ws, n' =>
    ((∃ i row, PgUuid.parse id = some i ∧ insertedUser i name email = some row ∧ d.users i = none ∧
        ¬ clerkUsed d row.clerkID ∧ r = .ok () ∧ ws = [.user i row]) ∨ fails r ws) ∧ n' = n
  | .insertWorkspace row, d, n, r, ws, n' =>
    ((∃ inserted key, insertedWorkspace row = some (inserted, key) ∧ d.workspaces row.id = none ∧
        ¬ slugUsed d inserted.slug ∧
        ((d.creations key = none ∧ r = .ok inserted ∧ ws = [.workspace row.id inserted key]) ∨
          ((d.creations key).isSome ∧ r = .error .uniqueViolation ∧ ws = []))) ∨ fails r ws) ∧ n' = n
  | .insertMembership userID workspaceID role invitedBy orNothing, d, n, r, ws, n' =>
    ((∃ m, insertedMembership userID workspaceID role invitedBy = some m ∧ referenced d m ∧
        ((d.memberships m.user m.workspace = none ∧ r = .ok true ∧ ws = [.membership m.user m.workspace m.row]) ∨
          ((d.memberships m.user m.workspace).isSome ∧ orNothing = true ∧ r = .ok false ∧ ws = []))) ∨
      fails r ws) ∧ n' = n
  | .insertInvitation row, d, n, r, ws, n' =>
    ((∃ now inserted, insertedInvitation row now = some inserted ∧ d.invitations row.id = none ∧
        ¬ codeUsed d row.code ∧ r = .ok inserted ∧ ws = [.invitation row.id inserted]) ∨ fails r ws) ∧ n' = n
  | .updateWorkspace id name slug environment description, d, n, r, ws, n' =>
    ((∃ i, PgUuid.parse id = some i ∧
        ((∃ row, liveWorkspace d i = some row ∧
            (∀ other found, d.workspaces other = some found → found.slug = slug → other = i) ∧
            r = .ok (some (row.rename name slug environment description)) ∧
            ws = [.rename i name slug environment description]) ∨
          (liveWorkspace d i = none ∧ r = .ok none ∧ ws = []))) ∨ fails r ws) ∧ n' = n
  | .deleteWorkspace id, d, n, r, ws, n' =>
    ((∃ i, PgUuid.parse id = some i ∧ r = .ok () ∧
        (((liveWorkspace d i).isSome ∧ ws = [.deleteWorkspace i]) ∨ (liveWorkspace d i = none ∧ ws = []))) ∨
      fails r ws) ∧ n' = n
  | .updateRole role userID workspaceID, d, n, r, ws, n' =>
    ((∃ u w changed, PgUuid.parse userID = some u ∧ PgUuid.parse workspaceID = some w ∧
        MemberRole.parse role = some changed ∧
        (((d.memberships u w).isSome ∧ r = .ok true ∧ ws = [.role u w changed]) ∨
          (d.memberships u w = none ∧ r = .ok false ∧ ws = []))) ∨ fails r ws) ∧ n' = n
  | .deleteMembership userID workspaceID, d, n, r, ws, n' =>
    ((∃ u w, PgUuid.parse userID = some u ∧ PgUuid.parse workspaceID = some w ∧
        (((d.memberships u w).isSome ∧ r = .ok true ∧ ws = [.removal u w]) ∨
          (d.memberships u w = none ∧ r = .ok false ∧ ws = []))) ∨ fails r ws) ∧ n' = n
  | .revokeInvitation id workspaceID, d, n, r, ws, n' =>
    ((∃ i w, PgUuid.parse id = some i ∧ PgUuid.parse workspaceID = some w ∧
        ((∃ row, d.invitations i = some row ∧ row.workspaceID = w ∧ row.revoked = false ∧ r = .ok true ∧
            ws = [.revoke i]) ∨
          ((∀ row, d.invitations i = some row → row.workspaceID = w → row.revoked = true) ∧ r = .ok false ∧
            ws = []))) ∨ fails r ws) ∧ n' = n
  | .revokeUsed id, d, n, r, ws, n' =>
    ((∃ i, PgUuid.parse id = some i ∧ r = .ok () ∧
        (((d.invitations i).isSome ∧ ws = [.revoke i]) ∨ (d.invitations i = none ∧ ws = []))) ∨ fails r ws) ∧ n' = n
  | .audit o, d, n, r, ws, n' =>
    (∃ a rows, r = .ok a ∧ Audit.exec o d.audits n a rows n' ∧ ws = rows.map .audit) ∨ fails r ws ∧ n' = n
  | .setRuns runs, _, n, r, ws, n' => (r = .ok () ∧ ws = [.runs runs] ∨ fails r ws) ∧ n' = n

end Statements

end Provisr.Workspace
