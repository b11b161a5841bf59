import Provisr.Backend.Strings
import Provisr.Workspace.Tables

namespace Provisr.Workspace

open Provisr.Foundation Provisr.Orchestrator
open Provisr.Audit (EventType Correlation)
open Provisr.Backend (GoUnicode TrimSpace ToLower)

section Results

inductive Outcome where
  | created (id : PgUuid) (row : WorkspaceRow)
  | replayed (id : PgUuid) (row : WorkspaceRow)
  | updated (row : WorkspaceRow)
  | member (m : Member)
  | invited (row : InvitationRow)
  -- The member that comes of an invitation, and what the clock said while its row was locked.
  | accepted (invitation : PgUuid) (m : Member) (clock : Int)
  | noContent
  | refused (status : Nat) (code message : String)

-- handleCreate returns a workspace that is there without a COMMIT.
def Outcome.commits : Outcome → Bool
  | .refused .. | .replayed .. => false
  | _ => true

def internalError (message : String) : Outcome := .refused 500 "internal_error" message

def statement (o : Op) (message : String) (next : Answer o → Prog Ret Outcome) : Prog Ret Outcome :=
  Prog.orEnd (fun _ => internalError message) o next

def audited (p : Prog Audit.Ret Unit) (message : String) (next : Prog Ret Outcome) : Prog Ret Outcome :=
  p.within (fun o => statement (.audit o) message) fun _ => next

def require (q : Query) (message : String) (holds : q.Answer → Bool) (refusal : Outcome) (next : Prog Ret Outcome) :
    Prog Ret Outcome :=
  statement (.select q) message fun answer => if holds answer then next else .pure refusal

end Results

section Requests

def requireWorkspace (workspaceID message : String) : Prog Ret Outcome → Prog Ret Outcome :=
  require (.workspaceExists workspaceID) message id (.refused 404 "not_found" "workspace not found")

def keyMissing : Outcome :=
  .refused 400 "idempotency_key_required" "Idempotency-Key header is required for mutations"

def keyTaken : Outcome :=
  .refused 409 "duplicate_idempotency_key" "Idempotency-Key was already used for a mutation"

-- len of a string is its length in bytes.
def badKey (key : String) : Bool := key == "" || decide (128 < key.utf8ByteSize)

def claimIdempotencyKey (header workspaceID mutation : String) (next : Prog Ret Outcome) : Prog Ret Outcome :=
  let key := TrimSpace header
  if badKey key then .pure keyMissing
  else statement (.claimKey workspaceID key mutation) "failed to process mutation" fun claimed =>
    if claimed then next else .pure keyTaken

def invalidRole : Outcome :=
  .refused 400 "validation_error" "role must be admin, engineer, approver, auditor, or viewer"

structure Fresh where
  id : PgUuid
  random : String
  correlation : Correlation

section Create

variable [GoUnicode]

def slugRune (c : Char) : Bool := ('a' ≤ c && c ≤ 'z') || c.isDigit || c == '-'

def trimDashes (cs : List Char) : List Char := (cs.dropWhile (· == '-')).rdropWhile (· == '-')

def generateSlug (name suffix : String) : String :=
  let s := ((ToLower name).toList.map fun c => if c = ' ' then '-' else c).filter slugRune
  let s := trimDashes (s.take 64)
  let s := if s = [] then "workspace" else String.ofList s
  s ++ "-" ++ suffix

structure CreateRequest where
  name : String
  description : Option String
  environment : String
  creatorID : String
  avatar : String
  providers : List String
deriving DecidableEq

def badEnvironment (environment : String) : Bool :=
  environment != "dev" && environment != "staging" && environment != "prod"

def badName (name : String) : Bool := decide (name.utf8ByteSize < 3 ∨ 64 < name.utf8ByteSize)

def avatars : List String := ["", "🚀", "🏗️", "☁️", "⚡", "🔒", "🧭"]

def allProviders : List String := ["aws", "azure", "gcp"]

def badProviders (providers : List String) : Bool :=
  providers.any (fun provider => !allProviders.contains provider) || !decide providers.Nodup

-- Fixed provider order makes retry payloads independent of selection order.
def settings (req : CreateRequest) : JsJson :=
  let providers : JsJson := .arr ((allProviders.filter req.providers.contains).map .str)
  if req.avatar = "" then .obj [("providers", providers)]
  else .obj [("avatar", .str req.avatar), ("providers", providers)]

def duplicateKey : Outcome :=
  .refused 409 "duplicate_idempotency_key" "Idempotency-Key was already used for another request"

def sameRequest (req : CreateRequest) (replay : Replay) : Bool :=
  (replay.creator.map PgUuid.text).getD "" == req.creatorID && replay.row.name == req.name &&
    replay.row.environment == req.environment && replay.row.description == req.description &&
    GoJson.marshal replay.row.settings == GoJson.marshal (settings req)

def validateCreate (req : CreateRequest) (key : String) : Option Outcome :=
  if badName req.name then some (.refused 400 "validation_error" "name must be between 3 and 64 characters")
  else if badEnvironment req.environment then
    some (.refused 400 "validation_error" "environment must be dev, staging, or prod")
  else if req.creatorID = "" then some (.refused 400 "validation_error" "creator_id is required")
  else if !avatars.contains req.avatar then some (.refused 400 "validation_error" "unsupported workspace avatar")
  else if badProviders req.providers then some (.refused 400 "validation_error" "invalid workspace providers")
  else if badKey key then some keyMissing
  else none

def slugTaken (slug : String) : Outcome :=
  .refused 409 "slug_taken" ("slug " ++ Backend.Quote slug ++ " is already taken")

variable [Platform]

def recordCreation (req : CreateRequest) (key : String) (fresh : Fresh) (row : WorkspaceRow) : Prog Ret Outcome :=
  statement (.insertMembership req.creatorID fresh.id.text "admin" (some req.creatorID) false)
    "failed to create workspace" fun _ =>
  audited (Audit.WorkspaceService.appendAuditEvent fresh.id.text .workspaceCreated req.creatorID "workspace"
    fresh.id.text [("name", .str row.name), ("environment", .str row.environment), ("idempotency_key", .str key)]
    fresh.correlation) "failed to create workspace"
    (.pure (.created fresh.id row))

def insertWorkspace (req : CreateRequest) (key slug : String) (fresh : Fresh) : Prog Ret Outcome :=
  .op (.insertWorkspace ⟨fresh.id, req.name, slug, req.environment, req.description, settings req, key⟩) fun
    | .ok row => recordCreation req key fresh row
    | .error .uniqueViolation => .pure keyTaken
    | .error .other => .pure (internalError "failed to create workspace")

def createFresh (req : CreateRequest) (key : String) (fresh : Fresh) : Prog Ret Outcome :=
  let slug := generateSlug req.name fresh.random
  statement (.slugTaken slug none) "failed to create workspace" fun exists' =>
    if exists' then .pure (slugTaken slug) else insertWorkspace req key slug fresh

def handleCreate (req : CreateRequest) (header : String) (fresh : Fresh) : Prog Ret Outcome :=
  let key := TrimSpace header
  match validateCreate req key with
  | some refusal => .pure refusal
  | none =>
    statement (.lockCreation key) "failed to create workspace" fun _ =>
    statement (.selectReplay key req.creatorID) "failed to recover workspace" fun
      | some replay => .pure (if sameRequest req replay then .replayed replay.id replay.row else duplicateKey)
      | none => createFresh req key fresh

structure UpdateRequest where
  name : Option String
  description : Option String
  environment : Option String

def appendAuditEvent (workspaceID : String) (eventType : EventType) (actorID resourceType resourceID : String)
    (payload : JsFields) (fresh : Fresh) : Prog Audit.Ret Unit :=
  Audit.WorkspaceService.appendAuditEvent workspaceID eventType actorID resourceType resourceID payload
    fresh.correlation

def updateWorkspace (id header : String) (fresh : Fresh) (row : WorkspaceRow) : Prog Ret Outcome :=
  statement (.updateWorkspace id row.name row.slug row.environment row.description) "failed to update workspace" fun
    | none => .pure (internalError "failed to update workspace")
    | some updated =>
      audited (appendAuditEvent id .workspaceUpdated "" "workspace" id [("idempotency_key", .str header)] fresh)
        "failed to update workspace" (.pure (.updated updated))

def updateFields (id header : String) (req : UpdateRequest) (fresh : Fresh) (row : WorkspaceRow) : Prog Ret Outcome :=
  if req.environment.any badEnvironment then
    .pure (.refused 400 "validation_error" "environment must be dev, staging, or prod")
  else updateWorkspace id header fresh { row with
    environment := req.environment.getD row.environment
    description := req.description.or row.description }

def changeName (id header : String) (req : UpdateRequest) (fresh : Fresh) (row : WorkspaceRow) (name slug : String) :
    Prog Ret Outcome :=
  if badName name then .pure (.refused 400 "validation_error" "name must be between 3 and 64 characters")
  else if slug = row.slug then updateFields id header req fresh { row with name }
  else statement (.slugTaken slug (some id)) "failed to update workspace" fun exists' =>
    if exists' then .pure (slugTaken slug) else updateFields id header req fresh { row with name, slug }

def handleUpdate (id header : String) (req : UpdateRequest) (fresh : Fresh) : Prog Ret Outcome :=
  statement (.lockWorkspace id) "failed to update workspace" fun
    | none => .pure (.refused 404 "not_found" "workspace not found")
    | some row =>
      claimIdempotencyKey header id "workspace_update" <|
        match req.name with
        | none => updateFields id header req fresh row
        | some name => changeName id header req fresh row name (generateSlug name fresh.random)

end Create

variable [Platform]

section Deletions

def handleDelete (id header : String) (fresh : Fresh) : Prog Ret Outcome :=
  statement (.lockWorkspace id) "failed to delete workspace" fun
    | none => .pure (.refused 404 "not_found" "workspace not found")
    | some _ =>
      claimIdempotencyKey header id "workspace_delete" <|
      require (.activeRuns id none) "failed to delete workspace" not
        (.refused 409 "active_runs_exist" "cannot delete workspace with active provisioning runs") <|
      statement (.deleteWorkspace id) "failed to delete workspace" fun _ =>
      audited (appendAuditEvent id .workspaceDeleted "" "workspace" id [("idempotency_key", .str header)] fresh)
        "failed to delete workspace" (.pure .noContent)

def lastAdmin (message : String) : Outcome := .refused 409 "last_admin" message

def requireLastAdminNotTarget (workspaceID userID message : String) (refusal : Outcome) (next : Prog Ret Outcome) :
    Prog Ret Outcome :=
  statement (.selectAdmins workspaceID) message fun admins =>
  statement (.lockAdmins workspaceID admins) message fun adminCount =>
    if adminCount ≤ 1 then require (.isAdmin workspaceID userID) message not refusal next else next

def updateRole (workspaceID userID role header : String) (fresh : Fresh) : Prog Ret Outcome :=
  statement (.updateRole role userID workspaceID) "failed to update role" fun affected =>
    if affected then
      audited (appendAuditEvent workspaceID .memberRoleUpdated userID "member" userID
        [("new_role", .str role), ("idempotency_key", .str header)] fresh) "failed to update role" (.pure .noContent)
    else .pure (.refused 404 "not_found" "membership not found")

def handleUpdateRole (workspaceID userID role header : String) (fresh : Fresh) : Prog Ret Outcome :=
  if validRole role then
    requireWorkspace workspaceID "failed to update role" <|
    claimIdempotencyKey header workspaceID "member_role_update" <|
    requireLastAdminNotTarget workspaceID userID "failed to update role"
      (lastAdmin "cannot change role of the last admin") <|
    updateRole workspaceID userID role header fresh
  else .pure invalidRole

def removeMember (workspaceID userID header : String) (fresh : Fresh) : Prog Ret Outcome :=
  statement (.deleteMembership userID workspaceID) "failed to remove member" fun affected =>
    if affected then
      audited (appendAuditEvent workspaceID .memberRemoved userID "member" userID [("idempotency_key", .str header)]
        fresh) "failed to remove member" (.pure .noContent)
    else .pure (.refused 404 "not_found" "membership not found")

def handleRemoveMember (workspaceID userID header : String) (fresh : Fresh) : Prog Ret Outcome :=
  requireWorkspace workspaceID "failed to remove member" <|
  claimIdempotencyKey header workspaceID "member_remove" <|
  require (.activeRuns workspaceID (some userID)) "failed to remove member" not
    (.refused 409 "active_runs_exist" "cannot remove member with active provisioning runs") <|
  requireLastAdminNotTarget workspaceID userID "failed to remove member" (lastAdmin "cannot remove the last admin") <|
  removeMember workspaceID userID header fresh

end Deletions

section Members

def addMember (workspaceID userID role header : String) (fresh : Fresh) : Prog Ret Outcome :=
  statement (.insertMembership userID workspaceID role none true) "failed to add member" fun inserted =>
    if inserted then
      statement (.select (.member userID workspaceID)) "failed to add member" fun
        | none => .pure (.refused 409 "already_member" "user is already a member of this workspace")
        | some m =>
          audited (appendAuditEvent workspaceID .memberAdded userID "member" userID
            [("role", .str role), ("idempotency_key", .str header)] fresh) "failed to add member" (.pure (.member m))
    else .pure (.refused 409 "already_member" "user is already a member of this workspace")

def handleAddMember (workspaceID userID role header : String) (fresh : Fresh) : Prog Ret Outcome :=
  if userID = "" then .pure (.refused 400 "validation_error" "user_id is required")
  else if validRole role then
    requireWorkspace workspaceID "failed to add member" <|
    claimIdempotencyKey header workspaceID "member_add" <|
    require (.userExists userID) "failed to add member" id (.refused 404 "user_not_found" "user does not exist") <|
    addMember workspaceID userID role header fresh
  else .pure invalidRole

end Members

section Invitations

def handleCreateInvitation (workspaceID email role header : String) (fresh : Fresh) : Prog Ret Outcome :=
  if email = "" then .pure (.refused 400 "validation_error" "email is required")
  else if validRole role then
    requireWorkspace workspaceID "failed to create invitation" <|
    claimIdempotencyKey header workspaceID "invitation_create" <|
    statement (.insertInvitation ⟨fresh.id, workspaceID, email, role, fresh.random⟩) "failed to create invitation"
      fun row =>
    audited (appendAuditEvent workspaceID .invitationCreated email "invitation" fresh.id.text
      [("email", .str email), ("role", .str role), ("idempotency_key", .str header)] fresh)
      "failed to create invitation" (.pure (.invited row))
  else .pure invalidRole

def handleRevokeInvitation (workspaceID invitationID header : String) (fresh : Fresh) : Prog Ret Outcome :=
  requireWorkspace workspaceID "failed to revoke invitation" <|
  claimIdempotencyKey header workspaceID "invitation_revoke" <|
  statement (.revokeInvitation invitationID workspaceID) "failed to revoke invitation" fun affected =>
    if affected then
      audited (appendAuditEvent workspaceID .invitationRevoked "" "invitation" invitationID
        [("idempotency_key", .str header)] fresh) "failed to revoke invitation" (.pure .noContent)
    else .pure (.refused 404 "not_found" "invitation not found or already revoked")

structure AcceptRequest where
  userID : String
  name : String
  email : String

-- strings.EqualFold, where `fold` gives every character of a folding orbit the same one.
def EqualFold (fold : Char → Char) (s t : String) : Bool := s.toList.map fold == t.toList.map fold

def acceptFailed : String := "failed to accept invitation"

def joinWorkspace (req : AcceptRequest) (header : String) (fresh : Fresh) (id : PgUuid) (inv : InvitationRow)
    (clock : Int) : Prog Ret Outcome :=
  require (.isMember req.userID inv.workspaceID.text) acceptFailed not
    (.refused 409 "already_member" "already a member of this workspace") <|
  statement (.insertMembership req.userID inv.workspaceID.text inv.role.text none false) acceptFailed fun _ =>
  statement (.revokeUsed id.text) acceptFailed fun _ =>
  statement (.select (.member req.userID inv.workspaceID.text)) acceptFailed fun
    | none => .pure (internalError acceptFailed)
    | some m =>
      audited (appendAuditEvent inv.workspaceID.text .invitationAccepted req.userID "invitation" id.text
        [("email", .str inv.email), ("role", .str inv.role.text), ("idempotency_key", .str header)] fresh)
        acceptFailed (.pure (.accepted id m clock))

def requireUser (req : AcceptRequest) (next : Prog Ret Outcome) : Prog Ret Outcome :=
  statement (.select (.userExists req.userID)) acceptFailed fun exists' =>
    if exists' then next
    else statement (.insertUser req.userID req.name req.email) acceptFailed fun _ => next

def acceptLocked (fold : Char → Char) (req : AcceptRequest) (header : String) (fresh : Fresh) (id : PgUuid)
    (inv : InvitationRow) : Prog Ret Outcome :=
  claimIdempotencyKey header inv.workspaceID.text "invitation_accept" <|
    if inv.revoked then .pure (.refused 410 "revoked" "invitation has been revoked")
    else statement .now acceptFailed fun clock =>
      if inv.expiresAt < clock then .pure (.refused 410 "expired" "invitation has expired")
      else if EqualFold fold inv.email req.email then
        requireUser req (joinWorkspace req header fresh id inv clock)
      else .pure (.refused 403 "email_mismatch" "invitation is for a different email")

def handleAcceptInvitation (fold : Char → Char) (code header : String) (req : AcceptRequest) (fresh : Fresh) :
    Prog Ret Outcome :=
  if code = "" then .pure (.refused 400 "validation_error" "code query parameter is required")
  else if req.userID = "" ∨ req.email = "" ∨ req.name = "" then
    .pure (.refused 400 "validation_error" "user_id, name, and email are required")
  else
    statement (.lockInvitation code) acceptFailed fun
      | none => .pure (.refused 404 "not_found" "invitation not found")
      | some (id, inv) => acceptLocked fold req header fresh id inv

end Invitations

end Requests

section Engine

inductive Call where
  | create (req : CreateRequest) (header : String) (fresh : Fresh)
  | update (id header : String) (req : UpdateRequest) (fresh : Fresh)
  | delete (id header : String) (fresh : Fresh)
  | addMember (workspaceID userID role header : String) (fresh : Fresh)
  | updateRole (workspaceID userID role header : String) (fresh : Fresh)
  | removeMember (workspaceID userID header : String) (fresh : Fresh)
  | createInvitation (workspaceID email role header : String) (fresh : Fresh)
  | revokeInvitation (workspaceID invitationID header : String) (fresh : Fresh)
  | acceptInvitation (code header : String) (req : AcceptRequest) (fresh : Fresh)
  -- What the orchestrator does to its runs.
  | setRuns (runs : List RunRow)

variable [Platform] [GoUnicode] (fold : Char → Char)

def program : Call → Prog Ret Outcome
  | .create req header fresh => handleCreate req header fresh
  | .update id header req fresh => handleUpdate id header req fresh
  | .delete id header fresh => handleDelete id header fresh
  | .addMember workspaceID userID role header fresh => handleAddMember workspaceID userID role header fresh
  | .updateRole workspaceID userID role header fresh => handleUpdateRole workspaceID userID role header fresh
  | .removeMember workspaceID userID header fresh => handleRemoveMember workspaceID userID header fresh
  | .createInvitation workspaceID email role header fresh =>
    handleCreateInvitation workspaceID email role header fresh
  | .revokeInvitation workspaceID invitationID header fresh =>
    handleRevokeInvitation workspaceID invitationID header fresh
  | .acceptInvitation code header req fresh => handleAcceptInvitation fold code header req fresh
  | .setRuns runs => statement (.setRuns runs) "" fun _ => .pure .noContent

def engine (faults : Bool) : Engine Call Ret Key Db Write Outcome where
  apply := apply
  locks := locks
  exec := exec faults
  program := program fold
  commits := Outcome.commits

end Engine

end Provisr.Workspace
