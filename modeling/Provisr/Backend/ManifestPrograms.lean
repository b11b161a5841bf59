import Provisr.Backend.ManifestTables

namespace Provisr.Backend.Manifest

open Provisr.Foundation
open Provisr.Orchestrator (Platform)
open Provisr.Audit (AuditRow)

section Results

inductive StoreError where
  | invalidRunID
  | invalidIdempotencyKey
  | emptyContent
  | invalidContent
  | marshal
  | idempotencyConflict
  | database
  -- Failed to insert manifest version after maxVersionRetries attempts.
  | versionRace
  deriving DecidableEq, Repr

structure ManifestRecord where
  id : String
  runId : String
  version : Nat
  content : String
  sourceMetadata : JsJson
  hash : String
  createdAt : Nat
  deriving DecidableEq

inductive Outcome where
  | created (record : ManifestRecord)
  | returned (record : ManifestRecord)
  | failed (e : StoreError)
  -- The answers to POST /v1/manifests.
  | stored (version : Nat)
  | existing (version : Nat)
  | invalid (errors : List String)
  | refused (status : Nat) (message : String)
  | done
  deriving DecidableEq

-- What ends in COMMIT: a version returned is left with a rollback.
def Outcome.commits : Outcome → Bool
  | .created _ | .stored _ | .done => true
  | _ => false

def statement (o : Op) (failure : Outcome) (next : Answer o → Prog Ret Outcome) : Prog Ret Outcome :=
  Prog.orEnd (fun _ => failure) o next

def within {α : Type} (failure : Outcome) (p : Prog Audit.Ret α) (next : α → Prog Ret Outcome) : Prog Ret Outcome :=
  p.within (fun o => statement (.audit o) failure) next

end Results

section Content

-- A text, or what json.Marshal makes of a value of another type.
inductive Content where
  | nil
  | bytes (b : String)
  | text (s : String)
  | other (marshalled : Option String)

-- encoding/json puts U+FFFD for half of a surrogate pair, and keeps numbers as they are spelled.
def decode (data : String) : Option (Json Literal) := JsonReader.read (some (Char.ofNat 0xFFFD)) data

def jsonValid (data : String) : Bool := (decode data).isSome

-- JSONB may reorder keys and add whitespace; retain numeric precision during replay checks.
def sameManifestContent (left right : String) : Bool :=
  match decode left, decode right with
  | some a, some b => decide (GoJson.marshal a = GoJson.marshal b)
  | _, _ => false

def validContent (b : String) : Except StoreError String :=
  if jsonValid b then .ok b else .error .invalidContent

def normalizeContentBytes : Content → Except StoreError String
  | .nil => .error .emptyContent
  | .bytes b => if b = "" then .error .emptyContent else validContent b
  | .text s => if TrimSpace s = "" then .error .emptyContent else validContent (TrimSpace s)
  | .other (some b) => .ok b
  | .other none => .error .marshal

variable [Platform]

def ComputeContentHash (content : String) : String := Platform.sha256Hex content

def normalizeMetaBytes (sourceMetadata : JsFields) (hash : String) : JsJson :=
  .obj (sourceMetadata.filter (fun f => f.1 != "content_hash") ++ [("content_hash", .str hash)])

def hashUnder (key : String) (srcMeta : JsJson) : Option String :=
  match srcMeta.get? key with
  | some (.str h) => if h = "" then none else some h
  | _ => none

def extractOrComputeHash (content : String) (srcMeta : JsJson) : String :=
  match hashUnder "content_hash" srcMeta with
  | some h => h
  | none => (hashUnder "hash" srcMeta).getD (ComputeContentHash content)

def scanned (row : Row) (hash : String) : ManifestRecord :=
  ⟨row.id, row.runId, row.version, Json.jsonbText row.content, row.sourceMetadata, hash, row.createdAt⟩

end Content

section Store

variable [Platform]

def insertKeyed (runID key content hash : String) (sourceMetadata : JsJson) : Prog Ret Outcome :=
  statement (.select (.nextVersion runID)) (.failed .database) fun version =>
    statement (.insert ⟨runID, version, some content, sourceMetadata, some key⟩) (.failed .database) fun row =>
      .pure (.created (scanned row hash))

def replayKeyed (content : String) (row : Row) : Prog Ret Outcome :=
  if sameManifestContent (Json.jsonbText row.content) content then
    .pure (.returned (scanned row (extractOrComputeHash (Json.jsonbText row.content) row.sourceMetadata)))
  else .pure (.failed .idempotencyConflict)

def storeKeyed (runID key content hash : String) (sourceMetadata : JsJson) : Prog Ret Outcome :=
  statement (.advisoryLock runID) (.failed .database) fun _ =>
    statement (.select (.byKey runID key)) (.failed .database) fun
      | some row => replayKeyed content row
      | none => insertKeyed runID key content hash sourceMetadata

def StoreManifestVersionWithKey (runID key : String) (content : Content) (sourceMetadata : JsFields) :
    Prog Ret Outcome :=
  if (parseUuid runID).isNone then .pure (.failed .invalidRunID)
  else if key.toList.all isSpace || decide (255 < key.utf8ByteSize) then .pure (.failed .invalidIdempotencyKey)
  else match normalizeContentBytes content with
    | .error e => .pure (.failed e)
    | .ok contentBytes =>
      storeKeyed runID key contentBytes (ComputeContentHash contentBytes)
        (normalizeMetaBytes sourceMetadata (ComputeContentHash contentBytes))

def maxVersionRetries : Nat := 3

-- Every attempt is a statement of its own, which numbers the version and inserts it.
def attempts (runID content hash : String) (sourceMetadata : JsJson) : Nat → Prog Ret Outcome
  | 0 => .pure (.failed .versionRace)
  | left + 1 =>
    statement (.select (.nextVersion runID)) (.failed .database) fun version =>
      .op (.insert ⟨runID, version, some content, sourceMetadata, none⟩) fun
        | .ok row => .pure (.created (scanned row hash))
        | .error .uniqueViolation => attempts runID content hash sourceMetadata left
        | .error .other => .pure (.failed .database)

def StoreManifestVersion (runID : String) (content : Content) (sourceMetadata : JsFields) : Prog Ret Outcome :=
  if (parseUuid runID).isNone then .pure (.failed .invalidRunID)
  else match normalizeContentBytes content with
    | .error e => .pure (.failed e)
    | .ok contentBytes =>
      attempts runID contentBytes (ComputeContentHash contentBytes)
        (normalizeMetaBytes sourceMetadata (ComputeContentHash contentBytes)) maxVersionRetries

end Store

section Drafts

structure DraftRequest where
  context : Context
  runId : String
  expectedStateVersion : Int
  content : Option String

-- A request as it arrives: without the token of the orchestrator, not to be decoded, or decoded.
inductive Incoming where
  | unauthorized
  | malformed
  | request (body : DraftRequest)

variable (body : DraftRequest) (tag : Nat)

def draftIds : List String :=
  [body.runId, body.context.workspaceId, body.context.userId, body.context.requestId, body.context.correlationId,
    body.context.sessionId]

def invalidContext : Bool :=
  body.context.requestId != body.runId || decide (body.expectedStateVersion < 0) ||
    body.context.idempotencyKey.toList.all isSpace || decide (255 < body.context.idempotencyKey.utf8ByteSize)

def readRequest (incoming : Incoming) (next : DraftRequest → Prog Ret Outcome) : Prog Ret Outcome :=
  match incoming with
  | .unauthorized => .pure (.refused 401 "Orchestration authorization required")
  | .malformed => .pure (.refused 400 "Invalid draft request")
  | .request body =>
    if (draftIds body).any fun id => (parseUuid id).isNone then .pure (.refused 400 "Invalid context identifier")
    else if invalidContext body then .pure (.refused 400 "Invalid context or idempotency key")
    else statement (.select (.authorized body.context.workspaceId body.context.userId))
      (.refused 503 "Manifest storage unavailable") fun authorized =>
        if authorized then next body else .pure (.refused 403 "Provisioning permission required")

def snapshotMatches (run : RunRow) : Bool :=
  run.sessionId == body.context.sessionId && run.correlationId == body.context.correlationId &&
    run.requesterId == body.context.userId && run.state == "MANIFEST_CREATING" &&
      decide ((run.stateVersion : Int) = body.expectedStateVersion)

def runTools (next : Prog Ret Outcome) : List String → Prog Ret Outcome
  | [] => next
  | tool :: tools =>
    statement (.validator tool) (.refused 503 "Manifest validation unavailable") fun result =>
      if result.valid then runTools next tools else .pure (.invalid result.errors)

-- Snapshots come from the run, not from the caller's mutable request body.
def validateDraft (next : Prog Ret Outcome) : Prog Ret Outcome :=
  statement (.select (.snapshot body.runId body.context.workspaceId)) (.refused 503 "Manifest validation unavailable") fun
    | none => .pure (.refused 503 "Manifest validation unavailable")
    | some run =>
      if snapshotMatches body run then runTools next ["validate_manifest", "validate_manifest_schema"]
      else .pure (.invalid ["Run context or version changed"])

def unavailable : Outcome := .refused 503 "Manifest storage unavailable"

def otherDraft : Outcome := .refused 409 "Idempotency key already used for a different draft"

variable [Platform]

def insertDraft : Prog Ret Outcome :=
  statement (.select (.nextVersion body.runId)) unavailable fun version =>
    statement (.insert ⟨body.runId, version, body.content, .obj [], some body.context.idempotencyKey⟩) unavailable fun row =>
      within (.refused 503 "Manifest audit unavailable")
        (Audit.StateService.store body.context.workspaceId body.runId row.version body.context.correlationId) fun _ =>
          .pure (.stored row.version)

def selectExistingDraft : Prog Ret Outcome :=
  statement (.select (.existing body.runId body.context.idempotencyKey body.content)) unavailable fun
    | some (version, sameContent) => .pure (if sameContent then .existing version else otherDraft)
    | none => insertDraft body

def lockDraftRun : Prog Ret Outcome :=
  statement (.lockRun body.runId body.context.workspaceId body.context.userId)
    (.refused 409 "Run state or version changed") fun
      | some (state, stateVersion) =>
        if state = "MANIFEST_CREATING" ∧ (stateVersion : Int) = body.expectedStateVersion then selectExistingDraft body
        else .pure (.refused 409 "Run state or version changed")
      | none => .pure (.refused 409 "Run state or version changed")

-- Recheck and lock authorization before writing.
def storeDraft : Prog Ret Outcome :=
  statement (.lockMembership body.context.workspaceId body.context.userId tag)
    (.refused 403 "Provisioning permission required") fun role =>
      if mayProvision role then lockDraftRun body
      else .pure (.refused 403 "Provisioning permission required")

def replayDraft (version : Nat) (sameContent : Bool) : Prog Ret Outcome :=
  if sameContent then
    statement (.select (.owned body.runId body.context.workspaceId body.context.userId))
      (.refused 403 "Run context mismatch") fun owned =>
        .pure (if owned then .existing version else .refused 403 "Run context mismatch")
  else .pure otherDraft

def draftServer.store (incoming : Incoming) : Prog Ret Outcome :=
  readRequest incoming fun body =>
    statement (.select (.existing body.runId body.context.idempotencyKey body.content)) unavailable fun
      | some (version, sameContent) => replayDraft body version sameContent
      | none => validateDraft body (storeDraft body tag)

end Drafts

section Engine

variable [Platform]

-- What the other transactions do to these tables: nobody else writes manifests or appends that one was created.
inductive Deed where
  | setRole (workspaceId userId : String) (role : Option String)
  | deleteWorkspace (id : String) (deleted : Bool)
  | writeRun (id : String) (row : RunRow)
  | append (preimage : Audit.Entry → String) (columns : Option String → Audit.Entry)
      (other : ∀ previous, (columns previous).eventType ≠ .manifestCreated)

def perform : List Deed → Prog Ret Outcome
  | [] => .pure .done
  | .setRole workspaceId userId role :: rest =>
    statement (.write (.role workspaceId userId role)) (.failed .database) fun _ => perform rest
  | .deleteWorkspace id deleted :: rest =>
    statement (.write (.workspace id deleted)) (.failed .database) fun _ => perform rest
  | .writeRun id row :: rest => statement (.write (.run id row)) (.failed .database) fun _ => perform rest
  | .append preimage columns _ :: rest =>
    within (.failed .database) (Audit.appendEvent preimage columns) fun _ => perform rest

inductive Call where
  | keyed (runID key : String) (content : Content) (sourceMetadata : JsFields)
  | unkeyed (runID : String) (content : Content) (sourceMetadata : JsFields)
  | draft (incoming : Incoming) (tag : Nat)
  | other (deeds : List Deed)

def engine (faults : Bool) : Engine Call Ret Key Db Write Outcome where
  apply := apply
  locks := locks
  exec := exec faults
  program
    | .keyed runID key content sourceMetadata => StoreManifestVersionWithKey runID key content sourceMetadata
    | .unkeyed runID content sourceMetadata => StoreManifestVersion runID content sourceMetadata
    | .draft incoming tag => draftServer.store tag incoming
    | .other deeds => perform deeds
  commits := Outcome.commits

end Engine

end Provisr.Backend.Manifest
