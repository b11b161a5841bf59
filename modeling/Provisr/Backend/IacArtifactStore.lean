import Provisr.Audit.Writers
import Provisr.Backend.IacArtifact

namespace Provisr.Backend

open Provisr.Foundation
open Provisr.Orchestrator (TerraformFile Platform ManifestRow ArtifactRow)
open Provisr.Audit (AuditRow)

structure RunRow where
  workspaceId : String
  lock : RunLock
  deriving DecidableEq

structure IacDb where
  role : String → String → Option String
  runs : String → Option RunRow
  manifests : List ManifestRow
  artifacts : List ArtifactRow
  audits : List AuditRow

namespace Iac

inductive Entry where
  | id (id : String)
  | generationKey (runId idempotencyKey : String)
  | manifestGeneration (runId manifestId : String)
  deriving DecidableEq

def entries (row : ArtifactRow) : List Entry :=
  [.id row.id, .generationKey row.runId row.idempotencyKey] ++
    if row.type = .terraform then [.manifestGeneration row.runId row.manifestId] else []

inductive Key where
  | run (id : String)
  | entry (e : Entry)
  | advisory (key : String)
  deriving DecidableEq

inductive Write where
  | role (workspaceId userId : String) (role : Option String)
  | run (id : String) (row : RunRow)
  | manifest (row : ManifestRow)
  | artifact (row : ArtifactRow)
  | audit (row : AuditRow)

def apply : Write → IacDb → IacDb
  | .role workspaceId userId role, d =>
    { d with role := fun w u => if w = workspaceId ∧ u = userId then role else d.role w u }
  | .run id row, d => { d with runs := fun i => if i = id then some row else d.runs i }
  | .manifest row, d => { d with manifests := d.manifests ++ [row] }
  | .artifact row, d => { d with artifacts := d.artifacts ++ [row] }
  | .audit row, d => { d with audits := d.audits ++ [row] }

inductive Query where
  | role (workspaceId userId : String)
  | manifest (id runId : String)
  | byKey (runId idempotencyKey : String)
  | terraform (runId manifestId : String)

abbrev Query.Answer : Query → Type
  | .role .. => Option String
  | .manifest .. => Option ManifestRow
  | .byKey .. | .terraform .. => Option ArtifactRow

def Query.answer : (q : Query) → IacDb → q.Answer
  | .role workspaceId userId, d => d.role workspaceId userId
  | .manifest id runId, d => d.manifests.find? fun m => m.id == id && m.runId == runId
  | .byKey runId idempotencyKey, d =>
    d.artifacts.find? fun a => a.runId == runId && a.idempotencyKey == idempotencyKey
  | .terraform runId manifestId, d =>
    d.artifacts.find? fun a => a.runId == runId && a.manifestId == manifestId && a.type == .terraform

inductive Op where
  | select (q : Query)
  | lockRun (id workspaceId : String)
  | insertArtifact (row : ArtifactRow)
  | audit (o : Audit.Op)
  | write (w : Write)

abbrev Answer : Op → Type
  | .select q => q.Answer
  | .lockRun .. => Option RunRow
  | .audit o => Audit.Ret o
  | .insertArtifact _ | .write _ => Unit

-- Every statement may fail.
abbrev Ret (o : Op) : Type := Except Unit (Answer o)

-- SELECT ... FROM provisr_state.provisioning_runs WHERE id=$1 AND workspace_id=$2
def selectRun (d : IacDb) (id workspaceId : String) : Option RunRow :=
  (d.runs id).filter fun row => row.workspaceId == workspaceId

def locks : Op → IacDb → Set Key
  | .lockRun id workspaceId, d => { x | x = .run id ∧ (selectRun d id workspaceId).isSome }
  | .insertArtifact row, _ => { x | ∃ e ∈ entries row, x = .entry e }
  | .audit o, d => { x | ∃ key ∈ Audit.locks o d.audits, x = .advisory key }
  | .write (.run id _), _ => {.run id}
  | _, _ => ∅

structure Insertable (row : ArtifactRow) (d : IacDb) : Prop where
  unique : ∀ a ∈ d.artifacts, ∀ e ∈ entries a, e ∉ entries row
  run : (d.runs row.runId).isSome
  manifest : ∃ m ∈ d.manifests, m.id = row.manifestId
  id : JsText.isUuid row.id = true
  storable : row.generation.storable = true ∧ Json.storableText row.idempotencyKey = true

def answers {α : Type} (faults : Bool) (a : α) (r : Except Unit α) : Prop :=
  r = .ok a ∨ faults = true ∧ r = .error ()

def exec (faults : Bool) : (o : Op) → IacDb → Nat → Ret o → List Write → Nat → Prop
  | .select q, d, n, r, ws, n' => answers faults (q.answer d) r ∧ ws = [] ∧ n' = n
  | .lockRun id workspaceId, d, n, r, ws, n' => answers faults (selectRun d id workspaceId) r ∧ ws = [] ∧ n' = n
  | .insertArtifact row, d, n, r, ws, n' =>
    (r = .ok () ∧ Insertable row d ∧ ws = [.artifact row] ∨ r = .error () ∧ ws = []) ∧ n' = n
  | .audit o, d, n, r, ws, n' =>
    (∃ a rows, r = .ok a ∧ Audit.exec o d.audits n a rows n' ∧ ws = rows.map .audit) ∨
      r = .error () ∧ ws = [] ∧ n' = n
  | .write w, _, n, r, ws, n' => (r = .ok () ∧ ws = [w] ∨ r = .error () ∧ ws = []) ∧ n' = n

inductive Outcome where
  | created (artifact : Artifact)
  | stored (artifact : Artifact)
  | failed (failure : Failure)
  | unavailable
  | done
  deriving DecidableEq

def Outcome.commits : Outcome → Bool
  | .created _ | .done => true
  | _ => false

def statement (o : Op) (next : Answer o → Prog Ret Outcome) : Prog Ret Outcome :=
  Prog.orEnd (fun _ => .unavailable) o next

def within {α : Type} (p : Prog Audit.Ret α) (next : α → Prog Ret Outcome) : Prog Ret Outcome :=
  p.within (fun o => statement (.audit o)) next

def refuse (status : Nat) (code message : String) : Prog Ret Outcome := .pure (.failed ⟨status, code, message, []⟩)

section Generate

variable [Platform]

def evidence (a : Artifact) : Audit.ArtifactEvidence :=
  ⟨a.id, a.manifestId, a.manifestVersion, a.runId, a.hash, a.fileCount, a.templateSource⟩

def appendAudit (input : Request) (a : Artifact) : Prog Audit.Ret Unit :=
  Audit.IacArtifact.appendAudit input.context.workspaceId input.context.correlationId (evidence a)

def rowOf (input : Request) (a : Artifact) : ArtifactRow :=
  ⟨a.id, a.runId, a.manifestId, .terraform, Json.jsonb a.json, a.hash, input.context.idempotencyKey⟩

abbrev Render := JsJson → Except Failure (List TerraformFile × Nat)

variable (render : Render) (input : Request) (newId : String)

def create (m : ManifestRow) : Prog Ret Outcome :=
  match render m.content with
  | .error failure => .pure (.failed failure)
  | .ok (files, resourceCount) =>
    let a := Artifact.construct newId input m.version files resourceCount
    if a.tooLarge then
      refuse 422 "artifact_too_large" "Manifest exceeds Terraform artifact size limits"
    else statement (.insertArtifact (rowOf input a)) fun _ =>
      within (appendAudit input a) fun _ => .pure (.created a)

def requireNew (run : RunRow) (m : ManifestRow) : Prog Ret Outcome :=
  if run.lock.state ≠ "IAC_GENERATING" then
    refuse 409 "invalid_run_state" "Run must be in IAC_GENERATING before generation"
  else statement (.select (.terraform input.context.requestId input.manifestId)) fun
    | some _ => refuse 409 "artifact_exists" "Artifact already generated; retry with the original idempotency key"
    | none => create render input newId m

def replay (row : ArtifactRow) : Prog Ret Outcome :=
  if row.manifestId ≠ input.manifestId then
    refuse 409 "idempotency_conflict" "Idempotency key already used for another manifest"
  else match Artifact.unmarshal row.generation with
    | some a => .pure (.stored a)
    | none => .pure .unavailable

def selectExisting (run : RunRow) (m : ManifestRow) : Prog Ret Outcome :=
  if run.lock.matches input m.version then
    statement (.select (.byKey input.context.requestId input.context.idempotencyKey)) fun
      | some row => replay input row
      | none => requireNew render input newId run m
  else refuse 409 "manifest_not_confirmed" "Selected manifest must be validated and confirmed for this run context"

def selectManifest (run : RunRow) : Prog Ret Outcome :=
  statement (.select (.manifest input.manifestId input.context.requestId)) fun
    | some m => selectExisting render input newId run m
    | none => refuse 404 "not_found" "Manifest not found in run"

def mayProvision (role : Option String) : Bool := role == some "admin" || role == some "engineer"

def selectLocked : Prog Ret Outcome :=
  statement (.lockRun input.context.requestId input.context.workspaceId) fun
    | some run => selectManifest render input newId run
    | none => refuse 404 "not_found" "Manifest not found in run"

def DBGenerator.Generate (request : Request) : Prog Ret Outcome :=
  match validRequest request with
  | none => refuse 400 "invalid_request" "Invalid generation context"
  | some input =>
    statement (.select (.role input.context.workspaceId input.context.userId)) fun role =>
      if mayProvision role then selectLocked render input newId
      else refuse 403 "forbidden" "Provisioning permission required"

end Generate

-- What the other transactions do to these tables: nobody else writes artifacts or their audit events.
inductive Deed where
  | setRole (workspaceId userId : String) (role : Option String)
  | writeRun (id : String) (row : RunRow)
  | storeManifest (row : ManifestRow)
  | append (preimage : Audit.Entry → String) (columns : Option String → Audit.Entry)
      (other : ∀ previous, (columns previous).resourceType ≠ "iac_artifact")

variable [Platform]

def perform : List Deed → Prog Ret Outcome
  | [] => .pure .done
  | .setRole workspaceId userId role :: rest =>
    statement (.write (.role workspaceId userId role)) fun _ => perform rest
  | .writeRun id row :: rest => statement (.write (.run id row)) fun _ => perform rest
  | .storeManifest row :: rest => statement (.write (.manifest row)) fun _ => perform rest
  | .append preimage columns _ :: rest => within (Audit.appendEvent preimage columns) fun _ => perform rest

inductive Call where
  | generate (request : Request) (newId : String)
  | other (deeds : List Deed)

def engine (faults : Bool) (render : Render) : Engine Call Ret Key IacDb Write Outcome where
  apply := apply
  locks := locks
  exec := exec faults
  program
    | .generate request newId => DBGenerator.Generate render newId request
    | .other deeds => perform deeds
  commits := Outcome.commits

end Iac

end Provisr.Backend
