import Provisr.Foundation.Exceptional
import Provisr.Orchestrator.Database

namespace Provisr.Orchestrator

open Provisr.Foundation

inductive Service where
  | agent
  | mcp
  | policy
  deriving DecidableEq, Repr

inductive Method where
  | get
  | post
  deriving DecidableEq, Repr

structure HttpRequest where
  service : Service
  method : Method
  path : String
  headers : List (String × String)
  body : Option JsJson
  deriving DecidableEq

-- `json` is absent where the body does not parse.
structure HttpResponse where
  ok : Bool
  status : Nat
  size : Nat
  json : Option JsJson
  deriving DecidableEq

-- What a task of the orchestrator asks of its environment, one atomic step each. A transaction is
-- one step: its row locks make it so.
inductive Op where
  | membership (workspaceId userId : String)
  | selectRun (id workspaceId : String)
  | selectPending
  | selectExpired
  | selectSettings (workspaceId : String)
  | selectManifestId (runId : String) (version : Option Nat) (workspaceId : String)
  | tryLock (id : String)
  | unlock (id : String)
  | createRun (c : CreateRun)
  | mutate (id workspaceId : String) (expectedVersion : Nat) (actorId : String) (operation : Operation)
  | fetch (request : HttpRequest)
  | dateNow
  | randomUUID
  | aborted
  | stopping
  | outOfFuel

abbrev Reply (α : Type) := Except ServiceError α

def Ret : Op → Type
  | .membership _ _ => Reply Bool
  | .selectRun _ _ => Reply (Option ProvisioningRun)
  | .selectPending => Reply (List (String × String))
  | .selectExpired => Reply (List (String × String × Nat))
  | .selectSettings _ => Reply (Option Bool)
  | .selectManifestId _ _ _ => Reply (Option String)
  | .tryLock _ => Reply Bool
  | .unlock _ => Reply Unit
  | .createRun _ => Reply ProvisioningRun
  | .mutate _ _ _ _ _ => Reply ProvisioningRun
  | .fetch _ => Reply HttpResponse
  | .dateNow => Date
  | .randomUUID => String
  | .aborted => Bool
  | .stopping => Bool
  | .outOfFuel => Unit

abbrev Seen := List (Obs Ret)

abbrev Action (α : Type) := Async Ret ServiceError α

-- The other services: their state, what an HTTP exchange with them may do and answer, what they do
-- on their own, and their tables.
structure Services (Ext : Type) where
  call : Ext → HttpRequest → Reply HttpResponse → Ext → Prop
  background : Ext → Ext → Prop
  manifests : Ext → List ManifestRow
  artifacts : Ext → List ArtifactRow

-- `commits` is a history variable: the mutations committed so far, oldest first.
structure World (Ext : Type) where
  db : Db
  ext : Ext
  commits : List Commit

variable {Ext : Type}

def isPending (r : ProvisioningRun) : Bool :=
  r.state == .received || r.state == .policyLoaded || r.state == .cloudContextLoaded ||
    r.state == .iacGenerating || (r.state == .manifestCreating && r.agentTurnPending)

def isExpired (now : Date) (r : ProvisioningRun) : Bool :=
  r.state == .clarifying && r.clarificationExpiresAt.any (fun t => decide (t ≤ now))

def Reads {α : Type} (w w' : World Ext) (r : Reply α) (answer : α → Prop) : Prop :=
  w' = w ∧ match r with
    | .ok a => answer a
    | .error e => e = .infrastructure

structure Meets (svc : Services Ext) (env : TxEnv) (w : World Ext) : Prop where
  manifests : env.manifests = svc.manifests w.ext
  artifacts : env.artifacts = svc.artifacts w.ext
  fresh : ∀ r ∈ w.db.runs, ∀ e ∈ r.answersHistory, e.idempotencyKey ≠ env.uuid

-- The reply to a COMMIT may be lost after the transaction has taken effect.
def Acknowledges {α : Type} (r : Reply α) (a : α) : Prop := r = .ok a ∨ r = .error .infrastructure

section Exec

variable [Platform] [ComponentRegistry] (svc : Services Ext)

def ExecCreateRun (c : CreateRun) (w : World Ext) (r : Reply ProvisioningRun) (w' : World Ext) : Prop :=
  ∃ env, Meets svc env w ∧
    match createRun env w.db c with
    | .error e => r = .error e ∧ w' = w
    | .ok (run, db) => Acknowledges r run ∧ w' = { w with db := db }

def ExecMutate (id workspaceId : String) (expectedVersion : Nat) (actorId : String)
    (operation : Operation) (w : World Ext) (r : Reply ProvisioningRun) (w' : World Ext) : Prop :=
  ∃ env, Meets svc env w ∧
    match mutate env w.db id workspaceId expectedVersion actorId operation with
    | .error e => r = .error e ∧ w' = w
    | .ok commit =>
      Acknowledges r commit.after ∧
        w' = { w with db := commit.apply w.db, commits := w.commits ++ [commit] }

def exec : (o : Op) → World Ext → Ret o → World Ext → Prop
  | .membership _ _, w, r, w' => Reads w w' r fun _ => True
  | .selectRun id ws, w, r, w' => Reads w w' r fun row => row = w.db.selectRun id ws
  | .selectPending, w, r, w' => Reads w w' r fun rows =>
      rows.length ≤ 20 ∧ ∀ p ∈ rows, ∃ run ∈ w.db.runs, isPending run = true ∧
        p = (run.id, run.workspaceId)
  | .selectExpired, w, r, w' => Reads w w' r fun rows => ∃ now, rows.length ≤ 100 ∧
      ∀ p ∈ rows, ∃ run ∈ w.db.runs, isExpired now run = true ∧
        p = (run.id, run.workspaceId, run.stateVersion)
  | .selectSettings _, w, r, w' => Reads w w' r fun _ => True
  | .selectManifestId runId version ws, w, r, w' => Reads w w' r fun row =>
      row = ((svc.manifests w.ext).find? fun m => m.runId == runId && some m.version == version &&
        (w.db.selectRun runId ws).isSome).map ManifestRow.id
  | .tryLock _, w, r, w' => Reads w w' r fun _ => True
  | .unlock _, w, r, w' => Reads w w' r fun _ => True
  | .createRun c, w, r, w' => ExecCreateRun svc c w r w'
  | .mutate id ws v actor operation, w, r, w' => ExecMutate svc id ws v actor operation w r w'
  | .fetch request, w, r, w' => ∃ ext, svc.call w.ext request r ext ∧ w' = { w with ext := ext }
  | .dateNow, w, _, w' => w' = w
  | .randomUUID, w, _, w' => w' = w
  | .aborted, w, _, w' => w' = w
  | .stopping, w, _, w' => w' = w
  | .outOfFuel, w, _, w' => w' = w

-- Other services act on their own; the chat service inserts runs of its own.
inductive Ambiently (w : World Ext) : World Ext → Prop
  | background (ext : Ext) (move : svc.background w.ext ext) : Ambiently w { w with ext := ext }
  | planningTurn (env : TxEnv) (c : CreateRun) (db : Db)
      (inserted : w.db.insertRun env (initialRun env c) = .ok db) : Ambiently w { w with db := db }

end Exec

end Provisr.Orchestrator
