import Provisr.Audit.Writers
import Provisr.Backend.ManifestTables
import Provisr.Events.ChatEvents
import Provisr.Events.SsePublish

namespace Provisr.Orchestrator.Sessions

open Provisr.Foundation
open Provisr.Audit (AuditRow)
open Provisr.Backend.Manifest (uuidIn textIn SqlError answers)
open Provisr.Events (ChatDb SseRow SseKey)

section Rows

inductive SessionStatus where
  | active
  | archived
  | deleted
  deriving DecidableEq, Repr

structure SessionRow where
  workspaceId : String
  userId : String
  status : SessionStatus
  deriving DecidableEq

structure RunRow where
  id : String
  sessionId : String
  workspaceId : String
  requesterId : String
  prompt : String
  correlationId : String
  idempotencyKey : String
  state : WorkflowState
  stateVersion : Nat
  deriving DecidableEq

structure TurnRow where
  id : String
  sessionId : String
  workspaceId : String
  requesterId : String
  clientMessageId : String
  idempotencyKey : String
  requestFingerprint : String
  input : JsJson
  correlationId : String
  provisioningRunId : String
  deriving DecidableEq

structure MessageRow where
  sessionId : String
  workspaceId : String
  turnId : String
  role : String
  content : String
  deriving DecidableEq

structure Db where
  role : String → String → Option String
  deleted : String → Bool
  sessions : String → Option SessionRow
  runs : List RunRow
  turns : List TurnRow
  messages : List MessageRow
  audits : List AuditRow
  chat : ChatDb
  outbox : List SseRow

inductive Entry where
  | run (id : String)
  | runKey (idempotencyKey : String)
  | turn (id : String)
  | turnKey (workspaceId requesterId idempotencyKey : String)
  | clientMessage (sessionId clientMessageId : String)
  | turnRun (provisioningRunId : String)
  deriving DecidableEq

def RunRow.entries (row : RunRow) : List Entry := [.run row.id, .runKey row.idempotencyKey]

def TurnRow.entries (row : TurnRow) : List Entry :=
  [.turn row.id, .turnKey row.workspaceId row.requesterId row.idempotencyKey,
    .clientMessage row.sessionId row.clientMessageId, .turnRun row.provisioningRunId]

inductive Key where
  | session (id : String)
  | run (id : String)
  | entry (e : Entry)
  | advisory (key : String)
  | sequence (workspaceId : String)
  | outbox (key : SseKey)
  deriving DecidableEq

-- UPDATE ... SET state = $1, state_version = state_version + 1 WHERE state_version = $4, of a run that was found in a
-- state it can leave. The UPDATE asks for that state too, or the row has been locked since it was found.
structure Advance where
  found : WorkflowState
  version : Nat
  state : WorkflowState
  live : found.isTerminal = false

inductive Write where
  | role (workspaceId userId : String) (role : Option String)
  | workspace (id : String) (deleted : Bool)
  | openSession (id workspaceId userId : String)
  | deleteSession (id : String)
  | run (row : RunRow)
  | advance (id : String) (a : Advance)
  | turn (row : TurnRow)
  | message (row : MessageRow)
  | audit (row : AuditRow)
  | chat (w : Events.Chat.Write)
  | outbox (row : SseRow)

def Advance.matches (a : Advance) (id : String) (row : RunRow) : Bool :=
  row.id == id && row.state == a.found && row.stateVersion == a.version

def Advance.update (a : Advance) (id : String) (row : RunRow) : RunRow :=
  if a.matches id row then { row with state := a.state, stateVersion := row.stateVersion + 1 } else row

def apply : Write → Db → Db
  | .role workspaceId userId role, d =>
    { d with role := fun w u => if w = workspaceId ∧ u = userId then role else d.role w u }
  | .workspace id deleted, d => { d with deleted := fun w => if w = id then deleted else d.deleted w }
  | .openSession id workspaceId userId, d =>
    { d with sessions := fun i =>
        if i = id then some ((d.sessions i).getD ⟨workspaceId, userId, .active⟩) else d.sessions i }
  | .deleteSession id, d =>
    { d with sessions := fun i =>
        if i = id then (d.sessions i).map fun row => { row with status := .deleted } else d.sessions i }
  | .run row, d => { d with runs := d.runs ++ [row] }
  | .advance id a, d => { d with runs := d.runs.map (a.update id) }
  | .turn row, d => { d with turns := d.turns ++ [row] }
  | .message row, d => { d with messages := d.messages ++ [row] }
  | .audit row, d => { d with audits := d.audits ++ [row] }
  | .chat w, d => { d with chat := Events.Chat.apply w d.chat }
  | .outbox row, d => { d with outbox := d.outbox ++ [row] }

end Rows

section Queries

-- VARCHAR(255): what is too long is an error, unless it is blanks that are too many.
def varcharIn (s : String) : Option String :=
  (textIn s).bind fun s =>
    if s.length ≤ 255 then some s
    else if (s.toList.drop 255).all (· == ' ') then some (String.ofList (s.toList.take 255)) else none

inductive Query where
  | membership (workspaceId userId : String)
  | workspaceMember (workspaceId userId : String)
  | mutationPermission (workspaceId userId : String)
  | approvalPermission (workspaceId userId : String)
  | turnByKey (workspaceId userId idempotencyKey : String)
  | runByKey (idempotencyKey : String)
  | liveRuns (sessionId workspaceId : String)

abbrev Query.Answer : Query → Type
  | .membership .. | .workspaceMember .. | .mutationPermission .. | .approvalPermission .. => Bool
  | .turnByKey .. => Option TurnRow
  | .runByKey _ => Option RunRow
  | .liveRuns .. => List WorkflowState

variable (d : Db)

def findTurn (workspaceId userId idempotencyKey : String) : Option TurnRow :=
  d.turns.find? fun t =>
    t.workspaceId == workspaceId && t.requesterId == userId && t.idempotencyKey == idempotencyKey

def findRun (idempotencyKey : String) : Option RunRow := d.runs.find? fun r => r.idempotencyKey == idempotencyKey

def mayMutate (role : Option String) : Bool := role == some "admin" || role == some "engineer"

def mayApprove (role : Option String) : Bool := role == some "admin" || role == some "approver"

-- A statement with a value its column cannot hold fails.
def Query.answer : (q : Query) → Option q.Answer
  | .membership workspaceId userId => do
    let workspaceId ← uuidIn workspaceId
    let userId ← uuidIn userId
    some (d.role workspaceId userId).isSome
  | .workspaceMember workspaceId userId => do
    let workspaceId ← uuidIn workspaceId
    let userId ← uuidIn userId
    some ((d.role workspaceId userId).isSome && !d.deleted workspaceId)
  | .mutationPermission workspaceId userId => do
    let workspaceId ← uuidIn workspaceId
    let userId ← uuidIn userId
    some (mayMutate (d.role workspaceId userId))
  | .approvalPermission workspaceId userId => do
    let workspaceId ← uuidIn workspaceId
    let userId ← uuidIn userId
    some (mayApprove (d.role workspaceId userId))
  | .turnByKey workspaceId userId idempotencyKey => do
    let workspaceId ← uuidIn workspaceId
    let userId ← uuidIn userId
    let idempotencyKey ← textIn idempotencyKey
    some (findTurn d workspaceId userId idempotencyKey)
  | .runByKey idempotencyKey => do
    let idempotencyKey ← textIn idempotencyKey
    some (findRun d idempotencyKey)
  | .liveRuns sessionId workspaceId => do
    let sessionId ← uuidIn sessionId
    let workspaceId ← uuidIn workspaceId
    some ((d.runs.filter fun r => r.sessionId == sessionId && r.workspaceId == workspaceId && !r.state.isTerminal).map
      RunRow.state)

def ownedSession (sessionId workspaceId userId : String) : Option SessionRow :=
  (d.sessions sessionId).filter fun s =>
    s.workspaceId == workspaceId && s.userId == userId && s.status == .active

def ownSession (sessionId workspaceId userId : String) : Option (Option SessionRow) := do
  let sessionId ← uuidIn sessionId
  let workspaceId ← uuidIn workspaceId
  let userId ← uuidIn userId
  some (ownedSession d sessionId workspaceId userId)

def selectRun (id workspaceId : String) : Option (Option RunRow) := do
  let id ← uuidIn id
  let workspaceId ← uuidIn workspaceId
  some (d.runs.find? fun r => r.id == id && r.workspaceId == workspaceId)

end Queries

section Statements

structure RunInsertion where
  id : String
  sessionId : String
  workspaceId : String
  requesterId : String
  prompt : String
  idempotencyKey : String
  correlationId : String

structure TurnInsertion where
  id : String
  sessionId : String
  workspaceId : String
  requesterId : String
  clientMessageId : String
  idempotencyKey : String
  requestFingerprint : String
  input : JsJson
  correlationId : String
  provisioningRunId : String

structure MessageInsertion where
  sessionId : String
  workspaceId : String
  turnId : String
  content : String

inductive Op where
  | select (q : Query)
  | lockSession (id workspaceId userId : String)
  | lockRun (id workspaceId : String)
  | advisoryLock (key : String)
  | insertSession (id workspaceId userId : String)
  | deleteSession (id workspaceId userId : String)
  | touchSession (id : String)
  | insertRun (row : RunInsertion)
  | updateRun (id : String) (workspaceId : Option String) (a : Advance)
  | insertTurn (row : TurnInsertion)
  | insertMessage (row : MessageInsertion)
  | audit (o : Audit.Op)
  | chat (o : Events.Chat.Op)
  | outbox (o : Events.Sse.Op)
  | setRole (workspaceId userId : String) (role : Option String)
  | setDeleted (workspaceId : String) (deleted : Bool)

abbrev Answer : Op → Type
  | .select q => q.Answer
  | .lockSession .. => Option SessionRow
  | .lockRun .. => Option RunRow
  | .deleteSession .. => Bool
  | .insertRun _ => RunRow
  | .updateRun .. => Option RunRow
  | .insertTurn _ => TurnRow
  | .audit o => Audit.Ret o
  | .chat o => Events.Chat.Ret o
  | .outbox o => Events.Sse.Ret o
  | _ => Unit

abbrev Ret (o : Op) : Type := Except SqlError (Answer o)

def insertedRun (row : RunInsertion) : Option RunRow := do
  let id ← uuidIn row.id
  let sessionId ← uuidIn row.sessionId
  let workspaceId ← uuidIn row.workspaceId
  let requesterId ← uuidIn row.requesterId
  let prompt ← textIn row.prompt
  let idempotencyKey ← varcharIn row.idempotencyKey
  let correlationId ← uuidIn row.correlationId
  some ⟨id, sessionId, workspaceId, requesterId, prompt, correlationId, idempotencyKey, .received, 0⟩

def insertedTurn (row : TurnInsertion) : Option TurnRow := do
  let id ← uuidIn row.id
  let sessionId ← uuidIn row.sessionId
  let workspaceId ← uuidIn row.workspaceId
  let requesterId ← uuidIn row.requesterId
  let clientMessageId ← uuidIn row.clientMessageId
  let idempotencyKey ← varcharIn row.idempotencyKey
  let correlationId ← uuidIn row.correlationId
  let provisioningRunId ← uuidIn row.provisioningRunId
  if row.input.storable then
    some ⟨id, sessionId, workspaceId, requesterId, clientMessageId, idempotencyKey, row.requestFingerprint,
      Json.jsonb row.input, correlationId, provisioningRunId⟩
  else none

def insertedMessage (row : MessageInsertion) : Option MessageRow := do
  let sessionId ← uuidIn row.sessionId
  let workspaceId ← uuidIn row.workspaceId
  let turnId ← uuidIn row.turnId
  let content ← textIn row.content
  some ⟨sessionId, workspaceId, turnId, "user", content⟩

def sessionExists (d : Db) (sessionId workspaceId : String) : Prop :=
  ∃ row, d.sessions sessionId = some row ∧ row.workspaceId = workspaceId

def runExists (d : Db) (row : TurnRow) : Prop :=
  ∃ run ∈ d.runs, run.id = row.provisioningRunId ∧ run.sessionId = row.sessionId ∧ run.workspaceId = row.workspaceId

def turnExists (d : Db) (row : MessageRow) : Prop :=
  ∃ turn ∈ d.turns, turn.id = row.turnId ∧ turn.sessionId = row.sessionId ∧ turn.workspaceId = row.workspaceId

def takenRun (row : RunInsertion) (d : Db) : Prop :=
  ∃ inserted ∈ insertedRun row, ∃ r ∈ d.runs, ∃ e ∈ r.entries, e ∈ inserted.entries

def takenTurn (row : TurnInsertion) (d : Db) : Prop :=
  ∃ inserted ∈ insertedTurn row, ∃ t ∈ d.turns, ∃ e ∈ t.entries, e ∈ inserted.entries

-- An insertion waits for another of the same entry. One that fails ends its transaction.
def locks : Op → Db → Set Key
  | .lockSession id workspaceId userId, d =>
    { x | ∃ i ∈ uuidIn id, (∃ row, ownSession d id workspaceId userId = some (some row)) ∧ x = .session i }
  | .deleteSession id workspaceId userId, d =>
    { x | ∃ i ∈ uuidIn id, (∃ row, ownSession d id workspaceId userId = some (some row)) ∧ x = .session i }
  | .touchSession id, _ => { x | ∃ i ∈ uuidIn id, x = .session i }
  | .insertSession id _ _, _ => { x | ∃ i ∈ uuidIn id, x = .session i }
  | .lockRun id workspaceId, d =>
    { x | ∃ i ∈ uuidIn id, (∃ row, selectRun d id workspaceId = some (some row)) ∧ x = .run i }
  | .updateRun id _ _, _ => { x | ∃ i ∈ uuidIn id, x = .run i }
  | .advisoryLock key, _ => {.advisory key}
  | .insertRun row, d => { x | ¬ takenRun row d ∧ ∃ inserted ∈ insertedRun row, ∃ e ∈ inserted.entries, x = .entry e }
  | .insertTurn row, d =>
    { x | ¬ takenTurn row d ∧ ∃ inserted ∈ insertedTurn row, ∃ e ∈ inserted.entries, x = .entry e }
  | .audit o, d => { x | ∃ key ∈ Audit.locks o d.audits, x = .advisory key }
  | .chat o, d => { x | ∃ key ∈ Events.Chat.locks o d.chat, x = .sequence key }
  | .outbox o, d => { x | ∃ key ∈ Events.Sse.locks o d.outbox, x = .outbox key }
  | _, _ => ∅

-- A statement whose rows a constraint refuses, or that fails for reasons of its own.
def fails {α : Type} (r : Except SqlError α) (ws : List Write) : Prop := r = .error .other ∧ ws = []

def exec (faults : Bool) : (o : Op) → Db → Nat → Ret o → List Write → Nat → Prop
  | .select q, d, n, r, ws, n' => answers faults (q.answer d) r ∧ ws = [] ∧ n' = n
  | .lockSession id workspaceId userId, d, n, r, ws, n' =>
    answers faults (ownSession d id workspaceId userId) r ∧ ws = [] ∧ n' = n
  | .lockRun id workspaceId, d, n, r, ws, n' => answers faults (selectRun d id workspaceId) r ∧ ws = [] ∧ n' = n
  | .advisoryLock _, _, n, r, ws, n' => answers faults (some ()) r ∧ ws = [] ∧ n' = n
  | .insertSession id workspaceId userId, d, n, r, ws, n' =>
    ((∃ i w u, uuidIn id = some i ∧ uuidIn workspaceId = some w ∧ uuidIn userId = some u ∧ d.sessions i = none ∧
        r = .ok () ∧ ws = [.openSession i w u]) ∨ fails r ws) ∧ n' = n
  | .deleteSession id workspaceId userId, d, n, r, ws, n' =>
    ((∃ i row, uuidIn id = some i ∧ ownSession d id workspaceId userId = some (some row) ∧ r = .ok true ∧
        ws = [.deleteSession i]) ∨
      (ownSession d id workspaceId userId = some none ∧ r = .ok false ∧ ws = []) ∨ fails r ws) ∧ n' = n
  -- updated_at is read by nothing that is modelled here.
  | .touchSession id, _, n, r, ws, n' => answers faults ((uuidIn id).map fun _ => ()) r ∧ ws = [] ∧ n' = n
  | .insertRun row, d, n, r, ws, n' =>
    ((∃ inserted, insertedRun row = some inserted ∧ sessionExists d inserted.sessionId inserted.workspaceId ∧
        ¬ takenRun row d ∧ r = .ok inserted ∧ ws = [.run inserted]) ∨
      (takenRun row d ∧ r = .error .uniqueViolation ∧ ws = []) ∨ fails r ws) ∧ n' = n
  | .updateRun id workspaceId a, d, n, r, ws, n' =>
    ((∃ i row, uuidIn id = some i ∧ row ∈ d.runs ∧ row.id = i ∧ (∀ w ∈ workspaceId, uuidIn w = some row.workspaceId) ∧
        a.matches i row = true ∧ r = .ok (some (a.update i row)) ∧ ws = [.advance i a]) ∨
      ((∃ i, uuidIn id = some i ∧ ∀ row ∈ d.runs, row.id = i → (∀ w ∈ workspaceId, uuidIn w = some row.workspaceId) →
        a.matches i row = false) ∧ r = .ok none ∧ ws = []) ∨ fails r ws) ∧ n' = n
  | .insertTurn row, d, n, r, ws, n' =>
    ((∃ inserted, insertedTurn row = some inserted ∧ runExists d inserted ∧ ¬ takenTurn row d ∧ r = .ok inserted ∧
        ws = [.turn inserted]) ∨
      (takenTurn row d ∧ r = .error .uniqueViolation ∧ ws = []) ∨ fails r ws) ∧ n' = n
  | .insertMessage row, d, n, r, ws, n' =>
    ((∃ inserted, insertedMessage row = some inserted ∧ turnExists d inserted ∧ r = .ok () ∧
        ws = [.message inserted]) ∨ fails r ws) ∧ n' = n
  | .audit o, d, n, r, ws, n' =>
    (∃ a rows, r = .ok a ∧ Audit.exec o d.audits n a rows n' ∧ ws = rows.map .audit) ∨ fails r ws ∧ n' = n
  | .chat o, d, n, r, ws, n' =>
    (∃ a rows, r = .ok a ∧ Events.Chat.exec o d.chat n a rows n' ∧ ws = rows.map .chat) ∨ fails r ws ∧ n' = n
  | .outbox o, d, n, r, ws, n' =>
    (∃ a rows, r = .ok a ∧ Events.Sse.exec o d.outbox n a rows n' ∧ ws = rows.map .outbox) ∨ fails r ws ∧ n' = n
  | .setRole workspaceId userId role, _, n, r, ws, n' =>
    (r = .ok () ∧ ws = [.role workspaceId userId role] ∨ fails r ws) ∧ n' = n
  | .setDeleted workspaceId deleted, _, n, r, ws, n' =>
    (r = .ok () ∧ ws = [.workspace workspaceId deleted] ∨ fails r ws) ∧ n' = n

end Statements

end Provisr.Orchestrator.Sessions
