import Provisr.Foundation.Interleaving
import Provisr.Foundation.JsText
import Provisr.Foundation.Zod
import Mathlib.Data.List.MinMax
import Mathlib.Data.Prod.Lex
import Mathlib.Data.String.Basic

namespace Provisr.Events

open Provisr.Foundation

-- Milliseconds. PostgreSQL and the workers each have a clock.
abbrev Time := Nat

inductive EventStatus where
  | pending
  | publishing
  | sent
  | failed
  deriving DecidableEq, Repr

structure OutboxRow where
  id : String
  eventId : String
  workspaceId : String
  eventType : String
  correlationId : String
  payload : JsJson
  createdAt : Time
  status : EventStatus
  deliveryAttempts : Nat
  nextAttemptAt : Time
  lockedUntil : Option Time
  lastError : Option String
  publishedAt : Option Time
  updatedAt : Time
  deriving DecidableEq

structure OutboxEvent where
  id : String
  eventId : String
  workspaceId : String
  eventType : String
  correlationId : String
  payload : JsJson
  createdAt : Time
  deliveryAttempts : Nat
  deriving DecidableEq

def toOutboxEvent (row : OutboxRow) : OutboxEvent :=
  ⟨row.id, row.eventId, row.workspaceId, row.eventType, row.correlationId, row.payload, row.createdAt,
    row.deliveryAttempts⟩

namespace PostgresOutboxStore

def claimable (now : Time) (row : OutboxRow) : Bool :=
  (row.status == .pending && decide (row.nextAttemptAt ≤ now)) ||
    (row.status == .publishing && row.lockedUntil.any fun u => decide (u ≤ now))

-- ORDER BY created_at ASC, id ASC
def order (row : OutboxRow) : Time ×ₗ String := toLex (row.createdAt, row.id)

-- LIMIT 1 FOR UPDATE SKIP LOCKED: rows that other transactions hold are left out.
def nextEvent (now : Time) (skipped : List String) (rows : List OutboxRow) : Option OutboxRow :=
  (rows.filter fun row => claimable now row && !skipped.contains row.id).argmin order

def claimed (now : Time) (row : OutboxRow) : OutboxRow :=
  { row with
    status := .publishing
    deliveryAttempts := row.deliveryAttempts + 1
    lockedUntil := some (now + 30000)
    updatedAt := now }

def claimOldestPending (now : Time) (skipped : List String) (rows : List OutboxRow) :
    Option OutboxEvent × List OutboxRow :=
  match nextEvent now skipped rows with
  | none => (none, rows)
  | some next =>
    (some (toOutboxEvent (claimed now next)),
      rows.map fun row => if row.id = next.id then claimed now row else row)

-- UPDATE ... WHERE event_id = $1 AND status = 'publishing'
def outcome (change : OutboxRow → OutboxRow) (eventId : String) (rows : List OutboxRow) : List OutboxRow :=
  rows.map fun row => if row.eventId = eventId ∧ row.status = .publishing then change row else row

-- error.slice(0, 2000) counts UTF-16 units; half of a pair is written as U+FFFD.
def slice : Nat → List Char → List Char
  | _, [] => []
  | n, c :: cs =>
    if JsText.utf16Units c ≤ n then c :: slice (n - JsText.utf16Units c) cs
    else if n = 1 then [Char.ofNat 0xFFFD] else []

def errorText (error : String) : String := String.ofList (slice 2000 error.toList)

def markPublished (now : Time) (eventId : String) : List OutboxRow → List OutboxRow :=
  outcome (fun row => { row with
    status := .sent, publishedAt := some now, lockedUntil := none, lastError := none, updatedAt := now }) eventId

def reschedule (now : Time) (eventId : String) (_attempt : Nat) (nextAttemptAt : Time) (error : String) :
    List OutboxRow → List OutboxRow :=
  outcome (fun row => { row with
    status := .pending, nextAttemptAt := nextAttemptAt, lockedUntil := none, lastError := some (errorText error),
    updatedAt := now }) eventId

def markFailed (now : Time) (eventId : String) (_attempt : Nat) (error : String) :
    List OutboxRow → List OutboxRow :=
  outcome (fun row => { row with
    status := .failed, lockedUntil := none, lastError := some (errorText error), updatedAt := now }) eventId

end PostgresOutboxStore

namespace OutboxPublisherService

def maxDeliveryAttempts : Nat := 3

inductive Op where
  | claimOldestPending
  | publish (event : OutboxEvent)
  | markPublished (eventId : String)
  | reschedule (eventId : String) (attempt : Nat) (nextAttemptAt : Time) (error : String)
  | markFailed (eventId : String) (attempt : Nat) (error : String)
  | now

abbrev Thrown := Option String

abbrev Ret : Op → Type
  | .claimOldestPending => Except Thrown (Option OutboxEvent)
  | .now => Time
  | _ => Except Thrown Unit

inductive Result where
  | published
  | retried
  | failed
  | empty
  deriving DecidableEq, Repr

def delayMs (deliveryAttempts : Nat) : Nat := 1000 * 2 ^ (deliveryAttempts - 1)

def giveUp (event : OutboxEvent) (message : String) : Prog Ret (Except Thrown Result) := do
  match ← Prog.call (Op.markFailed event.eventId event.deliveryAttempts message) with
  | .error e => pure (.error e)
  | .ok _ => pure (.ok .failed)

def backOff (event : OutboxEvent) (message : String) (now : Time) : Prog Ret (Except Thrown Result) := do
  match ← Prog.call (Op.reschedule event.eventId event.deliveryAttempts
      (now + delayMs event.deliveryAttempts) message) with
  | .error e => pure (.error e)
  | .ok _ => pure (.ok .retried)

def refuse (event : OutboxEvent) (error : Thrown) : Prog Ret (Except Thrown Result) :=
  let message := error.getD "unknown SSE publish error"
  if event.deliveryAttempts ≥ maxDeliveryAttempts then giveUp event message
  else do
    let now ← Prog.call Op.now
    backOff event message now

def confirm (event : OutboxEvent) : Prog Ret (Except Thrown Result) := do
  match ← Prog.call (Op.markPublished event.eventId) with
  | .error e => refuse event e
  | .ok _ => pure (.ok .published)

def deliver (event : OutboxEvent) : Prog Ret (Except Thrown Result) := do
  match ← Prog.call (Op.publish event) with
  | .error e => refuse event e
  | .ok _ => confirm event

def publishNext : Prog Ret (Except Thrown Result) := do
  match ← Prog.call Op.claimOldestPending with
  | .error e => pure (.error e)
  | .ok none => pure (.ok .empty)
  | .ok (some event) => deliver event

end OutboxPublisherService

open OutboxPublisherService PostgresOutboxStore

-- `handed` lists what the publisher was given.
structure Outbox where
  now : Time
  rows : List OutboxRow
  handed : List OutboxEvent

-- A statement that throws may have been carried out all the same.
def written (s : Outbox) (f : List OutboxRow → List OutboxRow) {α : Type} (r : Except Thrown α) (s' : Outbox) :
    Prop :=
  s' = { s with rows := f s.rows } ∨ (r.isOk = false ∧ s' = s)

def OutboxPublisherService.exec (skipped : List String) : (o : Op) → Outbox → Ret o → Outbox → Prop
  | .claimOldestPending, s, r, s' =>
    (∀ event, r = .ok event → event = (PostgresOutboxStore.claimOldestPending s.now skipped s.rows).1) ∧
      written s (fun rows => (PostgresOutboxStore.claimOldestPending s.now skipped rows).2) r s'
  | .publish event, s, _, s' => s' = { s with handed := s.handed ++ [event] }
  | .markPublished eventId, s, r, s' => written s (PostgresOutboxStore.markPublished s.now eventId) r s'
  | .reschedule eventId attempt nextAttemptAt error, s, r, s' =>
    written s (PostgresOutboxStore.reschedule s.now eventId attempt nextAttemptAt error) r s'
  | .markFailed eventId attempt error, s, r, s' =>
    written s (PostgresOutboxStore.markFailed s.now eventId attempt error) r s'
  | .now, s, _, s' => s' = s

inductive Outbox.Ambient : Outbox → Outbox → Prop
  | tick (s : Outbox) (now : Time) (later : s.now ≤ now) : Ambient s { s with now := now }
  | create (s : Outbox) (row : OutboxRow) (fresh : row.id ∉ s.rows.map OutboxRow.id)
      (unique : row.eventId ∉ s.rows.map OutboxRow.eventId) (pending : row.status = .pending)
      (attempts : row.deliveryAttempts = 0) : Ambient s { s with rows := s.rows ++ [row] }

end Provisr.Events
