import Provisr.Foundation.JsNumeric
import Provisr.Foundation.Zod

namespace Provisr.Frontend

open Provisr.Foundation

inductive SSEEventType where
  | assistantMessage
  | componentPayload
  | runStateChanged
  | toolCallSummary
  | clarificationQuestion
  | error
  | runCompleted
  | keepalive
  deriving DecidableEq, Repr

def SSEEventType.label : SSEEventType → String
  | .assistantMessage => "assistant_message"
  | .componentPayload => "component_payload"
  | .runStateChanged => "run_state_changed"
  | .toolCallSummary => "tool_call_summary"
  | .clarificationQuestion => "clarification_question"
  | .error => "error"
  | .runCompleted => "run_completed"
  | .keepalive => "keepalive"

def sseEventTypes : List SSEEventType :=
  [.assistantMessage, .componentPayload, .runStateChanged, .toolCallSummary, .clarificationQuestion, .error,
    .runCompleted, .keepalive]

def isSSEEventType (value : Option String) : Option SSEEventType :=
  value.bind fun v => sseEventTypes.find? fun type => type.label == v

inductive SSEStatus where
  | connecting
  | connected
  | reconnecting
  | disconnected
  deriving DecidableEq, Repr

structure SSESnapshot where
  status : SSEStatus
  lastEventId : Option String
  deriving DecidableEq

-- `data` is what JSON.parse makes of the text of the message, if it can be parsed.
structure MessageEvent where
  type : String
  data : Option JsJson
  lastEventId : String

structure SSEEvent where
  type : SSEEventType
  id : Option String
  data : JsJson
  deriving DecidableEq

structure EventsUrl where
  workspaceId : String
  token : String
  lastEventId : Option String
  deriving DecidableEq

structure SSEClientOptions where
  workspaceId : String
  initialBackoffMs : Nat := 1000
  maxBackoffMs : Nat := 30000

structure SSEClient where
  es : Option Nat
  timer : Option Nat
  attempt : Nat
  stopped : Bool
  currentStatus : SSEStatus
  currentLastEventId : Option String
  deriving DecidableEq

def SSEClient.new : SSEClient := ⟨none, none, 0, true, .disconnected, none⟩

structure EventSource where
  url : EventsUrl
  closed : Bool
  deriving DecidableEq

-- The client with what it has set going: calls of getToken without an answer, timers that have not fired, event
-- sources in the order of their construction; and what it has passed to the bus and to its subscribers.
structure Page where
  client : SSEClient
  tokenRequests : Nat
  timers : List (Nat × Nat)
  timersSet : Nat
  sources : List EventSource
  emitted : List SSEEvent
  snapshots : List SSESnapshot
  deriving DecidableEq

def Page.new : Page := ⟨.new, 0, [], 0, [], [], []⟩

def resolveEventType (evt : MessageEvent) (parsed : JsJson) : Option String :=
  if evt.type ≠ "" ∧ evt.type ≠ "message" then some evt.type
  else match parsed.get? "type" with
    | some (.str type) => some type
    | _ => none

def unwrapData (parsed : JsJson) : JsJson := (parsed.get? "data").getD parsed

def parseSequenceId (raw : String) : Option Int := JsNumeric.safeInteger raw

namespace Page

variable (options : SSEClientOptions) (p : Page)

def notify : Page :=
  { p with snapshots := p.snapshots ++ [⟨p.client.currentStatus, p.client.currentLastEventId⟩] }

def setStatus (status : SSEStatus) : Page :=
  if p.client.currentStatus = status then p
  else notify { p with client := { p.client with currentStatus := status } }

def setLastEventId (id : String) : Page :=
  if p.client.currentLastEventId = some id then p
  else notify { p with client := { p.client with currentLastEventId := some id } }

-- setTimeout
def setTimer (delay : Nat) : Page :=
  { p with
    client := { p.client with timer := some p.timersSet }
    timers := p.timers ++ [(p.timersSet, delay)]
    timersSet := p.timersSet + 1 }

def scheduleReconnect : Page :=
  let p := p.setStatus .reconnecting
  let exponent := min p.client.attempt 30
  let delay := min (options.initialBackoffMs * 2 ^ exponent) options.maxBackoffMs
  setTimer { p with client := { p.client with attempt := p.client.attempt + 1 } } delay

def openConnection : Page := if p.client.stopped then p else { p with tokenRequests := p.tokenRequests + 1 }

def connect : Page :=
  if !p.client.stopped then p
  else (setStatus { p with client := { p.client with stopped := false } } .connecting).openConnection

-- es.close()
def close (i : Nat) : Page := { p with sources := p.sources.modify i fun source => { source with closed := true } }

def clearTimer : Page :=
  match p.client.timer with
  | some id => { p with timers := p.timers.filter fun t => t.1 != id, client := { p.client with timer := none } }
  | none => p

def closeSource : Page :=
  match p.client.es with
  | some i => { p.close i with client := { p.client with es := none } }
  | none => p

def disconnect : Page :=
  let p := clearTimer { p with client := { p.client with stopped := true } }
  (closeSource { p with client := { p.client with attempt := 0 } }).setStatus .disconnected

def buildUrl (token : String) : EventsUrl :=
  ⟨options.workspaceId, token, p.client.currentLastEventId.filter fun id => id ≠ ""⟩

-- What follows the await of openConnection: an answer of getToken, none where it has failed. The event source
-- may be refused.
def resume (answer : Option (Option String)) (constructed : Bool) : Page :=
  let p := { p with tokenRequests := p.tokenRequests - 1 }
  match answer with
  | none => if p.client.stopped then p else p.scheduleReconnect options
  | some token =>
    if p.client.stopped then p
    else match token.filter fun t => t ≠ "" with
      | none => setStatus { p with client := { p.client with stopped := true, attempt := 0 } } .disconnected
      | some token =>
        if constructed then
          { p with
            sources := p.sources ++ [⟨p.buildUrl options token, false⟩]
            client := { p.client with es := some p.sources.length } }
        else p.scheduleReconnect options

def fire (id : Nat) : Page :=
  openConnection { p with
    timers := p.timers.filter fun t => t.1 != id
    client := { p.client with timer := none } }

def onopen (i : Nat) : Page :=
  if p.client.es ≠ some i ∨ p.client.stopped = true then p
  else setStatus { p with client := { p.client with attempt := 0 } } .connected

def isDuplicateOrOld (id : String) : Bool :=
  match p.client.currentLastEventId with
  | none => false
  | some last =>
    if last = "" then false
    else if last = id then true
    else match parseSequenceId id, parseSequenceId last with
      | some incoming, some previous => decide (incoming ≤ previous)
      | _, _ => false

def emit (event : SSEEvent) : Page := { p with emitted := p.emitted ++ [event] }

def handleMessage (evt : MessageEvent) : Page :=
  match evt.data with
  | none => p
  | some parsed =>
    match isSSEEventType (resolveEventType evt parsed) with
    | none => p
    | some type =>
      let id := if evt.lastEventId = "" then none else some evt.lastEventId
      match id with
      | some id =>
        if type ≠ .keepalive then
          if p.isDuplicateOrOld id then p
          else (p.setLastEventId id).emit ⟨type, some id, unwrapData parsed⟩
        else p.emit ⟨type, some id, unwrapData parsed⟩
      | none => p.emit ⟨type, none, unwrapData parsed⟩

def onmessage (i : Nat) (evt : MessageEvent) : Page :=
  if p.client.es ≠ some i ∨ p.client.stopped = true then p else p.handleMessage evt

def detach (i : Nat) : Page :=
  if p.client.es = some i then { p with client := { p.client with es := none } } else p

def handleError (i : Nat) : Page :=
  let p := (p.close i).detach i
  if p.client.stopped then p else p.scheduleReconnect options

def onerror (i : Nat) : Page := if p.client.es ≠ some i then p else p.handleError options i

end Page

end Provisr.Frontend
