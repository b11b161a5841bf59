import Provisr.Events.SsePublish

namespace Provisr.Events

open Provisr.Foundation

structure Message where
  id : Option String
  type : String
  data : JsJson
  deriving DecidableEq

def SseRow.message (r : SseRow) : Message := ⟨some r.eventId, r.eventType, r.payload⟩

inductive HttpError where
  | forbidden (message : String)
  | badRequest (message : String)
  deriving DecidableEq

def SseController.events (rows : List SseRow) (member : Bool) (workspaceId : String)
    (lastEventId : Option String) : Except HttpError Nat :=
  if member = false then .error (.forbidden "Workspace membership required")
  else match lastEventId with
    | none => .ok 0
    | some id =>
      if id = "" then .ok 0
      else if JsText.isUuid id = false then .error (.badRequest "Invalid event cursor")
      else match rows.find? fun r => r.eventId.1 == id && r.workspaceId == workspaceId with
        | some r => .ok r.streamSequence
        | none => .error (.badRequest "Unknown event cursor")

def keepalive (workspaceId : String) : Message := ⟨none, "keepalive", .obj [("workspaceId", .str workspaceId)]⟩

def nextRows (workspaceId : String) (rows : List SseRow) (cursor : Nat) : List SseRow :=
  batch SseRow.streamSequence 250 cursor (inWorkspace workspaceId rows)

def SseController.poll (workspaceId : String) (rows : List SseRow) (cursor : Nat) : List Message × Nat :=
  let result := nextRows workspaceId rows cursor
  (if result = [] then [keepalive workspaceId] else result.map SseRow.message,
    tail SseRow.streamSequence cursor result)

structure Connection where
  cursor : Nat
  transit : List Message

structure Client where
  received : List Message
  lastEventId : Option String
  connection : Option Connection

def Client.connected (c : Client) (connection : Connection) : Client := { c with connection := some connection }

def Client.disconnected (c : Client) : Client := { c with connection := none }

structure Stream where
  database : SseDatabase
  client : Client

inductive Move where
  | database
  | connect
  | poll
  | receive
  | disconnect
  deriving DecidableEq

-- A message without an id leaves the last event id as it is.
inductive Stream.Step (workspaceId : String) : Move → Stream → Stream → Prop
  | database (s : Stream) (database : SseDatabase) (step : sseEngine.Step s.database database) :
      Step workspaceId .database s ⟨database, s.client⟩
  | connect (s : Stream) (cursor : Nat) (closed : s.client.connection = none)
      (accepted : SseController.events s.database.committed true workspaceId s.client.lastEventId = .ok cursor) :
      Step workspaceId .connect s ⟨s.database, s.client.connected ⟨cursor, []⟩⟩
  | poll (s : Stream) (c : Connection) (open' : s.client.connection = some c) :
      Step workspaceId .poll s ⟨s.database, s.client.connected
        ⟨(SseController.poll workspaceId s.database.committed c.cursor).2,
          c.transit ++ (SseController.poll workspaceId s.database.committed c.cursor).1⟩⟩
  | receive (s : Stream) (c : Connection) (m : Message) (rest : List Message)
      (open' : s.client.connection = some c) (next : c.transit = m :: rest) :
      Step workspaceId .receive s ⟨s.database,
        ⟨s.client.received ++ [m], m.id.or s.client.lastEventId, some ⟨c.cursor, rest⟩⟩⟩
  | disconnect (s : Stream) (c : Connection) (open' : s.client.connection = some c) :
      Step workspaceId .disconnect s ⟨s.database, s.client.disconnected⟩

inductive Stream.Run (workspaceId : String) : List Move → Stream → Stream → Prop
  | nil (s : Stream) : Run workspaceId [] s s
  | cons {m : Move} {moves : List Move} {s s' s'' : Stream} (step : Step workspaceId m s s')
      (rest : Run workspaceId moves s' s'') : Run workspaceId (m :: moves) s s''

def isEvent (m : Message) : Bool := m.id.isSome

def Client.delivered (c : Client) : List Message := c.received.filter isEvent

def eventsAbove (workspaceId : String) (cursor : Nat) (rows : List SseRow) : List SseRow :=
  (after SseRow.streamSequence cursor (inWorkspace workspaceId rows)).mergeSort fun a b =>
    decide (a.streamSequence ≤ b.streamSequence)

section Lookup

theorem eq_of_length_le_one {α : Type} {l : List α} (h : l.length ≤ 1) {x y : α} (hx : x ∈ l) (hy : y ∈ l) :
    x = y := by
  cases l with
  | nil => cases hx
  | cons a l =>
    have hnil : l = [] := List.length_eq_zero_iff.mp (Nat.le_zero.mp (Nat.le_of_succ_le_succ h))
    rw [hnil, List.mem_singleton] at hx hy
    rw [hx, hy]

variable {rows new : List SseRow} {workspaceId : String}

theorem events_grow {lastEventId : Option String} {cursor : Nat}
    (h : SseController.events rows true workspaceId lastEventId = .ok cursor) :
    SseController.events (rows ++ new) true workspaceId lastEventId = .ok cursor := by
  unfold SseController.events at h ⊢
  cases lastEventId with
  | none => exact h
  | some id =>
    by_cases hempty : id = ""
    · simpa [hempty] using h
    · by_cases huuid : JsText.isUuid id = false
      · simp [hempty, huuid] at h
      · simp only [hempty, huuid, if_false, reduceCtorEq] at h ⊢
        rw [List.find?_append]
        cases hf : rows.find? fun r => r.eventId.1 == id && r.workspaceId == workspaceId with
        | none => rw [hf] at h; cases h
        | some r => rw [hf] at h; exact h

theorem events_delivered {r : SseRow} (mem : r ∈ inWorkspace workspaceId rows)
    (one : (withEventId r.eventId rows).length ≤ 1) :
    SseController.events rows true workspaceId (some r.eventId) = .ok r.streamSequence := by
  obtain ⟨hr, hws⟩ := List.mem_filter.mp mem
  have hne : r.eventId.1 ≠ "" := by
    intro e
    have := r.eventId.2
    rw [e] at this
    exact absurd this (by decide)
  have found : rows.find? (fun x => x.eventId.1 == r.eventId.1 && x.workspaceId == workspaceId) = some r := by
    cases hf : rows.find? fun x => x.eventId.1 == r.eventId.1 && x.workspaceId == workspaceId with
    | none =>
      have := List.find?_eq_none.mp hf r hr
      simp [beq_iff_eq.mp hws] at this
    | some x =>
      have hx := List.mem_of_find?_eq_some hf
      have hp := List.find?_some hf
      simp only [Bool.and_eq_true, beq_iff_eq] at hp
      have same : x.eventId = r.eventId := Subtype.ext hp.1
      have hxm : x ∈ withEventId r.eventId rows := List.mem_filter.mpr ⟨hx, by rw [same, beq_self_eq_true]⟩
      have hrm : r ∈ withEventId r.eventId rows := List.mem_filter.mpr ⟨hr, beq_self_eq_true _⟩
      exact congrArg some (eq_of_length_le_one one hxm hrm)
  unfold SseController.events
  simp [hne, r.eventId.2, found]

theorem events_reached {lastEventId : Option String} {cursor : Nat}
    (h : SseController.events rows true workspaceId lastEventId = .ok cursor) :
    Reached SseRow.streamSequence (inWorkspace workspaceId rows) cursor := by
  unfold SseController.events at h
  cases lastEventId with
  | none => exact Or.inl (Except.ok.inj h).symm
  | some id =>
    by_cases hempty : id = ""
    · simp only [hempty, if_true, reduceCtorEq, if_false] at h
      exact Or.inl (Except.ok.inj h).symm
    · by_cases huuid : JsText.isUuid id = false
      · simp [hempty, huuid] at h
      · simp only [hempty, huuid, if_false, reduceCtorEq] at h
        cases hf : rows.find? fun r => r.eventId.1 == id && r.workspaceId == workspaceId with
        | none => rw [hf] at h; cases h
        | some r =>
          rw [hf] at h
          have hp := List.find?_some hf
          rw [Bool.and_eq_true] at hp
          exact Or.inr ⟨r, List.mem_filter.mpr ⟨List.mem_of_find?_eq_some hf, hp.2⟩, Except.ok.inj h⟩

end Lookup

-- What a client has been sent: all events between the cursor it began with and the last one it received,
-- and behind them on the wire those up to the cursor of the server.
structure Following (workspaceId : String) (start : Nat) (s : Stream) (last : Nat) : Prop where
  holds : sseLocking.Holds s.database
  reached : Reached SseRow.streamSequence (inWorkspace workspaceId s.database.committed) last
  above : start ≤ last
  accepted : SseController.events s.database.committed true workspaceId s.client.lastEventId = .ok last
  delivered : s.client.delivered =
    (between SseRow.streamSequence start last (inWorkspace workspaceId s.database.committed)).map SseRow.message
  transit : ∀ c, s.client.connection = some c →
    last ≤ c.cursor ∧ Reached SseRow.streamSequence (inWorkspace workspaceId s.database.committed) c.cursor ∧
      c.transit.filter isEvent =
        (between SseRow.streamSequence last c.cursor (inWorkspace workspaceId s.database.committed)).map
          SseRow.message

section Steps

variable {workspaceId : String} {start last : Nat} {s s' : Stream}

theorem Holds.ascending {d : SseDatabase} (h : sseLocking.Holds d) (workspaceId : String) :
    Ascending SseRow.streamSequence (inWorkspace workspaceId d.committed) :=
  (h.inv (.workspace workspaceId)).1

theorem Holds.one {d : SseDatabase} (h : sseLocking.Holds d) (id : Uuid) :
    (withEventId id d.committed).length ≤ 1 :=
  h.inv (.event id)

theorem filter_message (rows : List SseRow) :
    (rows.map SseRow.message).filter isEvent = rows.map SseRow.message := by
  refine List.filter_eq_self.mpr ?_
  intro m hm
  obtain ⟨r, -, rfl⟩ := List.mem_map.mp hm
  rfl

theorem inWorkspace_append (rows new : List SseRow) :
    inWorkspace workspaceId (rows ++ new) = inWorkspace workspaceId rows ++ inWorkspace workspaceId new :=
  List.filter_append ..

-- What is committed later lies above everything that has been reached.
theorem Following.database (h : Following workspaceId start s last) {database : SseDatabase}
    (step : sseEngine.Step s.database database) : Following workspaceId start ⟨database, s.client⟩ last := by
  obtain ⟨new, hnew⟩ := committed_grows step
  have holds := h.holds.step step
  have asc := Holds.ascending holds workspaceId
  have positive : ∀ r ∈ inWorkspace workspaceId new, 0 < r.streamSequence := by
    intro r hr
    have bounds := (holds.inv (.workspace workspaceId)).2
    refine (bounds r ?_).1
    change r ∈ inWorkspace workspaceId database.committed
    rw [hnew, inWorkspace_append]
    exact List.mem_append.mpr (Or.inr hr)
  rw [hnew, inWorkspace_append] at asc
  have grow : ∀ {a b : Nat}, Reached SseRow.streamSequence (inWorkspace workspaceId s.database.committed) b →
      between SseRow.streamSequence a b (inWorkspace workspaceId database.committed) =
        between SseRow.streamSequence a b (inWorkspace workspaceId s.database.committed) := by
    intro a b reached
    rw [hnew, inWorkspace_append]
    exact between_grow fun r hr => reached.below asc positive hr
  refine ⟨holds, ?_, h.above, ?_, ?_, ?_⟩
  · rw [hnew, inWorkspace_append]
    exact h.reached.append _
  · rw [hnew]
    exact events_grow h.accepted
  · rw [grow h.reached]
    exact h.delivered
  · intro c hc
    obtain ⟨le, reached, sent⟩ := h.transit c hc
    refine ⟨le, ?_, ?_⟩
    · rw [hnew, inWorkspace_append]
      exact reached.append _
    · rw [grow reached]
      exact sent

theorem Following.connect (h : Following workspaceId start s last) {cursor : Nat}
    (accepted : SseController.events s.database.committed true workspaceId s.client.lastEventId = .ok cursor) :
    Following workspaceId start ⟨s.database, s.client.connected ⟨cursor, []⟩⟩ last := by
  obtain rfl : last = cursor := Except.ok.inj (h.accepted.symm.trans accepted)
  refine ⟨h.holds, h.reached, h.above, h.accepted, h.delivered, ?_⟩
  intro c hc
  obtain rfl := Option.some.inj hc
  exact ⟨le_rfl, h.reached, by rw [between_self]; rfl⟩

theorem poll_events (workspaceId : String) (rows : List SseRow) (cursor : Nat) :
    (SseController.poll workspaceId rows cursor).1.filter isEvent =
      (nextRows workspaceId rows cursor).map SseRow.message := by
  unfold SseController.poll
  by_cases hnil : nextRows workspaceId rows cursor = []
  · simp [hnil, keepalive, isEvent]
  · simp only [hnil, if_false, filter_message]

theorem Following.poll (h : Following workspaceId start s last) {c : Connection}
    (hc : s.client.connection = some c) :
    Following workspaceId start ⟨s.database, s.client.connected
      ⟨(SseController.poll workspaceId s.database.committed c.cursor).2,
        c.transit ++ (SseController.poll workspaceId s.database.committed c.cursor).1⟩⟩ last := by
  have asc := Holds.ascending h.holds workspaceId
  obtain ⟨le, reached, sent⟩ := h.transit c hc
  obtain ⟨further, reached'⟩ := @batch_tail _ _ _ _ 250 asc reached
  refine ⟨h.holds, h.reached, h.above, h.accepted, h.delivered, ?_⟩
  intro d hd
  obtain rfl := Option.some.inj hd
  refine ⟨le.trans further, reached', ?_⟩
  rw [List.filter_append, sent, poll_events, ← List.map_append]
  exact congrArg _ (between_poll asc reached le)

theorem Following.receive (h : Following workspaceId start s last) {c : Connection} {m : Message}
    {rest : List Message} (hc : s.client.connection = some c) (next : c.transit = m :: rest) :
    ∃ last', Following workspaceId start ⟨s.database,
      ⟨s.client.received ++ [m], m.id.or s.client.lastEventId, some ⟨c.cursor, rest⟩⟩⟩ last' := by
  have asc := Holds.ascending h.holds workspaceId
  obtain ⟨le, reached, sent⟩ := h.transit c hc
  rw [next] at sent
  cases hid : m.id with
  | none =>
    have silent : isEvent m = false := by simp [isEvent, hid]
    refine ⟨last, h.holds, h.reached, h.above, h.accepted, ?_, ?_⟩
    · rw [← h.delivered]
      simp [Client.delivered, silent]
    · intro d hd
      obtain rfl := Option.some.inj hd
      rw [List.filter_cons_of_neg (by simp [silent])] at sent
      exact ⟨le, reached, sent⟩
  | some id =>
    have event : isEvent m = true := by simp [isEvent, hid]
    rw [List.filter_cons_of_pos event] at sent
    obtain ⟨r, later, hrows, rfl, hlater⟩ := List.map_eq_cons_iff.mp sent.symm
    obtain ⟨hlt, hle, hdelivered, hrest⟩ := between_receive asc hrows h.above
    have mem : r ∈ inWorkspace workspaceId s.database.committed := by
      have : r ∈ between SseRow.streamSequence last c.cursor (inWorkspace workspaceId s.database.committed) := by
        rw [hrows]
        exact List.mem_cons_self
      exact (List.mem_filter.mp this).1
    refine ⟨r.streamSequence, h.holds, Or.inr ⟨r, mem, rfl⟩, h.above.trans hlt.le, ?_, ?_, ?_⟩
    · obtain rfl : r.eventId.1 = id := Option.some.inj hid
      exact events_delivered mem (Holds.one h.holds _)
    · rw [← hdelivered, List.map_append, ← h.delivered]
      simp [Client.delivered, event]
    · intro d hd
      obtain rfl := Option.some.inj hd
      exact ⟨hle, reached, by rw [← hrest, hlater]⟩

theorem Following.disconnect (h : Following workspaceId start s last) :
    Following workspaceId start ⟨s.database, s.client.disconnected⟩ last :=
  ⟨h.holds, h.reached, h.above, h.accepted, h.delivered, fun _ hd => nomatch hd⟩

theorem Following.step (h : Following workspaceId start s last) {m : Move} (step : Stream.Step workspaceId m s s') :
    ∃ last', Following workspaceId start s' last' := by
  cases step with
  | database _ database step => exact ⟨last, h.database step⟩
  | connect _ cursor closed accepted => exact ⟨last, h.connect accepted⟩
  | poll _ c open' => exact ⟨last, h.poll open'⟩
  | receive _ c m rest open' next => exact h.receive open' next
  | disconnect _ c open' => exact ⟨last, h.disconnect⟩

theorem Following.run (h : Following workspaceId start s last) {moves : List Move}
    (run : Stream.Run workspaceId moves s s') : ∃ last', Following workspaceId start s' last' := by
  induction run generalizing last with
  | nil => exact ⟨last, h⟩
  | cons step rest ih =>
    obtain ⟨last', h'⟩ := h.step step
    exact ih h'

theorem Stream.Run.backlog {moves : List Move} (run : Stream.Run workspaceId moves s s')
    (h : Following workspaceId start s last) (stands : Move.disconnect ∉ moves) {c : Connection}
    (hc : s.client.connection = some c) {known : List SseRow}
    (grown : known <+: inWorkspace workspaceId s.database.committed) :
    ∃ c', s'.client.connection = some c' ∧ known <+: inWorkspace workspaceId s'.database.committed ∧
      (after SseRow.streamSequence c'.cursor known).length ≤
        (after SseRow.streamSequence c.cursor known).length - 250 * moves.count .poll := by
  induction run generalizing last c with
  | nil => exact ⟨c, hc, grown, by simp⟩
  | @cons m moves s s' s'' step rest ih =>
    obtain ⟨last', h'⟩ := h.step step
    have stands' : Move.disconnect ∉ moves := fun e => stands (List.mem_cons_of_mem _ e)
    cases step with
    | database _ database step =>
      obtain ⟨new, hnew⟩ := committed_grows step
      have grown' : known <+: inWorkspace workspaceId database.committed := by
        rw [hnew, inWorkspace_append]
        exact grown.trans (List.prefix_append _ _)
      simpa using ih h' stands' hc grown'
    | connect _ cursor closed accepted =>
      rw [hc] at closed
      cases closed
    | poll _ d open' =>
      obtain rfl : c = d := Option.some.inj (hc.symm.trans open')
      obtain ⟨c', hc', grown', less⟩ := ih h' stands' rfl grown
      refine ⟨c', hc', grown', less.trans ?_⟩
      obtain ⟨new, hnew⟩ := grown
      have asc := Holds.ascending h.holds workspaceId
      rw [← hnew] at asc
      have shorter := @after_advance_grown _ _ _ _ c.cursor 250 asc
      rw [hnew] at shorter
      rw [List.count_cons_self]
      change (after SseRow.streamSequence (advance SseRow.streamSequence 250
        (inWorkspace workspaceId s.database.committed) c.cursor) known).length - _ ≤ _
      omega
    | receive _ d m rest' open' next =>
      obtain rfl : c = d := Option.some.inj (hc.symm.trans open')
      simpa using ih h' stands' rfl grown
    | disconnect _ d open' => exact absurd List.mem_cons_self stands

theorem eventsAbove_eq {rows : List SseRow}
    (h : Ascending SseRow.streamSequence (inWorkspace workspaceId rows)) (c : Nat) :
    eventsAbove workspaceId c rows = after SseRow.streamSequence c (inWorkspace workspaceId rows) := by
  refine List.mergeSort_of_pairwise ?_
  exact List.Pairwise.imp (fun hlt => decide_eq_true (Nat.le_of_lt hlt)) (h.sublist List.filter_sublist)

theorem Following.above_eq (h : Following workspaceId start s last) :
    (eventsAbove workspaceId start s.database.committed).map SseRow.message = s.client.delivered ++
      (after SseRow.streamSequence last (inWorkspace workspaceId s.database.committed)).map SseRow.message := by
  have asc := Holds.ascending h.holds workspaceId
  rw [eventsAbove_eq asc, after_eq_append asc h.above, List.map_append, h.delivered]

-- After enough polls, and with nothing left on the wire, all that was known has been delivered.
theorem Following.caught_up (h : Following workspaceId start s last) {moves : List Move}
    (run : Stream.Run workspaceId moves s s') (stands : Move.disconnect ∉ moves) {c : Connection}
    (hc : s.client.connection = some c)
    (enough : (eventsAbove workspaceId start s.database.committed).length - s.client.delivered.length ≤
      250 * moves.count .poll)
    (drained : ∀ c', s'.client.connection = some c' → c'.transit = []) :
    (eventsAbove workspaceId start s.database.committed).map SseRow.message <+: s'.client.delivered := by
  have asc := Holds.ascending h.holds workspaceId
  obtain ⟨last', h'⟩ := h.run run
  obtain ⟨c', hc', ⟨new, hnew⟩, less⟩ := run.backlog h stands hc (List.prefix_refl _)
  obtain ⟨le', -, sent⟩ := h'.transit c' hc'
  have none : after SseRow.streamSequence c'.cursor (inWorkspace workspaceId s.database.committed) = [] := by
    apply List.length_eq_zero_iff.mp
    have total := congrArg List.length h.above_eq
    rw [List.length_map, List.length_append, List.length_map] at total
    obtain ⟨le, -⟩ := h.transit c hc
    have split := congrArg List.length (after_eq_append asc le)
    rw [List.length_append] at split
    omega
  have asc' := Holds.ascending h'.holds workspaceId
  rw [drained c' hc'] at sent
  have whole : s'.client.delivered = (between SseRow.streamSequence start c'.cursor
      (inWorkspace workspaceId s'.database.committed)).map SseRow.message := by
    rw [between_append asc' h'.above le', List.map_append, ← sent, List.filter_nil, List.append_nil,
      h'.delivered]
  rw [whole, eventsAbove_eq asc, ← between_of_none_after none, ← hnew]
  unfold between
  rw [List.filter_append, List.map_append]
  exact List.prefix_append _ _

end Steps

-- Delivered is always a first part of the committed events above the cursor, in the order of their numbers;
-- the server knows the last event id again; and polls bring everything that is committed.
theorem sse_delivers_committed_events {workspaceId : String} {lastEventId : Option String} {cursor : Nat}
    {database : SseDatabase} {moves : List Move} {s : Stream} (reachable : sseEngine.Reachable [] 0 database)
    (accepted : SseController.events database.committed true workspaceId lastEventId = .ok cursor)
    (run : Stream.Run workspaceId moves ⟨database, ⟨[], lastEventId, none⟩⟩ s) :
    s.client.delivered <+: (eventsAbove workspaceId cursor s.database.committed).map SseRow.message ∧
      (eventsAbove workspaceId cursor s.database.committed).Pairwise
        (fun a b => a.streamSequence < b.streamSequence) ∧
      (∃ c, SseController.events s.database.committed true workspaceId s.client.lastEventId = .ok c) ∧
      ∀ moves' s', Stream.Run workspaceId moves' s s' → s.client.connection.isSome = true →
        Move.disconnect ∉ moves' →
        (eventsAbove workspaceId cursor s.database.committed).length - s.client.delivered.length ≤
          250 * moves'.count .poll →
        (∀ c, s'.client.connection = some c → c.transit = []) →
        (eventsAbove workspaceId cursor s.database.committed).map SseRow.message <+: s'.client.delivered := by
  have holds := sseLocking.holds_reachable (sse_start 0) reachable
  have start : ∃ last, Following workspaceId cursor ⟨database, ⟨[], lastEventId, none⟩⟩ last := by
    refine ⟨cursor, holds, ?_, le_rfl, accepted, ?_, fun _ hc => nomatch hc⟩
    · exact events_reached accepted
    · rw [between_self]
      rfl
  obtain ⟨first, start⟩ := start
  obtain ⟨last, h⟩ := start.run run
  refine ⟨⟨_, h.above_eq.symm⟩, ?_, ⟨last, h.accepted⟩, ?_⟩
  · have asc := Holds.ascending h.holds workspaceId
    rw [eventsAbove_eq asc]
    exact asc.sublist List.filter_sublist
  · intro moves' s' run' connected stands enough drained
    obtain ⟨c, hc⟩ := Option.isSome_iff_exists.mp connected
    exact h.caught_up run' stands hc enough drained

section Example

def exampleWorkspace : String := "0b9e4c1a-7d52-4f3e-9a61-2c8d5e7f1034"

def eventRow (id : Uuid) (type : String) (streamSequence : Nat) : SseRow :=
  ⟨exampleWorkspace, id, type, "6f1c2d3e-4a5b-4c6d-8e7f-90a1b2c3d4e5", .obj [], streamSequence⟩

def createdRow : SseRow := eventRow ⟨"1d0c6f4b-85a2-4e37-b9d1-c3f72e50a864", by decide⟩ "RunCreatedEvent" 1

def changedRow : SseRow := eventRow ⟨"e2b7953c-4f18-4da6-8c0e-72a1d6f39b05", by decide⟩ "StateChangedEvent" 2

def publications : List Publication :=
  [.publish exampleWorkspace createdRow.correlationId "RunCreatedEvent" [] createdRow.eventId,
    .publish exampleWorkspace changedRow.correlationId "StateChangedEvent" [] changedRow.eventId]

def publishedTwo : SseDatabase := ⟨[createdRow, changedRow], 2, [⟨publications, ∅, [], none⟩]⟩

theorem publishedTwo_reachable : sseEngine.Reachable [] 0 publishedTwo := by
  have run : sseEngine.Executes [] 0 [] (publishAll publications) 2 [createdRow, changedRow] () := by
    refine .op () [] _ ⟨rfl, rfl⟩ ?_
    refine .op () [createdRow] 1 ⟨by decide, by decide, rfl⟩ ?_
    refine .op () [] _ ⟨rfl, rfl⟩ ?_
    exact .op () [changedRow] 2 ⟨by decide, by decide, rfl⟩ (.pure _ _ _)
  exact run.commits (s := ⟨[], 0, []⟩) (c := publications) rfl (by simp)

def cutOff : List Move := [.connect, .poll, .receive, .disconnect]

def receivedOne : Stream := ⟨publishedTwo, ⟨[createdRow.message], some createdRow.eventId, none⟩⟩

theorem cutOff_run :
    Stream.Run exampleWorkspace cutOff ⟨publishedTwo, ⟨[], none, none⟩⟩ receivedOne := by
  refine .cons (.connect _ 0 rfl rfl) (.cons (.poll _ ⟨0, []⟩ rfl) ?_)
  have sent : SseController.poll exampleWorkspace publishedTwo.committed 0 =
      ([createdRow.message, changedRow.message], 2) := by
    have asc : Ascending SseRow.streamSequence (inWorkspace exampleWorkspace publishedTwo.committed) := by
      unfold Ascending
      decide
    have rows : nextRows exampleWorkspace publishedTwo.committed 0 = [createdRow, changedRow] :=
      (batch_eq asc).trans (by decide)
    unfold SseController.poll
    rw [rows]
    rfl
  rw [sent]
  refine .cons (.receive _ _ createdRow.message [changedRow.message] rfl rfl) ?_
  exact .cons (.disconnect _ _ rfl) (.nil _)

theorem sse_delivers_committed_events_cutOff :
    receivedOne.client.delivered <+: (eventsAbove exampleWorkspace 0 publishedTwo.committed).map SseRow.message :=
  (sse_delivers_committed_events publishedTwo_reachable rfl cutOff_run).1

end Example

end Provisr.Events
