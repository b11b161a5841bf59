import Provisr.Events.Outbox
import Mathlib.Logic.Function.Basic
import Mathlib.Logic.Relation

namespace Provisr.Events

open Provisr.Foundation OutboxPublisherService PostgresOutboxStore

-- A worker in a call of publishNext, with what it has claimed. A worker that crashes is gone.
structure Worker where
  claim : Option OutboxEvent
  rest : Prog Ret (Except Thrown Result)

structure Fleet where
  outbox : Outbox
  workers : Nat → Option Worker

def claimOf : (o : Op) → Ret o → Option OutboxEvent → Option OutboxEvent
  | .claimOldestPending, .ok (some event), _ => some event
  | _, _, claim => claim

-- `permits` says which rows may be claimed in a run.
inductive Fleet.Step (permits : Fleet → OutboxRow → Prop) : Fleet → Fleet → Prop
  | ambient (s : Fleet) (outbox : Outbox) (move : Outbox.Ambient s.outbox outbox) :
      Step permits s { s with outbox := outbox }
  | start (s : Fleet) (i : Nat) (idle : s.workers i = none) :
      Step permits s { s with workers := Function.update s.workers i (some ⟨none, publishNext⟩) }
  | request (s : Fleet) (i : Nat) (claim : Option OutboxEvent) (o : Op)
      (k : Ret o → Prog Ret (Except Thrown Result)) (skipped : List String) (r : Ret o) (outbox : Outbox)
      (worker : s.workers i = some ⟨claim, .op o k⟩)
      (permitted : o = .claimOldestPending →
        ∀ row, nextEvent s.outbox.now skipped s.outbox.rows = some row → permits s row)
      (run : exec skipped o s.outbox r outbox) :
      Step permits s ⟨outbox, Function.update s.workers i (some ⟨claimOf o r claim, k r⟩)⟩
  | stop (s : Fleet) (i : Nat) (w : Worker) (worker : s.workers i = some w) :
      Step permits s { s with workers := Function.update s.workers i none }

abbrev Fleet.Steps (permits : Fleet → OutboxRow → Prop) := Relation.ReflTransGen (Fleet.Step permits)

def Fleet.empty (now : Time) : Fleet := ⟨⟨now, [], []⟩, fun _ => none⟩

def anyClaim : Fleet → OutboxRow → Prop := fun _ _ => True

def handedTimes (eventId : String) (s : Outbox) : Nat := s.handed.countP fun e => e.eventId == eventId

def Fleet.holder (s : Fleet) (eventId : String) (i : Nat) : Prop :=
  ∃ event o k, s.workers i = some ⟨some event, .op o k⟩ ∧ event.eventId = eventId

-- A lease that has run out is taken over from a worker that has stopped, and not for a fourth delivery.
def orderlyClaim (s : Fleet) (row : OutboxRow) : Prop :=
  row.status = .publishing →
    handedTimes row.eventId s.outbox < maxDeliveryAttempts ∧ ∀ i, ¬ s.holder row.eventId i

def recorded : Op → Option String
  | .markPublished eventId => some eventId
  | .reschedule eventId _ _ _ => some eventId
  | .markFailed eventId _ _ => some eventId
  | _ => none

-- Where a worker is about to record an outcome, a row the statement would change is the one it has claimed,
-- and nobody has claimed it since.
def Fleet.OutcomesFenced (s : Fleet) : Prop :=
  ∀ i w o k eventId, s.workers i = some w → w.rest = .op o k → recorded o = some eventId →
    ∀ row ∈ s.outbox.rows, row.eventId = eventId → row.status = .publishing →
      ∃ event, w.claim = some event ∧ event.id = row.id ∧ event.deliveryAttempts = row.deliveryAttempts

def Fleet.DeliveriesBounded (s : Fleet) : Prop := ∀ eventId, handedTimes eventId s.outbox ≤ maxDeliveryAttempts

section Rows

structure Distinct (rows : List OutboxRow) : Prop where
  ids : (rows.map OutboxRow.id).Nodup
  eventIds : (rows.map OutboxRow.eventId).Nodup

variable {rows : List OutboxRow} {now : Time} {skipped : List String} {row p : OutboxRow}

theorem Distinct.eq_of_eventId (h : Distinct rows) (hr : row ∈ rows) (hp : p ∈ rows)
    (same : row.eventId = p.eventId) : row = p :=
  List.inj_on_of_nodup_map h.eventIds hr hp same

theorem Distinct.concat (h : Distinct rows) (fresh : row.id ∉ rows.map OutboxRow.id)
    (unique : row.eventId ∉ rows.map OutboxRow.eventId) : Distinct (rows ++ [row]) where
  ids := by
    rw [List.map_append, List.map_singleton, ← List.concat_eq_append]
    exact h.ids.concat fresh
  eventIds := by
    rw [List.map_append, List.map_singleton, ← List.concat_eq_append]
    exact h.eventIds.concat unique

theorem Distinct.eq_of_id (h : Distinct rows) (hr : row ∈ rows) (hp : p ∈ rows) (same : row.id = p.id) : row = p :=
  List.inj_on_of_nodup_map h.ids hr hp same

theorem Distinct.map (h : Distinct rows) {f : OutboxRow → OutboxRow} (id : ∀ row, (f row).id = row.id)
    (eventId : ∀ row, (f row).eventId = row.eventId) : Distinct (rows.map f) := by
  refine ⟨?_, ?_⟩
  · rw [List.map_map, show OutboxRow.id ∘ f = OutboxRow.id from funext id]
    exact h.ids
  · rw [List.map_map, show OutboxRow.eventId ∘ f = OutboxRow.eventId from funext eventId]
    exact h.eventIds

theorem nextEvent_mem (h : nextEvent now skipped rows = some p) : p ∈ rows ∧ claimable now p = true := by
  have mem := List.argmin_mem h
  obtain ⟨hp, hclaim⟩ := List.mem_filter.mp mem
  rw [Bool.and_eq_true] at hclaim
  exact ⟨hp, hclaim.1⟩

theorem claimable_status (h : claimable now p = true) : p.status = .pending ∨ p.status = .publishing := by
  unfold claimable at h
  simp only [Bool.or_eq_true, Bool.and_eq_true, beq_iff_eq] at h
  exact h.imp And.left And.left

def claimRow (now : Time) (p : OutboxRow) (row : OutboxRow) : OutboxRow :=
  if row.id = p.id then claimed now row else row

theorem claimRow_id (row : OutboxRow) : (claimRow now p row).id = row.id := by
  unfold claimRow
  split <;> rfl

theorem claimRow_eventId (row : OutboxRow) : (claimRow now p row).eventId = row.eventId := by
  unfold claimRow
  split <;> rfl

theorem claim_cases (now : Time) (skipped : List String) (rows : List OutboxRow) :
    (nextEvent now skipped rows = none ∧
        PostgresOutboxStore.claimOldestPending now skipped rows = (none, rows)) ∨
      ∃ p, nextEvent now skipped rows = some p ∧
        PostgresOutboxStore.claimOldestPending now skipped rows =
          (some (toOutboxEvent (claimed now p)), rows.map (claimRow now p)) := by
  unfold PostgresOutboxStore.claimOldestPending
  cases h : nextEvent now skipped rows with
  | none => exact Or.inl ⟨rfl, rfl⟩
  | some p => exact Or.inr ⟨p, rfl, rfl⟩

theorem claim_next (handed : List OutboxEvent) (next : nextEvent now skipped rows = some p) :
    exec skipped Op.claimOldestPending ⟨now, rows, handed⟩ (.ok (some (toOutboxEvent (claimed now p))))
      ⟨now, rows.map (claimRow now p), handed⟩ := by
  rcases claim_cases now skipped rows with ⟨hnone, -⟩ | ⟨p', hp, hclaim⟩
  · rw [next] at hnone
    cases hnone
  · obtain rfl := Option.some.inj (next.symm.trans hp)
    refine ⟨fun event he => ?_, Or.inl ?_⟩
    · rw [hclaim]
      exact (Except.ok.inj he).symm
    · dsimp only
      rw [hclaim]

end Rows

inductive Position where
  | claiming
  | delivering (event : OutboxEvent)
  | confirming (event : OutboxEvent)
  | givingUp (event : OutboxEvent) (message : String)
  | asking (event : OutboxEvent) (message : String)
  | backingOff (event : OutboxEvent) (message : String) (now : Time)
  | ended (claim : Option OutboxEvent) (result : Except Thrown Result)

namespace Position

def worker : Position → Worker
  | .claiming => ⟨none, publishNext⟩
  | .delivering event => ⟨some event, deliver event⟩
  | .confirming event => ⟨some event, confirm event⟩
  | .givingUp event message => ⟨some event, giveUp event message⟩
  | .asking event message => ⟨some event, Prog.call Op.now >>= fun now => backOff event message now⟩
  | .backingOff event message now => ⟨some event, backOff event message now⟩
  | .ended claim result => ⟨claim, .pure result⟩

def refusing (event : OutboxEvent) (error : Thrown) : Position :=
  if event.deliveryAttempts ≥ maxDeliveryAttempts then
    .givingUp event (error.getD "unknown SSE publish error")
  else .asking event (error.getD "unknown SSE publish error")

theorem refusing_worker (event : OutboxEvent) (error : Thrown) :
    (refusing event error).worker = ⟨some event, refuse event error⟩ := by
  unfold refusing refuse
  by_cases h : event.deliveryAttempts ≥ maxDeliveryAttempts
  · rw [if_pos h, if_pos h]
    rfl
  · rw [if_neg h, if_neg h]
    rfl

def holds : Position → Option OutboxEvent
  | .claiming | .ended _ _ => none
  | .delivering event | .confirming event | .givingUp event _ | .asking event _ | .backingOff event _ _ =>
    some event

def Fits (count : Nat) (row : OutboxRow) : Position → Prop
  | .claiming | .ended _ _ => True
  | .delivering event => row.status = .publishing ∧ row.deliveryAttempts = event.deliveryAttempts ∧
      count < maxDeliveryAttempts ∧ count < row.deliveryAttempts
  | .confirming event => row.status = .publishing ∧ row.deliveryAttempts = event.deliveryAttempts
  | .givingUp event _ =>
      row.status = .publishing ∧ row.deliveryAttempts = event.deliveryAttempts ∨ row.status = .sent
  | .asking event _ | .backingOff event _ _ => event.deliveryAttempts < maxDeliveryAttempts ∧
      (row.status = .publishing ∧ row.deliveryAttempts = event.deliveryAttempts ∨ row.status = .sent)

theorem refusing_holds (event : OutboxEvent) (error : Thrown) : (refusing event error).holds = some event := by
  unfold refusing
  split <;> rfl

theorem refusing_fits {event : OutboxEvent} {error : Thrown} {count : Nat} {row : OutboxRow}
    (h : row.status = .publishing ∧ row.deliveryAttempts = event.deliveryAttempts ∨ row.status = .sent) :
    (refusing event error).Fits count row := by
  unfold refusing
  by_cases hmax : event.deliveryAttempts ≥ maxDeliveryAttempts
  · rw [if_pos hmax]
    exact h
  · rw [if_neg hmax]
    exact ⟨not_le.mp hmax, h⟩

theorem deliver_of_claim {q : Position} {claim : Option OutboxEvent}
    {k : Ret Op.claimOldestPending → Prog Ret (Except Thrown Result)}
    (worker : q.worker = ⟨claim, .op .claimOldestPending k⟩) :
    claim = none ∧ ∀ event, k (.ok (some event)) = deliver event := by
  cases q with
  | claiming =>
    change (⟨none, .op Op.claimOldestPending _⟩ : Worker) = _ at worker
    cases worker
    exact ⟨rfl, fun _ => rfl⟩
  | delivering | confirming | givingUp | asking | backingOff => exact nomatch worker
  | ended => cases worker

end Position

def Bounded (count : Nat) (row : OutboxRow) : Prop :=
  count ≤ maxDeliveryAttempts ∧ count ≤ row.deliveryAttempts ∧
    (row.status = .pending → row.deliveryAttempts < maxDeliveryAttempts)

structure Lease (s : Fleet) (pos : Nat → Option Position) : Prop where
  workers : ∀ i, s.workers i = (pos i).map Position.worker
  distinct : Distinct s.outbox.rows
  known : ∀ e ∈ s.outbox.handed, e.eventId ∈ s.outbox.rows.map OutboxRow.eventId
  bounded : ∀ row ∈ s.outbox.rows, Bounded (handedTimes row.eventId s.outbox) row
  held : ∀ i p e, pos i = some p → p.holds = some e → ∃ row ∈ s.outbox.rows,
    row.id = e.id ∧ row.eventId = e.eventId ∧ p.Fits (handedTimes e.eventId s.outbox) row
  exclusive : ∀ i j p q e f, pos i = some p → pos j = some q → p.holds = some e → q.holds = some f →
    e.eventId = f.eventId → i = j

section Lease

variable {s s' : Fleet} {pos : Nat → Option Position}

theorem lease_empty (now : Time) : Lease (Fleet.empty now) fun _ => none where
  workers _ := rfl
  distinct := ⟨List.nodup_nil, List.nodup_nil⟩
  known _ h := nomatch h
  bounded _ h := nomatch h
  held _ _ _ h := nomatch h
  exclusive _ _ _ _ _ _ h := nomatch h

theorem Lease.not_handed (h : Lease s pos) {eventId : String}
    (unknown : eventId ∉ s.outbox.rows.map OutboxRow.eventId) : handedTimes eventId s.outbox = 0 := by
  refine List.countP_eq_zero.mpr ?_
  intro e he heq
  rw [beq_iff_eq] at heq
  exact unknown (heq ▸ h.known e he)

-- A worker that moves on while it changes nothing that another one holds.
theorem Lease.advance (h : Lease s pos) {i : Nat} {p : Position} {outbox : Outbox} {f : OutboxRow → OutboxRow}
    (rows : outbox.rows = s.outbox.rows.map f) (id : ∀ row, (f row).id = row.id)
    (eventId : ∀ row, (f row).eventId = row.eventId)
    (known : ∀ e ∈ outbox.handed, e.eventId ∈ s.outbox.rows.map OutboxRow.eventId)
    (bounded : ∀ row ∈ s.outbox.rows, Bounded (handedTimes row.eventId outbox) (f row))
    (own : ∀ e, p.holds = some e → ∃ row ∈ s.outbox.rows, row.id = e.id ∧ row.eventId = e.eventId ∧
      p.Fits (handedTimes e.eventId outbox) (f row))
    (stay : ∀ j q e, j ≠ i → pos j = some q → q.holds = some e →
      (∀ row ∈ s.outbox.rows, row.eventId = e.eventId → f row = row) ∧
        handedTimes e.eventId outbox = handedTimes e.eventId s.outbox ∧
        ∀ e', p.holds = some e' → e'.eventId ≠ e.eventId) :
    Lease ⟨outbox, Function.update s.workers i (some p.worker)⟩ (Function.update pos i (some p)) where
  workers j := by
    by_cases hj : j = i
    · subst hj
      simp
    · simp only [Function.update_of_ne hj]
      exact h.workers j
  distinct := by
    rw [rows]
    exact h.distinct.map id eventId
  known := by
    intro e he
    rw [rows, List.map_map, show OutboxRow.eventId ∘ f = OutboxRow.eventId from funext eventId]
    exact known e he
  bounded := by
    intro row hrow
    rw [rows] at hrow
    obtain ⟨x, hx, rfl⟩ := List.mem_map.mp hrow
    rw [eventId]
    exact bounded x hx
  held := by
    intro j q e hq he
    rw [rows]
    by_cases hj : j = i
    · subst hj
      rw [Function.update_self] at hq
      obtain rfl := Option.some.inj hq
      obtain ⟨row, hrow, hid, hevent, fits⟩ := own e he
      exact ⟨f row, List.mem_map.mpr ⟨row, hrow, rfl⟩, (id row).trans hid, (eventId row).trans hevent, fits⟩
    · rw [Function.update_of_ne hj] at hq
      obtain ⟨row, hrow, hid, hevent, fits⟩ := h.held j q e hq he
      obtain ⟨same, count, -⟩ := stay j q e hj hq he
      refine ⟨row, List.mem_map.mpr ⟨row, hrow, same row hrow hevent⟩, hid, hevent, ?_⟩
      rw [count]
      exact fits
  exclusive := by
    intro j k q r e g hq hr he hg same
    by_cases hj : j = i
    · by_cases hk : k = i
      · rw [hj, hk]
      · rw [hj, Function.update_self] at hq
        obtain rfl := Option.some.inj hq
        rw [Function.update_of_ne hk] at hr
        exact absurd same ((stay k r g hk hr hg).2.2 e he)
    · rw [Function.update_of_ne hj] at hq
      by_cases hk : k = i
      · rw [hk, Function.update_self] at hr
        obtain rfl := Option.some.inj hr
        exact absurd same.symm ((stay j q e hj hq he).2.2 g hg)
      · rw [Function.update_of_ne hk] at hr
        exact h.exclusive j k q r e g hq hr he hg same

theorem Lease.idle (h : Lease s pos) {i : Nat} {p : Position} {outbox : Outbox}
    (rows : outbox.rows = s.outbox.rows) (handed : outbox.handed = s.outbox.handed)
    (own : ∀ e, p.holds = some e → ∃ q, pos i = some q ∧ q.holds = some e ∧
      ∀ count row, q.Fits count row → p.Fits count row) :
    Lease ⟨outbox, Function.update s.workers i (some p.worker)⟩ (Function.update pos i (some p)) := by
  have count : ∀ eventId, handedTimes eventId outbox = handedTimes eventId s.outbox := fun eventId => by
    rw [handedTimes, handed, handedTimes]
  refine h.advance (f := fun row => row) ?_ (fun _ => rfl) (fun _ => rfl) ?_ ?_ ?_ ?_
  · rw [rows]
    exact (List.map_id' _).symm
  · rw [handed]
    exact h.known
  · intro row hrow
    rw [count]
    exact h.bounded row hrow
  · intro e he
    obtain ⟨q, hq, hold, fits⟩ := own e he
    obtain ⟨row, hrow, hid, hevent, hfits⟩ := h.held i q e hq hold
    exact ⟨row, hrow, hid, hevent, by rw [count]; exact fits _ _ hfits⟩
  · intro j q e hj hq he
    refine ⟨fun _ _ _ => rfl, count _, ?_⟩
    intro e' he' same
    obtain ⟨q', hq', hold, -⟩ := own e' he'
    exact hj (h.exclusive j i q q' e e' hq hq' he hold same.symm)

-- A worker that writes an outcome changes the row it has claimed, if that is still being published.
theorem Lease.record (h : Lease s pos) {i : Nat} {q p : Position} {event : OutboxEvent} (at' : pos i = some q)
    (holds : q.holds = some event) (change : OutboxRow → OutboxRow) (id : ∀ row, (change row).id = row.id)
    (eventId : ∀ row, (change row).eventId = row.eventId)
    (attempts : ∀ row, (change row).deliveryAttempts = row.deliveryAttempts)
    (pending : ∀ count row, q.Fits count row → row.status = .publishing → (change row).status = .pending →
      row.deliveryAttempts < maxDeliveryAttempts)
    (own : ∀ e, p.holds = some e → e = event ∧ ∀ count row, q.Fits count row →
      p.Fits count (if row.status = .publishing then change row else row)) :
    Lease ⟨{ s.outbox with rows := outcome change event.eventId s.outbox.rows },
      Function.update s.workers i (some p.worker)⟩ (Function.update pos i (some p)) := by
  obtain ⟨claimedRow, hrow, hid, hevent, fits⟩ := h.held i q event at' holds
  refine h.advance (f := fun row => if row.eventId = event.eventId ∧ row.status = .publishing then change row
    else row) rfl ?_ ?_ h.known ?_ ?_ ?_
  · intro row
    split
    · exact id row
    · rfl
  · intro row
    split
    · exact eventId row
    · rfl
  · intro row mem
    have before := h.bounded row mem
    change Bounded (handedTimes row.eventId s.outbox) _
    split
    · rename_i hit
      obtain rfl := h.distinct.eq_of_eventId mem hrow (hit.1.trans hevent.symm)
      refine ⟨before.1, ?_, ?_⟩
      · rw [attempts]
        exact before.2.1
      · rw [attempts]
        exact pending _ _ fits hit.2
    · exact before
  · intro e he
    obtain ⟨rfl, after⟩ := own e he
    refine ⟨claimedRow, hrow, hid, hevent, ?_⟩
    change p.Fits (handedTimes e.eventId s.outbox) _
    have result := after _ _ fits
    simpa only [hevent, true_and] using result
  · intro j r e hj hr he
    have other : e.eventId ≠ event.eventId := fun same => hj (h.exclusive j i r q e event hr at' he holds same)
    refine ⟨?_, rfl, ?_⟩
    · intro row _ hrowe
      exact if_neg fun hit => other (hrowe.symm.trans hit.1)
    · intro e' he'
      obtain ⟨rfl, -⟩ := own e' he'
      exact fun same => other same.symm

theorem handedTimes_append (eventId : String) (event : OutboxEvent) :
    handedTimes eventId { s.outbox with handed := s.outbox.handed ++ [event] } =
      handedTimes eventId s.outbox + if event.eventId = eventId then 1 else 0 := by
  simp [handedTimes, List.countP_append, List.countP_cons]

theorem Lease.deliver (h : Lease s pos) {i : Nat} {p : Position} {event : OutboxEvent}
    (at' : pos i = some (.delivering event)) (holds : p.holds = some event)
    (next : ∀ count row, row.status = .publishing ∧ row.deliveryAttempts = event.deliveryAttempts →
      p.Fits count row) :
    Lease ⟨{ s.outbox with handed := s.outbox.handed ++ [event] },
      Function.update s.workers i (some p.worker)⟩ (Function.update pos i (some p)) := by
  obtain ⟨claimedRow, hrow, hid, hevent, status, attempts, few, fewer⟩ := h.held i _ event at' rfl
  refine h.advance (f := fun row => row) (List.map_id' _).symm (fun _ => rfl) (fun _ => rfl) ?_ ?_ ?_ ?_
  · intro e he
    rcases List.mem_append.mp he with he | he
    · exact h.known e he
    · rw [List.mem_singleton.mp he]
      exact List.mem_map.mpr ⟨claimedRow, hrow, hevent⟩
  · intro row mem
    have before := h.bounded row mem
    rw [handedTimes_append]
    by_cases hit : event.eventId = row.eventId
    · obtain rfl := h.distinct.eq_of_eventId mem hrow (hit.symm.trans hevent.symm)
      rw [if_pos hit, hit.symm]
      refine ⟨few, fewer, ?_⟩
      intro pending
      rw [status] at pending
      cases pending
    · rw [if_neg hit]
      exact before
  · intro e he
    obtain rfl := Option.some.inj (holds.symm.trans he)
    exact ⟨claimedRow, hrow, hid, hevent, next _ _ ⟨status, attempts⟩⟩
  · intro j q e hj hq he
    have other : e.eventId ≠ event.eventId := fun same => hj (h.exclusive j i q _ e event hq at' he rfl same)
    refine ⟨fun _ _ _ => rfl, ?_, ?_⟩
    · rw [handedTimes_append, if_neg fun same => other same.symm, Nat.add_zero]
    · intro e' he'
      obtain rfl := Option.some.inj (holds.symm.trans he')
      exact fun same => other same.symm

theorem Position.busy {p : Position} {event : OutboxEvent} (h : p.holds = some event) :
    ∃ o k, p.worker = ⟨some event, .op o k⟩ := by
  cases p with
  | claiming | ended => cases h
  | delivering | confirming | givingUp | asking | backingOff =>
    obtain rfl := Option.some.inj h
    exact ⟨_, _, rfl⟩

theorem Lease.holder (h : Lease s pos) {j : Nat} {q : Position} {event : OutboxEvent} (at' : pos j = some q)
    (holds : q.holds = some event) : s.holder event.eventId j := by
  obtain ⟨o, k, hworker⟩ := Position.busy holds
  exact ⟨event, o, k, by rw [h.workers, at', Option.map_some, hworker], rfl⟩

theorem Lease.claim (h : Lease s pos) {i : Nat} {p : Position} {row : OutboxRow} (mem : row ∈ s.outbox.rows) (claimable : claimable s.outbox.now row = true)
    (permitted : orderlyClaim s row)
    (own : p = .delivering (toOutboxEvent (claimed s.outbox.now row)) ∨ p.holds = none) :
    Lease ⟨{ s.outbox with rows := s.outbox.rows.map (claimRow s.outbox.now row) },
      Function.update s.workers i (some p.worker)⟩ (Function.update pos i (some p)) := by
  have before := h.bounded row mem
  have few : handedTimes row.eventId s.outbox < maxDeliveryAttempts := by
    rcases claimable_status claimable with pending | publishing
    · exact before.2.1.trans_lt (before.2.2 pending)
    · exact (permitted publishing).1
  have free : ∀ j q e, j ≠ i → pos j = some q → q.holds = some e → e.eventId ≠ row.eventId := by
    intro j q e _ hq he same
    rcases claimable_status claimable with pending | publishing
    · obtain ⟨x, hx, -, hevent, fits⟩ := h.held j q e hq he
      obtain rfl := h.distinct.eq_of_eventId hx mem (hevent.trans same)
      cases q with
      | claiming | ended => cases he
      | delivering | confirming => simp [Position.Fits, pending] at fits
      | givingUp | asking | backingOff => simp [Position.Fits, pending] at fits
    · exact (permitted publishing).2 j (same ▸ h.holder hq he)
  refine h.advance (f := claimRow s.outbox.now row) rfl claimRow_id claimRow_eventId h.known ?_ ?_ ?_
  · intro x hx
    have bound := h.bounded x hx
    change Bounded (handedTimes x.eventId s.outbox) _
    unfold claimRow
    split
    · exact ⟨bound.1, bound.2.1.trans (Nat.le_succ _), fun pending => nomatch pending⟩
    · exact bound
  · intro e he
    rcases own with rfl | hnone
    · obtain rfl := Option.some.inj he
      refine ⟨row, mem, rfl, rfl, ?_⟩
      have hit : claimRow s.outbox.now row row = claimed s.outbox.now row := if_pos rfl
      rw [hit]
      exact ⟨rfl, rfl, few, Nat.lt_succ_of_le before.2.1⟩
    · rw [hnone] at he
      cases he
  · intro j q e hj hq he
    have other := free j q e hj hq he
    refine ⟨?_, rfl, ?_⟩
    · intro x hx hxe
      refine if_neg fun same => other ?_
      rw [← hxe, h.distinct.eq_of_id hx mem same]
    · intro e' he'
      rcases own with rfl | hnone
      · obtain rfl := Option.some.inj he'
        exact fun same => other same.symm
      · rw [hnone] at he'
        cases he'

theorem Lease.ambient (h : Lease s pos) {outbox : Outbox} (move : Outbox.Ambient s.outbox outbox) :
    Lease { s with outbox := outbox } pos := by
  cases move with
  | tick now later => exact { h with }
  | create row fresh unique pending attempts =>
    refine { h with distinct := h.distinct.concat fresh unique, known := ?_, bounded := ?_, held := ?_ }
    · intro e he
      rw [List.map_append]
      exact List.mem_append.mpr (Or.inl (h.known e he))
    · intro x hx
      rcases List.mem_append.mp hx with hx | hx
      · exact h.bounded x hx
      · obtain rfl := List.mem_singleton.mp hx
        have none : handedTimes x.eventId s.outbox = 0 := h.not_handed unique
        change Bounded (handedTimes x.eventId s.outbox) x
        rw [none, Bounded, attempts]
        exact ⟨Nat.zero_le _, le_rfl, fun _ => by decide⟩
    · intro i p e hp he
      obtain ⟨x, hx, rest⟩ := h.held i p e hp he
      exact ⟨x, List.mem_append.mpr (Or.inl hx), rest⟩

theorem Lease.vacate (h : Lease s pos) (i : Nat) (p : Option Position) (free : ∀ q, p = some q → q.holds = none) :
    Lease { s with workers := Function.update s.workers i (p.map Position.worker) } (Function.update pos i p) where
  workers j := by
    by_cases hj : j = i
    · subst hj
      simp
    · simp only [Function.update_of_ne hj]
      exact h.workers j
  distinct := h.distinct
  known := h.known
  bounded := h.bounded
  held := by
    intro j q e hq he
    by_cases hj : j = i
    · rw [hj, Function.update_self] at hq
      rw [free q hq] at he
      cases he
    · rw [Function.update_of_ne hj] at hq
      exact h.held j q e hq he
  exclusive := by
    intro j k q r e f hq hr he hf same
    by_cases hj : j = i
    · rw [hj, Function.update_self] at hq
      rw [free q hq] at he
      cases he
    · by_cases hk : k = i
      · rw [hk, Function.update_self] at hr
        rw [free r hr] at hf
        cases hf
      · rw [Function.update_of_ne hj] at hq
        rw [Function.update_of_ne hk] at hr
        exact h.exclusive j k q r e f hq hr he hf same

theorem Lease.finish (h : Lease s pos) (i : Nat) (claim : Option OutboxEvent) (result : Except Thrown Result) :
    Lease { s with workers := Function.update s.workers i (some ⟨claim, .pure result⟩) }
      (Function.update pos i (some (.ended claim result))) :=
  h.vacate i (some (.ended claim result)) fun q hq => by
    obtain rfl := Option.some.inj hq
    rfl

-- One wait of publishNext, by the point at which the worker stands.
theorem Lease.request (h : Lease s pos) {i : Nat} {claim : Option OutboxEvent} {o : Op}
    {k : Ret o → Prog Ret (Except Thrown Result)} {skipped : List String} {r : Ret o} {outbox : Outbox}
    (worker : s.workers i = some ⟨claim, .op o k⟩)
    (permitted : o = .claimOldestPending →
      ∀ row, nextEvent s.outbox.now skipped s.outbox.rows = some row → orderlyClaim s row)
    (run : exec skipped o s.outbox r outbox) :
    ∃ p, Lease ⟨outbox, Function.update s.workers i (some ⟨claimOf o r claim, k r⟩)⟩
      (Function.update pos i (some p)) := by
  rw [h.workers] at worker
  obtain ⟨q, at', hworker⟩ := Option.map_eq_some_iff.mp worker
  cases q with
  | claiming =>
    change (⟨none, .op Op.claimOldestPending _⟩ : Worker) = _ at hworker
    cases hworker
    obtain ⟨answer, effect⟩ := run
    rcases claim_cases s.outbox.now skipped s.outbox.rows with ⟨hnone, hclaim⟩ | ⟨row, hnext, hclaim⟩
    · have same : outbox = s.outbox := by
        rcases effect with rfl | ⟨-, rfl⟩
        · dsimp only
          rw [hclaim]
        · rfl
      subst same
      cases r with
      | error e => exact ⟨_, h.finish i none (.error e)⟩
      | ok event =>
        obtain rfl : event = none := by rw [answer event rfl, hclaim]
        exact ⟨_, h.finish i none (.ok .empty)⟩
    · obtain ⟨mem, claimable⟩ := nextEvent_mem hnext
      have orderly := permitted rfl row hnext
      cases r with
      | error e =>
        refine ⟨.ended none (.error e), ?_⟩
        rcases effect with rfl | ⟨-, rfl⟩
        · dsimp only
          rw [hclaim]
          exact h.claim (p := .ended none (.error e)) mem claimable orderly (Or.inr rfl)
        · exact h.finish i none (.error e)
      | ok event =>
        obtain rfl : event = some (toOutboxEvent (claimed s.outbox.now row)) := by rw [answer event rfl, hclaim]
        refine ⟨.delivering (toOutboxEvent (claimed s.outbox.now row)), ?_⟩
        rcases effect with rfl | ⟨bad, -⟩
        · dsimp only
          rw [hclaim]
          exact h.claim mem claimable orderly (Or.inl rfl)
        · cases bad
  | delivering event =>
    change (⟨some event, .op (Op.publish event) _⟩ : Worker) = _ at hworker
    cases hworker
    obtain rfl := run
    cases r with
    | error e =>
      refine ⟨.refusing event e, ?_⟩
      have after := h.deliver at' (Position.refusing_holds event e)
        fun _ _ fits => Position.refusing_fits (Or.inl fits)
      rw [Position.refusing_worker] at after
      exact after
    | ok _ => exact ⟨.confirming event, h.deliver (p := .confirming event) at' rfl fun _ _ fits => fits⟩
  | confirming event =>
    change (⟨some event, .op (Op.markPublished event.eventId) _⟩ : Worker) = _ at hworker
    cases hworker
    cases r with
    | error e =>
      refine ⟨.refusing event e, ?_⟩
      rcases run with rfl | ⟨-, rfl⟩
      · have after := h.record (p := .refusing event e) at' rfl (fun row => { row with
            status := .sent, publishedAt := some s.outbox.now, lockedUntil := none, lastError := none,
            updatedAt := s.outbox.now }) (fun _ => rfl) (fun _ => rfl) (fun _ => rfl)
          (fun _ _ _ _ bad => nomatch bad) (fun e' he => by
            rw [Position.refusing_holds] at he
            refine ⟨(Option.some.inj he).symm, fun _ row fits => Position.refusing_fits ?_⟩
            rw [if_pos fits.1]
            exact Or.inr rfl)
        rw [Position.refusing_worker] at after
        exact after
      · have after := @Lease.idle _ _ h i (.refusing event e) s.outbox rfl rfl (fun e' he => by
          rw [Position.refusing_holds] at he
          exact ⟨_, at', he, fun _ _ fits => Position.refusing_fits (Or.inl fits)⟩)
        rw [Position.refusing_worker] at after
        exact after
    | ok _ =>
      refine ⟨.ended (some event) (.ok .published), ?_⟩
      rcases run with rfl | ⟨bad, -⟩
      · exact h.record (p := .ended (some event) (.ok .published)) at' rfl _ (fun _ => rfl) (fun _ => rfl)
          (fun _ => rfl) (fun _ _ _ _ bad => nomatch bad) (fun _ he => nomatch he)
      · cases bad
  | givingUp event message =>
    change (⟨some event, .op (Op.markFailed event.eventId event.deliveryAttempts message) _⟩ : Worker) = _
      at hworker
    cases hworker
    have recorded := h.record at' rfl (p := .ended (some event) (r.map fun _ => Result.failed))
      (fun row => { row with
        status := .failed, lockedUntil := none, lastError := some (errorText message),
        updatedAt := s.outbox.now }) (fun _ => rfl) (fun _ => rfl) (fun _ => rfl)
      (fun _ _ _ _ bad => nomatch bad) (fun _ he => nomatch he)
    cases r with
    | error e =>
      refine ⟨.ended (some event) (.error e), ?_⟩
      rcases run with rfl | ⟨-, rfl⟩
      · exact recorded
      · exact h.finish i (some event) (.error e)
    | ok _ =>
      refine ⟨.ended (some event) (.ok .failed), ?_⟩
      rcases run with rfl | ⟨bad, -⟩
      · exact recorded
      · cases bad
  | asking event message =>
    change (⟨some event, .op Op.now _⟩ : Worker) = _ at hworker
    cases hworker
    obtain rfl := run
    refine ⟨.backingOff event message r, h.idle (p := .backingOff event message r) rfl rfl fun e he => ?_⟩
    exact ⟨_, at', he, fun _ _ fits => fits⟩
  | backingOff event message now =>
    change (⟨some event, .op (Op.reschedule event.eventId event.deliveryAttempts
      (now + delayMs event.deliveryAttempts) message) _⟩ : Worker) = _ at hworker
    cases hworker
    have recorded := h.record at' rfl (p := .ended (some event) (r.map fun _ => Result.retried))
      (fun row => { row with
        status := .pending, nextAttemptAt := now + delayMs event.deliveryAttempts, lockedUntil := none,
        lastError := some (errorText message), updatedAt := s.outbox.now })
      (fun _ => rfl) (fun _ => rfl) (fun _ => rfl)
      (fun _ row fits publishing _ => by
        rcases fits.2 with ⟨-, attempts⟩ | sent
        · rw [attempts]
          exact fits.1
        · rw [publishing] at sent
          cases sent) (fun _ he => nomatch he)
    cases r with
    | error e =>
      refine ⟨.ended (some event) (.error e), ?_⟩
      rcases run with rfl | ⟨-, rfl⟩
      · exact recorded
      · exact h.finish i (some event) (.error e)
    | ok _ =>
      refine ⟨.ended (some event) (.ok .retried), ?_⟩
      rcases run with rfl | ⟨bad, -⟩
      · exact recorded
      · cases bad
  | ended claim result => cases hworker

theorem Lease.step (h : Lease s pos) (step : Fleet.Step orderlyClaim s s') : ∃ pos', Lease s' pos' := by
  cases step with
  | ambient outbox move => exact ⟨pos, h.ambient move⟩
  | start i idle =>
    exact ⟨_, h.vacate i (some .claiming) fun q hq => by obtain rfl := Option.some.inj hq; rfl⟩
  | request i claim o k skipped r outbox worker permitted run =>
    obtain ⟨p, after⟩ := h.request worker permitted run
    exact ⟨_, after⟩
  | stop i w worker => exact ⟨_, h.vacate i none fun _ hq => nomatch hq⟩

theorem Lease.steps (h : Lease s pos) (steps : Fleet.Steps orderlyClaim s s') : ∃ pos', Lease s' pos' := by
  induction steps with
  | refl => exact ⟨pos, h⟩
  | tail _ step ih =>
    obtain ⟨pos', h'⟩ := ih
    exact h'.step step

theorem Lease.outcomesFenced (h : Lease s pos) : s.OutcomesFenced := by
  intro i w o k eventId hw hrest hrec row hrow hevent publishing
  rw [h.workers] at hw
  obtain ⟨q, at', rfl⟩ := Option.map_eq_some_iff.mp hw
  have own : ∀ e, q.holds = some e → e.eventId = eventId → ∃ x ∈ s.outbox.rows, x = row ∧ x.id = e.id ∧
      q.Fits (handedTimes e.eventId s.outbox) x := by
    intro e he heq
    obtain ⟨x, hx, hid, hxe, fits⟩ := h.held i q e at' he
    have same := h.distinct.eq_of_eventId hx hrow (hxe.trans (heq.trans hevent.symm))
    exact ⟨x, hx, same, hid, fits⟩
  cases q with
  | claiming =>
    change Prog.op Op.claimOldestPending _ = _ at hrest
    cases hrest
    cases hrec
  | delivering event =>
    change Prog.op (Op.publish event) _ = _ at hrest
    cases hrest
    cases hrec
  | confirming event =>
    change Prog.op (Op.markPublished event.eventId) _ = _ at hrest
    cases hrest
    obtain ⟨x, -, rfl, hid, fits⟩ := own event rfl (Option.some.inj hrec)
    exact ⟨event, rfl, hid.symm, fits.2.symm⟩
  | givingUp event message =>
    change Prog.op (Op.markFailed event.eventId event.deliveryAttempts message) _ = _ at hrest
    cases hrest
    obtain ⟨x, -, rfl, hid, fits⟩ := own event rfl (Option.some.inj hrec)
    rcases fits with fits | sent
    · exact ⟨event, rfl, hid.symm, fits.2.symm⟩
    · rw [publishing] at sent
      cases sent
  | asking event message =>
    change Prog.op Op.now _ = _ at hrest
    cases hrest
    cases hrec
  | backingOff event message now =>
    change Prog.op (Op.reschedule event.eventId event.deliveryAttempts
      (now + delayMs event.deliveryAttempts) message) _ = _ at hrest
    cases hrest
    obtain ⟨x, -, rfl, hid, -, fits⟩ := own event rfl (Option.some.inj hrec)
    rcases fits with fits | sent
    · exact ⟨event, rfl, hid.symm, fits.2.symm⟩
    · rw [publishing] at sent
      cases sent
  | ended claim result => cases hrest

theorem Lease.deliveriesBounded (h : Lease s pos) : s.DeliveriesBounded := by
  intro eventId
  by_cases known : eventId ∈ s.outbox.rows.map OutboxRow.eventId
  · obtain ⟨row, hrow, rfl⟩ := List.mem_map.mp known
    exact (h.bounded row hrow).1
  · rw [h.not_handed known]
    exact Nat.zero_le _

-- A worker that holds a claim comes to record an outcome for it.
theorem Position.comes_to_record {q : Position} {event : OutboxEvent} (holds : q.holds = some event) {t : Fleet}
    {i : Nat} (worker : t.workers i = some q.worker) :
    ∃ t' o k, Fleet.Steps anyClaim t t' ∧ t'.workers i = some ⟨some event, .op o k⟩ ∧
      recorded o = some event.eventId ∧ t'.outbox.rows = t.outbox.rows := by
  cases q with
  | claiming | ended => cases holds
  | delivering e =>
    obtain rfl := Option.some.inj holds
    have step : Fleet.Step anyClaim t _ := .request t i (some e) (Op.publish e) _ [] (.ok ())
      { t.outbox with handed := t.outbox.handed ++ [e] } worker (fun _ _ _ => trivial) rfl
    exact ⟨_, _, _, .single step, Function.update_self .., rfl, rfl⟩
  | confirming e | givingUp e message | backingOff e message now =>
    obtain rfl := Option.some.inj holds
    exact ⟨t, _, _, .refl, worker, rfl, rfl⟩
  | asking e message =>
    obtain rfl := Option.some.inj holds
    have step : Fleet.Step anyClaim t _ := .request t i (some e) Op.now _ [] t.outbox.now
      t.outbox worker (fun _ _ _ => trivial) rfl
    exact ⟨_, _, _, .single step, Function.update_self .., rfl, rfl⟩

theorem Position.holds_of_busy {q : Position} {event : OutboxEvent} {o : Op}
    {k : Ret o → Prog Ret (Except Thrown Result)} (worker : q.worker = ⟨some event, .op o k⟩) :
    q.holds = some event := by
  cases q with
  | claiming => exact (Worker.mk.inj worker).1
  | delivering | confirming | givingUp | asking | backingOff => exact (Worker.mk.inj worker).1
  | ended => cases worker

theorem Position.Fits.attempts {q : Position} {event : OutboxEvent} {count : Nat} {row : OutboxRow}
    (fits : q.Fits count row) (holds : q.holds = some event) (publishing : row.status = .publishing) :
    row.deliveryAttempts = event.deliveryAttempts := by
  have unsent : row.status ≠ .sent := by
    rw [publishing]
    decide
  cases q with
  | claiming | ended => cases holds
  | delivering e =>
    obtain rfl := Option.some.inj holds
    exact fits.2.1
  | confirming e =>
    obtain rfl := Option.some.inj holds
    exact fits.2
  | givingUp e message =>
    obtain rfl := Option.some.inj holds
    exact (fits.resolve_right unsent).2
  | asking e message | backingOff e message now =>
    obtain rfl := Option.some.inj holds
    exact (fits.2.resolve_right unsent).2

-- A worker that claims a row while another one still holds it, or for a fourth delivery, may go wrong.
theorem Lease.disorder (h : Lease s pos) {j : Nat} {claim : Option OutboxEvent}
    {k : Ret Op.claimOldestPending → Prog Ret (Except Thrown Result)} {skipped : List String} {row : OutboxRow}
    (worker : s.workers j = some ⟨claim, .op .claimOldestPending k⟩)
    (next : nextEvent s.outbox.now skipped s.outbox.rows = some row) (disorderly : ¬ orderlyClaim s row) :
    ∃ s', Fleet.Steps anyClaim s s' ∧ ¬ (s'.OutcomesFenced ∧ s'.DeliveriesBounded) := by
  obtain ⟨mem, -⟩ := nextEvent_mem next
  obtain ⟨publishing, trouble⟩ := Classical.not_imp.mp disorderly
  obtain ⟨rfl, deliver⟩ : claim = none ∧ ∀ event, k (.ok (some event)) = OutboxPublisherService.deliver event := by
    rw [h.workers] at worker
    obtain ⟨q, -, hq⟩ := Option.map_eq_some_iff.mp worker
    exact Position.deliver_of_claim hq
  have run := claim_next s.outbox.handed next
  have step : Fleet.Step anyClaim s _ := .request s j none Op.claimOldestPending k skipped _ _ worker
    (fun _ _ _ => trivial) run
  rw [deliver] at step
  by_cases few : handedTimes row.eventId s.outbox < maxDeliveryAttempts
  · obtain ⟨i, event, o, k', hholder, hevent⟩ : ∃ i, s.holder row.eventId i := by
      by_contra hnone
      exact trouble ⟨few, not_exists.mp hnone⟩
    have hij : i ≠ j := by
      rintro rfl
      rw [worker] at hholder
      cases hholder
    have place := hholder
    rw [h.workers] at place
    obtain ⟨q, at', hq⟩ := Option.map_eq_some_iff.mp place
    have holds := Position.holds_of_busy hq
    obtain ⟨x, hx, -, hxe, fits⟩ := h.held i q event at' holds
    obtain rfl := h.distinct.eq_of_eventId hx mem (hxe.trans hevent)
    have attempts := fits.attempts holds publishing
    obtain ⟨s', o', k'', steps, busy, records, rows⟩ := Position.comes_to_record holds
      (t := ⟨{ s.outbox with rows := s.outbox.rows.map (claimRow s.outbox.now x) },
        Function.update s.workers j (some ⟨some (toOutboxEvent (claimed s.outbox.now x)),
          OutboxPublisherService.deliver (toOutboxEvent (claimed s.outbox.now x))⟩)⟩) (i := i)
      ((Function.update_of_ne hij _ _).trans (hholder.trans (congrArg some hq.symm)))
    refine ⟨s', .head step steps, fun good => ?_⟩
    have claimedMem : claimed s.outbox.now x ∈ s'.outbox.rows := by
      rw [rows]
      exact List.mem_map.mpr ⟨x, hx, if_pos rfl⟩
    obtain ⟨e, he, -, stale⟩ := good.1 i _ o' k'' event.eventId busy rfl records (claimed s.outbox.now x)
      claimedMem hxe rfl
    obtain rfl := Option.some.inj he
    change event.deliveryAttempts = x.deliveryAttempts + 1 at stale
    omega
  · have again : Fleet.Step anyClaim _ _ := .request
      ⟨{ s.outbox with rows := s.outbox.rows.map (claimRow s.outbox.now row) },
        Function.update s.workers j (some ⟨some (toOutboxEvent (claimed s.outbox.now row)),
          OutboxPublisherService.deliver (toOutboxEvent (claimed s.outbox.now row))⟩)⟩ j
      (some (toOutboxEvent (claimed s.outbox.now row))) (Op.publish (toOutboxEvent (claimed s.outbox.now row)))
      _ [] (.ok ()) _ (Function.update_self ..) (fun _ _ _ => trivial) rfl
    refine ⟨_, .head step (.single again), fun good => ?_⟩
    have more := good.2 row.eventId
    change handedTimes row.eventId { s.outbox with
      handed := s.outbox.handed ++ [toOutboxEvent (claimed s.outbox.now row)] } ≤ _ at more
    rw [handedTimes_append, if_pos (show (toOutboxEvent (claimed s.outbox.now row)).eventId = row.eventId from rfl)]
      at more
    omega

section Settled

variable {permits : Fleet → OutboxRow → Prop}

theorem outcome_distinct {rows : List OutboxRow} (h : Distinct rows) {change : OutboxRow → OutboxRow}
    (eventId : String) (id : ∀ row, (change row).id = row.id) (event : ∀ row, (change row).eventId = row.eventId) :
    Distinct (outcome change eventId rows) := by
  refine h.map ?_ ?_
  · intro row
    split
    · exact id row
    · rfl
  · intro row
    split
    · exact event row
    · rfl

theorem outcome_settled {rows : List OutboxRow} {row : OutboxRow} (mem : row ∈ rows)
    (settled : row.status ≠ .publishing) (change : OutboxRow → OutboxRow) (eventId : String) :
    row ∈ outcome change eventId rows :=
  List.mem_map.mpr ⟨row, mem, if_neg fun hit => settled hit.2⟩

theorem exec_settled {skipped : List String} {o : Op} {a b : Outbox} {r : Ret o} (run : exec skipped o a r b)
    (h : Distinct a.rows) :
    Distinct b.rows ∧ ∀ row ∈ a.rows, row.status = .sent ∨ row.status = .failed → row ∈ b.rows := by
  have unpublished : ∀ row : OutboxRow, row.status = .sent ∨ row.status = .failed → row.status ≠ .publishing := by
    rintro row (settled | settled) <;>
    · rw [settled]
      decide
  have write : ∀ {ε : Type} {x : Except Thrown ε} {change : OutboxRow → OutboxRow} {eventId : String},
      written a (outcome change eventId) x b → (∀ row, (change row).id = row.id) →
      (∀ row, (change row).eventId = row.eventId) →
      Distinct b.rows ∧ ∀ row ∈ a.rows, row.status = .sent ∨ row.status = .failed → row ∈ b.rows := by
    rintro ε x change eventId (rfl | ⟨-, rfl⟩) id event
    · exact ⟨outcome_distinct h _ id event,
        fun row mem settled => outcome_settled mem (unpublished row settled) _ _⟩
    · exact ⟨h, fun _ mem _ => mem⟩
  cases o with
  | claimOldestPending =>
    obtain ⟨-, rfl | ⟨-, rfl⟩⟩ := run
    · rcases claim_cases a.now skipped a.rows with ⟨-, hclaim⟩ | ⟨p, hp, hclaim⟩
      · dsimp only
        rw [hclaim]
        exact ⟨h, fun _ mem _ => mem⟩
      · dsimp only
        rw [hclaim]
        refine ⟨h.map claimRow_id claimRow_eventId, fun row mem settled => ?_⟩
        obtain ⟨hmem, claimable⟩ := nextEvent_mem hp
        refine List.mem_map.mpr ⟨row, mem, if_neg fun same => ?_⟩
        obtain rfl := h.eq_of_id mem hmem same
        rcases claimable_status claimable with status | status <;>
        · rw [status] at settled
          simp at settled
    · exact ⟨h, fun _ mem _ => mem⟩
  | publish event =>
    obtain rfl := run
    exact ⟨h, fun _ mem _ => mem⟩
  | markPublished eventId => exact write run (fun _ => rfl) (fun _ => rfl)
  | reschedule eventId attempt nextAttemptAt error => exact write run (fun _ => rfl) (fun _ => rfl)
  | markFailed eventId attempt error => exact write run (fun _ => rfl) (fun _ => rfl)
  | now =>
    obtain rfl := run
    exact ⟨h, fun _ mem _ => mem⟩

theorem ambient_settled {a b : Outbox} (move : Outbox.Ambient a b) (h : Distinct a.rows) :
    Distinct b.rows ∧ ∀ row ∈ a.rows, row ∈ b.rows := by
  cases move with
  | tick now later => exact ⟨h, fun _ mem => mem⟩
  | create row fresh unique pending attempts =>
    exact ⟨h.concat fresh unique, fun _ mem => List.mem_append.mpr (Or.inl mem)⟩

theorem step_settled (step : Fleet.Step permits s s') (h : Distinct s.outbox.rows) :
    Distinct s'.outbox.rows ∧
      ∀ row ∈ s.outbox.rows, row.status = .sent ∨ row.status = .failed → row ∈ s'.outbox.rows := by
  cases step with
  | ambient outbox move =>
    obtain ⟨distinct, kept⟩ := ambient_settled move h
    exact ⟨distinct, fun row mem _ => kept row mem⟩
  | start | stop => exact ⟨h, fun _ mem _ => mem⟩
  | request i claim o k skipped r outbox worker permitted run => exact exec_settled run h

theorem steps_settled (steps : Fleet.Steps permits s s') (h : Distinct s.outbox.rows) :
    Distinct s'.outbox.rows ∧
      ∀ row ∈ s.outbox.rows, row.status = .sent ∨ row.status = .failed → row ∈ s'.outbox.rows := by
  induction steps with
  | refl => exact ⟨h, fun _ mem _ => mem⟩
  | tail _ step ih =>
    obtain ⟨distinct, kept⟩ := step_settled step ih.1
    exact ⟨distinct, fun row mem settled => kept row (ih.2 row mem settled) settled⟩

end Settled

end Lease

theorem outbox_fenced_of_orderly_claims (now : Time) :
    (∀ s, Fleet.Steps orderlyClaim (Fleet.empty now) s → s.OutcomesFenced ∧ s.DeliveriesBounded) ∧
      (∀ s j claim k skipped row, Fleet.Steps orderlyClaim (Fleet.empty now) s →
        s.workers j = some ⟨claim, .op .claimOldestPending k⟩ →
        nextEvent s.outbox.now skipped s.outbox.rows = some row → ¬ orderlyClaim s row →
        ∃ s', Fleet.Steps anyClaim s s' ∧ ¬ (s'.OutcomesFenced ∧ s'.DeliveriesBounded)) ∧
      ∀ s s', Fleet.Steps anyClaim (Fleet.empty now) s → Fleet.Steps anyClaim s s' →
        ∀ row ∈ s.outbox.rows, row.status = .sent ∨ row.status = .failed → row ∈ s'.outbox.rows := by
  refine ⟨?_, ?_, ?_⟩
  · intro s steps
    obtain ⟨pos, h⟩ := (lease_empty now).steps steps
    exact ⟨h.outcomesFenced, h.deliveriesBounded⟩
  · intro s j claim k skipped row steps worker next disorderly
    obtain ⟨pos, h⟩ := (lease_empty now).steps steps
    exact h.disorder worker next disorderly
  · intro s s' reached steps
    have distinct := (steps_settled reached ⟨List.nodup_nil, List.nodup_nil⟩).1
    exact (steps_settled steps distinct).2

def pair (outbox : Outbox) (first second : Option Worker) : Fleet :=
  ⟨outbox, fun | 0 => first | 1 => second | _ => none⟩

section Pair

variable {permits : Fleet → OutboxRow → Prop} {outbox outbox' : Outbox} {first second : Option Worker}
  {w : Worker} {claim : Option OutboxEvent} {o : Op} {k : Ret o → Prog Ret (Except Thrown Result)} {r : Ret o}

theorem update_first (a : Option Worker) :
    Function.update (pair outbox first second).workers 0 a = (pair outbox a second).workers := by
  funext i
  match i with
  | 0 | 1 | _ + 2 => rfl

theorem update_second (a : Option Worker) :
    Function.update (pair outbox first second).workers 1 a = (pair outbox first a).workers := by
  funext i
  match i with
  | 0 | 1 | _ + 2 => rfl

theorem pair_start :
    Fleet.Step permits (pair outbox none second) (pair outbox (some ⟨none, publishNext⟩) second) := by
  have step : Fleet.Step permits (pair outbox none second) _ := .start _ 0 rfl
  rwa [update_first] at step

theorem pair_start_second :
    Fleet.Step permits (pair outbox first none) (pair outbox first (some ⟨none, publishNext⟩)) := by
  have step : Fleet.Step permits (pair outbox first none) _ := .start _ 1 rfl
  rwa [update_second] at step

theorem pair_stop : Fleet.Step permits (pair outbox (some w) second) (pair outbox none second) := by
  have step : Fleet.Step permits (pair outbox (some w) second) _ := .stop _ 0 w rfl
  rwa [update_first] at step

theorem pair_request (run : exec [] o outbox r outbox')
    (permitted : o = .claimOldestPending → ∀ row, nextEvent outbox.now [] outbox.rows = some row →
      permits (pair outbox (some ⟨claim, .op o k⟩) second) row) :
    Fleet.Step permits (pair outbox (some ⟨claim, .op o k⟩) second)
      (pair outbox' (some ⟨claimOf o r claim, k r⟩) second) := by
  have step : Fleet.Step permits (pair outbox (some ⟨claim, .op o k⟩) second) _ :=
    .request _ 0 claim o k [] r outbox' rfl permitted run
  rwa [update_first] at step

theorem pair_request_second (run : exec [] o outbox r outbox') :
    Fleet.Step anyClaim (pair outbox first (some ⟨claim, .op o k⟩))
      (pair outbox' first (some ⟨claimOf o r claim, k r⟩)) := by
  have step : Fleet.Step anyClaim (pair outbox first (some ⟨claim, .op o k⟩)) _ :=
    .request _ 1 claim o k [] r outbox' rfl (fun _ _ _ => trivial) run
  rwa [update_second] at step

theorem pair_tick {now now' : Time} (later : now ≤ now') (rows : List OutboxRow) (handed : List OutboxEvent) :
    Fleet.Step permits (pair ⟨now, rows, handed⟩ first second) (pair ⟨now', rows, handed⟩ first second) :=
  .ambient _ _ (.tick ⟨now, rows, handed⟩ now' later)

theorem claim_single {now : Time} {row : OutboxRow} (h : claimable now row = true) (handed : List OutboxEvent) :
    nextEvent now [] [row] = some row ∧
      exec [] Op.claimOldestPending ⟨now, [row], handed⟩ (.ok (some (toOutboxEvent (claimed now row))))
        ⟨now, [claimed now row], handed⟩ := by
  have next : nextEvent now [] [row] = some row := by simp [nextEvent, h]
  have run := claim_next handed next
  rw [List.map_singleton, claimRow, if_pos rfl] at run
  exact ⟨next, run⟩

theorem pair_claim {now : Time} {row : OutboxRow} (h : claimable now row = true) (handed : List OutboxEvent)
    (permitted : permits (pair ⟨now, [row], handed⟩ (some ⟨none, publishNext⟩) second) row) :
    Fleet.Step permits (pair ⟨now, [row], handed⟩ (some ⟨none, publishNext⟩) second)
      (pair ⟨now, [claimed now row], handed⟩ (some ⟨some (toOutboxEvent (claimed now row)),
        deliver (toOutboxEvent (claimed now row))⟩) second) := by
  obtain ⟨next, run⟩ := claim_single h handed
  refine pair_request run fun _ p hp => ?_
  obtain rfl := Option.some.inj (next.symm.trans hp)
  exact permitted

theorem pair_publish (event : OutboxEvent) :
    Fleet.Step permits (pair outbox (some ⟨some event, deliver event⟩) second)
      (pair { outbox with handed := outbox.handed ++ [event] } (some ⟨some event, confirm event⟩) second) :=
  pair_request (o := .publish event) (r := .ok ()) rfl fun h => nomatch h

theorem lost_steps {now : Time} {row : OutboxRow} (h : claimable now row = true) (handed : List OutboxEvent)
    (permitted : permits (pair ⟨now, [row], handed⟩ (some ⟨none, publishNext⟩) second) row) :
    Fleet.Steps permits (pair ⟨now, [row], handed⟩ none second)
      (pair ⟨now + 30000, [claimed now row], handed ++ [toOutboxEvent (claimed now row)]⟩ none second) :=
  .head pair_start (.head (pair_claim h handed permitted) (.head (pair_publish _) (.head pair_stop
    (.single (pair_tick (Nat.le_add_right _ _) _ _)))))

end Pair

def createdEvent : OutboxRow where
  id := "0b7c51d2-93ea-4a8f-8d10-6f2e4c9b7a35"
  eventId := "5e0f2a94-7c63-4d1b-9b82-1a3d5c7e9f08"
  workspaceId := "9d1e6b3f-2a57-4c80-b4f9-e83c5a7d1206"
  eventType := "StateChangedEvent"
  correlationId := "c47a2d95-8e1b-43f6-a0d7-5b9e1f3c6824"
  payload := .obj []
  createdAt := 0
  status := .pending
  deliveryAttempts := 0
  nextAttemptAt := 0
  lockedUntil := none
  lastError := none
  publishedAt := none
  updatedAt := 0

theorem created_steps (permits : Fleet → OutboxRow → Prop) :
    Fleet.Steps permits (Fleet.empty 0) (pair ⟨0, [createdEvent], []⟩ none none) := by
  have empty : Fleet.empty 0 = pair ⟨0, [], []⟩ none none := by
    unfold Fleet.empty pair
    congr
    funext i
    match i with
    | 0 | 1 | _ + 2 => rfl
  rw [empty]
  exact .single (.ambient _ _ (.create ⟨0, [], []⟩ createdEvent (by simp) (by simp) rfl rfl))

def firstClaim : OutboxEvent := toOutboxEvent (claimed 0 createdEvent)

def secondClaim : OutboxEvent := toOutboxEvent (claimed 30000 (claimed 0 createdEvent))

def overtaken : Fleet :=
  pair ⟨30000, [claimed 30000 (claimed 0 createdEvent)], [firstClaim]⟩ (some ⟨some firstClaim, confirm firstClaim⟩)
    (some ⟨some secondClaim, deliver secondClaim⟩)

theorem overtaken_steps : Fleet.Steps anyClaim (Fleet.empty 0) overtaken := by
  have reclaim : Fleet.Step anyClaim (pair ⟨30000, [claimed 0 createdEvent], []⟩
        (some ⟨some firstClaim, deliver firstClaim⟩) (some ⟨none, publishNext⟩))
      (pair ⟨30000, [claimed 30000 (claimed 0 createdEvent)], []⟩ (some ⟨some firstClaim, deliver firstClaim⟩)
        (some ⟨some secondClaim, deliver secondClaim⟩)) :=
    pair_request_second (claim_single (by decide) []).2
  exact (created_steps anyClaim).trans (.head pair_start (.head (pair_claim (by decide) [] trivial)
    (.head (pair_tick (Nat.zero_le 30000) _ _) (.head pair_start_second (.head reclaim
      (.single (pair_publish firstClaim)))))))

def handedFourTimes : Fleet :=
  pair ⟨120000, [claimed 90000 (claimed 60000 (claimed 30000 (claimed 0 createdEvent)))],
    [firstClaim, secondClaim, toOutboxEvent (claimed 60000 (claimed 30000 (claimed 0 createdEvent))),
      toOutboxEvent (claimed 90000 (claimed 60000 (claimed 30000 (claimed 0 createdEvent))))]⟩ none none

theorem handedFourTimes_steps : Fleet.Steps anyClaim (Fleet.empty 0) handedFourTimes :=
  (created_steps anyClaim).trans ((lost_steps (by decide) [] trivial).trans ((lost_steps (by decide) _ trivial).trans
    ((lost_steps (by decide) _ trivial).trans (lost_steps (by decide) _ trivial))))

theorem outbox_not_fenced :
    (¬ ∀ s, Fleet.Steps anyClaim (Fleet.empty 0) s → s.OutcomesFenced) ∧
      ¬ ∀ s, Fleet.Steps anyClaim (Fleet.empty 0) s → s.DeliveriesBounded := by
  refine ⟨fun fenced => ?_, fun bounded => ?_⟩
  · obtain ⟨e, he, -, attempts⟩ := fenced overtaken overtaken_steps 0 _ _ _ firstClaim.eventId rfl rfl rfl _
      List.mem_cons_self rfl rfl
    obtain rfl := Option.some.inj he
    exact absurd attempts (by decide)
  · exact absurd (bounded handedFourTimes handedFourTimes_steps firstClaim.eventId) (by decide)

def delivered : Fleet :=
  pair ⟨30000, [{ claimed 30000 (claimed 0 createdEvent) with
    status := .sent, publishedAt := some 30000, lockedUntil := none, lastError := none }], [firstClaim, secondClaim]⟩
    (some ⟨some secondClaim, .pure (.ok .published)⟩) none

theorem outbox_fenced_of_orderly_claims_replaced :
    Fleet.Steps orderlyClaim (Fleet.empty 0) delivered ∧ delivered.OutcomesFenced ∧ delivered.DeliveriesBounded := by
  have reached : Fleet.Steps orderlyClaim (Fleet.empty 0) delivered := by
    have unheld : orderlyClaim (pair ⟨30000, [claimed 0 createdEvent], [firstClaim]⟩ (some ⟨none, publishNext⟩) none)
        (claimed 0 createdEvent) := by
      refine fun _ => ⟨by decide, ?_⟩
      rintro (_ | _ | i) ⟨event, o, k, held, -⟩ <;> cases held
    have confirmed : Fleet.Step orderlyClaim
        (pair ⟨30000, [claimed 30000 (claimed 0 createdEvent)], [firstClaim, secondClaim]⟩
          (some ⟨some secondClaim, confirm secondClaim⟩) none) delivered :=
      pair_request (o := .markPublished secondClaim.eventId) (r := .ok ()) (Or.inl rfl) fun h => nomatch h
    exact (created_steps orderlyClaim).trans ((lost_steps (by decide) [] fun h => nomatch h).trans (.head pair_start
      (.head (pair_claim (by decide) _ unheld) (.head (pair_publish _) (.single confirmed)))))
  exact ⟨reached, (outbox_fenced_of_orderly_claims 0).1 _ reached⟩

end Provisr.Events
