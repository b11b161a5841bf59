import Provisr.Events.OutboxLease

namespace Provisr.Events

open Provisr.Foundation OutboxPublisherService PostgresOutboxStore

structure Solo where
  outbox : Outbox
  worker : Option Worker

inductive Happening where
  | tick (now : Time)
  | create (row : OutboxRow)
  | call
  | request (skipped : List String)
  | stop

inductive Solo.Step : Solo → Happening → Solo → Prop
  | tick (s : Solo) (now : Time) (later : s.outbox.now ≤ now) :
      Step s (.tick now) { s with outbox := { s.outbox with now := now } }
  | create (s : Solo) (row : OutboxRow) (fresh : row.id ∉ s.outbox.rows.map OutboxRow.id)
      (unique : row.eventId ∉ s.outbox.rows.map OutboxRow.eventId) (pending : row.status = .pending)
      (attempts : row.deliveryAttempts = 0) :
      Step s (.create row) { s with outbox := { s.outbox with rows := s.outbox.rows ++ [row] } }
  | call (s : Solo) (idle : s.worker = none) : Step s .call { s with worker := some ⟨none, publishNext⟩ }
  | request (s : Solo) (claim : Option OutboxEvent) (o : Op) (k : Ret o → Prog Ret (Except Thrown Result))
      (skipped : List String) (r : Ret o) (outbox : Outbox) (worker : s.worker = some ⟨claim, .op o k⟩)
      (run : exec skipped o s.outbox r outbox) :
      Step s (.request skipped) ⟨outbox, some ⟨claimOf o r claim, k r⟩⟩
  | stop (s : Solo) (w : Worker) (worker : s.worker = some w) : Step s .stop { s with worker := none }

def Solo.Steps (permits : Solo → Happening → Prop) : Solo → Solo → Prop :=
  Relation.ReflTransGen fun s t => ∃ h, permits s h ∧ Solo.Step s h t

def Solo.empty (now : Time) : Solo := ⟨⟨now, [], []⟩, none⟩

def anything : Solo → Happening → Prop := fun _ _ => True

def Solo.handing (s : Solo) (event : OutboxEvent) : Prop :=
  ∃ claim k, s.worker = some ⟨claim, .op (.publish event) k⟩

def OutboxRow.unfinished (row : OutboxRow) : Prop := row.status ≠ .sent ∧ row.status ≠ .failed

-- Where the worker hands an event over, those created before it have been sent or given up.
def Solo.InOrder (s : Solo) : Prop :=
  ∀ event, s.handing event → ∀ row ∈ s.outbox.rows, row.createdAt < event.createdAt → ¬ row.unfinished

def available (now : Time) (skipped : List String) (row : OutboxRow) : Bool :=
  claimable now row && !skipped.contains row.id

-- If there is anything to claim at all, it is one of the oldest events that are not finished.
def oldestAvailable (skipped : List String) (s : Outbox) : Prop :=
  (∃ row ∈ s.rows, available s.now skipped row = true) →
    ∃ row ∈ s.rows, available s.now skipped row = true ∧
      ∀ other ∈ s.rows, other.unfinished → row.createdAt ≤ other.createdAt

-- An event shows up before a later one is handed over, and none is waiting for its next attempt, or in a lease
-- that a crash has left behind, while a later one can be claimed.
def Solo.inTurn (s : Solo) : Happening → Prop
  | .create row => ∀ event, s.handing event → event.createdAt ≤ row.createdAt
  | .request skipped => (∃ claim k, s.worker = some ⟨claim, .op .claimOldestPending k⟩) →
      oldestAvailable skipped s.outbox
  | _ => True

def Solo.fleet (s : Solo) : Fleet := ⟨s.outbox, fun | 0 => s.worker | _ => none⟩

section Fleet

variable {s t : Solo} {h : Happening}

theorem fleet_update (s : Solo) (outbox : Outbox) (w : Option Worker) :
    (⟨outbox, Function.update s.fleet.workers 0 w⟩ : Fleet) = (⟨outbox, w⟩ : Solo).fleet := by
  unfold Solo.fleet
  congr
  funext i
  match i with
  | 0 | _ + 1 => rfl

theorem Solo.Step.fleet (step : Solo.Step s h t) : Fleet.Step anyClaim s.fleet t.fleet := by
  cases step with
  | tick now later => exact .ambient s.fleet _ (.tick s.outbox now later)
  | create row fresh unique pending attempts =>
    exact .ambient s.fleet _ (.create s.outbox row fresh unique pending attempts)
  | call idle =>
    have step : Fleet.Step anyClaim s.fleet _ := .start s.fleet 0 idle
    rwa [fleet_update] at step
  | request claim o k skipped r outbox worker run =>
    have step : Fleet.Step anyClaim s.fleet _ :=
      .request s.fleet 0 claim o k skipped r outbox worker (fun _ _ _ => trivial) run
    rwa [fleet_update] at step
  | stop w worker =>
    have step : Fleet.Step anyClaim s.fleet _ := .stop s.fleet 0 w worker
    rwa [fleet_update] at step

theorem empty_fleet (now : Time) : (Solo.empty now).fleet = Fleet.empty now := by
  unfold Solo.fleet Fleet.empty Solo.empty
  congr
  funext i
  match i with
  | 0 | _ + 1 => rfl

theorem Solo.Steps.fleet {permits : Solo → Happening → Prop} {now : Time}
    (steps : Solo.Steps permits (Solo.empty now) s) : Fleet.Steps anyClaim (Fleet.empty now) s.fleet := by
  induction steps with
  | refl => rw [empty_fleet]
  | tail _ step ih =>
    obtain ⟨_, _, step⟩ := step
    exact ih.tail step.fleet

end Fleet

section Position

variable {q : Position} {claim : Option OutboxEvent} {event : OutboxEvent}

theorem Position.refusing_ne (event e : OutboxEvent) (error : Thrown) : refusing e error ≠ .delivering event := by
  unfold refusing
  split <;> exact nofun

theorem Position.delivering_of_publish {k : Ret (.publish event) → Prog Ret (Except Thrown Result)}
    (worker : q.worker = ⟨claim, .op (.publish event) k⟩) : q = .delivering event := by
  cases q with
  | delivering e =>
    cases worker
    rfl
  | claiming | confirming | givingUp | asking | backingOff | ended => exact nomatch worker

def claims (event : OutboxEvent) : (o : Op) → Ret o → Prop
  | .claimOldestPending, r => r = .ok (some event)
  | _, _ => False

theorem Position.request {o : Op} {k : Ret o → Prog Ret (Except Thrown Result)}
    (worker : q.worker = ⟨claim, .op o k⟩) (r : Ret o) :
    ∃ p : Position, p.worker = ⟨claimOf o r claim, k r⟩ ∧ ∀ event, p = .delivering event → claims event o r := by
  cases q with
  | claiming =>
    change (⟨none, .op Op.claimOldestPending _⟩ : Worker) = _ at worker
    cases worker
    match r with
    | .error e => exact ⟨.ended none (.error e), rfl, nofun⟩
    | .ok none => exact ⟨.ended none (.ok .empty), rfl, nofun⟩
    | .ok (some event) =>
      refine ⟨.delivering event, rfl, fun e he => ?_⟩
      obtain rfl := Position.delivering.inj he
      rfl
  | delivering event =>
    change (⟨some event, .op (Op.publish event) _⟩ : Worker) = _ at worker
    cases worker
    match r with
    | .error e => exact ⟨refusing event e, refusing_worker event e, fun _ he => absurd he (refusing_ne _ _ _)⟩
    | .ok _ => exact ⟨.confirming event, rfl, nofun⟩
  | confirming event =>
    change (⟨some event, .op (Op.markPublished event.eventId) _⟩ : Worker) = _ at worker
    cases worker
    match r with
    | .error e => exact ⟨refusing event e, refusing_worker event e, fun _ he => absurd he (refusing_ne _ _ _)⟩
    | .ok _ => exact ⟨.ended (some event) (.ok .published), rfl, nofun⟩
  | givingUp event message =>
    change (⟨some event, .op (Op.markFailed event.eventId event.deliveryAttempts message) _⟩ : Worker) = _ at worker
    cases worker
    match r with
    | .error e => exact ⟨.ended (some event) (.error e), rfl, nofun⟩
    | .ok _ => exact ⟨.ended (some event) (.ok .failed), rfl, nofun⟩
  | asking event message =>
    change (⟨some event, .op Op.now _⟩ : Worker) = _ at worker
    cases worker
    exact ⟨.backingOff event message r, rfl, nofun⟩
  | backingOff event message now =>
    change (⟨some event, .op (Op.reschedule event.eventId event.deliveryAttempts
      (now + delayMs event.deliveryAttempts) message) _⟩ : Worker) = _ at worker
    cases worker
    match r with
    | .error e => exact ⟨.ended (some event) (.error e), rfl, nofun⟩
    | .ok _ => exact ⟨.ended (some event) (.ok .retried), rfl, nofun⟩
  | ended => exact nomatch worker

end Position

structure Solo.Sound (s : Solo) (pos : Option Position) : Prop where
  worker : s.worker = pos.map Position.worker
  distinct : Distinct s.outbox.rows

section Order

variable {s t : Solo} {h : Happening} {pos : Option Position}

theorem Solo.Step.sound (step : Solo.Step s h t) (sound : s.Sound pos) : ∃ pos', t.Sound pos' := by
  have distinct : Distinct t.outbox.rows := (step_settled step.fleet sound.distinct).1
  cases step with
  | tick | create => exact ⟨pos, sound.worker, distinct⟩
  | call idle => exact ⟨some .claiming, rfl, distinct⟩
  | request claim o k skipped r outbox worker run =>
    rw [sound.worker] at worker
    obtain ⟨q, -, hq⟩ := Option.map_eq_some_iff.mp worker
    obtain ⟨p, hp, -⟩ := Position.request hq r
    exact ⟨some p, congrArg some hp.symm, distinct⟩
  | stop w worker => exact ⟨none, rfl, distinct⟩

theorem claim_answer {skipped : List String} {a b : Outbox} {event : OutboxEvent}
    (run : exec skipped .claimOldestPending a (.ok (some event)) b) :
    ∃ p, nextEvent a.now skipped a.rows = some p ∧ event = toOutboxEvent (claimed a.now p) ∧
      b.rows = a.rows.map (claimRow a.now p) := by
  obtain ⟨answer, written⟩ := run
  have answer := answer _ rfl
  rcases claim_cases a.now skipped a.rows with ⟨-, hclaim⟩ | ⟨p, hp, hclaim⟩
  · rw [hclaim] at answer
    cases answer
  · rw [hclaim] at answer
    refine ⟨p, hp, Option.some.inj answer, ?_⟩
    rcases written with rfl | ⟨bad, -⟩
    · dsimp only
      rw [hclaim]
    · cases bad

theorem nextEvent_available {now : Time} {skipped : List String} {rows : List OutboxRow} {p : OutboxRow}
    (next : nextEvent now skipped rows = some p) :
    p ∈ rows ∧ available now skipped p = true ∧
      ∀ row ∈ rows, available now skipped row = true → p.createdAt ≤ row.createdAt := by
  obtain ⟨mem, choice⟩ := List.mem_filter.mp (List.argmin_mem next)
  refine ⟨mem, choice, fun row hrow free => ?_⟩
  have least := List.le_of_mem_argmin (List.mem_filter.mpr ⟨hrow, free⟩) next
  exact Prod.Lex.monotone_fst _ _ least

theorem Solo.Step.inOrder (step : Solo.Step s h t) (sound : s.Sound pos) (permitted : s.inTurn h)
    (order : s.InOrder) : t.InOrder := by
  cases step with
  | tick now later => exact order
  | create row fresh unique pending attempts =>
    intro event handing r hr earlier
    rcases List.mem_append.mp hr with old | new
    · exact order event handing r old earlier
    · obtain rfl := List.mem_singleton.mp new
      exact absurd (permitted event handing) (not_le.mpr earlier)
  | call idle =>
    rintro event ⟨claim, k, worker⟩
    exact nomatch Option.some.inj worker
  | stop w worker =>
    rintro event ⟨claim, k, worker⟩
    exact nomatch worker
  | request claim o k skipped r outbox worker run =>
    have place := worker
    rw [sound.worker] at place
    obtain ⟨q, -, hq⟩ := Option.map_eq_some_iff.mp place
    obtain ⟨p, hp, source⟩ := Position.request hq r
    rintro event ⟨claim', k', handing⟩ row hrow earlier unfinished
    have delivering := Position.delivering_of_publish (hp.trans (Option.some.inj handing))
    have answer := source event delivering
    cases o with
    | claimOldestPending =>
      obtain rfl : r = .ok (some event) := answer
      obtain ⟨next, hnext, rfl, rows⟩ := claim_answer run
      obtain ⟨mem, free, least⟩ := nextEvent_available hnext
      obtain ⟨oldest, hold, freeOld, first⟩ := permitted ⟨claim, k, worker⟩ ⟨next, mem, free⟩
      change row ∈ outbox.rows at hrow
      rw [rows] at hrow
      obtain ⟨r, hr, rfl⟩ := List.mem_map.mp hrow
      have created : next.createdAt ≤ oldest.createdAt := least oldest hold freeOld
      change _ < next.createdAt at earlier
      unfold claimRow at earlier unfinished
      by_cases same : r.id = next.id
      · rw [if_pos same, sound.distinct.eq_of_id hr mem same] at earlier
        exact lt_irrefl _ earlier
      · rw [if_neg same] at earlier unfinished
        exact absurd (created.trans (first r hr unfinished)) (not_le.mpr earlier)
    | publish | markPublished | reschedule | markFailed | now => exact answer.elim

-- Whatever is claimed out of turn is handed over out of order.
theorem Solo.Step.outOfTurn (step : Solo.Step s h t) (sound : s.Sound pos) (forbidden : ¬ s.inTurn h) :
    ∃ t', Solo.Step s h t' ∧ ¬ t'.InOrder := by
  cases step with
  | tick | call | stop => exact absurd trivial forbidden
  | create row fresh unique pending attempts =>
    refine ⟨_, .create s row fresh unique pending attempts, fun order => forbidden fun event handing => ?_⟩
    by_contra late
    refine order event handing row (List.mem_append.mpr (Or.inr List.mem_cons_self)) (not_le.mp late) ?_
    rw [OutboxRow.unfinished, pending]
    exact ⟨nofun, nofun⟩
  | request claim o k skipped r outbox worker run =>
    obtain ⟨⟨claim', k', worker'⟩, available⟩ := Classical.not_imp.mp forbidden
    obtain ⟨⟨row, hrow, free⟩, none⟩ := Classical.not_imp.mp available
    obtain ⟨p, next⟩ : ∃ p, nextEvent s.outbox.now skipped s.outbox.rows = some p := by
      refine Option.ne_none_iff_exists'.mp fun hnone => ?_
      have empty := List.argmin_eq_none.mp hnone
      exact List.not_mem_nil (empty ▸ List.mem_filter.mpr ⟨hrow, free⟩)
    obtain ⟨mem, freeP, -⟩ := nextEvent_available next
    have older : ∃ other ∈ s.outbox.rows, other.unfinished ∧ other.createdAt < p.createdAt := by
      by_contra hnone
      refine none ⟨p, mem, freeP, fun other hother unfinished => ?_⟩
      by_contra hlt
      exact hnone ⟨other, hother, unfinished, not_le.mp hlt⟩
    obtain ⟨other, hother, unfinished, hlt⟩ := older
    have deliver : k' (.ok (some (toOutboxEvent (claimed s.outbox.now p)))) =
        OutboxPublisherService.deliver (toOutboxEvent (claimed s.outbox.now p)) := by
      rw [sound.worker] at worker'
      obtain ⟨q, -, hq⟩ := Option.map_eq_some_iff.mp worker'
      exact (Position.deliver_of_claim hq).2 _
    refine ⟨_, .request s claim' _ k' skipped _ _ worker' (claim_next s.outbox.handed next), fun order => ?_⟩
    have handing : Solo.handing ⟨{ s.outbox with rows := s.outbox.rows.map (claimRow s.outbox.now p) },
        some ⟨some (toOutboxEvent (claimed s.outbox.now p)),
          OutboxPublisherService.deliver (toOutboxEvent (claimed s.outbox.now p))⟩⟩
        (toOutboxEvent (claimed s.outbox.now p)) := ⟨_, _, rfl⟩
    refine order (toOutboxEvent (claimed s.outbox.now p)) ?_ other ?_ hlt unfinished
    · rwa [← deliver] at handing
    · refine List.mem_map.mpr ⟨other, hother, if_neg fun same => ?_⟩
      rw [sound.distinct.eq_of_id hother mem same] at hlt
      exact lt_irrefl _ hlt

theorem Solo.Steps.sound {permits : Solo → Happening → Prop} (steps : Solo.Steps permits s t)
    (sound : s.Sound pos) : ∃ pos', t.Sound pos' := by
  induction steps with
  | refl => exact ⟨pos, sound⟩
  | tail _ step ih =>
    obtain ⟨pos', sound'⟩ := ih
    obtain ⟨h, -, step⟩ := step
    exact step.sound sound'

theorem Solo.Steps.inOrder (steps : Solo.Steps Solo.inTurn s t) (sound : s.Sound pos) (order : s.InOrder) :
    t.InOrder := by
  induction steps with
  | refl => exact order
  | tail before step ih =>
    obtain ⟨h, permitted, step⟩ := step
    obtain ⟨pos', sound'⟩ := Solo.Steps.sound before sound
    exact step.inOrder sound' permitted ih

end Order

theorem empty_sound (now : Time) : (Solo.empty now).Sound none :=
  ⟨rfl, List.nodup_nil, List.nodup_nil⟩

theorem outbox_in_order_of_turns (now : Time) :
    (∀ s, Solo.Steps Solo.inTurn (Solo.empty now) s → s.InOrder) ∧
      ∀ s h t, Solo.Steps anything (Solo.empty now) s → Solo.Step s h t → ¬ s.inTurn h →
        ∃ t', Solo.Step s h t' ∧ ¬ t'.InOrder := by
  refine ⟨fun s steps => ?_, fun s h t reached step forbidden => ?_⟩
  · refine Solo.Steps.inOrder steps (empty_sound now) ?_
    rintro event ⟨claim, k, worker⟩
    exact nomatch worker
  · obtain ⟨pos, sound⟩ := Solo.Steps.sound reached (empty_sound now)
    exact step.outOfTurn sound forbidden

section Examples

variable {permits : Solo → Happening → Prop} {outbox outbox' : Outbox} {claim : Option OutboxEvent} {o : Op}
  {k : Ret o → Prog Ret (Except Thrown Result)} {r : Ret o} {w : Worker}

theorem request_steps (permitted : permits ⟨outbox, some ⟨claim, .op o k⟩⟩ (.request []))
    (run : exec [] o outbox r outbox') :
    Solo.Steps permits ⟨outbox, some ⟨claim, .op o k⟩⟩ ⟨outbox', some ⟨claimOf o r claim, k r⟩⟩ :=
  .single ⟨_, permitted, .request _ claim o k [] r outbox' rfl run⟩

theorem Solo.Steps.permitted {permits' : Solo → Happening → Prop} {s t : Solo} (steps : Solo.Steps permits s t)
    (le : ∀ s h, permits s h → permits' s h) : Solo.Steps permits' s t := by
  induction steps with
  | refl => exact .refl
  | tail _ step ih =>
    obtain ⟨h, permitted, step⟩ := step
    exact ih.tail ⟨h, le _ h permitted, step⟩

theorem again_steps (stop : permits ⟨outbox, some w⟩ .stop) (call : permits ⟨outbox, none⟩ .call) :
    Solo.Steps permits ⟨outbox, some w⟩ ⟨outbox, some ⟨none, publishNext⟩⟩ :=
  .head ⟨_, stop, .stop _ w rfl⟩ (.single ⟨_, call, .call _ rfl⟩)

theorem claim_steps {now : Time} {rows : List OutboxRow} {p : OutboxRow} {handed : List OutboxEvent}
    (permitted : permits ⟨⟨now, rows, handed⟩, some ⟨none, publishNext⟩⟩ (.request []))
    (next : nextEvent now [] rows = some p) :
    Solo.Steps permits ⟨⟨now, rows, handed⟩, some ⟨none, publishNext⟩⟩
      ⟨⟨now, rows.map (claimRow now p), handed⟩,
        some ⟨some (toOutboxEvent (claimed now p)), deliver (toOutboxEvent (claimed now p))⟩⟩ :=
  request_steps permitted (claim_next handed next)

end Examples

def laterEvent : OutboxRow := { createdEvent with
  id := "7a4d9e16-50bc-4f27-86d3-c19f2e8b4a60"
  eventId := "f3852b7c-1d6e-49a0-b5e4-08c7a92d6f13"
  createdAt := 1
  nextAttemptAt := 1 }

theorem createdEvent_first : nextEvent 1 [] [createdEvent, laterEvent] = some createdEvent := by decide

def firstTaken : List OutboxRow := [claimed 1 createdEvent, laterEvent]

def firstTakenEvent : OutboxEvent := toOutboxEvent (claimed 1 createdEvent)

theorem firstTaken_steps : Solo.Steps Solo.inTurn (Solo.empty 0)
    ⟨⟨1, firstTaken, []⟩, some ⟨some firstTakenEvent, deliver firstTakenEvent⟩⟩ := by
  have created : Solo.Steps Solo.inTurn (Solo.empty 0) ⟨⟨1, [createdEvent, laterEvent], []⟩, none⟩ := by
    refine .head ⟨_, ?_, .create (Solo.empty 0) createdEvent (by simp [Solo.empty]) (by simp [Solo.empty]) rfl rfl⟩
      (.head ⟨.tick 1, trivial, .tick _ 1 (Nat.zero_le 1)⟩ (.single ⟨_, ?_, .create _ laterEvent ?_ ?_ rfl rfl⟩))
    · exact fun event ⟨_, _, worker⟩ => nomatch worker
    · exact fun event ⟨_, _, worker⟩ => nomatch worker
    · decide
    · decide
  have turn : Solo.inTurn ⟨⟨1, [createdEvent, laterEvent], []⟩, some ⟨none, publishNext⟩⟩ (.request []) := by
    refine fun _ _ => ⟨createdEvent, List.mem_cons_self, by decide, fun other hother _ => Nat.zero_le _⟩
  exact (created.tail ⟨.call, trivial, .call _ rfl⟩).trans (claim_steps turn createdEvent_first)

def refusal : String := "live stream is unavailable"

def firstRefused : OutboxRow := { claimed 1 createdEvent with
  status := .pending, nextAttemptAt := 1001, lockedUntil := none, lastError := some refusal }

def laterTakenEvent : OutboxEvent := toOutboxEvent (claimed 1 laterEvent)

-- The first event has to wait a second for its next attempt, and the worker goes on with the second one.
def overtaking : Solo :=
  ⟨⟨1, [firstRefused, claimed 1 laterEvent], [firstTakenEvent]⟩, some ⟨some laterTakenEvent, deliver laterTakenEvent⟩⟩

theorem overtaking_steps : Solo.Steps anything (Solo.empty 0) overtaking := by
  have taken : Solo.Steps anything (Solo.empty 0)
      ⟨⟨1, firstTaken, []⟩, some ⟨some firstTakenEvent, deliver firstTakenEvent⟩⟩ :=
    firstTaken_steps.permitted fun _ _ _ => trivial
  have refused : Solo.Steps anything ⟨⟨1, firstTaken, []⟩, some ⟨some firstTakenEvent, deliver firstTakenEvent⟩⟩
      ⟨⟨1, firstTaken, [firstTakenEvent]⟩, some ⟨some firstTakenEvent, refuse firstTakenEvent (some refusal)⟩⟩ :=
    request_steps (o := .publish firstTakenEvent) (r := .error (some refusal)) trivial rfl
  have asked : Solo.Steps anything
      ⟨⟨1, firstTaken, [firstTakenEvent]⟩, some ⟨some firstTakenEvent, refuse firstTakenEvent (some refusal)⟩⟩
      ⟨⟨1, firstTaken, [firstTakenEvent]⟩, some ⟨some firstTakenEvent, backOff firstTakenEvent refusal 1⟩⟩ :=
    request_steps (o := .now) (r := 1) trivial rfl
  have rows : PostgresOutboxStore.reschedule 1 firstTakenEvent.eventId firstTakenEvent.deliveryAttempts
      (1 + delayMs firstTakenEvent.deliveryAttempts) refusal firstTaken = [firstRefused, laterEvent] := by
    decide
  have rescheduled : Solo.Steps anything
      ⟨⟨1, firstTaken, [firstTakenEvent]⟩, some ⟨some firstTakenEvent, backOff firstTakenEvent refusal 1⟩⟩
      ⟨⟨1, [firstRefused, laterEvent], [firstTakenEvent]⟩, some ⟨some firstTakenEvent, .pure (.ok .retried)⟩⟩ :=
    request_steps (o := .reschedule firstTakenEvent.eventId firstTakenEvent.deliveryAttempts
      (1 + delayMs firstTakenEvent.deliveryAttempts) refusal) (r := .ok ()) trivial
      (Or.inl (congrArg (fun rows => (⟨1, rows, [firstTakenEvent]⟩ : Outbox)) rows.symm))
  have next : nextEvent 1 [] [firstRefused, laterEvent] = some laterEvent := by decide
  exact (((taken.trans refused).trans asked).trans rescheduled).trans
    ((again_steps trivial trivial).trans (claim_steps trivial next))

theorem outbox_out_of_order : ¬ ∀ s, Solo.Steps anything (Solo.empty 0) s → s.InOrder := by
  intro order
  have handing : overtaking.handing laterTakenEvent := ⟨_, _, rfl⟩
  exact order overtaking overtaking_steps laterTakenEvent handing firstRefused List.mem_cons_self (by decide)
    ⟨nofun, nofun⟩

def firstSent : OutboxRow := { claimed 1 createdEvent with
  status := .sent, publishedAt := some 1, lockedUntil := none, lastError := none }

def following : Solo :=
  ⟨⟨1, [firstSent, claimed 1 laterEvent], [firstTakenEvent]⟩, some ⟨some laterTakenEvent, deliver laterTakenEvent⟩⟩

theorem outbox_in_order_of_turns_following :
    Solo.Steps Solo.inTurn (Solo.empty 0) following ∧ following.handing laterTakenEvent ∧ following.InOrder := by
  have published : Solo.Steps Solo.inTurn
      ⟨⟨1, firstTaken, []⟩, some ⟨some firstTakenEvent, deliver firstTakenEvent⟩⟩
      ⟨⟨1, firstTaken, [firstTakenEvent]⟩, some ⟨some firstTakenEvent, confirm firstTakenEvent⟩⟩ :=
    request_steps (o := .publish firstTakenEvent) (r := .ok ()) (fun ⟨_, _, worker⟩ => nomatch worker) rfl
  have rows : PostgresOutboxStore.markPublished 1 firstTakenEvent.eventId firstTaken = [firstSent, laterEvent] := by
    decide
  have confirmed : Solo.Steps Solo.inTurn
      ⟨⟨1, firstTaken, [firstTakenEvent]⟩, some ⟨some firstTakenEvent, confirm firstTakenEvent⟩⟩
      ⟨⟨1, [firstSent, laterEvent], [firstTakenEvent]⟩, some ⟨some firstTakenEvent, .pure (.ok .published)⟩⟩ :=
    request_steps (o := .markPublished firstTakenEvent.eventId) (r := .ok ()) (fun ⟨_, _, worker⟩ => nomatch worker)
      (Or.inl (congrArg (fun rows => (⟨1, rows, [firstTakenEvent]⟩ : Outbox)) rows.symm))
  have next : nextEvent 1 [] [firstSent, laterEvent] = some laterEvent := by decide
  have turn : Solo.inTurn ⟨⟨1, [firstSent, laterEvent], [firstTakenEvent]⟩, some ⟨none, publishNext⟩⟩
      (.request []) := by
    refine fun _ _ => ⟨laterEvent, by simp, by decide, fun other hother unfinished => ?_⟩
    rcases List.mem_pair.mp hother with rfl | rfl
    · exact absurd rfl unfinished.1
    · exact le_rfl
  have reached : Solo.Steps Solo.inTurn (Solo.empty 0) following :=
    ((firstTaken_steps.trans published).trans confirmed).trans
      ((again_steps trivial trivial).trans (claim_steps turn next))
  exact ⟨reached, ⟨_, _, rfl⟩, (outbox_in_order_of_turns 0).1 following reached⟩

end Provisr.Events
