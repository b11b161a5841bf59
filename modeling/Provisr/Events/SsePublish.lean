import Provisr.Foundation.Feed
import Provisr.Foundation.Transactions
import Provisr.Foundation.JsonNormal
import Provisr.Orchestrator.Transitions
import Provisr.Orchestrator.IacContracts

namespace Provisr.Events

open Provisr.Foundation Provisr.Orchestrator

abbrev Uuid := { s : String // JsText.isUuid s = true }

structure SseRow where
  workspaceId : String
  eventId : Uuid
  eventType : String
  correlationId : String
  payload : JsJson
  streamSequence : Nat
  deriving DecidableEq

inductive SseKey where
  | workspace (id : String)
  | event (id : Uuid)
  deriving DecidableEq

namespace Sse

inductive Op where
  | advisoryLock (workspaceId : String)
  | insertEvent (workspaceId : String) (eventId : Uuid) (eventType correlationId : String) (payload : JsFields)

abbrev Ret : Op → Type := fun _ => Unit

def locks : Op → List SseRow → Set SseKey
  | .advisoryLock workspaceId, _ => {.workspace workspaceId}
  | .insertEvent _ eventId _ _ _, _ => {.event eventId}

-- BIGSERIAL: the number is drawn at the insert, and nobody draws it again.
def exec : (o : Op) → List SseRow → Nat → Ret o → List SseRow → Nat → Prop
  | .advisoryLock _, _, n, _, ws, n' => ws = [] ∧ n' = n
  | .insertEvent workspaceId eventId eventType correlationId payload, rows, n, _, ws, n' =>
    eventId ∉ rows.map SseRow.eventId ∧ n < n' ∧
      ws = [⟨workspaceId, eventId, eventType, correlationId, Json.jsonb (.obj payload), n'⟩]

end Sse

open Sse

structure StateChangedEvent where
  id : Uuid
  workspaceId : String
  runId : String
  correlationId : String
  source : WorkflowState
  target : WorkflowState
  stateVersion : Nat
  occurredAt : String

def insertLocked (workspaceId : String) (eventId : Uuid) (eventType correlationId : String)
    (payload : JsFields) : Prog Ret Unit := do
  Prog.call (Op.advisoryLock workspaceId)
  Prog.call (Op.insertEvent workspaceId eventId eventType correlationId payload)

def RunsService.publish (workspaceId correlationId type : String) (payload : JsFields) (randomUUID : Uuid) :
    Prog Ret Unit :=
  insertLocked workspaceId randomUUID type correlationId payload

def PostgresOutboxWriter.appendStateChangedOutboxEvent (event : StateChangedEvent) : Prog Ret Unit :=
  insertLocked event.workspaceId event.id "StateChangedEvent" event.correlationId
    [("run_id", .str event.runId), ("from", .str event.source.label), ("to", .str event.target.label),
      ("state_version", .num (JsNumber.ofNat event.stateVersion)), ("occurred_at", .str event.occurredAt)]

inductive Publication where
  | publish (workspaceId correlationId type : String) (payload : JsFields) (randomUUID : Uuid)
  | stateChanged (event : StateChangedEvent)

def Publication.program : Publication → Prog Ret Unit
  | .publish workspaceId correlationId type payload randomUUID =>
    RunsService.publish workspaceId correlationId type payload randomUUID
  | .stateChanged event => PostgresOutboxWriter.appendStateChangedOutboxEvent event

def publishAll : List Publication → Prog Ret Unit
  | [] => pure ()
  | p :: rest => do
    p.program
    publishAll rest

def sseEngine : Engine (List Publication) Ret SseKey (List SseRow) SseRow Unit where
  apply row rows := rows ++ [row]
  locks := locks
  exec := exec
  program := publishAll
  commits _ := true

def inWorkspace (workspaceId : String) (rows : List SseRow) : List SseRow :=
  rows.filter fun r => r.workspaceId == workspaceId

def withEventId (id : Uuid) (rows : List SseRow) : List SseRow := rows.filter fun r => r.eventId == id

def Kept : SseKey → List SseRow → Nat → Prop
  | .workspace _, rows, n => Ascending SseRow.streamSequence rows ∧ ∀ r ∈ rows, 0 < r.streamSequence ∧ r.streamSequence ≤ n
  | .event _, rows, _ => rows.length ≤ 1

def part : SseKey → List SseRow → List SseRow
  | .workspace id, rows => inWorkspace id rows
  | .event id, rows => withEventId id rows

theorem part_append (key : SseKey) (rows new : List SseRow) :
    part key (rows ++ new) = part key rows ++ part key new := by
  cases key with
  | workspace id => exact List.filter_append ..
  | event id => exact List.filter_append ..

def sseProtection : Protection sseEngine (List SseRow) where
  part := part
  touches row := {.workspace row.workspaceId, .event row.eventId}
  part_apply := by
    intro key w d d' h
    change part key (d ++ [w]) = part key (d' ++ [w])
    rw [part_append, part_append, h]
  part_untouched := by
    intro key w d hkey
    change part key (d ++ [w]) = part key d
    rw [part_append]
    have none : part key [w] = [] := by
      rw [Set.mem_insert_iff, Set.mem_singleton_iff, not_or] at hkey
      cases key with
      | workspace id =>
        have hne : w.workspaceId ≠ id := fun e => hkey.1 (by rw [e])
        simp [part, inWorkspace, hne]
      | event id =>
        have hne : w.eventId ≠ id := fun e => hkey.2 (by rw [e])
        rw [part, withEventId, List.filter_cons_of_neg (by rwa [beq_iff_eq]), List.filter_nil]
    rw [none, List.append_nil]
  Kept := Kept
  mono := by
    intro key rows n n' le h
    cases key with
    | workspace id => exact ⟨h.1, fun r hr => ⟨(h.2 r hr).1, (h.2 r hr).2.trans le⟩⟩
    | event id => exact h

theorem withEventId_of_notMem {id : Uuid} {rows : List SseRow} (h : id ∉ rows.map SseRow.eventId) :
    withEventId id rows = [] := by
  refine List.filter_eq_nil_iff.mpr fun r hr heq => h ?_
  rw [beq_iff_eq] at heq
  exact List.mem_map.mpr ⟨r, hr, heq⟩

theorem kept_insert {key : SseKey} {rows : List SseRow} {n : Nat} {r : SseRow} (h : Kept key (part key rows) n)
    (fresh : r.eventId ∉ rows.map SseRow.eventId) (drawn : n < r.streamSequence) :
    Kept key (part key (rows ++ [r])) r.streamSequence := by
  rw [part_append]
  cases key with
  | workspace id =>
    obtain ⟨asc, bounds⟩ := h
    have below : ∀ x ∈ part (.workspace id) rows, x.streamSequence < r.streamSequence :=
      fun x hx => (bounds x hx).2.trans_lt drawn
    have mem : ∀ x ∈ part (.workspace id) [r], x = r := fun x hx =>
      List.mem_singleton.mp (List.mem_filter.mp hx).1
    refine ⟨List.pairwise_append.mpr ⟨asc, ?_, ?_⟩, ?_⟩
    · exact (List.pairwise_singleton _ r).sublist List.filter_sublist
    · intro x hx y hy
      rw [mem y hy]
      exact below x hx
    · intro x hx
      rcases List.mem_append.mp hx with hx | hx
      · exact ⟨(bounds x hx).1, (below x hx).le⟩
      · rw [mem x hx]
        exact ⟨by omega, le_rfl⟩
  | event id =>
    change (withEventId id rows ++ withEventId id [r]).length ≤ 1
    by_cases hid : r.eventId = id
    · rw [withEventId_of_notMem (hid ▸ fresh), List.nil_append]
      exact List.length_filter_le _ _
    · have none : withEventId id [r] = [] := withEventId_of_notMem (by simpa using fun e => hid e.symm)
      rw [none, List.append_nil]
      exact h

def Orderly {α : Type} (_ : α) (held : Set SseKey) (rows : List SseRow) (n : Nat) : Prop :=
  sseProtection.Intact held rows n

theorem insertLocked_wp (workspaceId : String) (eventId : Uuid) (eventType correlationId : String)
    (payload : JsFields) {held : Set SseKey} {rows : List SseRow} {n : Nat}
    (h : sseProtection.Intact held rows n) :
    sseProtection.wp Orderly (insertLocked workspaceId eventId eventType correlationId payload) held rows n := by
  intro rows₁ n₁ rely₁ le₁ kept₁ r ws n₂ run
  obtain ⟨rfl, rfl⟩ := run
  refine ⟨le_rfl, by simp, ?_⟩
  have intact : ∀ key, Kept key (part key rows₁) n₂ := by
    intro key
    by_cases locked : key ∈ held
    · exact h.rely rely₁ le₁ key locked
    · exact kept₁ key locked
  intro rows₂ n₃ rely₂ le₂ kept₂ _ ws n₄ run
  obtain ⟨fresh, drawn, rfl⟩ := run
  have all : ∀ key, Kept key (part key rows₂) n₃ := by
    intro key
    by_cases locked : key ∈ held ∪ {.workspace workspaceId}
    · have same : part key rows₁ = part key rows₂ := rely₂ key locked
      rw [← same]
      exact sseProtection.mono le₂ (intact key)
    · exact kept₂ key locked
  refine ⟨drawn.le, ?_, ?_⟩
  · intro w hw
    rw [List.mem_singleton.mp hw]
    rintro key (rfl | rfl)
    · exact Or.inl (Or.inr rfl)
    · exact Or.inr rfl
  · intro rows₃ n₅ rely₃ le₃ key locked
    have same : part key (rows₂ ++ [_]) = part key rows₃ := rely₃ key locked
    change Kept key (part key rows₃) n₅
    rw [← same]
    exact sseProtection.mono le₃ (kept_insert (all key) fresh drawn)

theorem Publication.program_wp (p : Publication) {held : Set SseKey} {rows : List SseRow} {n : Nat}
    (h : sseProtection.Intact held rows n) : sseProtection.wp Orderly p.program held rows n := by
  cases p with
  | publish workspaceId correlationId type payload randomUUID => exact insertLocked_wp _ _ _ _ _ h
  | stateChanged event => exact insertLocked_wp _ _ _ _ _ h

theorem publishAll_wp (call : List Publication) {held : Set SseKey} {rows : List SseRow} {n : Nat}
    (h : sseProtection.Intact held rows n) : sseProtection.wp Orderly (publishAll call) held rows n := by
  induction call generalizing held rows n with
  | nil => exact fun _ _ rely le => h.rely rely le
  | cons p rest ih =>
    refine Protection.wp_bind (Protection.wp_mono (p.program_wp h) ?_)
    exact fun _ _ _ _ after => ih after

def sseLocking : Locking sseEngine (List SseRow) where
  toProtection := sseProtection
  Post _ := Orderly
  commits _ post := post
  program call _ _ := publishAll_wp call (by simp [Protection.Intact])

theorem sse_start (n : Nat) : sseLocking.Inv [] n := by
  intro key
  cases key <;> simp [sseLocking, sseProtection, part, inWorkspace, withEventId, Kept, Ascending]

abbrev SseDatabase := Foundation.Database (List Publication) Ret SseKey (List SseRow) SseRow Unit

theorem committed_grows {s s' : SseDatabase} (step : sseEngine.Step s s') :
    ∃ new, s'.committed = s.committed ++ new := by
  cases step with
  | start | statement | rollback => exact ⟨[], (List.append_nil _).symm⟩
  | commit i t a session done ok =>
    refine ⟨t.writes, ?_⟩
    have view : ∀ (ws rows : List SseRow), sseEngine.view ws rows = rows ++ ws := by
      intro ws
      induction ws with
      | nil => exact fun rows => (List.append_nil rows).symm
      | cons w ws ih =>
        intro rows
        rw [Engine.view_cons, ih, show sseEngine.apply w rows = rows ++ [w] from rfl, List.append_assoc]
        rfl
    exact view _ _

end Provisr.Events
