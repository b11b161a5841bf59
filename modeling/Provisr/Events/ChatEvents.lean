import Provisr.Foundation.Feed
import Provisr.Foundation.Transactions
import Provisr.Foundation.JsonNormal
import Provisr.Orchestrator.IacContracts

namespace Provisr.Events

open Provisr.Foundation Provisr.Orchestrator

structure ChatEvent where
  id : String
  sessionId : String
  workspaceId : String
  turnId : Option String
  sequence : Nat
  eventType : String
  payload : JsJson
  createdAt : String
  deriving DecidableEq

-- provisr_events.chat_event_sequences and provisr_events.chat_events
structure ChatDb where
  nextSequence : String → Option Nat
  events : List ChatEvent

structure DurableChatEvent where
  id : String
  eventType : String
  sequence : Nat
  payload : JsJson
  createdAt : String
  deriving DecidableEq

def toEvent (row : ChatEvent) : DurableChatEvent :=
  ⟨row.id, row.eventType, row.sequence, row.payload, row.createdAt⟩

namespace Chat

inductive Write where
  | sequence (workspaceId : String) (next : Nat)
  | event (row : ChatEvent)

inductive Op where
  | upsertSequence (workspaceId : String)
  | insertEvent (sessionId workspaceId : String) (turnId : Option String) (sequence : Nat) (eventType : String)
      (payload : JsFields)

abbrev Ret : Op → Type
  | .upsertSequence _ => Nat
  | .insertEvent .. => ChatEvent

def apply : Write → ChatDb → ChatDb
  | .sequence workspaceId next, d =>
    { d with nextSequence := fun w => if w = workspaceId then some next else d.nextSequence w }
  | .event row, d => { d with events := d.events ++ [row] }

-- The row of a workspace, or its place in the primary key.
def locks : Op → ChatDb → Set String
  | .upsertSequence workspaceId, _ => {workspaceId}
  | .insertEvent .., _ => ∅

-- INSERT ... VALUES ($1, 2) ON CONFLICT DO UPDATE SET next_sequence = next_sequence + 1 RETURNING next_sequence - 1
def upsert (d : ChatDb) (workspaceId : String) : Nat :=
  match d.nextSequence workspaceId with
  | none => 2
  | some next => next + 1

def exec : (o : Op) → ChatDb → Nat → Ret o → List Write → Nat → Prop
  | .upsertSequence workspaceId, d, n, r, ws, n' =>
    r = upsert d workspaceId - 1 ∧ ws = [.sequence workspaceId (upsert d workspaceId)] ∧ n' = n
  | .insertEvent sessionId workspaceId turnId sequence eventType payload, d, n, r, ws, n' =>
    (∀ e ∈ d.events, e.workspaceId = workspaceId → e.sequence ≠ sequence) ∧
      (∃ id createdAt, r = ⟨id, sessionId, workspaceId, turnId, sequence, eventType,
        Json.jsonb (.obj payload), createdAt⟩) ∧ ws = [.event r] ∧ n' = n

end Chat

open Chat

structure AppendParams where
  sessionId : String
  workspaceId : String
  turnId : Option String
  eventType : String
  payload : Option JsFields

def ChatEventsService.append (params : AppendParams) : Prog Ret DurableChatEvent := do
  let sequence ← Prog.call (Op.upsertSequence params.workspaceId)
  let row ← Prog.call (Op.insertEvent params.sessionId params.workspaceId params.turnId sequence
    params.eventType (params.payload.getD []))
  pure (toEvent row)

def appendAll : List AppendParams → Prog Ret (List DurableChatEvent)
  | [] => pure []
  | params :: rest => do
    let event ← ChatEventsService.append params
    let events ← appendAll rest
    pure (event :: events)

def chatEngine : Engine (List AppendParams) Ret String ChatDb Write (List DurableChatEvent) where
  apply := apply
  locks := locks
  exec := exec
  program := appendAll
  commits _ := true

abbrev ChatDatabase := Foundation.Database (List AppendParams) Ret String ChatDb Write (List DurableChatEvent)

def chatOf (workspaceId : String) (d : ChatDb) : List ChatEvent :=
  d.events.filter fun e => e.workspaceId == workspaceId

-- The events of a workspace are numbered from 1, and the counter stands at the number of the next one.
def Numbered (p : Option Nat × List ChatEvent) : Prop :=
  p.2.map ChatEvent.sequence = List.range' 1 p.2.length ∧ p.1.getD 1 = p.2.length + 1

def chatProtection : Protection chatEngine (Option Nat × List ChatEvent) where
  part workspaceId d := (d.nextSequence workspaceId, chatOf workspaceId d)
  touches
    | .sequence workspaceId _ => {workspaceId}
    | .event row => {row.workspaceId}
  part_apply := by
    intro workspaceId w d d' h
    obtain ⟨hnext, hevents⟩ := Prod.mk.inj h
    cases w with
    | sequence id next =>
      refine Prod.ext ?_ hevents
      change (if workspaceId = id then some next else d.nextSequence workspaceId) =
        if workspaceId = id then some next else d'.nextSequence workspaceId
      rw [hnext]
    | event row =>
      refine Prod.ext hnext ?_
      change (d.events ++ [row]).filter _ = (d'.events ++ [row]).filter _
      rw [List.filter_append, List.filter_append]
      exact congrArg (· ++ _) hevents
  part_untouched := by
    intro workspaceId w d h
    cases w with
    | sequence id next => exact Prod.ext (if_neg h) rfl
    | event row =>
      refine Prod.ext rfl ?_
      have hne : row.workspaceId ≠ workspaceId := fun e => h e.symm
      change (d.events ++ [row]).filter _ = d.events.filter _
      rw [List.filter_append, List.filter_cons_of_neg (by simpa using hne), List.filter_nil, List.append_nil]
  Kept _ p _ := Numbered p
  mono _ h := h

def Tidy {α : Type} (_ : α) (held : Set String) (d : ChatDb) (n : Nat) : Prop :=
  chatProtection.Intact held d n

theorem Numbered.append {next : Option Nat} {events : List ChatEvent} (h : Numbered (next, events))
    {row : ChatEvent} (number : row.sequence = events.length + 1) :
    Numbered (some (events.length + 2), events ++ [row]) := by
  obtain ⟨hnumbers, -⟩ := h
  refine ⟨?_, by simp⟩
  have hlen : (events ++ [row]).length = events.length + 1 := by simp
  change (events ++ [row]).map _ = List.range' 1 (events ++ [row]).length
  rw [List.map_append, hlen, List.range'_concat]
  dsimp only at hnumbers
  rw [hnumbers, List.map_singleton, number]
  simp [Nat.add_comm]

theorem upsert_of_numbered {d : ChatDb} {workspaceId : String}
    (h : Numbered (d.nextSequence workspaceId, chatOf workspaceId d)) :
    upsert d workspaceId = (chatOf workspaceId d).length + 2 := by
  have counter := h.2
  unfold upsert
  cases hn : d.nextSequence workspaceId with
  | none =>
    rw [hn] at counter
    simp at counter
    simp [counter]
  | some next =>
    rw [hn] at counter
    exact congrArg (· + 1) counter

theorem part_sequence (workspaceId : String) (next : Nat) (d : ChatDb) :
    chatProtection.part workspaceId (Chat.apply (.sequence workspaceId next) d) =
      (some next, chatOf workspaceId d) :=
  Prod.ext (if_pos rfl) rfl

theorem part_event (row : ChatEvent) (d : ChatDb) :
    chatProtection.part row.workspaceId (Chat.apply (.event row) d) =
      (d.nextSequence row.workspaceId, chatOf row.workspaceId d ++ [row]) := by
  refine Prod.ext rfl ?_
  change (d.events ++ [row]).filter _ = _
  rw [List.filter_append, List.filter_cons_of_pos (by simp)]
  rfl

theorem append_wp (params : AppendParams) {held : Set String} {d : ChatDb} {n : Nat}
    (h : chatProtection.Intact held d n) :
    chatProtection.wp Tidy (ChatEventsService.append params) held d n := by
  intro d₁ n₁ rely₁ le₁ kept₁ sequence ws n₂ run
  obtain ⟨rfl, rfl, rfl⟩ := run
  have numbered : ∀ workspaceId, Numbered (d₁.nextSequence workspaceId, chatOf workspaceId d₁) := by
    intro workspaceId
    by_cases locked : workspaceId ∈ held
    · exact h.rely rely₁ le₁ workspaceId locked
    · exact kept₁ workspaceId locked
  refine ⟨le_rfl, ?_, ?_⟩
  · intro w hw
    rw [List.mem_singleton.mp hw]
    exact Set.subset_union_right
  intro d₂ n₃ rely₂ le₂ _ row ws n₄ run
  obtain ⟨-, ⟨id, createdAt, hrow⟩, rfl, rfl⟩ := run
  have hws : row.workspaceId = params.workspaceId := by rw [hrow]
  refine ⟨le_rfl, ?_, ?_⟩
  · intro w hw
    rw [List.mem_singleton.mp hw]
    change ({row.workspaceId} : Set String) ⊆ _
    rw [hws]
    exact fun x hx => Or.inl (Or.inr hx)
  intro d₃ n₅ rely₃ le₃ workspaceId locked
  change Numbered (chatProtection.part workspaceId d₃)
  rw [← rely₃ workspaceId locked]
  change Numbered (chatProtection.part workspaceId (Chat.apply (.event row) d₂))
  have locked₂ : workspaceId ∈ held ∪ {params.workspaceId} := by
    rcases locked with locked | locked
    · exact locked
    · cases locked
  have same : chatProtection.part workspaceId (Chat.apply (.sequence params.workspaceId
      (upsert d₁ params.workspaceId)) d₁) = chatProtection.part workspaceId d₂ := rely₂ workspaceId locked₂
  by_cases own : workspaceId = row.workspaceId
  · subst own
    rw [← hws] at same
    rw [part_sequence] at same
    obtain ⟨counter, events⟩ := Prod.mk.inj same
    have before := numbered row.workspaceId
    rw [part_event, ← counter, ← events, upsert_of_numbered before]
    refine before.append ?_
    rw [hrow]
    dsimp only
    rw [upsert_of_numbered (numbered params.workspaceId)]
    rfl
  · have first := chatProtection.part_untouched (x := workspaceId) (w := .event row) (d := d₂) own
    have second := chatProtection.part_untouched (x := workspaceId)
      (w := .sequence params.workspaceId (upsert d₁ params.workspaceId)) (d := d₁)
      (fun e => own (hws ▸ e))
    exact (first.trans (same.symm.trans second)) ▸ numbered workspaceId

theorem appendAll_wp (call : List AppendParams) {held : Set String} {d : ChatDb} {n : Nat}
    (h : chatProtection.Intact held d n) : chatProtection.wp Tidy (appendAll call) held d n := by
  induction call generalizing held d n with
  | nil => exact fun _ _ rely le => h.rely rely le
  | cons params rest ih =>
    refine Protection.wp_bind (Protection.wp_mono (append_wp params h) ?_)
    intro event held' d' n' after
    refine Protection.wp_bind (Protection.wp_mono (ih after) ?_)
    exact fun _ _ _ _ after _ _ rely le => after.rely rely le

def chatLocking : Locking chatEngine (Option Nat × List ChatEvent) where
  toProtection := chatProtection
  Post _ := Tidy
  commits _ post := post
  program call _ _ := appendAll_wp call (by simp [Protection.Intact])

def emptyChat : ChatDb := ⟨fun _ => none, []⟩

theorem chat_numbered {s : ChatDatabase} (holds : chatLocking.Holds s) (workspaceId : String) :
    (chatOf workspaceId s.committed).map ChatEvent.sequence =
      List.range' 1 (chatOf workspaceId s.committed).length :=
  (holds.inv workspaceId).1

theorem chat_ascending {s : ChatDatabase} (holds : chatLocking.Holds s) (workspaceId : String) :
    Ascending ChatEvent.sequence (chatOf workspaceId s.committed) := by
  have sorted : (List.range' 1 (chatOf workspaceId s.committed).length).Pairwise (· < ·) :=
    List.pairwise_lt_range'
  rw [← chat_numbered holds workspaceId] at sorted
  exact List.pairwise_map.mp sorted

theorem chat_positive {s : ChatDatabase} (holds : chatLocking.Holds s) {workspaceId : String} {e : ChatEvent}
    (he : e ∈ chatOf workspaceId s.committed) : 0 < e.sequence := by
  have mem : e.sequence ∈ (chatOf workspaceId s.committed).map ChatEvent.sequence :=
    List.mem_map.mpr ⟨e, he, rfl⟩
  rw [chat_numbered holds workspaceId, List.mem_range'_1] at mem
  omega

theorem view_events (ws : List Write) (d : ChatDb) : ∃ new, (chatEngine.view ws d).events = d.events ++ new := by
  induction ws generalizing d with
  | nil => exact ⟨[], (List.append_nil _).symm⟩
  | cons w ws ih =>
    obtain ⟨new, hnew⟩ := ih (Chat.apply w d)
    cases w with
    | sequence workspaceId next => exact ⟨new, hnew⟩
    | event row => exact ⟨row :: new, by rw [Engine.view_cons]; exact hnew.trans (List.append_assoc ..)⟩

theorem chat_grows {s s' : ChatDatabase} (step : chatEngine.Step s s') (workspaceId : String) :
    ∃ new, chatOf workspaceId s'.committed = chatOf workspaceId s.committed ++ new := by
  cases step with
  | start | statement | rollback => exact ⟨[], (List.append_nil _).symm⟩
  | commit i t a session done ok =>
    obtain ⟨new, hnew⟩ := view_events t.writes s.committed
    refine ⟨new.filter fun e => e.workspaceId == workspaceId, ?_⟩
    unfold chatOf
    rw [hnew, List.filter_append]

section Reader

inductive ListError where
  | notFound (what : String)
  deriving DecidableEq

def ChatEventsService.listWorkspaceEvents (d : ChatDb) (member : Bool) (workspaceId : String) (after : Nat) :
    Except ListError (List DurableChatEvent) :=
  if member = false then .error (.notFound "workspace membership")
  else .ok ((batch ChatEvent.sequence 250 after (chatOf workspaceId d)).map toEvent)

structure Reading where
  database : ChatDatabase
  received : List DurableChatEvent

def Reading.after (s : Reading) : Nat := tail DurableChatEvent.sequence 0 s.received

inductive ReadMove where
  | database
  | list
  deriving DecidableEq

inductive Reading.Step (workspaceId : String) : ReadMove → Reading → Reading → Prop
  | database (s : Reading) (database : ChatDatabase) (step : chatEngine.Step s.database database) :
      Step workspaceId .database s ⟨database, s.received⟩
  | list (s : Reading) (events : List DurableChatEvent)
      (answer : ChatEventsService.listWorkspaceEvents s.database.committed true workspaceId s.after = .ok events) :
      Step workspaceId .list s ⟨s.database, s.received ++ events⟩

inductive Reading.Run (workspaceId : String) : List ReadMove → Reading → Reading → Prop
  | nil (s : Reading) : Run workspaceId [] s s
  | cons {m : ReadMove} {moves : List ReadMove} {s s' s'' : Reading} (step : Step workspaceId m s s')
      (rest : Run workspaceId moves s' s'') : Run workspaceId (m :: moves) s s''

variable {workspaceId : String} {s s' : Reading}

theorem tail_toEvent (c : Nat) (rows : List ChatEvent) :
    tail DurableChatEvent.sequence c (rows.map toEvent) = tail ChatEvent.sequence c rows := by
  simp only [tail, List.getLast?_map, Option.map_map]
  rfl

theorem tail_append {ρ : Type} (seq : ρ → Nat) (c : Nat) (xs ys : List ρ) :
    tail seq c (xs ++ ys) = tail seq (tail seq c xs) ys := by
  simp only [tail, List.getLast?_append]
  cases ys.getLast? <;> simp

structure ReadUpTo (workspaceId : String) (s : Reading) : Prop where
  holds : chatLocking.Holds s.database
  reached : Reached ChatEvent.sequence (chatOf workspaceId s.database.committed) s.after
  received : s.received =
    (between ChatEvent.sequence 0 s.after (chatOf workspaceId s.database.committed)).map toEvent

theorem ReadUpTo.database (h : ReadUpTo workspaceId s) {database : ChatDatabase}
    (step : chatEngine.Step s.database database) : ReadUpTo workspaceId ⟨database, s.received⟩ := by
  obtain ⟨new, hnew⟩ := chat_grows step workspaceId
  have holds := h.holds.step step
  have asc := chat_ascending holds workspaceId
  have positive : ∀ e ∈ new, 0 < e.sequence := by
    intro e he
    have mem : e ∈ chatOf workspaceId database.committed := by
      rw [hnew]
      exact List.mem_append.mpr (Or.inr he)
    exact chat_positive holds mem
  rw [hnew] at asc
  refine ⟨holds, ?_, ?_⟩
  · rw [hnew]
    exact h.reached.append _
  · rw [hnew]
    change s.received = (between _ 0 s.after _).map toEvent
    rw [between_grow fun e he => h.reached.below asc positive he]
    exact h.received

theorem ReadUpTo.list (h : ReadUpTo workspaceId s) :
    ReadUpTo workspaceId ⟨s.database, s.received ++
      (batch ChatEvent.sequence 250 s.after (chatOf workspaceId s.database.committed)).map toEvent⟩ := by
  have asc := chat_ascending h.holds workspaceId
  have after : (⟨s.database, s.received ++ (batch ChatEvent.sequence 250 s.after
      (chatOf workspaceId s.database.committed)).map toEvent⟩ : Reading).after =
        tail ChatEvent.sequence s.after (batch ChatEvent.sequence 250 s.after
          (chatOf workspaceId s.database.committed)) := by
    rw [Reading.after, tail_append, tail_toEvent]
    rfl
  refine ⟨h.holds, ?_, ?_⟩
  · rw [after]
    exact (batch_tail asc h.reached).2
  · rw [after]
    change s.received ++ _ = _
    rw [h.received, ← List.map_append, between_poll asc h.reached (Nat.zero_le _)]

theorem ReadUpTo.step (h : ReadUpTo workspaceId s) {m : ReadMove} (step : Reading.Step workspaceId m s s') :
    ReadUpTo workspaceId s' := by
  cases step with
  | database _ database step => exact h.database step
  | list _ events answer =>
    obtain rfl := Except.ok.inj answer
    exact h.list

theorem ReadUpTo.run (h : ReadUpTo workspaceId s) {moves : List ReadMove}
    (run : Reading.Run workspaceId moves s s') : ReadUpTo workspaceId s' := by
  induction run with
  | nil => exact h
  | cons step rest ih => exact ih (h.step step)

theorem ReadUpTo.whole (h : ReadUpTo workspaceId s) :
    (chatOf workspaceId s.database.committed).map toEvent = s.received ++
      (after ChatEvent.sequence s.after (chatOf workspaceId s.database.committed)).map toEvent := by
  have asc := chat_ascending h.holds workspaceId
  have all : after ChatEvent.sequence 0 (chatOf workspaceId s.database.committed) =
      chatOf workspaceId s.database.committed :=
    List.filter_eq_self.mpr fun e he => decide_eq_true (chat_positive h.holds he)
  rw [h.received, ← List.map_append, ← after_eq_append asc (Nat.zero_le _), all]

theorem Reading.Run.unread {moves : List ReadMove} (run : Reading.Run workspaceId moves s s')
    (h : ReadUpTo workspaceId s) {known : List ChatEvent}
    (grown : known <+: chatOf workspaceId s.database.committed) :
    known <+: chatOf workspaceId s'.database.committed ∧
      (Foundation.after ChatEvent.sequence s'.after known).length ≤
        (Foundation.after ChatEvent.sequence s.after known).length - 250 * moves.count .list := by
  induction run with
  | nil => exact ⟨grown, by simp⟩
  | @cons m moves s s' s'' step rest ih =>
    have h' := h.step step
    cases step with
    | database _ database step =>
      obtain ⟨new, hnew⟩ := chat_grows step workspaceId
      have grown' : known <+: chatOf workspaceId database.committed := by
        rw [hnew]
        exact grown.trans (List.prefix_append _ _)
      rw [List.count_cons_of_ne (by decide)]
      exact ih h' grown'
    | list _ events answer =>
      obtain rfl := Except.ok.inj answer
      obtain ⟨grown', less⟩ := ih h' grown
      refine ⟨grown', less.trans ?_⟩
      obtain ⟨new, hnew⟩ := grown
      have asc := chat_ascending h.holds workspaceId
      rw [← hnew] at asc
      have shorter := @after_advance_grown _ _ _ _ s.after 250 asc
      rw [hnew] at shorter
      rw [List.count_cons_self, Reading.after, tail_append, tail_toEvent]
      change (Foundation.after ChatEvent.sequence (advance ChatEvent.sequence 250
        (chatOf workspaceId s.database.committed) s.after) known).length - _ ≤ _
      omega

end Reader

-- The events of a workspace are numbered in the order of their commits, and a reader misses none.
theorem chat_log_gap_free {database : ChatDatabase} {workspaceId : String} {moves : List ReadMove} {s : Reading}
    (reachable : chatEngine.Reachable emptyChat 0 database)
    (run : Reading.Run workspaceId moves ⟨database, []⟩ s) :
    (chatOf workspaceId s.database.committed).map ChatEvent.sequence =
        List.range' 1 (chatOf workspaceId s.database.committed).length ∧
      (∀ later, chatEngine.Steps s.database later →
        chatOf workspaceId s.database.committed <+: chatOf workspaceId later.committed) ∧
      s.received <+: (chatOf workspaceId s.database.committed).map toEvent ∧
      ∀ moves' s', Reading.Run workspaceId moves' s s' →
        (chatOf workspaceId s.database.committed).length - s.received.length ≤ 250 * moves'.count .list →
        (chatOf workspaceId s.database.committed).map toEvent <+: s'.received := by
  have holds := chatLocking.holds_reachable (fun _ => ⟨rfl, rfl⟩) reachable
  have start : ReadUpTo workspaceId ⟨database, []⟩ := ⟨holds, Or.inl rfl, by
    rw [show (⟨database, []⟩ : Reading).after = 0 from rfl, between_self]
    rfl⟩
  have h := start.run run
  refine ⟨chat_numbered h.holds workspaceId, ?_, ⟨_, h.whole.symm⟩, ?_⟩
  · intro later steps
    induction steps with
    | refl => exact List.prefix_refl _
    | tail _ step ih =>
      obtain ⟨new, hnew⟩ := chat_grows step workspaceId
      rw [hnew]
      exact ih.trans (List.prefix_append _ _)
  · intro moves' s' run' enough
    have h' := h.run run'
    obtain ⟨⟨new, hnew⟩, less⟩ := run'.unread h (List.prefix_refl _)
    have total := congrArg List.length h.whole
    rw [List.length_map, List.length_append, List.length_map] at total
    have none : after ChatEvent.sequence s'.after (chatOf workspaceId s.database.committed) = [] :=
      List.length_eq_zero_iff.mp (by omega)
    have all : between ChatEvent.sequence 0 s'.after (chatOf workspaceId s.database.committed) =
        chatOf workspaceId s.database.committed := by
      rw [between_of_none_after none]
      exact List.filter_eq_self.mpr fun e he => decide_eq_true (chat_positive h.holds he)
    rw [h'.received, ← hnew]
    unfold between at all ⊢
    rw [List.filter_append, all, List.map_append]
    exact List.prefix_append _ _

section Example

def chatWorkspace : String := "0b9e4c1a-7d52-4f3e-9a61-2c8d5e7f1034"

def turnAccepted : AppendParams :=
  ⟨"a4d7e2b9-6c31-4e58-b0f2-5d8c1a3e9f76", chatWorkspace, some "5b8f0c72-1e94-4a3d-86b7-f2d09c6e4a15",
    "turn.accepted", none⟩

def chatRow (id : String) (sequence : Nat) : ChatEvent :=
  ⟨id, turnAccepted.sessionId, chatWorkspace, turnAccepted.turnId, sequence, "turn.accepted", .obj [],
    "2026-01-01T00:00:00.000Z"⟩

def firstTurn : ChatEvent := chatRow "c90a3e57-d4b1-4f68-92e7-5a1f8b0d6c34" 1

def secondTurn : ChatEvent := chatRow "08e6d1f9-b37c-4285-ae40-9c5d2f71b8a6" 2

def twoTurns : ChatDb := chatEngine.view
  [.sequence chatWorkspace 2, .event firstTurn, .sequence chatWorkspace 3, .event secondTurn] emptyChat

def turnsAppended : ChatDatabase := ⟨twoTurns, 0, [⟨[turnAccepted, turnAccepted], ∅, [], none⟩]⟩

theorem turnsAppended_reachable : chatEngine.Reachable emptyChat 0 turnsAppended := by
  have run : chatEngine.Executes emptyChat 0 [] (appendAll [turnAccepted, turnAccepted]) 0
      [.sequence chatWorkspace 2, .event firstTurn, .sequence chatWorkspace 3, .event secondTurn]
      [toEvent firstTurn, toEvent secondTurn] := by
    refine .op 1 [.sequence chatWorkspace 2] _ ⟨rfl, rfl, rfl⟩ ?_
    refine .op firstTurn [.event firstTurn] _ ⟨by decide, ⟨_, _, rfl⟩, rfl, rfl⟩ ?_
    refine .op 2 [.sequence chatWorkspace 3] _ ⟨rfl, rfl, rfl⟩ ?_
    exact .op secondTurn [.event secondTurn] _ ⟨by decide, ⟨_, _, rfl⟩, rfl, rfl⟩ (.pure _ _ _)
  exact run.commits (s := ⟨emptyChat, 0, []⟩) (c := [turnAccepted, turnAccepted]) rfl (by simp)

theorem listed_run : Reading.Run chatWorkspace [.list] ⟨turnsAppended, []⟩
    ⟨turnsAppended, [toEvent firstTurn, toEvent secondTurn]⟩ := by
  have asc : Ascending ChatEvent.sequence (chatOf chatWorkspace twoTurns) := by
    unfold Ascending
    decide
  have rows : batch ChatEvent.sequence 250 0 (chatOf chatWorkspace twoTurns) = [firstTurn, secondTurn] :=
    (batch_eq asc).trans (by decide)
  refine .cons (.list _ [toEvent firstTurn, toEvent secondTurn] ?_) (.nil _)
  exact congrArg (fun rows => Except.ok (rows.map toEvent)) rows

theorem chat_log_gap_free_two :
    (chatOf chatWorkspace twoTurns).map ChatEvent.sequence = List.range' 1 (chatOf chatWorkspace twoTurns).length ∧
      [toEvent firstTurn, toEvent secondTurn] <+: (chatOf chatWorkspace twoTurns).map toEvent :=
  have whole := chat_log_gap_free turnsAppended_reachable listed_run
  ⟨whole.1, whole.2.2.1⟩

end Example

end Provisr.Events
