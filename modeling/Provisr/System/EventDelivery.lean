import Provisr.Events.SseDelivery
import Provisr.Frontend.SseClient
import Provisr.Orchestrator.Database

namespace Provisr.System

open Provisr.Foundation Provisr.Events Provisr.Frontend Provisr.Orchestrator

def RunsService.publication (event : SseEvent) (randomUUID : Uuid) : Publication :=
  .publish event.workspaceId event.correlationId event.eventType.label event.payload randomUUID

def ByRuns (call : List Publication) : Prop :=
  ∀ p ∈ call, ∃ event randomUUID, p = RunsService.publication event randomUUID

def FromRuns (database : SseDatabase) : Prop := ∀ t ∈ database.sessions, ByRuns t.call

structure Wire where
  lastEventId : String
  connection : Option Connection

def Wire.new : Wire := ⟨"", none⟩

-- A last event id travels in the header only when the same event source connects again.
def Wire.header (w : Wire) : Option String := if w.lastEventId = "" then none else some w.lastEventId

structure Visit where
  database : SseDatabase
  page : Page
  wires : Nat → Wire

def Visit.new : Visit := ⟨⟨[], 0, []⟩, .new, fun _ => .new⟩

def Visit.withWire (s : Visit) (i : Nat) (w : Wire) : Visit := { s with wires := Function.update s.wires i w }

def Visit.withPage (s : Visit) (page : Page) : Visit := { s with page := page }

-- A message with a type name goes to the listeners of that name, and the client has none.
def dispatch (i : Nat) (m : Message) (lastEventId : String) (page : Page) : Page :=
  if m.type = "" ∨ m.type = "message" then page.onmessage i ⟨"message", some m.data, lastEventId⟩ else page

inductive Visit.Step (options : SSEClientOptions) : Visit → Visit → Prop
  | database (s : Visit) (database : SseDatabase) (step : sseEngine.Step s.database database) :
      Step options s { s with database := database }
  | connect (s : Visit) : Step options s (s.withPage s.page.connect)
  | disconnect (s : Visit) : Step options s (s.withPage s.page.disconnect)
  | token (s : Visit) (answer : Option (Option String)) (constructed : Bool) (asked : 0 < s.page.tokenRequests) :
      Step options s (s.withPage (s.page.resume options answer constructed))
  | timer (s : Visit) (id delay : Nat) (pending : (id, delay) ∈ s.page.timers) :
      Step options s (s.withPage (s.page.fire id))
  | accept (s : Visit) (i : Nat) (source : EventSource) (cursor : Nat) (exists' : s.page.sources[i]? = some source)
      (open' : source.closed = false) (waiting : (s.wires i).connection = none)
      (accepted : SseController.events s.database.committed true options.workspaceId (s.wires i).header = .ok cursor) :
      Step options s ((s.withPage (s.page.onopen i)).withWire i ⟨(s.wires i).lastEventId, some ⟨cursor, []⟩⟩)
  | poll (s : Visit) (i : Nat) (c : Connection) (connection : (s.wires i).connection = some c) :
      Step options s (s.withWire i ⟨(s.wires i).lastEventId, some
        ⟨(SseController.poll options.workspaceId s.database.committed c.cursor).2,
          c.transit ++ (SseController.poll options.workspaceId s.database.committed c.cursor).1⟩⟩)
  | receive (s : Visit) (i : Nat) (source : EventSource) (c : Connection) (m : Message) (rest : List Message)
      (exists' : s.page.sources[i]? = some source) (open' : source.closed = false)
      (connection : (s.wires i).connection = some c) (next : c.transit = m :: rest) :
      Step options s ((s.withPage (dispatch i m (m.id.getD (s.wires i).lastEventId) s.page)).withWire i
        ⟨m.id.getD (s.wires i).lastEventId, some ⟨c.cursor, rest⟩⟩)
  | fail (s : Visit) (i : Nat) (source : EventSource) (exists' : s.page.sources[i]? = some source)
      (open' : source.closed = false) :
      Step options s ((s.withPage (s.page.onerror options i)).withWire i ⟨(s.wires i).lastEventId, none⟩)

abbrev Visit.Steps (options : SSEClientOptions) := Relation.ReflTransGen (Visit.Step options)

-- The ids of the events that the handlers of the client were given, and of those that were published.
def Visit.handed (s : Visit) : List (Option String) :=
  (s.page.emitted.filter fun e => e.type ≠ .keepalive).map SSEEvent.id

def Visit.published (options : SSEClientOptions) (s : Visit) : List (Option String) :=
  (eventsAbove options.workspaceId 0 s.database.committed).map fun r => some r.eventId

-- The client is connected, the server has nothing more to send and nothing is on the way.
def Visit.CaughtUp (options : SSEClientOptions) (s : Visit) : Prop :=
  ∃ i source c, s.page.client.es = some i ∧ s.page.sources[i]? = some source ∧ source.closed = false ∧
    (s.wires i).connection = some c ∧ c.transit = [] ∧
      after SseRow.streamSequence c.cursor (inWorkspace options.workspaceId s.database.committed) = []

-- Whenever the client has caught up, its handlers have received what was published.
def Visit.Delivers (options : SSEClientOptions) (s : Visit) : Prop :=
  ∀ s', Visit.Steps options s s' → s'.database = s.database → s'.CaughtUp options →
    s'.handed = s'.published options

section Pages

variable {options : SSEClientOptions} {p q r : Page}

structure Quietly (p q : Page) : Prop where
  emitted : q.emitted = p.emitted
  sources : p.sources.length ≤ q.sources.length

theorem Quietly.refl (p : Page) : Quietly p p := ⟨rfl, le_rfl⟩

theorem Quietly.trans (h : Quietly p q) (h' : Quietly q r) : Quietly p r :=
  ⟨h'.emitted.trans h.emitted, h.sources.trans h'.sources⟩

theorem quietly_notify (p : Page) : Quietly p p.notify := ⟨rfl, le_rfl⟩

theorem quietly_client (p : Page) (client : SSEClient) : Quietly p { p with client := client } := ⟨rfl, le_rfl⟩

theorem quietly_setStatus (p : Page) (status : SSEStatus) : Quietly p (p.setStatus status) := by
  unfold Page.setStatus
  split
  · exact .refl p
  · exact (quietly_client p _).trans (quietly_notify _)

theorem quietly_scheduleReconnect (p : Page) : Quietly p (p.scheduleReconnect options) :=
  (quietly_setStatus p _).trans ⟨rfl, le_rfl⟩

theorem quietly_openConnection (p : Page) : Quietly p p.openConnection := by
  unfold Page.openConnection
  split <;> exact ⟨rfl, le_rfl⟩

theorem quietly_connect (p : Page) : Quietly p p.connect := by
  unfold Page.connect
  split
  · exact .refl p
  · exact ((quietly_client p _).trans (quietly_setStatus _ _)).trans (quietly_openConnection _)

theorem quietly_close (p : Page) (i : Nat) : Quietly p (p.close i) := by
  refine ⟨rfl, ?_⟩
  unfold Page.close
  rw [List.length_modify]

theorem quietly_clearTimer (p : Page) : Quietly p p.clearTimer := by
  unfold Page.clearTimer
  split <;> exact ⟨rfl, le_rfl⟩

theorem quietly_closeSource (p : Page) : Quietly p p.closeSource := by
  unfold Page.closeSource
  split
  · exact (quietly_close p _).trans (quietly_client _ _)
  · exact .refl p

theorem quietly_disconnect (p : Page) : Quietly p p.disconnect :=
  ((((quietly_client p _).trans (quietly_clearTimer _)).trans (quietly_client _ _)).trans
    (quietly_closeSource _)).trans (quietly_setStatus _ _)

theorem quietly_resume (p : Page) (answer : Option (Option String)) (constructed : Bool) :
    Quietly p (p.resume options answer constructed) := by
  have asked : Quietly p { p with tokenRequests := p.tokenRequests - 1 } := ⟨rfl, le_rfl⟩
  refine asked.trans ?_
  unfold Page.resume
  cases answer with
  | none =>
    dsimp only
    split
    · exact .refl _
    · exact quietly_scheduleReconnect _
  | some token =>
    dsimp only
    split
    · exact .refl _
    · split
      · exact (quietly_client _ _).trans (quietly_setStatus _ _)
      · split
        · exact ⟨rfl, by simp⟩
        · exact quietly_scheduleReconnect _

theorem quietly_fire (p : Page) (id : Nat) : Quietly p (p.fire id) := by
  have fired : Quietly p { p with
    timers := p.timers.filter fun t => t.1 != id
    client := { p.client with timer := none } } := ⟨rfl, le_rfl⟩
  exact fired.trans (quietly_openConnection _)

theorem quietly_onopen (p : Page) (i : Nat) : Quietly p (p.onopen i) := by
  unfold Page.onopen
  split
  · exact .refl p
  · exact (quietly_client p _).trans (quietly_setStatus _ _)

theorem quietly_detach (p : Page) (i : Nat) : Quietly p (p.detach i) := by
  unfold Page.detach
  split <;> exact ⟨rfl, le_rfl⟩

theorem quietly_onerror (p : Page) (i : Nat) : Quietly p (p.onerror options i) := by
  unfold Page.onerror Page.handleError
  split
  · exact .refl p
  · refine ((quietly_close p i).trans (quietly_detach _ i)).trans ?_
    dsimp only
    split
    · exact .refl _
    · exact quietly_scheduleReconnect _

end Pages

def Named (m : Message) : Prop := m.type ≠ "" ∧ m.type ≠ "message"

def Labelled (r : SseRow) : Prop := ∃ type : RunEventType, r.eventType = type.label

theorem dispatch_named {m : Message} (h : Named m) (i : Nat) (lastEventId : String) (page : Page) :
    dispatch i m lastEventId page = page :=
  if_neg (not_or.mpr h)

theorem Labelled.named {r : SseRow} (h : Labelled r) : Named r.message := by
  obtain ⟨type, htype⟩ := h
  change r.eventType ≠ "" ∧ r.eventType ≠ "message"
  rw [htype]
  cases type <;> decide

theorem publishAll_writes {call : List Publication} (h : ByRuns call) (d ws : List SseRow)
    (written : ∀ w ∈ ws, Labelled w) :
    sseEngine.Leads sseEngine.unordered.grows (fun _ ws _ => ∀ w ∈ ws, Labelled w) d ws (publishAll call) := by
  induction call generalizing d ws with
  | nil => exact fun _ _ => written
  | cons p rest ih =>
    obtain ⟨event, randomUUID, rfl⟩ := h p List.mem_cons_self
    rintro d - n r vs n' ⟨rfl, -⟩
    rintro d - n r vs n' ⟨-, -, rfl⟩
    refine ih (fun q hq => h q (List.mem_cons_of_mem _ hq)) _ _ fun w hw => ?_
    rw [List.append_nil] at hw
    rcases List.mem_append.mp hw with hw | hw
    · exact written w hw
    · rw [List.mem_singleton.mp hw]
      exact ⟨event.eventType, rfl⟩

theorem view_eq (ws rows : List SseRow) : sseEngine.view ws rows = rows ++ ws := by
  induction ws generalizing rows with
  | nil => exact (List.append_nil rows).symm
  | cons w ws ih =>
    rw [Engine.view_cons, ih, show sseEngine.apply w rows = rows ++ [w] from rfl, List.append_assoc]
    rfl

theorem committed_labelled {database : SseDatabase} (reachable : sseEngine.Reachable [] 0 database)
    (runs : FromRuns database) : ∀ r ∈ database.committed, Labelled r := by
  obtain ⟨ws, all, committed⟩ :=
    Engine.Reachable.wrote (fun _ d h => publishAll_writes h d [] nofun) reachable runs
  rw [committed, view_eq]
  exact all

theorem poll_named {rows : List SseRow} (h : ∀ r ∈ rows, Labelled r) (workspaceId : String) (cursor : Nat) :
    ∀ m ∈ (SseController.poll workspaceId rows cursor).1, Named m := by
  intro m hm
  unfold SseController.poll at hm
  dsimp only at hm
  split at hm
  · rw [List.mem_singleton.mp hm]
    exact ⟨show "keepalive" ≠ "" by decide, show "keepalive" ≠ "message" by decide⟩
  · obtain ⟨r, hr, rfl⟩ := List.mem_map.mp hm
    have selected : r ∈ after SseRow.streamSequence cursor (inWorkspace workspaceId rows) :=
      List.mem_mergeSort.mp (List.mem_of_mem_take hr)
    exact (h r (List.mem_of_mem_filter (List.mem_of_mem_filter selected))).named

structure Unheard (s : Visit) : Prop where
  reachable : sseEngine.Reachable [] 0 s.database
  silent : s.page.emitted = []
  named : ∀ i c, (s.wires i).connection = some c → ∀ m ∈ c.transit, Named m
  fresh : ∀ i, s.page.sources.length ≤ i → s.wires i = .new

section Runs

variable {options : SSEClientOptions} {s s' : Visit}

theorem Unheard.page (h : Unheard s) {page : Page} (quietly : Quietly s.page page) : Unheard (s.withPage page) :=
  ⟨h.reachable, quietly.emitted.trans h.silent, h.named, fun i hi => h.fresh i (quietly.sources.trans hi)⟩

theorem Unheard.wire (h : Unheard s) {i : Nat} (hlt : i < s.page.sources.length) {w : Wire}
    (named : ∀ c, w.connection = some c → ∀ m ∈ c.transit, Named m) : Unheard (s.withWire i w) := by
  refine ⟨h.reachable, h.silent, ?_, ?_⟩
  · intro j c hc
    by_cases hj : j = i
    · subst hj
      exact named c ((congrArg Wire.connection (Function.update_self ..)).symm.trans hc)
    · exact h.named j c ((congrArg Wire.connection (Function.update_of_ne hj ..)).symm.trans hc)
  · intro j hj
    refine (Function.update_of_ne ?_ ..).trans (h.fresh j hj)
    rintro rfl
    exact absurd hj (not_le.mpr hlt)

theorem Unheard.known (h : Unheard s) {i : Nat} {c : Connection} (connection : (s.wires i).connection = some c) :
    i < s.page.sources.length := by
  by_contra hlt
  rw [h.fresh i (not_lt.mp hlt)] at connection
  cases connection

theorem Unheard.step (h : Unheard s) (step : Visit.Step options s s') (runs : FromRuns s'.database) :
    Unheard s' := by
  cases step with
  | database database step => exact ⟨h.reachable.tail step, h.silent, h.named, h.fresh⟩
  | connect => exact h.page (quietly_connect _)
  | disconnect => exact h.page (quietly_disconnect _)
  | token answer constructed asked => exact h.page (quietly_resume _ _ _)
  | timer id delay pending => exact h.page (quietly_fire _ _)
  | accept i source cursor exists' open' waiting accepted =>
    have hlt := (List.getElem?_eq_some_iff.mp exists').1
    have opened := h.page (quietly_onopen s.page i)
    refine opened.wire (hlt.trans_le (quietly_onopen s.page i).sources) fun c hc => ?_
    obtain rfl := Option.some.inj hc
    exact nofun
  | poll i c connection =>
    refine h.wire (h.known connection) fun d hd => ?_
    obtain rfl := Option.some.inj hd
    intro m hm
    rcases List.mem_append.mp hm with hm | hm
    · exact h.named i c connection m hm
    · exact poll_named (committed_labelled h.reachable runs) _ _ m hm
  | receive i source c m rest exists' open' connection next =>
    have named := h.named i c connection
    rw [next] at named
    rw [dispatch_named (named m List.mem_cons_self)]
    refine Unheard.wire h (h.known connection) fun d hd => ?_
    obtain rfl := Option.some.inj hd
    exact fun x hx => named x (List.mem_cons_of_mem _ hx)
  | fail i source exists' open' =>
    have hlt := (List.getElem?_eq_some_iff.mp exists').1
    have failed : Unheard (s.withPage (s.page.onerror options i)) := h.page (quietly_onerror s.page i)
    exact failed.wire (hlt.trans_le (quietly_onerror s.page i).sources) nofun

theorem Visit.Step.runs (step : Visit.Step options s s') (runs : FromRuns s'.database) : FromRuns s.database := by
  cases step with
  | database database step => exact step.calls runs
  | connect | disconnect | token | timer | accept | poll | receive | fail => exact runs

theorem Unheard.steps (h : Unheard s) (steps : Visit.Steps options s s') (runs : FromRuns s'.database) :
    Unheard s' := by
  induction steps with
  | refl => exact h
  | tail _ step ih => exact (ih (step.runs runs)).step step runs

theorem unheard_new : Unheard .new :=
  ⟨.refl, rfl, fun _ _ hc => (nomatch hc), fun _ _ => rfl⟩

theorem Unheard.handed (h : Unheard s) : s.handed = [] := by
  unfold Visit.handed
  rw [h.silent]
  rfl

theorem withWire_wires (s : Visit) (i : Nat) (w : Wire) : (s.withWire i w).wires i = w := Function.update_self ..

theorem withWire_withWire (s : Visit) (i : Nat) (w w' : Wire) : (s.withWire i w).withWire i w' = s.withWire i w' := by
  unfold Visit.withWire
  dsimp only
  rw [Function.update_idem]

variable (options) in
-- The server sends what there is, batch by batch.
theorem polls (labelled : ∀ r ∈ s.database.committed, Labelled r) (i : Nat) (lastEventId : String) (k : Nat)
    (cursor : Nat) (transit : List Message) (named : ∀ m ∈ transit, Named m) :
    ∃ transit', (∀ m ∈ transit', Named m) ∧
      Visit.Steps options (s.withWire i ⟨lastEventId, some ⟨cursor, transit⟩⟩)
        (s.withWire i ⟨lastEventId, some ⟨(advance SseRow.streamSequence 250
          (inWorkspace options.workspaceId s.database.committed))^[k] cursor, transit'⟩⟩) := by
  induction k generalizing cursor transit with
  | zero => exact ⟨transit, named, .refl⟩
  | succ k ih =>
    have polled := poll_named labelled options.workspaceId cursor
    obtain ⟨transit', named', steps⟩ := ih (advance SseRow.streamSequence 250
      (inWorkspace options.workspaceId s.database.committed) cursor)
      (transit ++ (SseController.poll options.workspaceId s.database.committed cursor).1)
      fun m hm => (List.mem_append.mp hm).elim (named m) (polled m)
    refine ⟨transit', named', .head ?_ steps⟩
    have step : Visit.Step options (s.withWire i ⟨lastEventId, some ⟨cursor, transit⟩⟩) _ :=
      .poll _ i ⟨cursor, transit⟩ (congrArg Wire.connection (withWire_wires ..))
    rwa [withWire_wires, withWire_withWire] at step

variable (options) in
theorem drain {i : Nat} {source : EventSource} (exists' : s.page.sources[i]? = some source)
    (open' : source.closed = false) (cursor : Nat) (lastEventId : String) (transit : List Message)
    (named : ∀ m ∈ transit, Named m) :
    ∃ lastEventId', Visit.Steps options (s.withWire i ⟨lastEventId, some ⟨cursor, transit⟩⟩)
      (s.withWire i ⟨lastEventId', some ⟨cursor, []⟩⟩) := by
  induction transit generalizing lastEventId with
  | nil => exact ⟨lastEventId, .refl⟩
  | cons m rest ih =>
    obtain ⟨lastEventId', steps⟩ := ih (m.id.getD lastEventId) fun x hx => named x (List.mem_cons_of_mem _ hx)
    refine ⟨lastEventId', .head ?_ steps⟩
    have step : Visit.Step options (s.withWire i ⟨lastEventId, some ⟨cursor, m :: rest⟩⟩) _ :=
      .receive _ i source ⟨cursor, m :: rest⟩ m rest exists' open' (congrArg Wire.connection (withWire_wires ..)) rfl
    rw [dispatch_named (named m List.mem_cons_self), withWire_wires] at step
    change Visit.Step options _ ((s.withWire i _).withWire i _) at step
    rwa [withWire_withWire] at step

theorem setStatus_keeps (p : Page) (status : SSEStatus) :
    (p.setStatus status).client.stopped = p.client.stopped ∧ (p.setStatus status).client.es = p.client.es ∧
      (p.setStatus status).sources = p.sources ∧ (p.setStatus status).tokenRequests = p.tokenRequests := by
  unfold Page.setStatus
  split <;> exact ⟨rfl, rfl, rfl, rfl⟩

theorem disconnect_stopped (p : Page) : p.disconnect.client.stopped = true := by
  have cleared : ∀ q : Page, q.clearTimer.client.stopped = q.client.stopped := fun q => by
    unfold Page.clearTimer
    split <;> rfl
  have closed : ∀ q : Page, q.closeSource.client.stopped = q.client.stopped := fun q => by
    unfold Page.closeSource
    split <;> rfl
  unfold Page.disconnect
  dsimp only
  rw [(setStatus_keeps _ _).1, closed]
  exact cleared _

theorem connect_asks {p : Page} (stopped : p.client.stopped = true) :
    p.connect.client.stopped = false ∧ 0 < p.connect.tokenRequests := by
  have running := (setStatus_keeps { p with client := { p.client with stopped := false } } .connecting).1
  unfold Page.connect Page.openConnection
  rw [if_neg (by simp [stopped]), if_neg (by simp [running])]
  exact ⟨running, Nat.succ_pos _⟩

theorem resume_constructs {p : Page} (running : p.client.stopped = false) {token : String} (given : token ≠ "") :
    (p.resume options (some (some token)) true).client.es = some p.sources.length ∧
      (p.resume options (some (some token)) true).sources = p.sources ++ [⟨p.buildUrl options token, false⟩] := by
  have kept : (some token).filter (fun t => t ≠ "") = some token := by simp [given]
  unfold Page.resume
  dsimp only
  rw [if_neg (by simp [running]), kept]
  exact ⟨rfl, rfl⟩

theorem onopen_keeps (p : Page) (i : Nat) :
    (p.onopen i).client.es = p.client.es ∧ (p.onopen i).sources = p.sources := by
  unfold Page.onopen
  split
  · exact ⟨rfl, rfl⟩
  · obtain ⟨-, es, sources, -⟩ := setStatus_keeps { p with client := { p.client with attempt := 0 } } .connected
    exact ⟨es, sources⟩

variable (options) in
theorem Unheard.connects (h : Unheard s) :
    ∃ (t : Visit) (n : Nat) (source : EventSource), Visit.Steps options s (t.withWire n ⟨"", some ⟨0, []⟩⟩) ∧ t.database = s.database ∧
      t.page.client.es = some n ∧ t.page.sources[n]? = some source ∧ source.closed = false := by
  let page := s.page.disconnect.connect
  have quietly : Quietly s.page page := (quietly_disconnect _).trans (quietly_connect _)
  obtain ⟨running, asked⟩ : page.client.stopped = false ∧ 0 < page.tokenRequests :=
    connect_asks (disconnect_stopped s.page)
  let n := page.sources.length
  let constructed := page.resume options (some (some "token")) true
  obtain ⟨es, sources⟩ : constructed.client.es = some n ∧
      constructed.sources = page.sources ++ [⟨page.buildUrl options "token", false⟩] :=
    resume_constructs running (by decide)
  obtain ⟨es', sources'⟩ := onopen_keeps constructed n
  have source : constructed.sources[n]? = some ⟨page.buildUrl options "token", false⟩ := by
    rw [sources]
    exact List.getElem?_concat_length
  have fresh : s.wires n = .new := h.fresh n quietly.sources
  refine ⟨s.withPage (constructed.onopen n), n, ⟨page.buildUrl options "token", false⟩, ?_, rfl, es'.trans es,
    ?_, rfl⟩
  · refine .head (.disconnect s) (.head (.connect _) (.head (.token _ (some (some "token")) true asked) (.single ?_)))
    have step : Visit.Step options (s.withPage constructed)
        ((s.withPage (constructed.onopen n)).withWire n ⟨(s.wires n).lastEventId, some ⟨0, []⟩⟩) := by
      refine .accept (s.withPage constructed) n _ 0 source rfl (congrArg Wire.connection fresh) ?_
      change SseController.events _ true options.workspaceId (s.wires n).header = _
      rw [fresh]
      rfl
    rwa [fresh] at step
  · rw [← source]
    exact congrArg (fun l : List EventSource => l[n]?) sources'

variable (options) in
theorem Unheard.catches_up (h : Unheard s) (runs : FromRuns s.database) :
    ∃ s', Visit.Steps options s s' ∧ s'.database = s.database ∧ s'.CaughtUp options := by
  have labelled := committed_labelled h.reachable runs
  have asc := Holds.ascending (sseLocking.holds_reachable (sse_start 0) h.reachable) options.workspaceId
  obtain ⟨t, n, source, connected, same, es, exists', open'⟩ := h.connects options
  rw [← same] at labelled asc
  obtain ⟨transit, named, polled⟩ := polls options labelled n "" t.database.committed.length 0 [] nofun
  obtain ⟨lastEventId, drained⟩ := drain options exists' open' _ "" transit named
  refine ⟨_, (connected.trans polled).trans drained, same, n, source, _, es, exists', open',
    congrArg Wire.connection (withWire_wires ..), rfl, ?_⟩
  refine (after_advance asc _).trans (List.drop_eq_nil_of_le ?_)
  have le : (after SseRow.streamSequence 0 (inWorkspace options.workspaceId t.database.committed)).length ≤
      t.database.committed.length :=
    (List.length_filter_le _ _).trans (List.length_filter_le _ _)
  omega

end Runs

theorem sse_client_delivers_iff (options : SSEClientOptions) {s : Visit} (reached : Visit.Steps options .new s)
    (runs : FromRuns s.database) : s.Delivers options ↔ s.published options = [] := by
  have unheard := unheard_new.steps reached runs
  constructor
  · intro delivers
    obtain ⟨s', steps, same, caughtUp⟩ := unheard.catches_up options runs
    have given := delivers s' steps same caughtUp
    rw [(unheard.steps steps (same ▸ runs)).handed] at given
    unfold Visit.published at given ⊢
    rw [same] at given
    exact given.symm
  · intro none s' steps same caughtUp
    rw [(unheard.steps steps (same ▸ runs)).handed]
    unfold Visit.published at none ⊢
    rw [same]
    exact none.symm

section Example

def exampleOptions : SSEClientOptions := { workspaceId := exampleWorkspace }

def publishedVisit : Visit := { Visit.new with database := publishedTwo }

theorem publishedVisit_steps : Visit.Steps exampleOptions .new publishedVisit := by
  have along : ∀ d, sseEngine.Steps ⟨[], 0, []⟩ d → Visit.Steps exampleOptions .new { Visit.new with database := d } := by
    intro d steps
    induction steps with
    | refl => exact .refl
    | tail _ step ih => exact ih.tail (.database _ _ step)
  exact along publishedTwo publishedTwo_reachable

theorem publishedVisit_runs : FromRuns publishedVisit.database := by
  intro t ht p hp
  obtain rfl := List.mem_singleton.mp ht
  rcases List.mem_pair.mp hp with rfl | rfl
  · exact ⟨⟨exampleWorkspace, createdRow.eventId, .runCreated, createdRow.correlationId, []⟩, createdRow.eventId, rfl⟩
  · exact ⟨⟨exampleWorkspace, changedRow.eventId, .stateChanged, changedRow.correlationId, []⟩, changedRow.eventId,
      rfl⟩

theorem publishedVisit_published : publishedVisit.published exampleOptions ≠ [] := by
  refine List.ne_nil_of_mem (List.mem_map.mpr ⟨createdRow, List.mem_mergeSort.mpr ?_, rfl⟩)
  decide

theorem sse_client_delivers_iff_two : ¬ publishedVisit.Delivers exampleOptions := fun delivers =>
  publishedVisit_published ((sse_client_delivers_iff exampleOptions publishedVisit_steps publishedVisit_runs).mp delivers)

theorem sse_client_hears_nothing :
    ¬ ∀ s, Visit.Steps exampleOptions .new s → FromRuns s.database → s.CaughtUp exampleOptions →
      s.handed = s.published exampleOptions := by
  intro delivers
  have unheard := unheard_new.steps publishedVisit_steps publishedVisit_runs
  obtain ⟨s', steps, same, caughtUp⟩ := unheard.catches_up exampleOptions publishedVisit_runs
  have runs : FromRuns s'.database := same ▸ publishedVisit_runs
  have given := delivers s' (publishedVisit_steps.trans steps) runs caughtUp
  rw [(unheard.steps steps runs).handed, Visit.published, same] at given
  exact publishedVisit_published given.symm

end Example

end Provisr.System
