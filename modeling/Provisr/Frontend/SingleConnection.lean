import Provisr.Frontend.SseClient

namespace Provisr.Frontend

open Provisr.Foundation

inductive Callback where
  | connect
  | disconnect
  | token (answer : Option (Option String)) (constructed : Bool)
  | timer (id : Nat)
  | opened (i : Nat)
  | message (i : Nat) (evt : MessageEvent)
  | error (i : Nat)

namespace Page

def Open (p : Page) (i : Nat) : Prop := ∃ source, p.sources[i]? = some source ∧ source.closed = false

def apply (options : SSEClientOptions) (p : Page) : Callback → Page
  | .connect => p.connect
  | .disconnect => p.disconnect
  | .token answer constructed => p.resume options answer constructed
  | .timer id => p.fire id
  | .opened i => p.onopen i
  | .message i evt => p.onmessage i evt
  | .error i => p.onerror options i

def Enabled (p : Page) : Callback → Prop
  | .token _ _ => 0 < p.tokenRequests
  | .timer id => ∃ delay, (id, delay) ∈ p.timers
  | _ => True

inductive Run (options : SSEClientOptions) (meets : Page → Callback → Prop) : List Callback → Page → Prop
  | start : Run options meets [] .new
  | step {calls : List Callback} {p : Page} (c : Callback) (run : Run options meets calls p) (enabled : p.Enabled c)
      (met : meets p c) : Run options meets (calls ++ [c]) (p.apply options c)

-- The client is connected again only when no token is on the way any more.
def Calm (p : Page) (c : Callback) : Prop := c = .connect → p.client.stopped = true → p.tokenRequests = 0

structure Core where
  es : Option Nat
  timer : Option Nat
  stopped : Bool
  tokenRequests : Nat
  timers : List (Nat × Nat)
  sources : List EventSource

def core (p : Page) : Core :=
  ⟨p.client.es, p.client.timer, p.client.stopped, p.tokenRequests, p.timers, p.sources⟩

namespace Core

variable {c : Core}

def ask (c : Core) : Core := if c.stopped then c else { c with tokenRequests := c.tokenRequests + 1 }

def wait (c : Core) (id delay : Nat) : Core := { c with timer := some id, timers := c.timers ++ [(id, delay)] }

def clear (c : Core) : Core := match c.timer with
  | some id => { c with timer := none, timers := c.timers.filter fun t => t.1 != id }
  | none => c

def shut (c : Core) (i : Nat) : Core :=
  { c with es := none, sources := c.sources.modify i fun source => { source with closed := true } }

def shutOwn (c : Core) : Core := match c.es with
  | some i => c.shut i
  | none => c

def pending (c : Core) : Nat := c.tokenRequests + c.timers.length + if c.es.isSome then 1 else 0

theorem pending_eq_zero : c.pending = 0 ↔ c.tokenRequests = 0 ∧ c.timers = [] ∧ c.es = none := by
  unfold pending
  rw [Nat.add_eq_zero_iff, Nat.add_eq_zero_iff, List.length_eq_zero_iff, and_assoc]
  refine and_congr_right fun _ => and_congr_right fun _ => ?_
  cases c.es <;> simp

-- A connection is asked for, waited for or open, and the client knows which timer and which source are its own.
structure Single (c : Core) : Prop where
  one : c.pending ≤ 1
  idle : c.stopped = true → c.timers = [] ∧ c.es = none
  own : ∀ t ∈ c.timers, c.timer = some t.1
  listed : ∀ i, c.es = some i → i < c.sources.length
  live : ∀ i source, c.sources[i]? = some source → (source.closed = false ↔ c.es = some i)

theorem clear_eq (own : ∀ t ∈ c.timers, c.timer = some t.1) : c.clear = { c with timer := none, timers := [] } := by
  unfold clear
  split
  · rename_i id timer
    have all : c.timers.filter (fun t => t.1 != id) = [] := by
      rw [List.filter_eq_nil_iff]
      intro t mem
      simpa using (Option.some.inj ((own t mem).symm.trans timer))
    rw [all]
  · rename_i timer
    have nothing : c.timers = [] := by
      refine List.eq_nil_iff_forall_not_mem.mpr fun t mem => ?_
      cases (own t mem).symm.trans timer
    rw [← nothing, ← timer]

theorem shut_live (live : ∀ i source, c.sources[i]? = some source → (source.closed = false ↔ c.es = some i)) {i : Nat}
    (own : c.es = some i) (j : Nat) (source : EventSource) (found : (c.shut i).sources[j]? = some source) :
    source.closed = true := by
  unfold shut at found
  rw [List.getElem?_modify] at found
  obtain ⟨before, there, rfl⟩ := Option.map_eq_some_iff.mp found
  by_cases same : i = j
  · rw [if_pos same]
  · rw [if_neg same]
    refine Bool.eq_true_of_not_eq_false fun open' => same ?_
    exact Option.some.inj (own.symm.trans ((live j before there).mp open'))

theorem Single.shut (h : c.Single) {i : Nat} (own : c.es = some i) : (c.shut i).Single ∧ (c.shut i).pending = 0 := by
  have one := h.one
  unfold pending at one
  rw [own] at one
  have free : c.tokenRequests + c.timers.length = 0 := by simpa using one
  have pending : (c.shut i).pending = 0 := free
  refine ⟨⟨pending.le.trans (Nat.zero_le 1), fun stopped => ⟨(h.idle stopped).1, rfl⟩, h.own, nofun, ?_⟩, pending⟩
  intro j source found
  rw [shut_live h.live own j source found]
  exact iff_of_false nofun nofun

theorem Single.shutOwn (h : c.Single) : c.shutOwn.Single ∧ c.shutOwn.es = none ∧ c.shutOwn.timers = c.timers ∧
    c.shutOwn.stopped = c.stopped := by
  unfold Core.shutOwn
  split
  · rename_i i own
    exact ⟨(h.shut own).1, rfl, rfl, rfl⟩
  · rename_i es
    exact ⟨h, es, rfl, rfl⟩

theorem Single.clear (h : c.Single) : c.clear.Single := by
  rw [clear_eq h.own]
  have one := h.one
  unfold pending at one
  refine ⟨?_, fun stopped => ⟨rfl, (h.idle stopped).2⟩, fun _ mem => absurd mem List.not_mem_nil, h.listed, h.live⟩
  unfold pending
  dsimp only [List.length_nil]
  omega

theorem stop_eq (c : Core) :
    (Core.clear { c with stopped := true }).shutOwn = { c.clear.shutOwn with stopped := true } := by
  unfold Core.clear Core.shutOwn
  cases timer : c.timer <;> cases es : c.es <;> simp [timer, es, Core.shut]

theorem Single.stop (h : c.Single) : (Core.clear { c with stopped := true }).shutOwn.Single := by
  rw [stop_eq]
  obtain ⟨single, es, timers, -⟩ := h.clear.shutOwn
  refine ⟨single.one, fun _ => ⟨timers.trans ?_, es⟩, single.own, single.listed, single.live⟩
  rw [clear_eq h.own]

theorem ask_stopped (c : Core) : c.ask.stopped = c.stopped := by
  unfold Core.ask
  split <;> rfl

theorem Single.ask (h : c.Single) (free : c.stopped = false → c.pending = 0) : c.ask.Single := by
  unfold Core.ask
  split
  · exact h
  · rename_i running
    have none_pending := free (Bool.eq_false_iff.mpr running)
    refine ⟨?_, fun stopped => absurd stopped running, h.own, h.listed, h.live⟩
    unfold pending at none_pending ⊢
    dsimp only
    omega

theorem Single.wait (h : c.Single) (running : c.stopped = false) (free : c.pending = 0) (id delay : Nat) :
    (c.wait id delay).Single := by
  obtain ⟨tokens, timers, es⟩ := pending_eq_zero.mp free
  refine ⟨?_, fun stopped => ?_, fun t mem => ?_, h.listed, h.live⟩
  · unfold pending Core.wait
    dsimp only
    rw [tokens, timers, es]
    exact le_rfl
  · cases running.symm.trans stopped
  · unfold Core.wait at mem ⊢
    rw [timers, List.nil_append, List.mem_singleton] at mem
    rw [mem]

theorem Single.construct (h : c.Single) (running : c.stopped = false) (free : c.pending = 0) (url : EventsUrl) :
    Single { c with sources := c.sources ++ [⟨url, false⟩], es := some c.sources.length } := by
  obtain ⟨tokens, timers, es⟩ := pending_eq_zero.mp free
  refine ⟨?_, fun stopped => ?_, h.own, fun i same => ?_, fun i source found => ?_⟩
  · unfold pending
    dsimp only
    rw [tokens, timers]
    exact le_rfl
  · cases running.symm.trans stopped
  · rw [← Option.some.inj same]
    simp
  · rw [List.getElem?_append] at found
    split at found
    · rename_i earlier
      have live := h.live i source found
      rw [es] at live
      refine iff_of_false (fun open' => nomatch live.mp open') fun same => ?_
      exact absurd (Option.some.inj same) (Nat.ne_of_gt earlier)
    · rename_i later
      obtain ⟨bound, same⟩ := List.getElem?_eq_some_iff.mp found
      have last : i = c.sources.length := by
        rw [List.length_singleton] at bound
        omega
      rw [last, Nat.sub_self] at found
      rw [last, ← Option.some.inj found]
      exact iff_of_true rfl rfl

end Core

section Steps

variable {options : SSEClientOptions} (p : Page)

theorem core_setStatus (status : SSEStatus) : (p.setStatus status).core = p.core := by
  unfold setStatus
  split <;> rfl

theorem core_setLastEventId (id : String) : (p.setLastEventId id).core = p.core := by
  unfold setLastEventId
  split <;> rfl

theorem core_openConnection : p.openConnection.core = p.core.ask := by
  unfold openConnection Core.ask
  cases stopped : p.client.stopped <;> simp [core, stopped]

theorem core_scheduleReconnect (options : SSEClientOptions) :
    ∃ id delay, (p.scheduleReconnect options).core = p.core.wait id delay := by
  rw [← core_setStatus p .reconnecting]
  exact ⟨(p.setStatus .reconnecting).timersSet, _, rfl⟩

theorem core_onopen (i : Nat) : (p.onopen i).core = p.core := by
  unfold onopen
  split
  · rfl
  · exact core_setStatus _ _

theorem core_onmessage (i : Nat) (evt : MessageEvent) : (p.onmessage i evt).core = p.core := by
  unfold onmessage handleMessage emit
  split
  · rfl
  split
  · rfl
  split
  · rfl
  dsimp only
  split
  · split
    · split
      · rfl
      · exact core_setLastEventId p _
    · rfl
  · rfl

theorem core_connect (stopped : p.client.stopped = true) :
    p.connect.core = Core.ask { p.core with stopped := false } := by
  unfold connect
  rw [stopped, if_neg (by decide), core_openConnection, core_setStatus]
  rfl

theorem core_clearTimer : p.clearTimer.core = p.core.clear := by
  unfold clearTimer Core.clear
  cases timer : p.client.timer <;> simp [core, timer]

theorem core_closeSource : p.closeSource.core = p.core.shutOwn := by
  unfold closeSource Core.shutOwn close Core.shut
  cases es : p.client.es <;> simp [core, es]

theorem core_disconnect : p.disconnect.core = (Core.clear { p.core with stopped := true }).shutOwn := by
  unfold disconnect
  dsimp only
  rw [core_setStatus, core_closeSource]
  exact congrArg Core.shutOwn (core_clearTimer { p with client := { p.client with stopped := true } })

variable {p}

theorem single_new : Page.new.core.Single :=
  ⟨by decide, fun _ => ⟨rfl, rfl⟩, fun _ mem => absurd mem List.not_mem_nil, nofun, fun _ _ found => nomatch found⟩

theorem single_connect (h : p.core.Single) (calm : p.client.stopped = true → p.tokenRequests = 0) :
    p.connect.core.Single := by
  by_cases stopped : p.client.stopped = true
  · obtain ⟨timers, es⟩ := h.idle stopped
    have free : p.core.pending = 0 := by
      unfold Core.pending
      rw [timers, es]
      exact calm stopped
    have running : Core.Single { p.core with stopped := false } := ⟨h.one, nofun, h.own, h.listed, h.live⟩
    rw [core_connect p stopped]
    exact running.ask fun _ => free
  · have same : p.connect = p := by
      unfold connect
      rw [Bool.eq_false_iff.mpr stopped]
      rfl
    rwa [same]

theorem single_scheduleReconnect (h : p.core.Single) (running : p.client.stopped = false)
    (free : p.core.pending = 0) : (p.scheduleReconnect options).core.Single := by
  obtain ⟨id, delay, after⟩ := core_scheduleReconnect p options
  rw [after]
  exact h.wait running free id delay

theorem single_answered (h : p.core.Single) (asked : 0 < p.tokenRequests) :
    Core.Single { p.core with tokenRequests := p.tokenRequests - 1 } ∧
      Core.pending { p.core with tokenRequests := p.tokenRequests - 1 } = 0 := by
  have free : Core.pending { p.core with tokenRequests := p.tokenRequests - 1 } = 0 := by
    have one := h.one
    unfold Core.pending core at one ⊢
    dsimp only at one ⊢
    omega
  exact ⟨⟨free.le.trans (Nat.zero_le 1), h.idle, h.own, h.listed, h.live⟩, free⟩

theorem single_resume (h : p.core.Single) (asked : 0 < p.tokenRequests) (answer : Option (Option String))
    (constructed : Bool) : (p.resume options answer constructed).core.Single := by
  obtain ⟨single, free⟩ := single_answered h asked
  unfold resume
  dsimp only
  split
  · split
    · exact single
    · rename_i running
      exact single_scheduleReconnect single (Bool.eq_false_iff.mpr running) free
  · split
    · exact single
    · rename_i running
      have running := Bool.eq_false_iff.mpr running
      split
      · rw [core_setStatus]
        obtain ⟨-, timers, es⟩ := Core.pending_eq_zero.mp free
        exact ⟨single.one, fun _ => ⟨timers, es⟩, single.own, single.listed, single.live⟩
      · split
        · exact single.construct running free _
        · exact single_scheduleReconnect single running free

theorem single_fire (h : p.core.Single) {id delay : Nat} (mem : (id, delay) ∈ p.timers) : (p.fire id).core.Single := by
  have own := h.own _ mem
  have cleared : core { p with
      timers := p.timers.filter fun t => t.1 != id
      client := { p.client with timer := none } } = p.core.clear := by
    unfold Core.clear
    rw [own]
    rfl
  unfold fire
  rw [core_openConnection, cleared]
  refine h.clear.ask fun _ => ?_
  have one := h.one
  have timers := List.length_pos_of_mem mem
  rw [Core.clear_eq h.own]
  unfold Core.pending core at one ⊢
  dsimp only [List.length_nil] at one ⊢
  omega

theorem single_onerror (h : p.core.Single) (i : Nat) : (p.onerror options i).core.Single := by
  unfold onerror
  split
  · exact h
  · rename_i own
    have own := not_not.mp own
    obtain ⟨single, free⟩ := Core.Single.shut h own
    have closed : ((p.close i).detach i).core = p.core.shut i := by
      unfold detach close
      rw [if_pos own]
      rfl
    unfold handleError
    dsimp only
    split
    · rwa [closed]
    · rename_i running
      exact single_scheduleReconnect (closed.symm ▸ single) (Bool.eq_false_iff.mpr running) (closed.symm ▸ free)

theorem single_apply {c : Callback} (h : p.core.Single) (enabled : p.Enabled c) (calm : p.Calm c) :
    (p.apply options c).core.Single := by
  cases c with
  | connect => exact single_connect h (calm rfl)
  | disconnect =>
    rw [apply, core_disconnect]
    exact h.stop
  | token answer constructed => exact single_resume h enabled answer constructed
  | timer id =>
    obtain ⟨delay, mem⟩ := enabled
    exact single_fire h mem
  | opened i =>
    rw [apply, core_onopen]
    exact h
  | message i evt =>
    rw [apply, core_onmessage]
    exact h
  | error i => exact single_onerror h i

end Steps

variable {options : SSEClientOptions} {meets : Page → Callback → Prop} {calls : List Callback} {p : Page}

theorem Run.single (run : Run options Calm calls p) : p.core.Single := by
  induction run with
  | start => exact single_new
  | step c run enabled calm ih => exact single_apply ih enabled calm

theorem disconnect_idle (p : Page) : p.disconnect.client.stopped = true := by
  have after := congrArg Core.stopped (core_disconnect p)
  rw [Core.stop_eq] at after
  exact after

theorem stopped_apply {c : Callback} (stopped : p.client.stopped = true) (other : c ≠ .connect) :
    (p.apply options c).client.stopped = true := by
  cases c with
  | connect => exact absurd rfl other
  | disconnect => exact disconnect_idle p
  | token answer constructed =>
    unfold apply resume
    dsimp only
    cases answer <;> dsimp only <;> rw [if_pos stopped] <;> exact stopped
  | timer id =>
    exact (congrArg Core.stopped (core_openConnection _)).trans ((Core.ask_stopped _).trans stopped)
  | opened i => exact (congrArg Core.stopped (core_onopen p i)).trans stopped
  | message i evt => exact (congrArg Core.stopped (core_onmessage p i evt)).trans stopped
  | error i =>
    rw [apply, onerror]
    split
    · exact stopped
    · have detached : ((p.close i).detach i).client.stopped = true := by
        unfold detach
        split <;> exact stopped
      rw [handleError]
      exact (congrArg (fun q : Page => q.client.stopped) (if_pos detached)).trans detached

theorem Run.stopped (run : Run options meets calls p) {before after : List Callback}
    (parts : calls = before ++ .disconnect :: after) (alone : .connect ∉ after) : p.client.stopped = true := by
  induction run generalizing after with
  | start => simp at parts
  | @step calls p c run enabled met ih =>
    rcases List.eq_nil_or_concat after with rfl | ⟨after, d, rfl⟩
    · rw [List.singleton_inj.mp (List.append_inj' parts rfl).2]
      exact disconnect_idle p
    · rw [List.concat_eq_append, ← List.cons_append, ← List.append_assoc] at parts
      obtain ⟨same, last⟩ := List.append_inj' parts rfl
      rw [List.concat_eq_append, List.mem_append, not_or] at alone
      rw [List.singleton_inj.mp last]
      exact stopped_apply (ih same alone.1) fun connects => alone.2 (connects ▸ List.mem_cons_self)

theorem single_connection (run : Run options Calm calls p) : (∀ i j, p.Open i → p.Open j → i = j) ∧
    p.timers.length ≤ 1 ∧ ∀ before after, calls = before ++ .disconnect :: after → .connect ∉ after →
      (∀ i, ¬ p.Open i) ∧ p.timers = [] := by
  have single := run.single
  have own : ∀ i, p.Open i → p.client.es = some i := by
    rintro i ⟨source, found, live⟩
    exact (single.live i source found).mp live
  refine ⟨fun i j hi hj => Option.some.inj ((own i hi).symm.trans (own j hj)), ?_, ?_⟩
  · have one := single.one
    unfold Core.pending core at one
    dsimp only at one
    omega
  · intro before after parts alone
    obtain ⟨timers, es⟩ := single.idle (run.stopped parts alone)
    exact ⟨fun i open' => Option.some_ne_none i ((own i open').symm.trans es), timers⟩

section Reconnected

def browser : SSEClientOptions := ⟨"w1", 1000, 30000⟩

def given (token : String) : Callback := .token (some (some token)) true

def again : List Callback := [.connect, .disconnect, .connect, given "first", given "second"]

-- Connected again while the first token is on the way: both answers open an event source.
theorem two_connections : ∃ p, Run browser (fun _ _ => True) again p ∧ p.Open 0 ∧ p.Open 1 := by
  have connected : Run browser (fun _ _ => True) _ _ := Run.start.step .connect trivial trivial
  have twice := (connected.step .disconnect trivial trivial).step .connect trivial trivial
  have first := twice.step (given "first") (Nat.succ_pos 1) trivial
  have second := first.step (given "second") (Nat.succ_pos 0) trivial
  exact ⟨_, second, ⟨_, rfl, rfl⟩, ⟨_, rfl, rfl⟩⟩

theorem single_connection_again : ∃ calls p, Run browser Calm calls p ∧ p.Open 1 ∧
    (∀ i j, p.Open i → p.Open j → i = j) ∧ p.timers.length ≤ 1 := by
  have connected : Run browser Calm _ _ := Run.start.step .connect trivial fun _ _ => rfl
  have answered := connected.step (given "first") (Nat.succ_pos 0) nofun
  have twice := (answered.step .disconnect trivial nofun).step .connect trivial fun _ _ => rfl
  have run := twice.step (given "second") (Nat.succ_pos 0) nofun
  obtain ⟨unique, timers, -⟩ := single_connection run
  exact ⟨_, _, run, ⟨_, rfl, rfl⟩, unique, timers⟩

end Reconnected

end Page

end Provisr.Frontend
