import Provisr.Foundation.Sublists
import Provisr.Orchestrator.SessionLocking

namespace Provisr.Orchestrator.Sessions

open Provisr.Foundation
open Provisr.Backend.Manifest (uuidIn textIn SqlError answers answers_ok)

section Growth

structure RunRow.Evolves (r r' : RunRow) : Prop where
  same : r' = { r with state := r'.state, stateVersion := r'.stateVersion }
  ended : r.state.isTerminal = true → r' = r

theorem RunRow.Evolves.refl (r : RunRow) : r.Evolves r := ⟨rfl, fun _ => rfl⟩

theorem RunRow.Evolves.trans {r r' r'' : RunRow} (h : r.Evolves r') (h' : r'.Evolves r'') : r.Evolves r'' := by
  refine ⟨?_, fun terminal => ?_⟩
  · rw [h'.same, h.same]
  · obtain rfl := h.ended terminal
    exact h'.ended terminal

theorem evolves_update (id : String) (a : Advance) (r : RunRow) : r.Evolves (a.update id r) := by
  unfold Advance.update
  split
  · rename_i found
    refine ⟨rfl, fun terminal => ?_⟩
    unfold Advance.matches at found
    simp only [Bool.and_eq_true, beq_iff_eq] at found
    rw [found.1.2, a.live] at terminal
    cases terminal
  · exact .refl r

structure SessionRow.Evolves (s s' : SessionRow) : Prop where
  workspaceId : s'.workspaceId = s.workspaceId
  userId : s'.userId = s.userId
  deleted : s.status = .deleted → s'.status = .deleted

theorem SessionRow.Evolves.refl (s : SessionRow) : s.Evolves s := ⟨rfl, rfl, id⟩

theorem SessionRow.Evolves.trans {s s' s'' : SessionRow} (h : s.Evolves s') (h' : s'.Evolves s'') : s.Evolves s'' :=
  ⟨h'.workspaceId.trans h.workspaceId, h'.userId.trans h.userId, fun deleted => h'.deleted (h.deleted deleted)⟩

structure Grows (d d' : Db) : Prop where
  runs : ∀ (i : Nat) (r : RunRow), d.runs[i]? = some r → ∃ r', d'.runs[i]? = some r' ∧ r.Evolves r'
  turns : d.turns <+: d'.turns
  messages : d.messages <+: d'.messages
  sessions : ∀ (i : String) (s : SessionRow), d.sessions i = some s → ∃ s', d'.sessions i = some s' ∧ s.Evolves s'

variable {d d' d'' : Db}

theorem Grows.of_same (runs : d'.runs = d.runs) (turns : d'.turns = d.turns) (messages : d'.messages = d.messages)
    (sessions : d'.sessions = d.sessions) : Grows d d' :=
  ⟨fun _ r found => ⟨r, runs ▸ found, .refl r⟩, turns ▸ List.prefix_rfl, messages ▸ List.prefix_rfl,
    fun _ s found => ⟨s, sessions ▸ found, .refl s⟩⟩

theorem Grows.refl (d : Db) : Grows d d := .of_same rfl rfl rfl rfl

theorem Grows.trans (h : Grows d d') (h' : Grows d' d'') : Grows d d'' := by
  refine ⟨fun i r found => ?_, h.turns.trans h'.turns, h.messages.trans h'.messages, fun i s found => ?_⟩
  · obtain ⟨r', found', evolves⟩ := h.runs i r found
    obtain ⟨r'', found'', evolves'⟩ := h'.runs i r' found'
    exact ⟨r'', found'', evolves.trans evolves'⟩
  · obtain ⟨s', found', evolves⟩ := h.sessions i s found
    obtain ⟨s'', found'', evolves'⟩ := h'.sessions i s' found'
    exact ⟨s'', found'', evolves.trans evolves'⟩

theorem grows_apply (w : Write) (d : Db) : Grows d (apply w d) := by
  have kept : ∀ (rows : List RunRow) (more : List RunRow) (i : Nat) (r : RunRow), rows[i]? = some r →
      ∃ r', (rows ++ more)[i]? = some r' ∧ r.Evolves r' := fun rows more i r found =>
    ⟨r, (List.getElem?_append_left (List.getElem?_eq_some_iff.mp found).1).trans found, .refl r⟩
  cases w with
  | role | workspace | audit | chat | outbox => exact .of_same rfl rfl rfl rfl
  | run row => exact ⟨kept d.runs [row], List.prefix_rfl, List.prefix_rfl, (Grows.refl d).sessions⟩
  | turn row => exact ⟨(Grows.refl d).runs, List.prefix_append _ _, List.prefix_rfl, (Grows.refl d).sessions⟩
  | message row => exact ⟨(Grows.refl d).runs, List.prefix_rfl, List.prefix_append _ _, (Grows.refl d).sessions⟩
  | advance id a =>
    refine ⟨fun i r found => ⟨a.update id r, ?_, evolves_update id a r⟩, List.prefix_rfl, List.prefix_rfl,
      (Grows.refl d).sessions⟩
    change (d.runs.map _)[i]? = _
    rw [List.getElem?_map, found, Option.map_some]
  | openSession id workspaceId userId =>
    refine ⟨(Grows.refl d).runs, List.prefix_rfl, List.prefix_rfl, fun i s found => ⟨s, ?_, .refl s⟩⟩
    change (if _ then _ else _) = _
    split <;> simp [found]
  | deleteSession id =>
    refine ⟨(Grows.refl d).runs, List.prefix_rfl, List.prefix_rfl, fun i s found => ?_⟩
    by_cases own : i = id
    · exact ⟨{ s with status := .deleted }, (if_pos own).trans (by rw [found, Option.map_some]), ⟨rfl, rfl, fun _ => rfl⟩⟩
    · exact ⟨s, (if_neg own).trans found, .refl s⟩

theorem Grows.mem (h : Grows d d') {r : RunRow} (mem : r ∈ d.runs) : ∃ r' ∈ d'.runs, r.Evolves r' := by
  obtain ⟨i, found⟩ := List.mem_iff_getElem?.mp mem
  obtain ⟨r', found', evolves⟩ := h.runs i r found
  exact ⟨r', List.mem_of_getElem? found', evolves⟩

theorem Grows.split (h : Grows d d') :
    ∃ evolved more, List.Forall₂ RunRow.Evolves d.runs evolved ∧ d'.runs = evolved ++ more := by
  have bound : d.runs.length ≤ d'.runs.length := by
    rcases Nat.eq_zero_or_pos d.runs.length with none | some
    · omega
    · have last := List.getElem?_eq_getElem (l := d.runs) (i := d.runs.length - 1) (by omega)
      obtain ⟨r', found, -⟩ := h.runs _ _ last
      have := (List.getElem?_eq_some_iff.mp found).1
      omega
  refine ⟨d'.runs.take d.runs.length, d'.runs.drop d.runs.length, ?_, (List.take_append_drop _ _).symm⟩
  refine List.forall₂_iff_get.mpr ⟨by rw [List.length_take]; omega, fun i hi hi' => ?_⟩
  obtain ⟨r', found, evolves⟩ := h.runs i _ (List.getElem?_eq_getElem hi)
  rw [List.get_eq_getElem, List.get_eq_getElem, List.getElem_take]
  rwa [(List.getElem?_eq_some_iff.mp found).2]

variable [Platform] (faults : Bool)

def growing : Engine.Growing (engine faults) where
  grows := Grows
  refl := .refl
  trans _ _ _ := .trans
  apply := grows_apply

def Between : Set Key → Db → Db → Prop := (locking faults).Keeps (growing faults)

end Growth

section Results

variable (params : ChatPersistenceService.PlanningTurn) (fresh : ChatPersistenceService.Fresh)
  (request : RunsService.CreateRun)

def Write.quiet : Write → Prop
  | .run _ | .turn _ | .message _ | .deleteSession _ => False
  | _ => True

def Write.record : Write → Prop
  | .audit _ | .chat _ | .outbox _ => True
  | _ => False

def Opened (run : RunRow) (d : Db) : Prop :=
  ∃ s, d.sessions run.sessionId = some s ∧ s.workspaceId = run.workspaceId ∧ s.userId = run.requesterId ∧
    s.status = .active

def turnAt (turn : TurnRow) : Prop :=
  uuidIn params.workspaceId = some turn.workspaceId ∧ uuidIn params.userId = some turn.requesterId ∧
    textIn params.idempotencyKey = some turn.idempotencyKey

def Ended (sessionId workspaceId : String) (d : Db) : Prop :=
  ∀ r ∈ d.runs, r.sessionId = sessionId → r.workspaceId = workspaceId → r.state.isTerminal = true

inductive Deletes (id : String) : Outcome → Db → List Write → Prop
  | deleted {i : String} {s : SessionRow} {d : Db} (session : uuidIn id = some i) (found : d.sessions i = some s)
      (ended : Ended i s.workspaceId d) : Deletes id .deleted d [.deleteSession i]
  | kept {o : Outcome} {d : Db} (kept : o.commits = false) : Deletes id o d []

variable [Platform]

inductive Accepts : Outcome → Db → List Write → Prop
  | accepted {run : RunRow} {turn : TurnRow} {message : MessageRow} {vs vs' : List Write} {d : Db}
      (inserted : insertedRun (ChatPersistenceService.runInsertion params fresh) = some run)
      (turned : insertedTurn (ChatPersistenceService.turnInsertion params fresh run.id) = some turn)
      (said : insertedMessage (ChatPersistenceService.messageInsertion params turn.id) = some message)
      (opened : Opened run d) (recorded : ∀ w ∈ vs, w.record) (recorded' : ∀ w ∈ vs', w.record) :
      Accepts (.turn turn.id run.id false) d (.run run :: (vs ++ .turn turn :: .message message :: vs'))
  | replayed {turn : TurnRow} {d : Db} (found : turn ∈ d.turns) (own : turnAt params turn) :
      Accepts (ChatPersistenceService.replayTurn params turn) d []
  | refused {r : Refusal} {d : Db} (other : ∀ message, r ≠ .conflict message) : Accepts (.refused r) d []
  | lost {d : Db} {ws : List Write} : Accepts (.failed .other) d ws
  | obstructed {d : Db} {ws : List Write} (taken : takenRun (ChatPersistenceService.runInsertion params fresh) d) :
      Accepts (.failed .uniqueViolation) d ws
  | obstructedTurn {run : RunRow} {d : Db} {ws : List Write}
      (inserted : insertedRun (ChatPersistenceService.runInsertion params fresh) = some run) (opened : Opened run d)
      (taken : takenTurn (ChatPersistenceService.turnInsertion params fresh run.id) d) :
      Accepts (.failed .uniqueViolation) d ws

inductive Creates : Outcome → Db → List Write → Prop
  | created {run : RunRow} {vs : List Write} {d : Db}
      (inserted : insertedRun (RunsService.runInsertion request fresh) = some run) (opened : Opened run d)
      (recorded : ∀ w ∈ vs, w.record) : Creates (.created run) d (.run run :: vs)
  | existing {run run' : RunRow} {d : Db} (found : run' ∈ d.runs) (evolves : run.Evolves run')
      (key : textIn request.idempotencyKey = some run.idempotencyKey) : Creates (RunsService.replayRun request run) d []
  | refused {r : Refusal} {d : Db} (other : ∀ message, r ≠ .conflict message) : Creates (.refused r) d []
  | lost {d : Db} {ws : List Write} : Creates (.failed .other) d ws
  | obstructed {d : Db} {ws : List Write} (taken : takenRun (RunsService.runInsertion request fresh) d) :
      Creates (.failed .uniqueViolation) d ws

def Told : Call → Outcome → Db → List Write → Prop
  | .deleteSession id _ _ => Deletes id
  | .submitPlanningTurn params fresh => Accepts params fresh
  | .createRun request fresh => Creates fresh request
  | _ => fun _ _ ws => ∀ w ∈ ws, w.quiet

end Results

section Statements

variable {faults : Bool} {d d' : Db} {n n' : Nat}

theorem exec_error {o : Op} {e : SqlError} {ws : List Write} (run : exec faults o d n (.error e) ws n') :
    ws = [] ∧ (e = .other ∨ e = .uniqueViolation ∧
      ((∃ row, o = .insertRun row ∧ takenRun row d) ∨ ∃ row, o = .insertTurn row ∧ takenTurn row d)) := by
  have failed : ∀ {α : Type} {ws : List Write}, fails (α := α) (.error e) ws → ws = [] ∧ e = .other :=
    fun h => ⟨h.2, Except.error.inj h.1⟩
  cases o with
  | select | lockSession | lockRun | advisoryLock | touchSession =>
    obtain ⟨⟨_, -, h⟩ | ⟨-, h⟩, rfl, -⟩ := run
    · cases h
    · exact ⟨rfl, Or.inl (Except.error.inj h)⟩
  | insertSession =>
    obtain ⟨⟨_, _, _, -, -, -, -, h, -⟩ | h, -⟩ := run
    · cases h
    · exact ⟨(failed h).1, Or.inl (failed h).2⟩
  | deleteSession =>
    obtain ⟨⟨_, _, -, -, h, -⟩ | ⟨-, h, -⟩ | h, -⟩ := run
    · cases h
    · cases h
    · exact ⟨(failed h).1, Or.inl (failed h).2⟩
  | insertRun row =>
    obtain ⟨⟨_, -, -, -, h, -⟩ | ⟨taken, h, rfl⟩ | h, -⟩ := run
    · cases h
    · exact ⟨rfl, Or.inr ⟨Except.error.inj h, Or.inl ⟨row, rfl, taken⟩⟩⟩
    · exact ⟨(failed h).1, Or.inl (failed h).2⟩
  | updateRun =>
    obtain ⟨⟨_, _, -, -, -, -, -, h, -⟩ | ⟨-, h, -⟩ | h, -⟩ := run
    · cases h
    · cases h
    · exact ⟨(failed h).1, Or.inl (failed h).2⟩
  | insertTurn row =>
    obtain ⟨⟨_, -, -, -, h, -⟩ | ⟨taken, h, rfl⟩ | h, -⟩ := run
    · cases h
    · exact ⟨rfl, Or.inr ⟨Except.error.inj h, Or.inr ⟨row, rfl, taken⟩⟩⟩
    · exact ⟨(failed h).1, Or.inl (failed h).2⟩
  | insertMessage =>
    obtain ⟨⟨_, -, -, h, -⟩ | h, -⟩ := run
    · cases h
    · exact ⟨(failed h).1, Or.inl (failed h).2⟩
  | audit | chat | outbox =>
    obtain ⟨_, _, h, -⟩ | ⟨h, -⟩ := run
    · cases h
    · exact ⟨(failed h).1, Or.inl (failed h).2⟩
  | setRole | setDeleted =>
    obtain ⟨⟨h, -⟩ | h, -⟩ := run
    · cases h
    · exact ⟨(failed h).1, Or.inl (failed h).2⟩

theorem quiet_writes {o : Op} {r : Ret o} {ws : List Write} (quiet : o.quiet) (run : exec faults o d n r ws n') :
    ∀ w ∈ ws, w.quiet := by
  have none : ∀ {r : Ret o}, ¬ (fails r ws ∧ ∃ w, w ∈ ws) := fun h => absurd (h.1.2 ▸ h.2) (by simp)
  intro w mem
  cases o with
  | insertRun | deleteSession | insertTurn | insertMessage => exact quiet.elim
  | select | lockSession | lockRun | advisoryLock | touchSession => exact absurd (run.2.1 ▸ mem) List.not_mem_nil
  | insertSession =>
    obtain ⟨⟨_, _, _, -, -, -, -, -, rfl⟩ | failed, -⟩ := run
    · obtain rfl := List.mem_singleton.mp mem
      trivial
    · exact absurd ⟨failed, w, mem⟩ none
  | updateRun =>
    obtain ⟨⟨_, _, -, -, -, -, -, -, rfl⟩ | ⟨-, -, rfl⟩ | failed, -⟩ := run
    · obtain rfl := List.mem_singleton.mp mem
      trivial
    · cases mem
    · exact absurd ⟨failed, w, mem⟩ none
  | audit | chat | outbox =>
    obtain ⟨_, _, -, -, rfl⟩ | ⟨failed, -⟩ := run
    · obtain ⟨row, -, rfl⟩ := List.mem_map.mp mem
      trivial
    · exact absurd ⟨failed, w, mem⟩ none
  | setRole | setDeleted =>
    obtain ⟨⟨-, rfl⟩ | failed, -⟩ := run
    · obtain rfl := List.mem_singleton.mp mem
      trivial
    · exact absurd ⟨failed, w, mem⟩ none

end Statements

variable [Platform] {faults : Bool} {held held' : Set Key} {d d' : Db} {ws : List Write}
  {Q : Outcome → Set Key → List Write → Db → Prop}

section Between

theorem Between.session (h : Between faults held d d') {i : String} (locked : Key.session i ∈ held) :
    d.sessions i = d'.sessions i ∧ (runsOf i d).length = (runsOf i d').length := Part.session.inj (h.same _ locked)

structure Locked (run : RunRow) (held : Set Key) (d : Db) : Prop where
  locked : Key.session run.sessionId ∈ held
  opened : Opened run d

theorem Locked.later {run : RunRow} (h : Locked run held d) (between : Between faults held d d') (more : held ⊆ held') :
    Locked run held' d' := by
  refine ⟨more h.locked, ?_⟩
  have opened := h.opened
  unfold Opened at opened ⊢
  rwa [← (between.session h.locked).1]

theorem statement_leads {o : Op} {next : Answer o → Prog Ret Outcome}
    (fails : ∀ d' d'' held' e, held ⊆ held' → Between faults held d d' → Between faults held' d' d'' →
      (e = SqlError.other ∨ e = .uniqueViolation ∧
      ((∃ row, o = .insertRun row ∧ takenRun row ((engine faults).view ws d')) ∨
        ∃ row, o = .insertTurn row ∧ takenTurn row ((engine faults).view ws d'))) → Q (.failed e) held' ws d'')
    (h : ∀ d', Between faults held d d' → ∀ n a vs n', exec faults o ((engine faults).view ws d') n (.ok a) vs n' →
      (engine faults).LeadsUnder (Between faults) Q d' (held ∪ locks o ((engine faults).view ws d')) (ws ++ vs) (next a)) :
    (engine faults).LeadsUnder (Between faults) Q d held ws (statement o next) := by
  refine .orEnd (fun d' n e vs n' between run d'' between' => ?_) h
  obtain ⟨rfl, cause⟩ := exec_error run
  rw [List.append_nil]
  exact fails d' d'' _ e Set.subset_union_left between between' cause

theorem plain_leads {o : Op} {next : Answer o → Prog Ret Outcome} (plain : ∀ row, o ≠ .insertRun row)
    (other : ∀ row, o ≠ .insertTurn row) (lost : ∀ held d, Q (.failed .other) held ws d)
    (h : ∀ d', Between faults held d d' → ∀ n a vs n', exec faults o ((engine faults).view ws d') n (.ok a) vs n' →
      (engine faults).LeadsUnder (Between faults) Q d' (held ∪ locks o ((engine faults).view ws d')) (ws ++ vs) (next a)) :
    (engine faults).LeadsUnder (Between faults) Q d held ws (statement o next) := by
  refine statement_leads ?_ h
  rintro d' d'' held' e - - - (rfl | ⟨-, ⟨row, same, -⟩ | ⟨row, same, -⟩⟩)
  · exact lost held' d''
  · exact absurd same (plain row)
  · exact absurd same (other row)

theorem require_leads {q : Query} {holds : q.Answer → Bool} {refusal : Refusal} {next : Prog Ret Outcome}
    (lost : ∀ held d, Q (.failed .other) held [] d) (refused : ∀ held d, Q (.refused refusal) held [] d)
    (h : ∀ d held, (engine faults).LeadsUnder (Between faults) Q d held [] next) :
    (engine faults).LeadsUnder (Between faults) Q d held [] (require q holds refusal next) := by
  refine plain_leads nofun nofun lost fun d' _ n a vs n' run => ?_
  obtain ⟨-, rfl, -⟩ := run
  split
  · exact h _ _
  · exact fun _ _ => refused _ _

theorem record_leads {o : Op} {run : RunRow} {next : Answer o → Prog Ret Outcome}
    (record : ∀ {d n r vs n'}, exec faults o d n r vs n' → ∀ w ∈ vs, w.record) (plain : ∀ row, o ≠ .insertRun row)
    (other : ∀ row, o ≠ .insertTurn row) (lost : ∀ held ws d, Q (.failed .other) held ws d) (now : Locked run held d)
    (h : ∀ a d held vs, Locked run held d → (∀ w ∈ vs, w.record) →
      (engine faults).LeadsUnder (Between faults) Q d held (ws ++ vs) (next a)) :
    (engine faults).LeadsUnder (Between faults) Q d held ws (statement o next) :=
  plain_leads plain other (fun held d => lost held ws d) fun d' between _ a vs _ executed =>
    h a d' _ vs (now.later between Set.subset_union_left) (record executed)

theorem within_leads {Op' : Type} {Ret' : Op' → Type} {α : Type}
    {embed : (o : Op') → (Ret' o → Prog Ret Outcome) → Prog Ret Outcome} {run : RunRow}
    (embedded : ∀ o k d held ws, Locked run held d → (∀ a d held vs, Locked run held d → (∀ w ∈ vs, w.record) →
        (engine faults).LeadsUnder (Between faults) Q d held (ws ++ vs) (k a)) →
      (engine faults).LeadsUnder (Between faults) Q d held ws (embed o k))
    (p : Prog Ret' α) {next : α → Prog Ret Outcome}
    (h : ∀ a d held vs, Locked run held d → (∀ w ∈ vs, w.record) →
      (engine faults).LeadsUnder (Between faults) Q d held (ws ++ vs) (next a)) (now : Locked run held d) :
    (engine faults).LeadsUnder (Between faults) Q d held ws (p.within embed next) := by
  induction p generalizing d held ws with
  | pure a =>
    have rest := h a d held [] now fun _ mem => absurd mem List.not_mem_nil
    rwa [List.append_nil] at rest
  | op o k ih =>
    refine embedded o _ d held ws now ?_
    intro a d held vs now recorded
    refine ih a ?_ now
    intro b d held vs' now recorded'
    rw [List.append_assoc]
    exact h b d held (vs ++ vs') now fun w hw => (List.mem_append.mp hw).elim (recorded w) (recorded' w)

variable {α : Type} {run : RunRow} {next : α → Prog Ret Outcome}

theorem audited_leads (lost : ∀ held ws d, Q (.failed .other) held ws d) (p : Prog Audit.Ret α)
    (h : ∀ a d held vs, Locked run held d → (∀ w ∈ vs, w.record) →
      (engine faults).LeadsUnder (Between faults) Q d held (ws ++ vs) (next a)) (now : Locked run held d) :
    (engine faults).LeadsUnder (Between faults) Q d held ws (audited p next) := by
  refine within_leads (fun o k d held ws now rest => ?_) p h now
  refine record_leads (o := .audit o) (fun executed w mem => ?_) nofun nofun lost now rest
  obtain ⟨_, _, -, -, rfl⟩ | ⟨⟨-, rfl⟩, -⟩ := executed
  · obtain ⟨row, -, rfl⟩ := List.mem_map.mp mem
    trivial
  · cases mem

theorem chatted_leads (lost : ∀ held ws d, Q (.failed .other) held ws d) (p : Prog Events.Chat.Ret α)
    (h : ∀ a d held vs, Locked run held d → (∀ w ∈ vs, w.record) →
      (engine faults).LeadsUnder (Between faults) Q d held (ws ++ vs) (next a)) (now : Locked run held d) :
    (engine faults).LeadsUnder (Between faults) Q d held ws (chatted p next) := by
  refine within_leads (fun o k d held ws now rest => ?_) p h now
  refine record_leads (o := .chat o) (fun executed w mem => ?_) nofun nofun lost now rest
  obtain ⟨_, _, -, -, rfl⟩ | ⟨⟨-, rfl⟩, -⟩ := executed
  · obtain ⟨row, -, rfl⟩ := List.mem_map.mp mem
    trivial
  · cases mem

theorem published_leads (lost : ∀ held ws d, Q (.failed .other) held ws d) (p : Prog Events.Sse.Ret α)
    (h : ∀ a d held vs, Locked run held d → (∀ w ∈ vs, w.record) →
      (engine faults).LeadsUnder (Between faults) Q d held (ws ++ vs) (next a)) (now : Locked run held d) :
    (engine faults).LeadsUnder (Between faults) Q d held ws (published p next) := by
  refine within_leads (fun o k d held ws now rest => ?_) p h now
  refine record_leads (o := .outbox o) (fun executed w mem => ?_) nofun nofun lost now rest
  obtain ⟨_, _, -, -, rfl⟩ | ⟨⟨-, rfl⟩, -⟩ := executed
  · obtain ⟨row, -, rfl⟩ := List.mem_map.mp mem
    trivial
  · cases mem

end Between

section Creations

omit [Platform] in
theorem takenRun_grows {row : RunInsertion} (taken : takenRun row d) (grown : Grows d d') : takenRun row d' := by
  obtain ⟨inserted, hi, r, hr, e, he, mem⟩ := taken
  obtain ⟨r', hr', evolves⟩ := grown.mem hr
  refine ⟨inserted, hi, r', hr', e, ?_, mem⟩
  rw [evolves.same]
  exact he

theorem turns_recorded {run : RunRow} {vs : List Write} (recorded : ∀ w ∈ vs, w.record) (d : Db) :
    ((engine faults).view (.run run :: vs) d).turns = d.turns := by
  rw [Engine.view_cons]
  change ((engine faults).view vs (apply (.run run) d)).turns = (apply (.run run) d).turns
  generalize apply (.run run) d = d
  induction vs generalizing d with
  | nil => rfl
  | cons w vs ih =>
    refine (ih (fun v hv => recorded v (List.mem_cons_of_mem w hv)) (apply w d)).trans ?_
    have own := recorded w List.mem_cons_self
    cases w with
    | audit | chat | outbox => rfl
    | role | workspace | openSession | deleteSession | run | advance | turn | message => exact own.elim

omit [Platform] in
theorem runByKey_mem {key : String} {run : RunRow} (h : Query.answer d (.runByKey key) = some (some run)) :
    run ∈ d.runs ∧ textIn key = some run.idempotencyKey := by
  simp only [Query.answer, Option.bind_eq_bind, Option.bind_eq_some_iff, Option.some.injEq] at h
  obtain ⟨k, text, found⟩ := h
  have own := List.find?_some found
  exact ⟨List.mem_of_find?_eq_some found, text.trans (congrArg some (beq_iff_eq.mp own).symm)⟩

omit [Platform] in
theorem turnByKey_mem {params : ChatPersistenceService.PlanningTurn} {turn : TurnRow}
    (h : Query.answer d (.turnByKey params.workspaceId params.userId params.idempotencyKey) = some (some turn)) :
    turn ∈ d.turns ∧ turnAt params turn := by
  simp only [Query.answer, Option.bind_eq_bind, Option.bind_eq_some_iff, Option.some.injEq] at h
  obtain ⟨w, workspace, u, user, k, text, found⟩ := h
  have own := List.find?_some found
  simp only [Bool.and_eq_true, beq_iff_eq] at own
  obtain ⟨⟨rfl, rfl⟩, rfl⟩ := own
  exact ⟨List.mem_of_find?_eq_some found, workspace, user, text⟩

omit [Platform] in
theorem locked_session {insertion : RunInsertion} {s : SessionRow} {inserted : RunRow}
    (owned : ownSession d insertion.sessionId insertion.workspaceId insertion.requesterId = some (some s))
    (hi : insertedRun insertion = some inserted)
    (more : locks (.lockSession insertion.sessionId insertion.workspaceId insertion.requesterId) d ⊆ held) :
    Locked inserted held d := by
  have fields := insertedRun_fields hi
  refine ⟨more ⟨inserted.sessionId, fields.session, ⟨s, owned⟩, rfl⟩, s, ?_⟩
  unfold ownSession at owned
  simp only [fields.session, fields.workspace, fields.requester, Option.bind_eq_bind, Option.bind_some,
    Option.some.injEq] at owned
  obtain ⟨found, own⟩ := Option.filter_eq_some_iff.mp owned
  simp only [Bool.and_eq_true, beq_iff_eq] at own
  exact ⟨found, own.1.1, own.1.2, own.2⟩

theorem locked_leads (insertion : RunInsertion) {refusal : Refusal} {next : RunRow → Prog Ret Outcome}
    {rest : Option SessionRow → Prog Ret Outcome} (absent : rest none = .pure (.refused refusal))
    (present : ∀ s, rest (some s) = statement (.insertRun insertion) next)
    (lost : ∀ held d, Q (.failed .other) held [] d) (refused : ∀ held d, Q (.refused refusal) held [] d)
    (taken : ∀ held d, takenRun insertion d → Q (.failed .uniqueViolation) held [] d)
    (h : ∀ d held run, insertedRun insertion = some run → Locked run held d →
      (engine faults).LeadsUnder (Between faults) Q d held [.run run] (next run)) :
    (engine faults).LeadsUnder (Between faults) Q d held []
      (statement (.lockSession insertion.sessionId insertion.workspaceId insertion.requesterId) rest) := by
  refine plain_leads nofun nofun lost fun d₁ _ n₁ owned vs n₁' executed => ?_
  obtain ⟨answer, rfl, -⟩ := executed
  cases owned with
  | none =>
    rw [absent]
    exact fun _ _ => refused _ _
  | some s =>
    rw [present, List.append_nil]
    refine statement_leads ?_ fun d₂ between n₂ run vs n₂' executed => ?_
    · rintro d₂ d₃ held' e - - between (rfl | ⟨rfl, ⟨row, same, obstructed⟩ | ⟨row, same, -⟩⟩)
      · exact lost held' d₃
      · cases same
        exact taken held' d₃ (takenRun_grows obstructed between.grown)
      · cases same
    · obtain ⟨⟨inserted, hi, -, -, same, rfl⟩ | ⟨-, same, -⟩ | ⟨same, -⟩, -⟩ := executed
      · obtain rfl := Except.ok.inj same
        have locked := locked_session (answers_ok answer) hi (Set.subset_union_right (s := held))
        exact h d₂ _ run hi (locked.later between Set.subset_union_left)
      · cases same
      · cases same

variable {params : ChatPersistenceService.PlanningTurn} {fresh : ChatPersistenceService.Fresh}
  {request : RunsService.CreateRun}

theorem createRun_leads : (engine faults).LeadsUnder (Between faults) (fun o _ ws d => Creates fresh request o d ws) d ∅ []
    (RunsService.createRun request fresh) := by
  refine require_leads (fun _ _ => .lost) (fun _ _ => .refused nofun) fun d held => ?_
  refine require_leads (fun _ _ => .lost) (fun _ _ => .refused nofun) fun d held => ?_
  refine plain_leads nofun nofun (fun _ _ => .lost) fun d₁ _ n₁ _ vs n₁' executed => ?_
  obtain ⟨-, rfl, -⟩ := executed
  refine plain_leads nofun nofun (fun _ _ => .lost) fun d₂ _ n₂ found vs n₂' executed => ?_
  obtain ⟨answer, rfl, -⟩ := executed
  cases found with
  | some run =>
    obtain ⟨mem, key⟩ := runByKey_mem (answers_ok answer)
    intro d₃ between
    obtain ⟨run', mem', evolves⟩ := between.grown.mem mem
    exact .existing mem' evolves key
  | none =>
    change (engine faults).LeadsUnder _ _ _ _ _ (RunsService.insertRun request fresh)
    unfold RunsService.insertRun
    refine locked_leads (RunsService.runInsertion request fresh) rfl (fun _ => rfl) (fun _ _ => .lost)
      (fun _ _ => .refused nofun) (fun _ _ => .obstructed) fun d₃ held run hi locked => ?_
    refine audited_leads (fun _ _ _ => .lost) _ (fun _ d₄ held vs locked recorded => ?_) locked
    refine published_leads (fun _ _ _ => .lost) _ (fun _ d₅ held vs' locked recorded' => ?_) locked
    intro d₆ between
    refine .created hi (locked.later between (Set.Subset.refl _)).opened fun w mem => ?_
    exact (List.mem_append.mp mem).elim (recorded w) (recorded' w)

theorem acceptTurn_leads {run : RunRow} {turn : TurnRow} {vs : List Write}
    (inserted : insertedRun (ChatPersistenceService.runInsertion params fresh) = some run)
    (turned : insertedTurn (ChatPersistenceService.turnInsertion params fresh run.id) = some turn)
    (recorded : ∀ w ∈ vs, w.record) (locked : Locked run held d) :
    (engine faults).LeadsUnder (Between faults) (fun o _ ws d => Accepts params fresh o d ws) d held
      (Write.run run :: vs ++ [Write.turn turn]) (ChatPersistenceService.acceptTurn params run turn) := by
  refine plain_leads nofun nofun (fun _ _ => .lost) fun d₁ between n₁ _ ws n₁' executed => ?_
  obtain ⟨⟨message, said, -, -, rfl⟩ | ⟨same, -⟩, -⟩ := executed
  · refine chatted_leads (fun _ _ _ => .lost) _ (fun _ d₂ held₂ vs' locked₂ recorded' => ?_)
      (locked.later between Set.subset_union_left)
    refine plain_leads nofun nofun (fun _ _ => .lost) fun d₃ between₃ n₃ _ ws n₃' executed => ?_
    obtain ⟨-, rfl, -⟩ := executed
    intro d₄ between₄
    have grown := (locked₂.later between₃ Set.subset_union_left).later between₄ (Set.Subset.refl _)
    have accepted := Accepts.accepted inserted turned said grown.opened recorded recorded'
    simpa using accepted
  · cases same

theorem insertPlanningRun_leads {run : RunRow}
    (inserted : insertedRun (ChatPersistenceService.runInsertion params fresh) = some run) {vs : List Write}
    (recorded : ∀ w ∈ vs, w.record) (locked : Locked run held d) :
    (engine faults).LeadsUnder (Between faults) (fun o _ ws d => Accepts params fresh o d ws) d held (.run run :: vs)
      (ChatPersistenceService.insertTurn params fresh run) := by
  refine statement_leads ?_ fun d₁ between n₁ turn ws n₁' executed => ?_
  · rintro d₁ d₂ held' e more between between' (rfl | ⟨rfl, ⟨row, same, -⟩ | ⟨row, same, taken⟩⟩)
    · exact .lost
    · cases same
    · cases same
      obtain ⟨turn, turned, other, mem, rest⟩ := taken
      rw [turns_recorded recorded] at mem
      exact .obstructedTurn inserted ((locked.later between more).later between' (Set.Subset.refl _)).opened
        ⟨turn, turned, other, between'.grown.turns.subset mem, rest⟩
  · obtain ⟨⟨turn, turned, -, -, same, rfl⟩ | ⟨-, same, -⟩ | ⟨same, -⟩, -⟩ := executed
    · obtain rfl := Except.ok.inj same
      exact acceptTurn_leads inserted turned recorded (locked.later between Set.subset_union_left)
    · cases same
    · cases same

theorem submitPlanningTurn_leads : (engine faults).LeadsUnder (Between faults) (fun o _ ws d => Accepts params fresh o d ws)
    d ∅ [] (ChatPersistenceService.submitPlanningTurn params fresh) := by
  refine require_leads (fun _ _ => .lost) (fun _ _ => .refused nofun) fun d held => ?_
  refine require_leads (fun _ _ => .lost) (fun _ _ => .refused nofun) fun d held => ?_
  refine plain_leads nofun nofun (fun _ _ => .lost) fun d₁ _ n₁ _ vs n₁' executed => ?_
  obtain ⟨-, rfl, -⟩ := executed
  refine plain_leads nofun nofun (fun _ _ => .lost) fun d₂ _ n₂ found vs n₂' executed => ?_
  obtain ⟨answer, rfl, -⟩ := executed
  cases found with
  | some turn =>
    obtain ⟨mem, own⟩ := turnByKey_mem (answers_ok answer)
    exact fun d₃ between => .replayed (between.grown.turns.subset mem) own
  | none =>
    refine locked_leads (ChatPersistenceService.runInsertion params fresh) rfl (fun _ => rfl)
      (fun _ _ => .lost) (fun _ _ => .refused nofun) (fun _ _ => .obstructed) fun d₃ held run inserted locked => ?_
    refine audited_leads (fun _ _ _ => .lost) _ (fun _ d₄ held vs locked recorded => ?_) locked
    exact insertPlanningRun_leads inserted recorded locked

end Creations

section Deletion

theorem Between.ended {sessionId workspaceId : String} (h : Between faults held d d')
    (locked : Key.session sessionId ∈ held) (ended : Ended sessionId workspaceId d) : Ended sessionId workspaceId d' := by
  obtain ⟨evolved, more, pairs, added⟩ := h.grown.split
  have count := (h.session locked).2
  have kept : evolved.countP (fun r => r.sessionId == sessionId) = d.runs.countP fun r => r.sessionId == sessionId :=
    countP_forall₂ pairs fun r r' evolves => by rw [evolves.same]
  have none : more.countP (fun r => r.sessionId == sessionId) = 0 := by
    unfold runsOf at count
    rw [added, ← List.countP_eq_length_filter, ← List.countP_eq_length_filter, List.countP_append] at count
    omega
  intro r' mem session workspace
  rw [added] at mem
  rcases List.mem_append.mp mem with mem | mem
  · obtain ⟨r, mem', evolves⟩ := exists_of_forall₂_right pairs mem
    rw [evolves.same] at session workspace
    have terminal := ended r mem' session workspace
    rwa [evolves.ended terminal]
  · exact absurd (beq_iff_eq.mpr session) (List.countP_eq_zero.mp none r' mem)

structure Emptied (i : String) (s : SessionRow) (held : Set Key) (d : Db) : Prop where
  locked : Key.session i ∈ held
  found : d.sessions i = some s
  ended : Ended i s.workspaceId d

theorem Emptied.later {i : String} {s : SessionRow} (h : Emptied i s held d) (between : Between faults held d d')
    (more : held ⊆ held') : Emptied i s held' d' :=
  ⟨more h.locked, (between.session h.locked).1.symm.trans h.found, between.ended h.locked h.ended⟩

omit [Platform] in
theorem ended_of_liveRuns {id workspaceId sessionId workspace : String} (session : uuidIn id = some sessionId)
    (own : uuidIn workspaceId = some workspace) (h : Query.answer d (.liveRuns id workspaceId) = some []) :
    Ended sessionId workspace d := by
  simp only [Query.answer, session, own, Option.bind_eq_bind, Option.bind_some, Option.some.injEq] at h
  intro r mem same same'
  have none := List.filter_eq_nil_iff.mp (List.map_eq_nil_iff.mp h) r mem
  simpa [same, same'] using none

theorem deleteSession_leads {id workspaceId userId : String} : (engine faults).LeadsUnder (Between faults)
    (fun o _ ws d => Deletes id o d ws) d ∅ [] (ChatPersistenceService.deleteSession id workspaceId userId) := by
  refine plain_leads nofun nofun (fun _ _ => .kept rfl) fun d₁ _ n₁ owned vs n₁' executed => ?_
  obtain ⟨answer, rfl, -⟩ := executed
  cases owned with
  | none => exact fun _ _ => .kept rfl
  | some s =>
    have owned := answers_ok answer
    obtain ⟨i, session, w, workspace, u, -, filtered⟩ : ∃ i, uuidIn id = some i ∧ ∃ w, uuidIn workspaceId = some w ∧
        ∃ u, uuidIn userId = some u ∧ ownedSession d₁ i w u = some s := by
      simpa [ownSession, Option.bind_eq_some_iff] using owned
    obtain ⟨found, own⟩ := Option.filter_eq_some_iff.mp filtered
    simp only [Bool.and_eq_true, beq_iff_eq] at own
    have locked : Key.session i ∈ ∅ ∪ locks (.lockSession id workspaceId userId) d₁ :=
      Or.inr ⟨i, session, ⟨s, owned⟩, rfl⟩
    refine plain_leads nofun nofun (fun _ _ => .kept rfl) fun d₂ between n₂ runs vs n₂' executed => ?_
    obtain ⟨answer, rfl, -⟩ := executed
    split
    · rename_i none
      subst none
      have ended := ended_of_liveRuns session workspace (answers_ok answer)
      rw [← own.1.1] at ended
      have emptied : Emptied i s (∅ ∪ locks (.lockSession id workspaceId userId) d₁ ∪
          locks (.select (.liveRuns id workspaceId)) d₂) d₂ :=
        ⟨Or.inl locked, (between.session locked).1.symm.trans found, ended⟩
      refine plain_leads nofun nofun (fun _ _ => .kept rfl) fun d₃ between₃ n₃ deleted vs n₃' executed => ?_
      obtain ⟨⟨i', row, session', -, same, rfl⟩ | ⟨-, same, rfl⟩ | ⟨same, -⟩, -⟩ := executed
      · obtain rfl := Except.ok.inj same
        obtain rfl := Option.some.inj (session.symm.trans session')
        intro d₄ between₄
        have still := (emptied.later between₃ Set.subset_union_left).later between₄ (Set.Subset.refl _)
        exact .deleted session still.found still.ended
      · obtain rfl := Except.ok.inj same
        exact fun _ _ => .kept rfl
      · cases same
    · exact fun _ _ => .kept rfl

end Deletion

theorem program_leads (c : Call) (d : Db) :
    (engine faults).LeadsUnder (Between faults) (fun o _ ws d => Told c o d ws) d ∅ [] (program c) := by
  have quiet : ∀ {p : Prog Ret Outcome}, p.All Op.quiet →
      (engine faults).LeadsUnder (Between faults) (fun _ _ ws _ => ∀ w ∈ ws, w.quiet) d ∅ [] p := fun all =>
    .of_all quiet_writes all (fun _ mem => absurd mem List.not_mem_nil) d ∅
  cases c with
  | createSession id workspaceId userId => exact quiet (createSession_quiet id workspaceId userId)
  | deleteSession id workspaceId userId => exact deleteSession_leads
  | submitPlanningTurn params fresh => exact submitPlanningTurn_leads
  | fallback params error => exact quiet (fallback_quiet params error)
  | createRun request fresh => exact createRun_leads
  | mutate m => exact quiet (mutate_quiet m)
  | transition t => exact quiet (transition_quiet t)
  | other deed => cases deed <;> exact quiet (all_statement trivial fun _ => trivial)

end Provisr.Orchestrator.Sessions
