import Provisr.Orchestrator.StoredAnswers

namespace Provisr.Orchestrator

open Provisr.Foundation RunsService

section Attempts

def RunsService.ClarifyRunDto.key (dto : ClarifyRunDto) : Option String :=
  dto.idempotencyKey.filter (· ≠ "")

-- What an attempt asks next, by the last reply it got. With a row that has its key it asks for nothing.
def asksNext (id workspaceId actorId : String) (dto : ClarifyRunDto) : Option (Obs Ret) → Op → Prop
  | none, o => o = .membership workspaceId actorId
  | some ⟨.membership _ _, r⟩, o => (r : Reply Bool) = .ok true ∧ o = .selectRun id workspaceId
  | some ⟨.selectRun _ _, r⟩, o => (∃ row, (r : Reply (Option ProvisioningRun)) = .ok (some row) ∧
      ∀ key, dto.key = some key → findEntry row key = none) ∧ o = .dateNow
  | some ⟨.dateNow, _⟩, o => ∃ version actor operation, o = .mutate id workspaceId version actor operation
  | some ⟨.mutate _ _ _ _ _, r⟩, o => (∃ e, (r : Reply ProvisioningRun) = .error e ∧ e.isConflict = true) ∧
      o = .membership workspaceId actorId
  | _, _ => False

def unrecordedAt (id workspaceId : String) (dto : ClarifyRunDto) (seen : Seen) : Op → Prop
  | .mutate id' workspaceId' version _ _ => id' = id ∧ workspaceId' = workspaceId ∧
      ∃ run, Snapshot seen run ∧ run.id = id ∧ run.stateVersion = version ∧
        ∀ key, dto.key = some key → findEntry run key = none
  | _ => True

def answering (id workspaceId actorId : String) (dto : ClarifyRunDto) (seen : Seen) (o : Op) : Prop :=
  asksNext id workspaceId actorId dto seen.getLast? o ∧ unrecordedAt id workspaceId dto seen o

-- The attempt read its clock after the question it had read expired.
def Late (seen : Seen) : Prop :=
  ∃ row now expiresAt, Snapshot seen row ∧ (⟨.dateNow, now⟩ : Obs Ret) ∈ seen ∧
    row.clarificationExpiresAt = some expiresAt ∧ expiresAt ≤ now

def Accepted (question : ClarificationQuestion) (given : Option JsJson) : Prop :=
  ∃ answers, validateAnswers question given = .ok answers ∧
    JsText.length (agentInputText question answers) ≤ maxAgentInput

-- The question the attempt had read does not take its answers.
def Unaccepted (dto : ClarifyRunDto) (seen : Seen) : Prop :=
  ∃ row question, Snapshot seen row ∧ row.currentQuestion = some question ∧ ¬ Accepted question dto.answers

def membershipRequired : ServiceError := .forbidden "Workspace membership required"

-- What an attempt returns, by the last reply it got.
def EndedBy (dto : ClarifyRunDto) (seen : Seen) : Obs Ret → Reply ProvisioningRun → Prop
  | ⟨.membership _ _, r⟩, out => match (r : Reply Bool) with
    | .ok true => False
    | .ok false => out = .error membershipRequired
    | .error e => out = .error e
  | ⟨.selectRun _ _, r⟩, out => match (r : Reply (Option ProvisioningRun)) with
    | .ok (some row) => ∀ key entry, dto.key = some key → findEntry row key = some entry →
        out = replay entry dto.answers row
    | .ok none => ∃ e, out = .error e
    | .error e => out = .error e
  | ⟨.dateNow, _⟩, out => Unaccepted dto seen ∧ ∃ e, out = .error e
  | ⟨.mutate _ _ _ _ _, r⟩, out => match (r : Reply ProvisioningRun) with
    | .ok _ => True
    | .error e => out = .error e ∧ (e.isConflict = true → dto.key.isSome = true → Late seen)
  | _, _ => False

def Ended (dto : ClarifyRunDto) (seen : Seen) (out : Reply ProvisioningRun) : Prop :=
  ∃ before x, seen = before ++ [x] ∧ EndedBy dto before x out

variable {id workspaceId actorId : String} {dto : ClarifyRunDto} {seen : Seen}

theorem Ended.last {x : Obs Ret} {out : Reply ProvisioningRun} (h : Ended dto (seen ++ [x]) out) :
    EndedBy dto seen x out := by
  obtain ⟨before, y, heq, h⟩ := h
  obtain ⟨rfl, hy⟩ := List.append_inj' heq rfl
  obtain rfl := (List.cons.inj hy).1
  exact h

theorem answering_next {o : Op} {x : Obs Ret} (h : answering id workspaceId actorId dto (seen ++ [x]) o) :
    asksNext id workspaceId actorId dto (some x) o := by
  have next := h.1
  rwa [List.getLast?_concat] at next

theorem answering_of_next {o : Op} {x : Obs Ret} (next : asksNext id workspaceId actorId dto (some x) o)
    (unrecorded : unrecordedAt id workspaceId dto (seen ++ [x]) o) :
    answering id workspaceId actorId dto (seen ++ [x]) o := by
  refine ⟨?_, unrecorded⟩
  rwa [List.getLast?_concat]

theorem asksNext_cases {last : Option (Obs Ret)} {o : Op} (h : asksNext id workspaceId actorId dto last o) :
    o = .membership workspaceId actorId ∨ o = .selectRun id workspaceId ∨ o = .dateNow ∨
      ∃ version actor operation, o = .mutate id workspaceId version actor operation := by
  unfold asksNext at h
  split at h
  · exact .inl h
  · exact .inr (.inl h.2)
  · exact .inr (.inr (.inl h.2))
  · exact .inr (.inr (.inr h))
  · exact .inl h.2
  · exact h.elim

theorem read_ended {before : Seen} {row : ProvisioningRun} {out : Reply ProvisioningRun}
    (h : ∀ key entry, dto.key = some key → findEntry row key = some entry →
      out = replay entry dto.answers row) :
    Ended dto (before ++ [⟨.selectRun id workspaceId, .ok (some row)⟩]) out :=
  ⟨before, _, rfl, h⟩

theorem getRun_ended {Q : Seen → ProvisioningRun → Prop}
    (asks : asksNext id workspaceId actorId dto seen.getLast? (.membership workspaceId actorId))
    (read : ∀ before row, row.id = id →
      Q (before ++ [⟨.selectRun id workspaceId, .ok (some row)⟩]) row) :
    Async.wp (answering id workspaceId actorId dto) granted (getRun id workspaceId (some actorId)) Q
      (fun s e => Ended dto s (.error e)) seen := by
  unfold getRun assertMembership
  rw [Async.wp_bind, Async.wp_bind]
  refine (Async.wp_attempt _ _).mpr ⟨⟨asks, trivial⟩, ?_⟩
  intro member _
  match member with
  | .error e => exact ⟨seen, _, rfl, rfl⟩
  | .ok false => exact ⟨seen, _, rfl, rfl⟩
  | .ok true =>
    refine (Async.wp_bind _ _).mpr ((Async.wp_attempt _ _).mpr ⟨answering_of_next ⟨rfl, rfl⟩ trivial, ?_⟩)
    intro r hr
    match r with
    | .error e => exact ⟨_, _, rfl, rfl⟩
    | .ok none => exact ⟨_, _, rfl, _, rfl⟩
    | .ok (some row) => exact read _ row (hr row rfl).1

theorem replay_ended {before : Seen} {row : ProvisioningRun} {entry : AnswerEntry}
    (h : dto.key.bind (findEntry row) = some entry) :
    Async.outcome (fun s r => Ended dto s (.ok r)) (fun s e => Ended dto s (.error e))
      (before ++ [⟨.selectRun id workspaceId, .ok (some row)⟩]) (replay entry dto.answers row) := by
  have same : ∀ key e, dto.key = some key → findEntry row key = some e →
      replay entry dto.answers row = replay e dto.answers row := by
    intro key e hk he
    rw [hk, Option.bind_some, he] at h
    rw [Option.some.inj h]
  cases hr : replay entry dto.answers row with
  | ok r => exact read_ended fun key e hk he => hr.symm.trans (same key e hk he)
  | error err => exact read_ended fun key e hk he => hr.symm.trans (same key e hk he)

theorem clarifyRun_ended :
    Async.wp (answering id workspaceId actorId dto) granted (clarifyRun id workspaceId actorId dto)
      (fun s row => Ended dto s (.ok row)) (fun s e => Ended dto s (.error e)) [] := by
  unfold clarifyRun
  rw [Async.wp_bind]
  refine getRun_ended rfl ?_
  intro before run hid
  have snap : Snapshot (before ++ [⟨.selectRun id workspaceId, .ok (some run)⟩]) run := snapshot_last rfl
  dsimp only
  split
  · rename_i entry found
    exact (Async.wp_ofExcept _).mpr (replay_ended found)
  · rename_i unrecorded
    have absent : ∀ key, dto.key = some key → findEntry run key = none := by
      intro key hk
      simpa [ClarifyRunDto.key] using (congrArg (Option.bind · (findEntry run)) hk).symm.trans unrecorded
    split
    · rename_i question expiresAt _ asked expires
      rw [Async.wp_bind]
      refine (Async.wp_ask _).mpr ⟨answering_of_next ⟨⟨run, rfl, absent⟩, rfl⟩ trivial, ?_⟩
      intro now _
      generalize before ++ [(⟨.selectRun id workspaceId, .ok (some run)⟩ : Obs Ret)] = s at snap
      have hp : s <+: s ++ [(⟨.dateNow, now⟩ : Obs Ret)] := List.prefix_append _ _
      have own : ∀ actor operation, answering id workspaceId actorId dto (s ++ [⟨.dateNow, now⟩])
          (.mutate id workspaceId run.stateVersion actor operation) := fun _ _ =>
        answering_of_next ⟨_, _, _, rfl⟩ ⟨rfl, rfl, run, snap.mono hp, hid, rfl, absent⟩
      by_cases late : expiresAt ≤ now
      · rw [if_pos late, Async.wp_bind]
        have hlate : Late (s ++ [⟨.dateNow, now⟩]) :=
          ⟨run, now, expiresAt, snap.mono hp, by simp, expires, late⟩
        refine (Async.wp_attempt _ _).mpr ⟨own _ _, ?_⟩
        intro r _
        match r with
        | .ok row => exact ⟨_, _, rfl, trivial⟩
        | .error e => exact ⟨_, _, rfl, rfl, fun _ _ => hlate⟩
      · rw [if_neg late]
        have refused : ∀ e, ¬ Accepted question dto.answers → Ended dto (s ++ [⟨.dateNow, now⟩]) (.error e) :=
          fun e unaccepted => ⟨s, _, rfl, ⟨run, question, snap, asked, unaccepted⟩, e, rfl⟩
        split
        · rename_i invalid
          refine refused _ fun ⟨answers, valid, _⟩ => ?_
          rw [invalid] at valid
          cases valid
        · rename_i answers valid
          -- The text is opaque here: its length is not to be computed.
          generalize hinput : agentInputText question answers = input
          by_cases large : maxAgentInput < JsText.length input
          · rw [if_pos large]
            refine refused _ fun ⟨answers', valid', fits⟩ => ?_
            obtain rfl := Except.ok.inj (valid.symm.trans valid')
            rw [hinput] at fits
            exact absurd large (not_lt.mpr fits)
          · rw [if_neg large, Async.wp_handle]
            refine (Async.wp_attempt _ _).mpr ⟨own _ _, ?_⟩
            intro r _
            match r with
            | .ok row => exact ⟨_, _, rfl, trivial⟩
            | .error e =>
              refine (Async.outcome_error e).mpr ?_
              split
              · rename_i key conflict hkey
                have hkey : dto.key = some key := hkey
                rw [Async.wp_bind]
                refine getRun_ended ?_ ?_
                · rw [List.getLast?_concat]
                  exact ⟨⟨e, rfl, conflict⟩, rfl⟩
                intro before latest _
                split
                · rename_i hnone
                  refine read_ended fun key' entry hk' he => ?_
                  obtain rfl := Option.some.inj (hkey.symm.trans hk')
                  rw [hnone] at he
                  cases he
                · rename_i entry hsome
                  refine (Async.wp_ofExcept _).mpr (replay_ended ?_)
                  rw [hkey, Option.bind_some, hsome]
              · rename_i hnot
                refine ⟨_, _, rfl, rfl, fun hc hk => ?_⟩
                obtain ⟨key, hk⟩ := Option.isSome_iff_exists.mp hk
                exact (hnot key hc hk).elim
    · exact read_ended fun key entry hk he => absurd (absent key hk) (by simp [he])

end Attempts

section Replay

def Call.owes : Call → Seen → Op → Prop
  | .clarifyRun id workspaceId actorId dto => answering id workspaceId actorId dto
  | _ => fun _ _ => True

def Call.ends : Call → Seen → Outcome → Prop
  | .clarifyRun _ _ _ dto => fun seen out => ∃ result, out = result.map some ∧ Ended dto seen result
  | _ => fun _ _ => True

variable {Ext : Type}

-- All that may become of an attempt at a reply, where the row of its run has the entry of its key: it goes on until it
-- reads the row, and ends there with what the entry answers.
inductive Onward (r : ProvisioningRun) (e : AnswerEntry) (actorId : String) (dto : ClarifyRunDto) (seen : Seen) :
    (o : Op) → Ret o → Prog Ret Outcome → Prop
  | admitted (k : Reply (Option ProvisioningRun) → Prog Ret Outcome) :
      Onward r e actorId dto seen (.membership r.workspaceId actorId) (Except.ok true : Reply Bool)
        (.op (.selectRun r.id r.workspaceId) k)
  | removed : Onward r e actorId dto seen (.membership r.workspaceId actorId) (Except.ok false : Reply Bool)
      (.pure (.error membershipRequired))
  | answered (out : Outcome)
      (same : SameAnswers e dto.answers → (out = .ok (some r) ↔ JsonbOrdered e.question))
      (different : ¬ SameAnswers e dto.answers → out = .error usedForDifferentAnswers) :
      Onward r e actorId dto seen (.selectRun r.id r.workspaceId)
        (Except.ok (some r) : Reply (Option ProvisioningRun)) (.pure out)
  | tries (now : Date) (version : Nat) (actor : String) (operation : Operation)
      (k : Reply ProvisioningRun → Prog Ret Outcome) :
      Onward r e actorId dto seen .dateNow now (.op (.mutate r.id r.workspaceId version actor operation) k)
  | unaccepted (now : Date) (error : ServiceError) (refuses : Unaccepted dto seen) :
      Onward r e actorId dto seen .dateNow now (.pure (.error error))
  | beaten (version : Nat) (actor : String) (operation : Operation) (error : ServiceError)
      (k : Reply Bool → Prog Ret Outcome) :
      Onward r e actorId dto seen (.mutate r.id r.workspaceId version actor operation)
        (Except.error error : Reply ProvisioningRun) (.op (.membership r.workspaceId actorId) k)
  | late (version : Nat) (actor : String) (operation : Operation) (error : ServiceError) (expired : Late seen) :
      Onward r e actorId dto seen (.mutate r.id r.workspaceId version actor operation)
        (Except.error error : Reply ProvisioningRun) (.pure (.error error))
  | unread : Onward r e actorId dto seen (.membership r.workspaceId actorId)
      (Except.error .infrastructure : Reply Bool) (.pure (.error .infrastructure))
  | unselected : Onward r e actorId dto seen (.selectRun r.id r.workspaceId)
      (Except.error .infrastructure : Reply (Option ProvisioningRun)) (.pure (.error .infrastructure))
  | unmutated (version : Nat) (actor : String) (operation : Operation) :
      Onward r e actorId dto seen (.mutate r.id r.workspaceId version actor operation)
        (Except.error .infrastructure : Reply ProvisioningRun) (.pure (.error .infrastructure))

variable [Platform] [ComponentRegistry] {svc : Services Ext} {clients : Option PlanningConfig}
  {contract : Contract svc} {w w' : World Ext}

theorem call_ends (call : Call) :
    ((call.action clients).run).wp call.owes granted call.ends [] := by
  cases call with
  | clarifyRun id ws actor dto =>
    have ended : Async.wp (answering id ws actor dto) granted (some <$> clarifyRun id ws actor dto)
        (fun s out => ∃ row, out = some row ∧ Ended dto s (.ok row))
        (fun s e => Ended dto s (.error e)) [] := by
      rw [Async.wp_map]
      exact Async.wp_mono clarifyRun_ended (fun _ row _ h => ⟨row, rfl, h⟩) (fun _ _ _ h => h)
    refine Prog.wp_mono ended ?_
    intro s out _ h
    cases out with
    | error e => exact ⟨.error e, rfl, h⟩
    | ok out =>
      obtain ⟨row, rfl, h⟩ := h
      exact ⟨.ok row, rfl, h⟩
  | _ => exact Prog.wp_trivial _ _

def clarifyDiscipline (contract : Contract svc) (clients : Option PlanningConfig) :
    Pool.Discipline (system svc clients) :=
  discipline contract clients Call.owes Call.ends (call_safe clients) call_ends

theorem Reachable.attempts {c : RunPool Ext} (h : Reachable svc clients c) :
    (clarifyDiscipline (Contract.none svc) clients).Holds c := by
  obtain ⟨ext, h⟩ := h
  exact Pool.Discipline.holds_reachable _ (worldInvariant_empty trivial) h

def HasEntry (w : World Ext) (id workspaceId : String) (e : AnswerEntry) : Prop :=
  ∃ r ∈ w.db.runs, r.id = id ∧ r.workspaceId = workspaceId ∧ e ∈ r.answersHistory

theorem Sound.entry_kept {ext : Ext} {c : Commit} (sound : Sound contract ext c) (keyed : Keyed c.before)
    {e : AnswerEntry} (he : e ∈ c.before.answersHistory) : e ∈ c.after.answersHistory := by
  rw [sound.committed.written]
  rcases sound.intent.answersHistory c.env with h | ⟨question, given, answers, key, valid, fresh, h⟩
  · rwa [h]
  · rw [h, List.map_append]
    refine List.mem_append_left _ (List.mem_map.mpr ⟨e, he, ?_⟩)
    exact stored_of_recorded (keyed.recorded e he)

theorem Moves.hasEntry {id workspaceId : String} {e : AnswerEntry} (h : WorldInvariant contract w)
    (move : Moves contract w w') (entry : HasEntry w id workspaceId e) : HasEntry w' id workspaceId e := by
  obtain ⟨r, hr, hid, hws, he⟩ := entry
  cases move with
  | insert db run start fresh created =>
    refine ⟨r, ?_, hid, hws, he⟩
    dsimp only
    rw [created.runs]
    exact List.mem_append_left _ hr
  | commit c mem sound =>
    have runs := apply_runs h.history.unique mem sound.committed
    by_cases hk : r.id = c.after.id
    · obtain rfl := h.history.unique.eq hr mem (hk.trans sound.committed.id_after)
      refine ⟨c.after, ?_, hk.symm.trans hid, sound.committed.workspaceId_after.trans hws,
        sound.entry_kept (h.keyed mem) he⟩
      dsimp only
      rw [runs]
      exact mem_replace_self hr hk
    · refine ⟨r, ?_, hid, hws, he⟩
      dsimp only
      rw [runs]
      exact mem_replace_of_ne hr hk
  | _ => exact ⟨r, hr, hid, hws, he⟩

theorem mutate_stale {env : TxEnv} {db : Db} (unique : Unique ProvisioningRun.id db.runs)
    {r : ProvisioningRun} (hr : r ∈ db.runs) {version : Nat} (hv : r.stateVersion ≠ version)
    (actorId : String) (operation : Operation) :
    ∃ error, mutate env db r.id r.workspaceId version actorId operation = .error error ∧
      (error = .infrastructure ∨ error.isConflict = true) := by
  unfold mutate
  cases hb : env.query .begin with
  | error e => exact ⟨e, rfl, Or.inl (query_error hb)⟩
  | ok =>
    cases hs : env.query .selectRun with
    | error e => exact ⟨e, rfl, Or.inl (query_error hs)⟩
    | ok =>
      refine ⟨.conflict "State version conflict", ?_, Or.inr rfl⟩
      rw [selectRun_of_mem unique hr]
      exact if_pos hv

-- What follows a reply: the end of the attempt, or the next of its requests.
theorem attempt_follows {c : RunPool Ext} (h : (clarifyDiscipline contract clients).Holds c)
    {t : Task Call Ret Outcome} (ht : t ∈ c.tasks) {id workspaceId actorId : String} {dto : ClarifyRunDto}
    (call : t.call = .clarifyRun id workspaceId actorId dto) {o : Op} {k : Ret o → Prog Ret Outcome}
    (rest : t.rest = .op o k) {reply : Ret o} {w' : World Ext} (run : exec svc o c.shared reply w') :
    answering id workspaceId actorId dto t.seen o ∧
      ((∃ result : Reply ProvisioningRun, k reply = .pure (result.map some) ∧ EndedBy dto t.seen ⟨o, reply⟩ result) ∨
        ∃ o' k', k reply = .op o' k' ∧ asksNext id workspaceId actorId dto (some ⟨o, reply⟩) o') := by
  have wp := h.wp t ht
  rw [rest] at wp
  obtain ⟨⟨owed, owes⟩, next⟩ := wp
  obtain ⟨-, hgranted, -, -⟩ := exec_moves h.inv (h.knows t ht) owed run
  have left := next reply hgranted
  rw [call] at owes left
  refine ⟨owes, ?_⟩
  generalize k reply = p at left
  cases p with
  | pure out =>
    obtain ⟨-, result, rfl, ended⟩ := left
    exact .inl ⟨result, rfl, ended.last⟩
  | op o' k' => exact .inr ⟨o', k', rfl, answering_next left.1.2⟩

-- An attempt that meets a row with its key: its snapshot, if it has one without the key, is of
-- another version, so nothing it asks for can commit.
theorem attempt_onward {c : RunPool Ext} (h : (clarifyDiscipline contract clients).Holds c)
    {r : ProvisioningRun} (hr : r ∈ c.shared.db.runs) {e : AnswerEntry} (he : e ∈ r.answersHistory)
    {t : Task Call Ret Outcome} (ht : t ∈ c.tasks) {actorId : String} {dto : ClarifyRunDto}
    (call : t.call = .clarifyRun r.id r.workspaceId actorId dto) (key : dto.key = some e.idempotencyKey)
    {o : Op} {k : Ret o → Prog Ret Outcome} (rest : t.rest = .op o k) {reply : Ret o}
    {w' : World Ext} (run : exec svc o c.shared reply w') :
    w'.db = c.shared.db ∧ Onward r e actorId dto t.seen o reply (k reply) := by
  have keyed := h.inv.keyed hr
  have nonempty : e.idempotencyKey ≠ "" := by
    have := (Option.filter_eq_some_iff.mp key).2
    simpa using this
  have found : findEntry r e.idempotencyKey = some e := findEntry_of_keyed keyed he nonempty
  obtain ⟨owes, follows⟩ := attempt_follows h ht call rest run
  rcases asksNext_cases owes.1 with rfl | rfl | rfl | ⟨version, actor, operation, rfl⟩
  · obtain ⟨rfl, answer⟩ := run
    refine ⟨rfl, ?_⟩
    match reply with
    | .error error =>
      obtain rfl : error = .infrastructure := answer
      rcases follows with ⟨result, left, rfl⟩ | ⟨o', k', -, none, -⟩
      · rw [left]
        exact .unread
      · cases none
    | .ok false =>
      rcases follows with ⟨result, left, rfl⟩ | ⟨o', k', -, none, -⟩
      · rw [left]
        exact .removed
      · cases none
    | .ok true =>
      rcases follows with ⟨result, -, none⟩ | ⟨o', k', left, -, rfl⟩
      · exact none.elim
      · rw [left]
        exact .admitted k'
  · obtain ⟨rfl, answer⟩ := run
    refine ⟨rfl, ?_⟩
    match reply with
    | .error error =>
      obtain rfl : error = .infrastructure := answer
      rcases follows with ⟨result, left, rfl⟩ | ⟨o', k', -, ⟨row, none, -⟩, -⟩
      · rw [left]
        exact .unselected
      · cases none
    | .ok row =>
      obtain rfl : row = some r := answer.trans (selectRun_of_mem h.inv.history.unique hr)
      rcases follows with ⟨result, left, answers⟩ | ⟨o', k', -, ⟨row, read, absent⟩, -⟩
      · rw [left, answers _ _ key found]
        refine .answered _ (fun same => ?_) (fun different => ?_)
        · have replayed : replay e dto.answers r = .ok r ↔ JsonbOrdered e.question := replay_same same
          rw [← replayed]
          cases replay e dto.answers r <;> simp [Except.map]
        · rw [replay_different (keyed.recorded e he) different]
          rfl
      · obtain rfl := Option.some.inj (Except.ok.inj read)
        rw [absent _ key] at found
        cases found
  · obtain rfl : w' = c.shared := run
    refine ⟨rfl, ?_⟩
    rcases follows with ⟨result, left, unaccepted, error, rfl⟩ | ⟨o', k', left, version, actor, operation, rfl⟩
    · rw [left]
      exact .unaccepted reply error unaccepted
    · rw [left]
      exact .tries reply version actor operation k'
  · obtain ⟨-, -, snapshot, snap, hid, rfl, absent⟩ := owes.2
    have hv : r.stateVersion ≠ snapshot.stateVersion := by
      intro hv
      obtain rfl := snap.eq ((h.knows t ht).consistent h.inv hr) hid.symm hv
      rw [absent _ key] at found
      cases found
    obtain ⟨env, -, run⟩ := run
    obtain ⟨error, hm, herror⟩ := @mutate_stale _ _ env _ h.inv.history.unique _ hr _ hv actor operation
    rw [hm] at run
    obtain ⟨rfl, rfl⟩ := run
    refine ⟨rfl, ?_⟩
    rcases follows with ⟨result, left, rfl, late⟩ | ⟨o', k', left, -, rfl⟩
    · rw [left]
      rcases herror with rfl | conflict
      · exact .unmutated _ actor operation
      · exact .late _ actor operation error (late conflict (by rw [key]; rfl))
    · rw [left]
      exact .beaten _ actor operation error k'

theorem retry_served {w : World Ext} (h : WorldInvariant contract w) {r : ProvisioningRun} (hr : r ∈ w.db.runs)
    {e : AnswerEntry} (he : e ∈ r.answersHistory) {actorId : String} {dto : ClarifyRunDto}
    (key : dto.key = some e.idempotencyKey) (same : SameAnswers e dto.answers) (ordered : JsonbOrdered e.question) :
    Pool.Served (system svc clients) w
      ((system svc clients).program (.clarifyRun r.id r.workspaceId actorId dto)) w (.ok (some r)) := by
  have nonempty : e.idempotencyKey ≠ "" := by
    have := (Option.filter_eq_some_iff.mp key).2
    simpa using this
  have found : (dto.idempotencyKey.filter (· ≠ "")).bind (findEntry r) = some e := by
    have key : dto.idempotencyKey.filter (· ≠ "") = some e.idempotencyKey := key
    rw [key]
    exact findEntry_of_keyed (h.keyed hr) he nonempty
  have answers : replay e dto.answers r = .ok r := (replay_same same).mpr ordered
  have read : Async.Runs (exec svc) w (getRun r.id r.workspaceId (some actorId)) w (.ok r) := by
    refine .request (.ok true) ⟨rfl, trivial⟩ ?_
    exact .request (.ok (some r)) ⟨rfl, (selectRun_of_mem h.history.unique hr).symm⟩ (.pure _ _)
  refine Async.runs_map.mpr ⟨.ok r, ?_, rfl⟩
  unfold clarifyRun
  refine Async.runs_bind.mpr ⟨w, .ok r, read, ?_⟩
  simp only [Async.after_ok, found]
  exact Async.runs_ofExcept.mpr ⟨rfl, answers.symm⟩

-- From the moment an answer is recorded: its entry stays, stays the only one of its key, and decides
-- every retry.
theorem clarification_exactly_once {c c' : RunPool Ext} (h : Reachable svc clients c)
    (hs : Pool.Steps (system svc clients) c c') :
    (∀ r ∈ c'.shared.db.runs, ∀ key ≠ "",
      (r.answersHistory.filter fun e => e.idempotencyKey = key).length ≤ 1) ∧
    ∀ first ∈ c.shared.db.runs, ∀ e ∈ first.answersHistory, ∃ r ∈ c'.shared.db.runs,
      r.id = first.id ∧ e ∈ r.answersHistory ∧
      ∀ actorId dto, dto.key = some e.idempotencyKey →
        (SameAnswers e dto.answers → JsonbOrdered e.question → Pool.Served (system svc clients) c'.shared
          ((system svc clients).program (.clarifyRun r.id r.workspaceId actorId dto)) c'.shared (.ok (some r))) ∧
        ∀ t ∈ c'.tasks, t.call = .clarifyRun r.id r.workspaceId actorId dto → ∀ o k, t.rest = .op o k → ∀ reply w',
          exec svc o c'.shared reply w' →
            w'.db = c'.shared.db ∧ Onward r e actorId dto t.seen o reply (k reply) := by
  have holds := (clarifyDiscipline (Contract.none svc) clients).holds_steps h.attempts hs
  refine ⟨fun r hr => (holds.inv.keyed hr).once, ?_⟩
  intro first hfirst e he
  have kept : HasEntry c'.shared first.id first.workspaceId e := by
    refine (runDiscipline (Contract.none svc) clients).steps_invariant
      (P := fun d => HasEntry d.shared first.id first.workspaceId e) ?_ h.holds hs ⟨first, hfirst, rfl, rfl, he⟩
    intro d d' hd step entry
    exact (step_moves hd step).hasEntry hd.inv entry
  obtain ⟨r, hr, hid, -, her⟩ := kept
  refine ⟨r, hr, hid, her, fun actorId dto key => ⟨retry_served holds.inv hr her key, ?_⟩⟩
  intro t ht call o k rest reply w' run
  exact attempt_onward holds hr her ht call key rest run

end Replay

namespace Interview

open Journey

attribute [local instance] journeyPlatform emptyRegistry

theorem retry_refused : Pool.Served journey (after ([], []) (recording false))
    (journey.program (.clarifyRun runId workspaceId userId (dto false))) (after ([], []) (recording false))
    (.error usedForDifferentAnswers) := by
  have selected : (after (([], []) : Deposits) (recording false)).db.selectRun runId workspaceId =
      some (answered false).after := selectRun_single answered_runs
  refine .request (.ok true) ⟨rfl, trivial⟩ ?_
  exact .request (.ok (some (answered false).after)) ⟨rfl, selected.symm⟩ (.pure _ _)

-- The same request, sent again, is told that it carries different answers.
theorem clarification_retry_refused : ∃ c seen seen', Reachable services planning c ∧
    (⟨.clarifyRun runId workspaceId userId (dto false), seen, .pure (.ok (some (answered false).after))⟩ :
      Task Call Ret Outcome) ∈ c.tasks ∧
    (⟨.clarifyRun runId workspaceId userId (dto false), seen', .pure (.error usedForDifferentAnswers)⟩ :
      Task Call Ret Outcome) ∈ c.tasks := by
  obtain ⟨_, ext, reachable⟩ := asked_reachable false
  obtain ⟨seen, records⟩ := recorded_steps false _
  obtain ⟨seen', refused⟩ := retry_refused.call _
  exact ⟨_, seen, seen', ⟨ext, (reachable.trans records).trans refused⟩, by simp, by simp⟩

def recordedEntry : AnswerEntry := ⟨question true, given true, 1000, "once"⟩

-- The run has moved on to a proposal, and gives the retry its answer.
theorem clarification_exactly_once_proposed : ∃ r ∈ (after (([manifestRow], []) : Deposits) proposing).db.runs,
    r.id = runId ∧ recordedEntry ∈ r.answersHistory ∧
      Pool.Served journey (after ([manifestRow], []) proposing)
        (journey.program (.clarifyRun r.id r.workspaceId userId (dto true))) (after ([manifestRow], []) proposing)
        (.ok (some r)) := by
  obtain ⟨_, ext, reachable⟩ := asked_reachable true
  obtain ⟨_, records⟩ := recorded_steps true _
  obtain ⟨_, proposes⟩ := proposed_steps _
  have mem : (answered true).after ∈ (after (([], []) : Deposits) (recording true)).db.runs :=
    answered_runs ▸ List.mem_cons_self
  have same : SameAnswers recordedEntry (dto true).answers := ⟨given true, valid_answers, rfl⟩
  have ordered : JsonbOrdered (question true) := by decide
  obtain ⟨r, hr, hid, he, retries⟩ := (clarification_exactly_once ⟨ext, reachable.trans records⟩ proposes).2 _ mem
    recordedEntry (List.mem_singleton.mpr rfl)
  exact ⟨r, hr, hid, he, (retries userId (dto true) rfl).1 same ordered⟩

end Interview

end Provisr.Orchestrator
