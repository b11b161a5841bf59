import Provisr.Foundation.Versioned
import Provisr.Orchestrator.RunInvariants

namespace Provisr.Orchestrator

open Provisr.Foundation RunsService

variable {Ext : Type}

section Contract

-- What is relied on about the other services: an invariant of their state, and what an exchange
-- that has taken place says about it from then on.
structure Contract (svc : Services Ext) where
  Inv : Ext → Prop
  Known : Ext → HttpRequest → Reply HttpResponse → Prop
  call : ∀ {e q r e'}, Inv e → svc.call e q r e' → Inv e' ∧ Known e' q r
  call_mono : ∀ {e q r e'}, Inv e → svc.call e q r e' → ∀ q' r', Known e q' r' → Known e' q' r'
  background : ∀ {e e'}, Inv e → svc.background e e' → Inv e'
  background_mono : ∀ {e e'}, Inv e → svc.background e e' → ∀ q r, Known e q r → Known e' q r

def Contract.none (svc : Services Ext) : Contract svc where
  Inv _ := True
  Known _ _ _ := True
  call _ _ := ⟨trivial, trivial⟩
  call_mono _ _ _ _ h := h
  background _ _ := trivial
  background_mono _ _ _ _ h := h

end Contract

section Rows

theorem run?_of_mem {db : Db} (unique : Unique ProvisioningRun.id db.runs) {r : ProvisioningRun}
    (hr : r ∈ db.runs) : db.run? r.id = some r := by
  unfold Db.run?
  cases hf : db.runs.find? fun x => x.id == r.id with
  | none => simpa using List.find?_eq_none.mp hf r hr
  | some x =>
    have hid : x.id = r.id := by simpa using List.find?_some hf
    rw [unique.eq (List.mem_of_find?_eq_some hf) hr hid]

theorem selectRun_of_mem {db : Db} (unique : Unique ProvisioningRun.id db.runs) {r : ProvisioningRun}
    (hr : r ∈ db.runs) : db.selectRun r.id r.workspaceId = some r := by
  cases hf : db.selectRun r.id r.workspaceId with
  | none => simpa using List.find?_eq_none.mp hf r hr
  | some x =>
    obtain ⟨mem, hid, -⟩ := selectRun_some hf
    rw [unique.eq mem hr hid]

end Rows

section Records

def Commit.now (c : Commit) : Ambient := ⟨c.env.dateNow, c.env.uuid⟩

def Commit.audit (c : Commit) : AuditEvent := changeAudit c.actorId c.before c.after c.change

def Commit.event (c : Commit) : SseEvent := changeEvent c.env c.before c.after c.change

-- What mutations have written: the creation of a run writes events of a type of its own.
def mutationAudits (db : Db) : List AuditEvent := db.audits.filter fun a => a.eventType != .runCreated

def mutationEvents (db : Db) : List SseEvent := db.sseEvents.filter fun e => e.eventType != .runCreated

def Start (r : ProvisioningRun) : Prop := ∃ env c, r = initialRun env c

theorem Commit.eventType_audit (c : Commit) : c.audit.eventType ≠ .runCreated := by
  unfold Commit.audit changeAudit
  dsimp only
  split <;> simp

theorem mutationAudits_apply (db : Db) (c : Commit) :
    mutationAudits (c.apply db) = mutationAudits db ++ [c.audit] := by
  have : mutationAudits (c.apply db) = (db.audits ++ [c.audit]).filter fun a => a.eventType != .runCreated :=
    rfl
  rw [this, List.filter_append]
  simp [mutationAudits, c.eventType_audit]

structure Created (run : ProvisioningRun) (db db' : Db) : Prop where
  runs : db'.runs = db.runs ++ [run]
  audits : ∃ new, db'.audits = db.audits ++ new ∧
    ∀ a ∈ new, a.eventType = .runCreated ∧ a.resourceId = run.id
  events : ∃ new, db'.sseEvents = db.sseEvents ++ new ∧
    ∀ e ∈ new, e.eventType = .runCreated ∧ e.payload.lookup "run_id" = some (.str run.id)

theorem Created.mutationAudits {run : ProvisioningRun} {db db' : Db} (h : Created run db db') :
    mutationAudits db' = mutationAudits db := by
  obtain ⟨new, hdb, hnew⟩ := h.audits
  unfold Provisr.Orchestrator.mutationAudits
  rw [hdb, List.filter_append, List.append_right_eq_self, List.filter_eq_nil_iff]
  intro a ha
  simp [(hnew a ha).1]

theorem Created.mutationEvents {run : ProvisioningRun} {db db' : Db} (h : Created run db db') :
    mutationEvents db' = mutationEvents db := by
  obtain ⟨new, hdb, hnew⟩ := h.events
  unfold Provisr.Orchestrator.mutationEvents
  rw [hdb, List.filter_append, List.append_right_eq_self, List.filter_eq_nil_iff]
  intro e he
  simp [(hnew e he).1]

end Records

section Moves

variable [Platform] [ComponentRegistry] {svc : Services Ext} (contract : Contract svc)

structure Sound (ext : Ext) (c : Commit) : Prop where
  committed : Committed c
  intent : Intent (contract.Known ext) c.before c.now c.actorId c.change
  fresh : ∀ e ∈ c.before.answersHistory, e.idempotencyKey ≠ c.env.uuid

structure WorldInvariant (w : World Ext) : Prop where
  history : History ProvisioningRun.id Commit.before Commit.after Start w.db.runs w.commits
  sound : ∀ c ∈ w.commits, Sound contract w.ext c
  audits : mutationAudits w.db = w.commits.map Commit.audit
  events : mutationEvents w.db = w.commits.map Commit.event
  ext : contract.Inv w.ext

inductive Moves (w : World Ext) : World Ext → Prop
  | idle : Moves w w
  | exchange (ext : Ext) (inv : contract.Inv ext)
      (mono : ∀ q r, contract.Known w.ext q r → contract.Known ext q r) : Moves w { w with ext := ext }
  | insert (db : Db) (run : ProvisioningRun) (start : Start run)
      (fresh : ∀ r ∈ w.db.runs, r.id ≠ run.id) (created : Created run w.db db) :
      Moves w { w with db := db }
  | commit (c : Commit) (mem : c.before ∈ w.db.runs) (sound : Sound contract w.ext c) :
      Moves w { w with db := c.apply w.db, commits := w.commits ++ [c] }

variable {contract} {w w' : World Ext}

theorem Sound.mono {ext ext' : Ext} {c : Commit} (h : Sound contract ext c)
    (mono : ∀ q r, contract.Known ext q r → contract.Known ext' q r) : Sound contract ext' c :=
  ⟨h.committed, h.intent.mono mono, h.fresh⟩

theorem Committed.id_after {c : Commit} (h : Committed c) : c.after.id = c.before.id := by
  rw [h.written, writtenRun_id]

theorem Committed.workspaceId_after {c : Commit} (h : Committed c) :
    c.after.workspaceId = c.before.workspaceId := by
  rw [h.written, writtenRun_workspaceId]

theorem Committed.stateVersion_after {c : Commit} (h : Committed c) :
    c.after.stateVersion = c.before.stateVersion + 1 := by
  rw [h.written, writtenRun_stateVersion]

theorem Intent.eventType_ne {known : HttpRequest → Reply HttpResponse → Prop} {r : ProvisioningRun}
    {now : Ambient} {actorId : String} {change : Change} (h : Intent known r now actorId change) :
    change.eventType ≠ some .runCreated := by
  cases h with
  | confirm _ _ _ _ h =>
    obtain ⟨-, -, -, rfl⟩ := confirmChange_ok h
    simp [confirmedChange]
  | suspend _ _ _ h =>
    obtain ⟨data, rfl⟩ := suspendChange_ok h
    simp [suspendedChange]
  | answer _ _ _ _ _ _ _ _ _ h =>
    obtain ⟨_, _, -, -, -, -, rfl⟩ := answerChange_ok h
    simp [answeredChange]
  | endTurn _ _ _ _ kind => rcases kind with rfl | rfl <;> simp [endTurnChange]
  | _ => simp [transitionChange, revisionChange, rejectionChange, iacProgress, artifactChange,
      sessionChange, attemptsChange, readyChange, rejectedComponentChange]

theorem Commit.eventType_event {ext : Ext} {c : Commit} (h : Sound contract ext c) :
    c.event.eventType ≠ .runCreated := by
  have hne := h.intent.eventType_ne
  unfold Commit.event changeEvent
  dsimp only
  cases hc : c.change.eventType with
  | none => simp
  | some t =>
    rintro rfl
    exact hne hc

theorem updateRun_runs {db : Db} (unique : Unique ProvisioningRun.id db.runs) {c : Commit}
    (mem : c.before ∈ db.runs) (h : Committed c) :
    (db.updateRun c.after c.before.stateVersion).runs = replace ProvisioningRun.id c.after db.runs := by
  unfold Db.updateRun replace
  refine List.map_congr_left ?_
  intro r hr
  by_cases hk : r.id = c.after.id
  · obtain rfl := unique.eq hr mem (hk.trans h.id_after)
    simp [h.id_after, h.workspaceId_after]
  · simp [hk]

theorem apply_runs {db : Db} (unique : Unique ProvisioningRun.id db.runs) {c : Commit}
    (mem : c.before ∈ db.runs) (h : Committed c) :
    (c.apply db).runs = replace ProvisioningRun.id c.after db.runs :=
  updateRun_runs unique mem h

theorem mutationEvents_apply {ext : Ext} (db : Db) {c : Commit} (h : Sound contract ext c) :
    mutationEvents (c.apply db) = mutationEvents db ++ [c.event] := by
  have : mutationEvents (c.apply db) = (db.sseEvents ++ [c.event]).filter fun e => e.eventType != .runCreated :=
    rfl
  rw [this, List.filter_append]
  simp [mutationEvents, Commit.eventType_event h]

theorem WorldInvariant.moves (h : WorldInvariant contract w) (move : Moves contract w w') :
    WorldInvariant contract w' := by
  cases move with
  | idle => exact h
  | exchange ext inv mono =>
    exact ⟨h.history, fun c hc => (h.sound c hc).mono mono, h.audits, h.events, inv⟩
  | insert db run start fresh created =>
    refine ⟨?_, h.sound, created.mutationAudits.trans h.audits, created.mutationEvents.trans h.events,
      h.ext⟩
    dsimp only
    rw [created.runs]
    exact h.history.insert start fresh
  | commit c mem sound =>
    refine ⟨?_, ?_, ?_, ?_, h.ext⟩
    · dsimp only
      rw [apply_runs h.history.unique mem sound.committed]
      exact h.history.commit mem sound.committed.id_after
    · intro d hd
      rcases List.mem_append.mp hd with hd | hd
      · exact h.sound d hd
      · exact List.mem_singleton.mp hd ▸ sound
    · rw [mutationAudits_apply, h.audits, List.map_append, List.map_singleton]
    · rw [mutationEvents_apply _ sound, h.events, List.map_append, List.map_singleton]

theorem Moves.known (move : Moves contract w w') {q : HttpRequest}
    {r : Reply HttpResponse} (hk : contract.Known w.ext q r) : contract.Known w'.ext q r := by
  cases move with
  | exchange ext inv mono => exact mono q r hk
  | _ => exact hk

theorem Moves.behind (h : WorldInvariant contract w) (move : Moves contract w w') {row : ProvisioningRun}
    (hb : Behind ProvisioningRun.id ProvisioningRun.stateVersion w.db.runs row) :
    Behind ProvisioningRun.id ProvisioningRun.stateVersion w'.db.runs row := by
  cases move with
  | insert db run start fresh created =>
    dsimp only
    rw [created.runs]
    exact hb.append run
  | commit c mem sound =>
    dsimp only
    rw [apply_runs h.history.unique mem sound.committed]
    exact hb.replace h.history.unique mem sound.committed.id_after sound.committed.stateVersion_after
  | _ => exact hb

end Moves

end Provisr.Orchestrator
