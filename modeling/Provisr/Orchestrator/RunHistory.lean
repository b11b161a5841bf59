import Provisr.Orchestrator.ServicePrograms

namespace Provisr.Orchestrator

open Provisr.Foundation RunsService

section Payload

variable {run updated : ProvisioningRun} {change : Change}

theorem changePayload_lookup {k : String} (hk : k ∈ reservedKeys) (free : Unreserved change.payload) :
    (changePayload run updated change).lookup k =
      ([("run_id", Json.str run.id), ("from", .str run.state.label), ("to", .str updated.state.label),
        ("state_version", .num (JsNumber.ofNat updated.stateVersion))] : JsFields).lookup k := by
  unfold changePayload
  rw [Json.lookup_spread_of_notMem _ _ _ (free k hk)]
  simp only [reservedKeys, List.mem_cons, List.not_mem_nil, or_false] at hk
  rcases hk with rfl | rfl | rfl | rfl <;> rfl

structure Describes (payload : JsFields) (id : String) (source target : WorkflowState) (version : Nat) :
    Prop where
  run : payload.lookup "run_id" = some (.str id)
  source : payload.lookup "from" = some (.str source.label)
  target : payload.lookup "to" = some (.str target.label)
  version : payload.lookup "state_version" = some (.num (JsNumber.ofNat version))

theorem changePayload_describes (free : Unreserved change.payload) :
    Describes (changePayload run updated change) run.id run.state updated.state updated.stateVersion where
  run := changePayload_lookup (by decide) free
  source := changePayload_lookup (by decide) free
  target := changePayload_lookup (by decide) free
  version := changePayload_lookup (by decide) free

end Payload

def runAudits (db : Db) (id : String) : List AuditEvent := db.audits.filter fun a => a.resourceId = id

def runEvents (db : Db) (id : String) : List SseEvent :=
  db.sseEvents.filter fun e => e.payload.lookup "run_id" = some (.str id)

def runCommits {Ext : Type} (w : World Ext) (id : String) : List Commit :=
  w.commits.filter fun c => c.before.id = id

def runMutationAudits (db : Db) (id : String) : List AuditEvent :=
  (mutationAudits db).filter fun a => a.resourceId = id

def runMutationEvents (db : Db) (id : String) : List SseEvent :=
  (mutationEvents db).filter fun e => e.payload.lookup "run_id" = some (.str id)

section History

variable [Platform] [ComponentRegistry] {Ext : Type} {svc : Services Ext} {clients : Option PlanningConfig}
  {contract : Contract svc} {w w' : World Ext}

theorem Sound.audit_describes {ext : Ext} {c : Commit} (h : Sound contract ext c) :
    Describes c.audit.payload c.before.id c.before.state c.after.state c.after.stateVersion :=
  changePayload_describes h.intent.unreserved

theorem Sound.event_describes {ext : Ext} {c : Commit} (h : Sound contract ext c) :
    Describes c.event.payload c.before.id c.before.state c.after.state c.after.stateVersion :=
  changePayload_describes h.intent.unreserved

theorem WorldInvariant.runMutationAudits_eq (h : WorldInvariant contract w) (id : String) :
    runMutationAudits w.db id = (runCommits w id).map Commit.audit := by
  unfold runMutationAudits runCommits
  rw [h.audits, List.filter_map]
  rfl

theorem WorldInvariant.runMutationEvents_eq (h : WorldInvariant contract w) (id : String) :
    runMutationEvents w.db id = (runCommits w id).map Commit.event := by
  unfold runMutationEvents runCommits
  rw [h.events, List.filter_map]
  refine congrArg (List.map Commit.event) (List.filter_congr ?_)
  intro c hc
  simp [(h.sound c hc).event_describes.run]

-- One chain of steps leads from the creation of a run to its row, and the logs tell it without a gap.
structure LinearHistory (db : Db) (r : ProvisioningRun) (cs : List Commit) : Prop where
  way : ∃ first, Start first ∧ Trail Commit.before Commit.after first cs r
  length : r.stateVersion = cs.length
  versions : ∀ k c, cs[k]? = some c → c.before.stateVersion = k ∧ c.after.stateVersion = k + 1
  linked : ∀ k c d, cs[k]? = some c → cs[k + 1]? = some d → d.before = c.after
  audits : runMutationAudits db r.id = cs.map Commit.audit
  events : runMutationEvents db r.id = cs.map Commit.event
  audited : ∀ k c, cs[k]? = some c →
    Describes c.audit.payload r.id c.before.state c.after.state (k + 1)
  published : ∀ k c, cs[k]? = some c →
    Describes c.event.payload r.id c.before.state c.after.state (k + 1)

theorem WorldInvariant.linearHistory (h : WorldInvariant contract w) {r : ProvisioningRun}
    (hr : r ∈ w.db.runs) : LinearHistory w.db r (runCommits w r.id) := by
  obtain ⟨first, start, way⟩ := h.history.trail r hr
  have way : Trail Commit.before Commit.after first (runCommits w r.id) r := way
  have of_run : ∀ c ∈ runCommits w r.id, Sound contract w.ext c ∧ c.before.id = r.id := by
    intro c hc
    obtain ⟨hc, hid⟩ := List.mem_filter.mp hc
    exact ⟨h.sound c hc, of_decide_eq_true hid⟩
  have raises : ∀ c ∈ runCommits w r.id, c.after.stateVersion = c.before.stateVersion + 1 :=
    fun c hc => (of_run c hc).1.committed.stateVersion_after
  have zero : first.stateVersion = 0 := by
    obtain ⟨env, c, rfl⟩ := start
    rfl
  have versions : ∀ k c, (runCommits w r.id)[k]? = some c →
      c.before.stateVersion = k ∧ c.after.stateVersion = k + 1 := by
    intro k c hk
    obtain ⟨hlt, rfl⟩ := List.getElem?_eq_some_iff.mp hk
    have hv := way.measure_get ProvisioningRun.stateVersion raises k hlt
    have hb : (runCommits w r.id)[k].before.stateVersion = k := by rw [hv, zero, Nat.zero_add]
    exact ⟨hb, (raises _ (List.getElem_mem hlt)).trans (congrArg (· + 1) hb)⟩
  refine ⟨⟨first, start, way⟩, ?_, versions, ?_, h.runMutationAudits_eq r.id, h.runMutationEvents_eq r.id,
    ?_, ?_⟩
  · have := way.measure ProvisioningRun.stateVersion raises
    rwa [zero, Nat.zero_add] at this
  · intro k c d hc hd
    obtain ⟨hlt, rfl⟩ := List.getElem?_eq_some_iff.mp hd
    obtain ⟨_, rfl⟩ := List.getElem?_eq_some_iff.mp hc
    exact List.isChain_iff_getElem.mp way.isChain k hlt
  · intro k c hk
    obtain ⟨sound, hid⟩ := of_run c (List.mem_of_getElem? hk)
    have := sound.audit_describes
    rwa [hid, (versions k c hk).2] at this
  · intro k c hk
    obtain ⟨sound, hid⟩ := of_run c (List.mem_of_getElem? hk)
    have := sound.event_describes
    rwa [hid, (versions k c hk).2] at this

structure Untouched (w w' : World Ext) : Prop where
  commits : w'.commits = w.commits
  rows : ∀ r ∈ w.db.runs, r ∈ w'.db.runs
  audits : mutationAudits w'.db = mutationAudits w.db
  events : mutationEvents w'.db = mutationEvents w.db

-- A step in which a task commits a mutation: its closure has run on the locked row, and that is the
-- row of every reading the task may have checked for this version.
structure Applies (t : Task Call Ret Outcome) (w w' : World Ext) (commit : Commit) : Prop where
  requested : ∃ operation k, t.rest = .op (.mutate commit.before.id commit.before.workspaceId
    commit.before.stateVersion commit.actorId operation) k ∧
      operation commit.before commit.now = .ok commit.change
  locked : commit.before ∈ w.db.runs
  checked : ∀ row, Snapshot t.seen row → row.id = commit.before.id →
    row.stateVersion = commit.before.stateVersion → row = commit.before
  raised : commit.after.stateVersion = commit.before.stateVersion + 1
  db : w'.db = commit.apply w.db
  commits : w'.commits = w.commits ++ [commit]

theorem Moves.untouched (move : Moves contract w w') (h : w'.commits = w.commits) : Untouched w w' := by
  cases move with
  | insert db run start fresh created =>
    refine ⟨rfl, ?_, created.mutationAudits, created.mutationEvents⟩
    intro r hr
    dsimp only
    rw [created.runs]
    exact List.mem_append_left _ hr
  | commit c mem sound => simp at h
  | _ => exact ⟨rfl, fun _ hr => hr, rfl, rfl⟩

theorem step_untouched_or_applies {c c' : RunPool Ext} (h : (runDiscipline contract clients).Holds c)
    (hs : Pool.Step (system svc clients) c c') :
    Untouched c.shared c'.shared ∨ ∃ t ∈ c.tasks, ∃ commit, Applies t c.shared c'.shared commit := by
  have move := step_moves h hs
  by_cases hc : c'.shared.commits = c.shared.commits
  · exact Or.inl (move.untouched hc)
  · refine Or.inr ?_
    cases hs with
    | spawn => exact absurd rfl hc
    | ambient w w' ts ambient => cases ambient <;> exact absurd rfl hc
    | request w w' ts i call seen o k r task run =>
      have mem := List.mem_of_getElem? task
      refine ⟨_, mem, ?_⟩
      cases o with
      | mutate id ws v actor operation =>
        obtain ⟨env, meets, run⟩ := run
        split at run
        · obtain ⟨-, rfl⟩ := run
          exact absurd rfl hc
        · rename_i commit hm
          obtain ⟨-, rfl⟩ := run
          obtain ⟨hsel, rfl, rfl, rfl, hop, committed⟩ := mutate_ok hm
          obtain ⟨locked, rfl, rfl⟩ := selectRun_some hsel
          refine ⟨commit, ⟨operation, k, rfl, hop⟩, locked, ?_, committed.stateVersion_after, rfl, rfl⟩
          intro row snap hid hv
          exact (snap.eq ((h.knows _ mem).consistent h.inv locked) hid.symm hv.symm).symm
      | fetch q =>
        obtain ⟨ext, -, rfl⟩ := run
        exact absurd rfl hc
      | createRun create =>
        obtain ⟨env, -, run⟩ := run
        split at run <;>
        · obtain ⟨-, rfl⟩ := run
          exact absurd rfl hc
      | membership | selectRun | selectPending | selectExpired | selectSettings | selectManifestId
      | tryLock | unlock =>
        obtain ⟨rfl, -⟩ := run
        exact absurd rfl hc
      | dateNow | randomUUID | aborted | stopping | outOfFuel =>
        obtain rfl : w' = w := run
        exact absurd rfl hc

-- A transaction is all or nothing; it is nothing where no row of the expected version is there to be
-- locked.
theorem exec_mutate_atomic {id workspaceId : String} {version : Nat} {actorId : String}
    {operation : Operation} {r : Reply ProvisioningRun}
    (run : exec svc (.mutate id workspaceId version actorId operation) w r w') :
    (w' = w ∧ ∃ e, r = .error e) ∨ ∃ commit : Commit, commit.before ∈ w.db.runs ∧
      commit.before.id = id ∧ commit.before.workspaceId = workspaceId ∧
      commit.before.stateVersion = version ∧ w'.db = commit.apply w.db := by
  obtain ⟨env, meets, run⟩ := run
  split at run
  · rename_i e _
    exact Or.inl ⟨run.2, e, run.1⟩
  · rename_i commit hm
    obtain ⟨-, rfl⟩ := run
    obtain ⟨hsel, hv, -⟩ := mutate_ok hm
    obtain ⟨locked, hid, hws⟩ := selectRun_some hsel
    exact Or.inr ⟨commit, locked, hid, hws, hv, rfl⟩

theorem linear_history {c : RunPool Ext} (h : Reachable svc clients c) :
    (∀ r ∈ c.shared.db.runs, LinearHistory c.shared.db r (runCommits c.shared r.id)) ∧
    (∀ c', Pool.Step (system svc clients) c c' → Untouched c.shared c'.shared ∨
      ∃ t ∈ c.tasks, ∃ commit, Applies t c.shared c'.shared commit) ∧
    (∀ id workspaceId version actorId operation r w',
      exec svc (.mutate id workspaceId version actorId operation) c.shared r w' →
      (w' = c.shared ∧ ∃ e, r = .error e) ∨ ∃ commit : Commit, commit.before ∈ c.shared.db.runs ∧
        commit.before.id = id ∧ commit.before.workspaceId = workspaceId ∧
        commit.before.stateVersion = version ∧ w'.db = commit.apply c.shared.db) :=
  ⟨fun _ hr => h.holds.inv.linearHistory hr, fun _ hs => step_untouched_or_applies h.holds hs,
    fun _ _ _ _ _ _ _ run => exec_mutate_atomic run⟩

end History

section Example

open Journey

attribute [local instance] journeyPlatform emptyRegistry

theorem linear_history_planned :
    LinearHistory (after (([manifestRow], [artifactRow]) : Deposits) completing).db planned.after completing := by
  obtain ⟨_, reachable⟩ := planned_reachable
  have mem : planned.after ∈ (after (([manifestRow], [artifactRow]) : Deposits) completing).db.runs :=
    planned_runs ▸ List.mem_cons_self
  exact (linear_history reachable).1 planned.after mem

end Example

section Terminal

variable [Platform] [ComponentRegistry] {Ext : Type} {svc : Services Ext} {clients : Option PlanningConfig}
  {contract : Contract svc} {w w' : World Ext}

structure EndedRun (w : World Ext) (r : ProvisioningRun) (audits : List AuditEvent) (events : List SseEvent) :
    Prop where
  row : r ∈ w.db.runs
  audits : runAudits w.db r.id = audits
  events : runEvents w.db r.id = events

theorem Moves.ended {r : ProvisioningRun} {audits : List AuditEvent} {events : List SseEvent}
    (h : WorldInvariant contract w) (move : Moves contract w w') (terminal : r.state.isTerminal = true)
    (ended : EndedRun w r audits events) : EndedRun w' r audits events := by
  cases move with
  | idle => exact ended
  | exchange => exact ⟨ended.row, ended.audits, ended.events⟩
  | insert db run start fresh created =>
    have hne : run.id ≠ r.id := fun he => fresh r ended.row he.symm
    obtain ⟨newAudits, hdbAudits, hnewAudits⟩ := created.audits
    obtain ⟨newEvents, hdbEvents, hnewEvents⟩ := created.events
    refine ⟨?_, ?_, ?_⟩
    · dsimp only
      rw [created.runs]
      exact List.mem_append_left _ ended.row
    · rw [← ended.audits]
      unfold runAudits
      dsimp only
      rw [hdbAudits, List.filter_append, List.append_right_eq_self, List.filter_eq_nil_iff]
      intro a ha
      simp [(hnewAudits a ha).2, hne]
    · rw [← ended.events]
      unfold runEvents
      dsimp only
      rw [hdbEvents, List.filter_append, List.append_right_eq_self, List.filter_eq_nil_iff]
      intro e he
      simp [(hnewEvents e he).2, hne]
  | commit c mem sound =>
    -- A change is only committed on a row that has not ended.
    have hne : c.before.id ≠ r.id := by
      intro he
      obtain rfl := h.history.unique.eq mem ended.row he
      rw [checkChange_active sound.committed.checked] at terminal
      cases terminal
    refine ⟨?_, ?_, ?_⟩
    · dsimp only
      rw [apply_runs h.history.unique mem sound.committed]
      refine mem_replace_of_ne ended.row ?_
      rw [sound.committed.id_after]
      exact hne.symm
    · rw [← ended.audits]
      have : runAudits (c.apply w.db) r.id =
        (w.db.audits ++ [c.audit]).filter fun a => a.resourceId = r.id := rfl
      rw [this, List.filter_append]
      simp [runAudits, Commit.audit, changeAudit, hne]
    · rw [← ended.events]
      have : runEvents (c.apply w.db) r.id = (w.db.sseEvents ++ [c.event]).filter fun e =>
        e.payload.lookup "run_id" = some (.str r.id) := rfl
      rw [this, List.filter_append]
      simp [runEvents, sound.event_describes.run, hne]

theorem terminal_run_unchanged {c c' : RunPool Ext} (h : Reachable svc clients c)
    (hs : Pool.Steps (system svc clients) c c') {r : ProvisioningRun} (hr : r ∈ c.shared.db.runs)
    (terminal : r.state.isTerminal = true) :
    c'.shared.db.run? r.id = some r ∧ runAudits c'.shared.db r.id = runAudits c.shared.db r.id ∧
      runEvents c'.shared.db r.id = runEvents c.shared.db r.id := by
  have holds' := (runDiscipline (Contract.none svc) clients).holds_steps h.holds hs
  have ended : EndedRun c'.shared r (runAudits c.shared.db r.id) (runEvents c.shared.db r.id) := by
    refine (runDiscipline (Contract.none svc) clients).steps_invariant
      (P := fun c' => EndedRun c'.shared r _ _) ?_ h.holds hs ⟨hr, rfl, rfl⟩
    intro d d' holds step ended
    exact (step_moves holds step).ended holds.inv terminal ended
  exact ⟨run?_of_mem holds'.inv.history.unique ended.row, ended.audits, ended.events⟩

end Terminal

section Example

open Journey

attribute [local instance] journeyPlatform emptyRegistry

-- The plan that comes late is not taken.
theorem terminal_run_unchanged_late :
    (after (([manifestRow], [artifactRow]) : Deposits) (beginning ++ [cancelled])).db.run? runId = some cancelled.after ∧
      runAudits (after (([manifestRow], [artifactRow]) : Deposits) (beginning ++ [cancelled])).db runId =
        runAudits (after (([manifestRow], []) : Deposits) (beginning ++ [cancelled])).db runId ∧
      runEvents (after (([manifestRow], [artifactRow]) : Deposits) (beginning ++ [cancelled])).db runId =
        runEvents (after (([manifestRow], []) : Deposits) (beginning ++ [cancelled])).db runId := by
  obtain ⟨_, _, reachable, late⟩ := cancelled_reachable
  have mem : cancelled.after ∈ (after (([manifestRow], []) : Deposits) (beginning ++ [cancelled])).db.runs :=
    cancelled_runs ▸ List.mem_cons_self
  exact terminal_run_unchanged reachable late mem rfl

end Example

end Provisr.Orchestrator
