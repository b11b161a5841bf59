import Provisr.Orchestrator.RunHistory

namespace Provisr.Orchestrator

open Provisr.Foundation RunsService

structure DraftingInvariant (r : ProvisioningRun) : Prop where
  suspended : r.state = .clarifying → r.currentQuestion.isSome = true ∧
    r.clarificationExpiresAt.isSome = true ∧ r.agentTurnPending = false
  active : r.state.isTerminal = false → r.state ≠ .clarifying →
    r.currentQuestion = none ∧ r.clarificationExpiresAt = none
  proposed : r.state = .manifestValidating → r.agentTurnPending = false ∧
    r.manifestVersion.isSome = true ∧ r.manifestValidatedVersion = r.manifestVersion ∧
    r.manifestConfirmedVersion = none
  attempts : r.manifestValidationAttempts ≤ 3
  exhausted : r.manifestValidationAttempts = 3 → r.state = .failed

theorem RunInvariant.drafting {r : ProvisioningRun} (h : RunInvariant r) : DraftingInvariant r where
  suspended hs := ⟨(h.suspended hs).question, (h.suspended hs).expires, (h.suspended hs).idle⟩
  active := h.active
  proposed hs := ⟨(h.proposed hs).idle, (h.proposed hs).version, (h.proposed hs).validated,
    (h.proposed hs).unconfirmed⟩
  attempts := h.attempts
  exhausted := h.attemptsLeft

section Evidence

theorem selectEvidence_some {env : TxEnv} {artifactId runId : String} {version : Option Nat}
    {row : EvidenceRow} (h : selectEvidence env artifactId runId version = some row) :
    ∃ a ∈ env.artifacts, ∃ m ∈ env.manifests, a.id = artifactId ∧ a.runId = runId ∧
      a.type = .terraform ∧ m.id = a.manifestId ∧ m.runId = runId ∧ some m.version = version ∧
      row = ⟨a.generation, m.id, a.hash, a.idempotencyKey⟩ := by
  unfold selectEvidence at h
  obtain ⟨a, ha, h⟩ := List.exists_of_findSome?_eq_some h
  split at h
  · rename_i hsel
    obtain ⟨m, hm, rfl⟩ := Option.map_eq_some_iff.mp h
    have hp := List.find?_some hm
    simp only [Bool.and_eq_true, beq_iff_eq] at hp
    exact ⟨a, ha, m, List.mem_of_find?_eq_some hm, hsel.1, hsel.2.1, hsel.2.2, hp.1.1,
      hp.1.2.trans hsel.2.1, hp.2, rfl⟩
  · cases h

variable [Platform]

structure Evidence (env : TxEnv) (run : ProvisioningRun) (artifactId : String) (a : ArtifactRow)
    (m : ManifestRow) : Prop where
  artifact : a ∈ env.artifacts ∧ a.id = artifactId ∧ a.runId = run.id ∧ a.type = .terraform
  manifest : m ∈ env.manifests ∧ m.id = a.manifestId ∧ m.runId = run.id ∧ some m.version = run.manifestVersion
  verified : ∃ found, verifyIacArtifact a.generation run m.id = .ok found ∧
    found.iacArtifactId = artifactId ∧ found.hash = a.hash
  key : a.idempotencyKey = iacIdempotencyKey run m.id

theorem verifyEvidence_ok {env : TxEnv} {run : ProvisioningRun} {artifactId : String} {payload : JsFields}
    {row : EvidenceRow} (h : verifyEvidence env run artifactId payload = .ok row) :
    ∃ a m, Evidence env run artifactId a m := by
  unfold verifyEvidence at h
  obtain ⟨⟨⟩, -, h⟩ := except_bind_ok.mp h
  obtain ⟨⟨⟩, -, h⟩ := except_bind_ok.mp h
  simp only at h
  split at h
  · cases h
  · rename_i found hsel
    obtain ⟨a, ha, m, hm, hid, hrun, ht, hmid, hmrun, hmv, rfl⟩ := selectEvidence_some hsel
    obtain ⟨artifact, hverified, h⟩ := except_bind_ok.mp h
    split at h
    · rename_i hmatch
      exact ⟨a, m, ⟨ha, hid, hrun, ht⟩, ⟨hm, hmid, hmrun, hmv⟩, ⟨artifact, hverified, hmatch.1, hmatch.2.1⟩,
        hmatch.2.2⟩
    · cases h

theorem iacGenerated_true {env : TxEnv} {run : ProvisioningRun} {state : WorkflowState}
    {payload : JsFields} (h : iacGenerated env run state payload = .ok true) :
    ∃ artifactId a m, run.iacArtifactId = some artifactId ∧ Evidence env run artifactId a m := by
  unfold iacGenerated at h
  split at h
  · rename_i artifactId hid
    split at h
    · cases h
    · obtain ⟨row, hrow, -⟩ := except_bind_ok.mp h
      obtain ⟨a, m, evidence⟩ := verifyEvidence_ok hrow
      exact ⟨artifactId, a, m, hid, evidence⟩
  · cases h

def Commit.candidate (c : Commit) : ProvisioningRun := c.before.with c.change.updates

structure Evidenced (c : Commit) : Prop where
  generating : c.before.state = .iacGenerating
  planned : c.after.state = .planCreating
  version : c.candidate.manifestVersion = c.after.manifestVersion
  evidence : ∃ artifactId a m, c.after.iacArtifactId = some artifactId ∧
    Evidence c.env c.candidate artifactId a m

variable [ComponentRegistry] {known : HttpRequest → Reply HttpResponse → Prop} {r : ProvisioningRun}
  {now : Ambient} {actorId : String} {change : Change}

theorem Intent.stores_artifact (intent : Intent known r now actorId change) (env : TxEnv)
    (h : (writtenRun env r change).state.planned = true ∨
      (writtenRun env r change).iacArtifactId ≠ r.iacArtifactId) :
    r.state = .iacGenerating ∧ ∃ manifestId artifact, change = artifactChange r manifestId artifact := by
  cases intent with
  | artifact manifestId artifact response hs verified => exact ⟨hs, manifestId, artifact, rfl⟩
  | confirm _ _ _ _ hc =>
    obtain ⟨-, -, -, rfl⟩ := confirmChange_ok hc
    rcases h with h | h
    · cases h
    · exact absurd rfl h
  | suspend _ _ _ hc =>
    obtain ⟨data, rfl⟩ := suspendChange_ok hc
    rcases h with h | h
    · cases h
    · exact absurd rfl h
  | answer _ _ _ _ _ _ _ _ _ hc =>
    obtain ⟨_, _, -, -, -, -, rfl⟩ := answerChange_ok hc
    rcases h with h | h
    · cases h
    · exact absurd rfl h
  | revise _ _ hs =>
    rcases h with h | h
    · rcases hs with hs | hs <;> simp [revisionChange, hs, WorkflowState.planned] at h
    · exact absurd rfl h
  | progress _ _ _ hs =>
    rcases h with h | h
    · simp [iacProgress, hs, WorkflowState.planned] at h
    · exact absurd rfl h
  | link _ draft | retry draft | endTurn _ _ draft =>
    rcases h with h | h
    · simp [sessionChange, attemptsChange, endTurnChange, draft.state, WorkflowState.planned] at h
    · exact absurd rfl h
  | _ =>
    rcases h with h | h
    · cases h
    · exact absurd rfl h

theorem Sound.evidenced {Ext : Type} {svc : Services Ext} {contract : Contract svc} {ext : Ext} {c : Commit}
    (sound : Sound contract ext c)
    (h : c.after.state.planned = true ∨ c.after.iacArtifactId ≠ c.before.iacArtifactId) : Evidenced c := by
  have written := sound.committed.written
  rw [written] at h
  obtain ⟨generating, manifestId, artifact, hchange⟩ := sound.intent.stores_artifact c.env h
  have hstate : c.change.state = some .planCreating := by rw [hchange]; rfl
  obtain ⟨generated, t, hg, mem, target, required⟩ := checkChange_state sound.committed.checked hstate
  have hreq : Condition.iacGenerated ∈ t.requiredConditions := by
    rw [generating] at mem
    simp only [allowedTransitions, exitToFailureOrCancellation, List.mem_cons, List.not_mem_nil,
      or_false] at mem
    rcases mem with rfl | rfl | rfl
    · exact List.mem_singleton.mpr rfl
    · cases target
    · cases target
  have htrue : generated = true := required _ hreq
  subst htrue
  obtain ⟨artifactId, a, m, hid, evidence⟩ := iacGenerated_true hg
  refine ⟨generating, ?_, ?_, artifactId, a, m, ?_, evidence⟩
  · rw [written, writtenRun_state, hstate]
    rfl
  · rw [written, writtenRun_manifestVersion]
    rfl
  · rw [written, writtenRun_iacArtifactId]
    exact hid

end Evidence

section Safety

variable [Platform] [ComponentRegistry] {Ext : Type} {svc : Services Ext} {clients : Option PlanningConfig}
  {contract : Contract svc} {w w' : World Ext}

theorem WorldInvariant.runInvariant (h : WorldInvariant contract w) {r : ProvisioningRun}
    (hr : r ∈ w.db.runs) : RunInvariant r := by
  obtain ⟨first, ⟨env, create, rfl⟩, way⟩ := h.history.trail r hr
  refine way.invariant (RunInvariant.initial env create) ?_
  intro c hc invariant
  have sound := h.sound c (List.mem_filter.mp hc).1
  rw [sound.committed.written]
  exact invariant.step sound.intent c.env sound.committed.checked

structure Vouched (w : World Ext) (r : ProvisioningRun) : Prop where
  loaded : r.state.consented = true → ContextLoaded r
  consented : r.state.consented = true → Consented r
  planned : r.state.planned = true → ∃ c ∈ w.commits, c.after = r ∧ Evidenced c
  stored : ∀ c ∈ runCommits w r.id, c.after.iacArtifactId ≠ c.before.iacArtifactId → Evidenced c
  unexecuted : r.state ≠ .executing

theorem WorldInvariant.vouched (h : WorldInvariant contract w) {r : ProvisioningRun}
    (hr : r ∈ w.db.runs) : Vouched w r where
  loaded hs := by
    refine (h.runInvariant hr).loaded ?_
    cases hst : r.state <;> rw [hst] at hs <;> first | rfl | cases hs
  consented hs := (h.runInvariant hr).consented hs
  planned hs := by
    obtain ⟨first, ⟨env, create, rfl⟩, way⟩ := h.history.trail r hr
    rcases way.ends with ⟨-, rfl⟩ | ⟨c, hc, rfl⟩
    · cases hs
    · have mem := (List.mem_filter.mp (List.mem_of_getLast? hc)).1
      exact ⟨c, mem, rfl, (h.sound c mem).evidenced (Or.inl hs)⟩
  stored c hc hne := (h.sound c (List.mem_filter.mp hc).1).evidenced (Or.inr hne)
  unexecuted hs := by
    have := ((h.runInvariant hr).planned (by rw [hs]; rfl)).1
    rw [hs] at this
    cases this

theorem consent_and_evidence {c : RunPool Ext} (h : Reachable svc clients c) :
    ∀ r ∈ c.shared.db.runs, Vouched c.shared r :=
  fun _ hr => h.holds.inv.vouched hr

end Safety

section Example

open Journey

attribute [local instance] journeyPlatform emptyRegistry

theorem consent_and_evidence_planned :
    Vouched (after (([manifestRow], [artifactRow]) : Deposits) completing) planned.after := by
  obtain ⟨_, reachable⟩ := planned_reachable
  have mem : planned.after ∈ (after (([manifestRow], [artifactRow]) : Deposits) completing).db.runs :=
    planned_runs ▸ List.mem_cons_self
  exact consent_and_evidence reachable planned.after mem

end Example

section Sessions

variable [Platform] [ComponentRegistry] {Ext : Type} {svc : Services Ext} {clients : Option PlanningConfig}
  {contract : Contract svc} {w w' : World Ext}

def LinkedRow (w : World Ext) (id sessionId : String) : Prop :=
  ∃ r ∈ w.db.runs, r.id = id ∧ r.agentSessionId = some sessionId

theorem Moves.linkedRow {id sessionId : String} (h : WorldInvariant contract w)
    (move : Moves contract w w') (linked : LinkedRow w id sessionId) : LinkedRow w' id sessionId := by
  obtain ⟨r, hr, hid, hsession⟩ := linked
  cases move with
  | insert db run start fresh created =>
    refine ⟨r, ?_, hid, hsession⟩
    dsimp only
    rw [created.runs]
    exact List.mem_append_left _ hr
  | commit c mem sound =>
    have runs := apply_runs h.history.unique mem sound.committed
    by_cases hk : r.id = c.after.id
    · obtain rfl := h.history.unique.eq hr mem (hk.trans sound.committed.id_after)
      refine ⟨c.after, ?_, hk.symm.trans hid, ?_⟩
      · dsimp only
        rw [runs]
        exact mem_replace_self hr hk
      · rw [sound.committed.written]
        exact sound.intent.session_kept c.env hsession
    · refine ⟨r, ?_, hid, hsession⟩
      dsimp only
      rw [runs]
      exact mem_replace_of_ne hr hk
  | _ => exact ⟨r, hr, hid, hsession⟩

theorem suspension_and_drafting {c : RunPool Ext} (h : Reachable svc clients c) :
    (∀ r ∈ c.shared.db.runs, DraftingInvariant r) ∧
    ∀ c', Pool.Steps (system svc clients) c c' → ∀ r ∈ c.shared.db.runs, ∀ r' ∈ c'.shared.db.runs,
      r'.id = r.id → ∀ sessionId, r.agentSessionId = some sessionId → r'.agentSessionId = some sessionId := by
  refine ⟨fun r hr => (h.holds.inv.runInvariant hr).drafting, ?_⟩
  intro c' hs r hr r' hr' hid sessionId hsession
  have holds' := (runDiscipline (Contract.none svc) clients).holds_steps h.holds hs
  have linked : LinkedRow c'.shared r.id sessionId := by
    refine (runDiscipline (Contract.none svc) clients).steps_invariant
      (P := fun d => LinkedRow d.shared r.id sessionId) ?_ h.holds hs ⟨r, hr, rfl, hsession⟩
    intro d d' holds step linked
    exact (step_moves holds step).linkedRow holds.inv linked
  obtain ⟨x, hx, hxid, hxs⟩ := linked
  rwa [holds'.inv.history.unique.eq hr' hx (hid.trans hxid.symm)]

end Sessions

section Example

open Journey

attribute [local instance] journeyPlatform emptyRegistry

theorem suspension_and_drafting_asked :
    DraftingInvariant (suspended true).after ∧ (suspended true).after.agentSessionId = some sessionId ∧
      ready.after.agentSessionId = some sessionId := by
  obtain ⟨_, reachable⟩ := asked_reachable true
  obtain ⟨_, records⟩ := recorded_steps true _
  obtain ⟨_, proposes⟩ := proposed_steps _
  have asked : (suspended true).after ∈ (after (([], []) : Deposits) (asking true)).db.runs :=
    suspended_runs ▸ List.mem_cons_self
  have drafted : ready.after ∈ (after (([manifestRow], []) : Deposits) proposing).db.runs :=
    ready_runs ▸ List.mem_cons_self
  obtain ⟨invariant, kept⟩ := suspension_and_drafting reachable
  exact ⟨invariant _ asked, rfl, kept _ (records.trans proposes) _ asked _ drafted rfl sessionId rfl⟩

end Example

end Provisr.Orchestrator
