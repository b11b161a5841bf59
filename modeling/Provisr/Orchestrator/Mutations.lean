import Provisr.Orchestrator.RunsService

namespace Provisr.Orchestrator

open Provisr.Foundation RunsService

section Written

variable (env : TxEnv) (r : ProvisioningRun) (c : Change)

@[simp] theorem writtenRun_id : (writtenRun env r c).id = r.id := rfl

@[simp] theorem writtenRun_workspaceId : (writtenRun env r c).workspaceId = r.workspaceId := rfl

@[simp] theorem writtenRun_stateVersion : (writtenRun env r c).stateVersion = r.stateVersion + 1 := rfl

@[simp] theorem writtenRun_state : (writtenRun env r c).state = c.state.getD r.state := rfl

@[simp] theorem writtenRun_manifestVersion :
    (writtenRun env r c).manifestVersion = c.updates.manifestVersion.getD r.manifestVersion := rfl

@[simp] theorem writtenRun_manifestValidatedVersion : (writtenRun env r c).manifestValidatedVersion =
    c.updates.manifestValidatedVersion.getD r.manifestValidatedVersion := rfl

@[simp] theorem writtenRun_manifestConfirmedVersion : (writtenRun env r c).manifestConfirmedVersion =
    c.updates.manifestConfirmedVersion.getD r.manifestConfirmedVersion := rfl

@[simp] theorem writtenRun_manifestValidationAttempts :
    (writtenRun env r c).manifestValidationAttempts =
      c.updates.manifestValidationAttempts.getD r.manifestValidationAttempts := rfl

@[simp] theorem writtenRun_agentSessionId :
    (writtenRun env r c).agentSessionId = c.updates.agentSessionId.getD r.agentSessionId := rfl

@[simp] theorem writtenRun_agentTurnPending :
    (writtenRun env r c).agentTurnPending = c.updates.agentTurnPending.getD r.agentTurnPending := rfl

@[simp] theorem writtenRun_currentQuestion :
    (writtenRun env r c).currentQuestion = c.updates.currentQuestion.getD r.currentQuestion := rfl

@[simp] theorem writtenRun_clarificationExpiresAt : (writtenRun env r c).clarificationExpiresAt =
    c.updates.clarificationExpiresAt.getD r.clarificationExpiresAt := rfl

@[simp] theorem writtenRun_policyRequirementsLoadedAt :
    (writtenRun env r c).policyRequirementsLoadedAt =
      c.updates.policyRequirementsLoadedAt.getD r.policyRequirementsLoadedAt := rfl

@[simp] theorem writtenRun_cloudContextLoadedAt : (writtenRun env r c).cloudContextLoadedAt =
    c.updates.cloudContextLoadedAt.getD r.cloudContextLoadedAt := rfl

@[simp] theorem writtenRun_iacArtifactId :
    (writtenRun env r c).iacArtifactId = c.updates.iacArtifactId.getD r.iacArtifactId := rfl

@[simp] theorem writtenRun_policyRequirements : (writtenRun env r c).policyRequirements =
    (c.updates.policyRequirements.map (Option.map PolicyRequirements.stored)).getD
      r.policyRequirements := rfl

@[simp] theorem writtenRun_cloudContext : (writtenRun env r c).cloudContext =
    (c.updates.cloudContext.map (Option.map CloudContext.stored)).getD r.cloudContext := rfl

@[simp] theorem writtenRun_answersHistory : (writtenRun env r c).answersHistory =
    (c.updates.answersHistory.map (List.map AnswerEntry.stored)).getD r.answersHistory := rfl

end Written

section Changes

theorem confirmChange_ok {version : Nat} {r : ProvisioningRun} {now : Ambient} {c : Change}
    (h : confirmChange version r now = .ok c) :
    r.state = .manifestValidating ∧ r.manifestVersion = some version ∧
      r.manifestValidatedVersion = some version ∧ c = confirmedChange version now := by
  unfold confirmChange at h
  split at h
  · cases h
  · rename_i hn
    simp only [not_or, not_not] at hn
    cases h
    exact ⟨hn.1, hn.2.1, hn.2.2, rfl⟩

theorem answerChange_ok {answers : JsFields} {key : Option String} {r : ProvisioningRun}
    {now : Ambient} {input : String} {c : Change} (h : answerChange answers key r now input = .ok c) :
    ∃ question expiresAt, r.state = .clarifying ∧ r.currentQuestion = some question ∧
      r.clarificationExpiresAt = some expiresAt ∧ now.dateNow < expiresAt ∧
      c = answeredChange r ⟨question, answers, now.dateNow, key.getD now.uuid⟩ input := by
  unfold answerChange at h
  split at h
  · rename_i question expiresAt hs hq he
    split at h
    · cases h
    · rename_i hlt
      cases h
      exact ⟨question, expiresAt, hs, hq, he, not_le.mp hlt, rfl⟩
  · cases h

theorem suspendChange_ok [ComponentRegistry] {r : ProvisioningRun} {question : ClarificationQuestion}
    {now : Ambient} {c : Change} (h : suspendChange r question now = .ok c) :
    ∃ data, c = suspendedChange r question data now := by
  unfold suspendChange at h
  obtain ⟨data, -, h⟩ := except_bind_ok.mp h
  cases h
  exact ⟨data, rfl⟩

end Changes

section Tables

theorem query_error {env : TxEnv} {s : Statement} {error : ServiceError} (h : env.query s = .error error) :
    error = .infrastructure := by
  unfold TxEnv.query at h
  split at h <;> cases h
  rfl

theorem selectRun_some {db : Db} {id workspaceId : String} {r : ProvisioningRun}
    (h : db.selectRun id workspaceId = some r) :
    r ∈ db.runs ∧ r.id = id ∧ r.workspaceId = workspaceId := by
  have hp := List.find?_some h
  simp only [Bool.and_eq_true, beq_iff_eq] at hp
  exact ⟨List.mem_of_find?_eq_some h, hp⟩

theorem insertRun_ok {env : TxEnv} {db db' : Db} {run : ProvisioningRun}
    (h : db.insertRun env run = .ok db') :
    db' = { db with runs := db.runs ++ [run] } ∧ ∀ r ∈ db.runs, r.id ≠ run.id := by
  unfold Db.insertRun at h
  obtain ⟨⟨⟩, -, h⟩ := except_bind_ok.mp h
  split at h
  · cases h
  · rename_i hn
    simp only [Bool.or_eq_true, not_or, Option.isSome_iff_ne_none, ne_eq, not_not] at hn
    cases h
    refine ⟨rfl, ?_⟩
    intro r hr he
    have := List.find?_eq_none.mp hn.1.1.1 r hr
    simp [he] at this

theorem createRun_ok {env : TxEnv} {db db' : Db} {c : CreateRun} {run : ProvisioningRun}
    (h : createRun env db c = .ok (run, db')) :
    (db' = db ∧ run ∈ db.runs) ∨ (run = initialRun env c ∧ (∀ r ∈ db.runs, r.id ≠ run.id) ∧
      db' = (({ db with runs := db.runs ++ [run] } : Db).appendAudit (createdAudit c run)).publish
        (createdEvent env run)) := by
  unfold createRun at h
  obtain ⟨⟨⟩, -, h⟩ := except_bind_ok.mp h
  obtain ⟨⟨⟩, -, h⟩ := except_bind_ok.mp h
  obtain ⟨⟨⟩, -, h⟩ := except_bind_ok.mp h
  obtain ⟨⟨⟩, -, h⟩ := except_bind_ok.mp h
  obtain ⟨⟨⟩, -, h⟩ := except_bind_ok.mp h
  split at h
  · rename_i found hfound
    split at h
    · cases h
    · obtain ⟨⟨⟩, -, h⟩ := except_bind_ok.mp h
      cases h
      exact Or.inl ⟨rfl, List.mem_of_find?_eq_some hfound⟩
  · obtain ⟨⟨⟩, -, h⟩ := except_bind_ok.mp h
    split at h
    · cases h
    · obtain ⟨inserted, hins, h⟩ := except_bind_ok.mp h
      obtain ⟨⟨⟩, -, h⟩ := except_bind_ok.mp h
      obtain ⟨⟨⟩, -, h⟩ := except_bind_ok.mp h
      obtain ⟨⟨⟩, -, h⟩ := except_bind_ok.mp h
      cases h
      obtain ⟨rfl, fresh⟩ := insertRun_ok hins
      exact Or.inr ⟨rfl, fresh, rfl⟩

end Tables

section Checks

variable [Platform]

theorem checkChange_state {env : TxEnv} {r : ProvisioningRun} {c : Change} {s : WorkflowState}
    (h : checkChange env r c = .ok ()) (hs : c.state = some s) :
    ∃ generated t, iacGenerated env (r.with c.updates) s c.payload = .ok generated ∧
      t ∈ allowedTransitions r.state ∧ t.target = s ∧
      ∀ x ∈ t.requiredConditions,
        ({ (r.with c.updates).conditions with iacGenerated := generated }).get x = true := by
  unfold checkChange at h
  rw [hs] at h
  simp only at h
  obtain ⟨generated, hg, h⟩ := except_bind_ok.mp h
  split at h
  · rename_i t ht
    obtain ⟨hmem, htarget, hreq⟩ := assertTransition_ok ht
    exact ⟨generated, t, hg, hmem, htarget, hreq⟩
  · cases h

theorem checkChange_active {env : TxEnv} {r : ProvisioningRun} {c : Change}
    (h : checkChange env r c = .ok ()) : r.state.isTerminal = false := by
  cases hs : c.state with
  | none =>
    unfold checkChange at h
    rw [hs] at h
    simp only at h
    split at h
    · cases h
    · rename_i hn
      simpa using hn
  | some s =>
    obtain ⟨_, t, _, hmem, _⟩ := checkChange_state h hs
    cases hst : r.state <;> simp [hst, allowedTransitions] at hmem <;> rfl

end Checks

variable [Platform] [ComponentRegistry]

structure Committed (c : Commit) : Prop where
  components : validateSseComponents c.change.eventType c.change.payload = .ok ()
  checked : checkChange c.env c.before c.change = .ok ()
  permitted : c.actorId ≠ orchestrator → c.env.assertMutationPermission
    (c.before.state == .approving && c.change.state != some .cancelled) = .ok ()
  written : c.after = writtenRun c.env c.before c.change
  storable : c.change.updates.storable = true
  checks : c.after.satisfiesChecks = true
  references : referencesExist c.env c.after = true
  recorded : Json.storableFields (changePayload c.before c.after c.change) = true

theorem mutateLocked_ok {env : TxEnv} {actorId : String} {operation : Operation}
    {run : ProvisioningRun} {c : Commit} (h : mutateLocked env actorId operation run = .ok c) :
    c.before = run ∧ c.env = env ∧ c.actorId = actorId ∧
      operation run ⟨env.dateNow, env.uuid⟩ = .ok c.change ∧ Committed c := by
  unfold mutateLocked at h
  obtain ⟨change, hop, h⟩ := except_bind_ok.mp h
  obtain ⟨⟨⟩, hcomp, h⟩ := except_bind_ok.mp h
  obtain ⟨hperm, h⟩ : (actorId ≠ orchestrator →
      env.assertMutationPermission (run.state == .approving && change.state != some .cancelled) =
        .ok ()) ∧ (do
      checkChange env run change
      writeRun env change (writtenRun env run change)
      recordChange env (changePayload run (writtenRun env run change) change)
      env.query .commit
      return (⟨actorId, env, run, change, writtenRun env run change⟩ : Commit)) = .ok c := by
    split at h
    · obtain ⟨⟨⟩, hperm, h⟩ := except_bind_ok.mp h
      exact ⟨fun _ => hperm, h⟩
    · rename_i hactor
      exact ⟨fun hne => absurd hne hactor, h⟩
  obtain ⟨⟨⟩, hcheck, h⟩ := except_bind_ok.mp h
  obtain ⟨⟨⟩, hwrite, h⟩ := except_bind_ok.mp h
  obtain ⟨⟨⟩, hrecord, h⟩ := except_bind_ok.mp h
  obtain ⟨⟨⟩, -, h⟩ := except_bind_ok.mp h
  cases h
  unfold recordChange at hrecord
  obtain ⟨⟨⟩, -, hrecord⟩ := except_bind_ok.mp hrecord
  obtain ⟨⟨⟩, -, hrecord⟩ := except_bind_ok.mp hrecord
  have recorded : Json.storableFields (changePayload run (writtenRun env run change) change) = true := by
    split at hrecord
    · assumption
    · cases hrecord
  unfold writeRun at hwrite
  obtain ⟨⟨⟩, -, hwrite⟩ := except_bind_ok.mp hwrite
  split at hwrite
  · rename_i hall
    simp only [Bool.and_eq_true] at hall
    exact ⟨rfl, rfl, rfl, hop, hcomp, hcheck, hperm, rfl, hall.1.1, hall.1.2, hall.2, recorded⟩
  · cases hwrite

theorem mutate_ok {env : TxEnv} {db : Db} {id workspaceId : String} {expectedVersion : Nat}
    {actorId : String} {operation : Operation} {c : Commit}
    (h : mutate env db id workspaceId expectedVersion actorId operation = .ok c) :
    db.selectRun id workspaceId = some c.before ∧ c.before.stateVersion = expectedVersion ∧
      c.env = env ∧ c.actorId = actorId ∧
      operation c.before ⟨env.dateNow, env.uuid⟩ = .ok c.change ∧ Committed c := by
  unfold mutate at h
  obtain ⟨⟨⟩, -, h⟩ := except_bind_ok.mp h
  obtain ⟨⟨⟩, -, h⟩ := except_bind_ok.mp h
  split at h
  · cases h
  · rename_i run hrun
    split at h
    · cases h
    · rename_i hv
      obtain ⟨rfl, henv, hactor, hop, hc⟩ := mutateLocked_ok h
      exact ⟨hrun, not_not.mp hv, henv, hactor, hop, hc⟩

theorem mutate_of_committed {db : Db} {c : Commit} {operation : Operation} (calm : ∀ q, c.env.fails q = false)
    (selected : db.selectRun c.before.id c.before.workspaceId = some c.before)
    (hop : operation c.before ⟨c.env.dateNow, c.env.uuid⟩ = .ok c.change) (h : Committed c) :
    mutate c.env db c.before.id c.before.workspaceId c.before.stateVersion c.actorId operation = .ok c := by
  have query : ∀ q, c.env.query q = .ok () := fun q => by
    unfold TxEnv.query
    rw [calm q]
    rfl
  have write : writeRun c.env c.change c.after = .ok () := by
    unfold writeRun
    rw [query, h.storable, h.checks, h.references]
    rfl
  have record : recordChange c.env (changePayload c.before c.after c.change) = .ok () := by
    unfold recordChange
    rw [query, query, h.recorded]
    rfl
  have locked : mutateLocked c.env c.actorId operation c.before = .ok c := by
    unfold mutateLocked
    rw [hop]
    have written := h.written
    rw [written] at write record
    simp only [bind, Except.bind, h.components, h.checked, write, record, query, pure, Except.pure]
    by_cases hactor : c.actorId = orchestrator
    · rw [if_neg (not_not.mpr hactor)]
      exact congrArg Except.ok (by cases c; simp_all)
    · rw [if_pos hactor, h.permitted hactor]
      exact congrArg Except.ok (by cases c; simp_all)
  unfold mutate
  rw [query, query, selected]
  simp only [bind, Except.bind, ne_eq, not_true_eq_false, if_false]
  exact locked

theorem exec_of_committed {Ext : Type} {svc : Services Ext} {w : World Ext} {c : Commit} {operation : Operation}
    (calm : ∀ q, c.env.fails q = false) (meets : Meets svc c.env w)
    (selected : w.db.selectRun c.before.id c.before.workspaceId = some c.before)
    (hop : operation c.before ⟨c.env.dateNow, c.env.uuid⟩ = .ok c.change) (h : Committed c) :
    exec svc (.mutate c.before.id c.before.workspaceId c.before.stateVersion c.actorId operation) w (.ok c.after)
      { w with db := c.apply w.db, commits := w.commits ++ [c] } := by
  refine ⟨c.env, meets, ?_⟩
  rw [mutate_of_committed calm selected hop h]
  exact ⟨Or.inl rfl, rfl⟩

omit [Platform] [ComponentRegistry] in
theorem selectRun_single {db : Db} {r : ProvisioningRun} (runs : db.runs = [r]) :
    db.selectRun r.id r.workspaceId = some r := by
  simp [Db.selectRun, runs]

theorem Committed.apply_single {db : Db} {c : Commit} (h : Committed c) (runs : db.runs = [c.before]) :
    (c.apply db).runs = [c.after] := by
  have id : c.after.id = c.before.id := by rw [h.written, writtenRun_id]
  have workspace : c.after.workspaceId = c.before.workspaceId := by rw [h.written, writtenRun_workspaceId]
  change (db.updateRun c.after c.before.stateVersion).runs = _
  simp [Db.updateRun, runs, id, workspace]

-- The payload keys `mutate` sets itself.
def reservedKeys : List String := ["run_id", "from", "to", "state_version"]

def Unreserved (payload : JsFields) : Prop := ∀ k ∈ reservedKeys, k ∉ payload.map Prod.fst

structure Drafting (r : ProvisioningRun) : Prop where
  state : r.state = .manifestCreating
  pending : r.agentTurnPending = true

-- The changes the operations make, each with what its call site has made sure of about the row it
-- is applied to. `known` are the HTTP exchanges the calling task has had.
inductive Intent (known : HttpRequest → Reply HttpResponse → Prop) (r : ProvisioningRun) (now : Ambient) :
    String → Change → Prop
  | receive (h : r.state = .received) : Intent known r now orchestrator (transitionChange .policyLoaded {})
  | policy (requirements : PolicyRequirements) (at_ : Date) (h : r.state = .policyLoaded) :
      Intent known r now orchestrator
        (transitionChange .cloudContextLoaded (policyUpdates requirements at_))
  | context (context : CloudContext) (at_ : Date) (h : r.state = .cloudContextLoaded) :
      Intent known r now orchestrator
        (transitionChange .manifestCreating (contextUpdates context at_))
  | fail (code message : String) :
      Intent known r now orchestrator (transitionChange .failed (errorUpdates code message))
  | cancel (actorId : String) : Intent known r now actorId (transitionChange .cancelled {})
  | confirm (actorId : String) (version : Nat) (change : Change) (positive : 1 ≤ version)
      (h : confirmChange version r now = .ok change) : Intent known r now actorId change
  | suspend (question : ClarificationQuestion) (change : Change) (draft : Drafting r)
      (h : suspendChange r question now = .ok change) : Intent known r now orchestrator change
  | answer (actorId : String) (answers : JsFields) (key : Option String) (change : Change)
      (question : ClarificationQuestion) (given : Option JsJson) (asked : r.currentQuestion = some question)
      (valid : validateAnswers question given = .ok answers)
      (fresh : ∀ k, key = some k → k ≠ "" → findEntry r k = none)
      (h : answerChange answers key r now (agentInputText question answers) = .ok change) :
      Intent known r now actorId change
  | revise (actorId prompt : String) (h : r.state = .manifestCreating ∨ r.state = .manifestValidating)
      (idle : r.agentTurnPending = false) : Intent known r now actorId (revisionChange r prompt)
  | reject (actorId reason : String) (h : r.state = .approving) :
      Intent known r now actorId (rejectionChange reason)
  | progress (manifestId stage message : String) (h : r.state = .iacGenerating) :
      Intent known r now orchestrator (iacProgress r manifestId stage message)
  | artifact (manifestId : String) (artifact : IacArtifact) (response : JsJson)
      (h : r.state = .iacGenerating) (verified : verifyIacArtifact response r manifestId = .ok artifact) :
      Intent known r now orchestrator (artifactChange r manifestId artifact)
  | link (sessionId : String) (draft : Drafting r) (h : r.agentSessionId = none) :
      Intent known r now orchestrator (sessionChange sessionId)
  | retry (draft : Drafting r) (h : r.manifestValidationAttempts + 1 < maxAttempts) :
      Intent known r now orchestrator (attemptsChange (r.manifestValidationAttempts + 1))
  | exhaust (draft : Drafting r) (h : maxAttempts ≤ r.manifestValidationAttempts + 1) :
      Intent known r now orchestrator
        (transitionChange .failed (exhaustedUpdates (r.manifestValidationAttempts + 1)))
  | ready (config : PlanningConfig) (message : String) (manifest : JsFields) (version : Nat)
      (components : List JsJson) (response : HttpResponse) (draft : Drafting r)
      (exchange : known (PlanningClients.post config .mcp "/tools/create_manifest" r
        (PlanningClients.createManifestBody r (draftOutput message manifest))) (.ok response))
      (reply : PlanningClients.manifestReplySchema response.json = .ok (.stored version))
      (accepted : response.ok = true)
      (shown : manifestComponents manifest r.id version = .ok components) :
      Intent known r now orchestrator (readyChange version message components)
  | endTurn (eventType : RunEventType) (payload : JsFields) (draft : Drafting r)
      (free : Unreserved payload)
      (kind : eventType = .componentPayload ∨ eventType = .assistantMessage) :
      Intent known r now orchestrator (endTurnChange eventType payload)
  | rejectComponent (type version : String) (issues : List ComponentPayloadIssue) :
      Intent known r now orchestrator (rejectedComponentChange type version issues)

theorem Intent.mono {known known' : HttpRequest → Reply HttpResponse → Prop} {r : ProvisioningRun}
    {now : Ambient} {actorId : String} {change : Change} (h : Intent known r now actorId change)
    (hk : ∀ q reply, known q reply → known' q reply) : Intent known' r now actorId change := by
  cases h with
  | receive h => exact .receive h
  | policy requirements at_ h => exact .policy requirements at_ h
  | context context at_ h => exact .context context at_ h
  | fail code message => exact .fail code message
  | cancel => exact .cancel _
  | confirm _ version _ positive h => exact .confirm _ version _ positive h
  | suspend question _ draft h => exact .suspend question _ draft h
  | answer _ answers key _ question given asked valid fresh h =>
    exact .answer _ answers key _ question given asked valid fresh h
  | revise _ prompt h idle => exact .revise _ prompt h idle
  | reject _ reason h => exact .reject _ reason h
  | progress manifestId stage message h => exact .progress manifestId stage message h
  | artifact manifestId artifact response h verified =>
    exact .artifact manifestId artifact response h verified
  | link sessionId draft h => exact .link sessionId draft h
  | retry draft h => exact .retry draft h
  | exhaust draft h => exact .exhaust draft h
  | ready config message manifest version components response draft exchange reply accepted shown =>
    exact .ready config message manifest version components response draft (hk _ _ exchange) reply
      accepted shown
  | endTurn eventType payload draft free kind => exact .endTurn eventType payload draft free kind
  | rejectComponent type version issues => exact .rejectComponent type version issues

theorem Intent.unreserved {known : HttpRequest → Reply HttpResponse → Prop} {r : ProvisioningRun}
    {now : Ambient} {actorId : String} {change : Change} (h : Intent known r now actorId change) :
    Unreserved change.payload := by
  have keys : ∀ {payload : JsFields} (ks : List String), payload.map Prod.fst = ks →
      (∀ k ∈ reservedKeys, k ∉ ks) → Unreserved payload := by
    rintro payload ks rfl hks
    exact hks
  cases h with
  | receive | policy | context | fail | cancel | revise | link | retry | exhaust =>
    exact keys [] rfl (by decide)
  | confirm _ _ _ _ h =>
    obtain ⟨-, -, -, rfl⟩ := confirmChange_ok h
    exact keys ["manifest_version"] rfl (by decide)
  | suspend _ _ _ h =>
    obtain ⟨data, rfl⟩ := suspendChange_ok h
    exact keys ["question", "component"] rfl (by decide)
  | answer _ _ _ _ _ _ _ _ _ h =>
    obtain ⟨_, _, -, -, -, -, rfl⟩ := answerChange_ok h
    exact keys [] rfl (by decide)
  | reject => exact keys ["decision", "reason"] rfl (by decide)
  | progress => exact keys ["manifest_id", "manifest_version", "stage", "message"] rfl (by decide)
  | artifact => exact keys ["iac_artifact_id", "manifest_id", "manifest_version", "hash"] rfl (by decide)
  | ready => exact keys ["manifest_version", "message", "components"] rfl (by decide)
  | endTurn _ _ _ free => exact free
  | rejectComponent =>
    exact keys ["error_code", "error_message", "component_type", "component_version",
      "validation_issues"] rfl (by decide)

end Provisr.Orchestrator
