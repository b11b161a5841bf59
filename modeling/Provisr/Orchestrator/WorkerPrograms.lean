import Provisr.Orchestrator.RunPrograms

namespace Provisr.Orchestrator

open Provisr.Foundation RunsService

section Worker

variable [Platform] [ComponentRegistry] (config : PlanningConfig) {seen : Seen} {run : ProvisioningRun}

def Held (seen : Seen) (e : ServiceError × ProvisioningRun) : Prop := Snapshot seen e.2

def Done {α : Type} (_ : Seen) (_ : α) : Prop := True

theorem wp_holding {α : Type} {p : Action α} {Q : Seen → α → Prop}
    (h : Async.wp pre granted p Q (fun s _ => Snapshot s run) seen) :
    Async.wp pre granted (holding run p) Q Held seen :=
  (Async.wp_relabel p _).mpr h

theorem wp_request {service : Service} {path : String} {body : JsJson} {Q : Seen → JsJson → Prop}
    {E : Seen → ServiceError → Prop}
    (hQ : ∀ s response reply, seen <+: s →
      exchanged s (PlanningClients.post config service path run body) (.ok response) →
      response.ok = true → response.json = some reply → Q s reply)
    (hE : ∀ s e, seen <+: s → E s e) :
    Async.wp pre granted (PlanningClients.request config service path run body) Q E seen := by
  unfold PlanningClients.request PlanningClients.fetch
  rw [Async.wp_bind]
  refine (Async.wp_attempt _ _).mpr ⟨trivial, ?_⟩
  intro r _
  have hp := List.prefix_append seen
    [(⟨Op.fetch (PlanningClients.post config service path run body), r⟩ : Obs Ret)]
  match r with
  | .error e => exact hE _ e hp
  | .ok response =>
    refine (Async.outcome_ok response).mpr ?_
    cases hok : response.ok with
    | false => exact hE _ _ hp
    | true =>
      cases hj : response.json with
      | none => exact hE _ _ hp
      | some j =>
        exact hQ _ response j hp (List.mem_append_right _ (List.mem_singleton.mpr rfl)) hok hj

theorem wp_createManifest {output : JsFields} {Q : Seen → PlanningClients.ManifestReply → Prop}
    {E : Seen → ServiceError → Prop}
    (hQ : ∀ s response reply, seen <+: s →
      exchanged s (PlanningClients.post config .mcp "/tools/create_manifest" run
        (PlanningClients.createManifestBody run output)) (.ok response) → response.ok = true →
      PlanningClients.manifestReplySchema response.json = .ok reply → Q s reply)
    (hE : ∀ s e, seen <+: s → E s e) :
    Async.wp pre granted (PlanningClients.createManifest config run output) Q E seen := by
  unfold PlanningClients.createManifest
  rw [Async.wp_bind]
  refine wp_request config ?_ hE
  intro s response j hs exchange accepted hj
  refine (Async.wp_ofExcept _).mpr ?_
  cases hreply : PlanningClients.manifestReplySchema (some j) with
  | dirty | aborted => exact hE _ _ hs
  | ok reply => exact hQ s response reply hs exchange accepted (hj ▸ hreply)

theorem wp_suspendRun {payload : JsJson} (snap : Snapshot seen run) (draft : Drafting run)
    {Q : Seen → ProvisioningRun → Prop} {E : Seen → ServiceError → Prop}
    (hQ : ∀ s row, seen <+: s → Q s row) (hE : ∀ s e, seen <+: s → E s e) :
    Async.wp pre granted (suspendRun run payload) Q E seen := by
  unfold suspendRun
  rw [Async.wp_bind]
  refine (quiet_parse _).wp ?_ hE
  intro s question hs
  refine wp_mutateRun (snap.mono hs) (fun now change h => .suspend question change draft h) ?_ ?_
  · exact fun s' env change hs' _ _ => hQ s' _ (hs.trans hs')
  · exact fun s' e hs' => hE s' e (hs.trans hs')

theorem wp_endTurn {change : Change} (snap : Snapshot seen run)
    (intent : ∀ now, Intent (exchanged seen) run now orchestrator change)
    {Q : Seen → Unit → Prop} {E : Seen → ServiceError → Prop}
    (hQ : ∀ s, seen <+: s → Q s ()) (hE : ∀ s e, seen <+: s → E s e) :
    Async.wp pre granted (endTurn run change) Q E seen := by
  unfold endTurn
  rw [Async.wp_bind]
  exact wp_mutateHeld snap intent (fun s _ hs _ => hQ s hs) hE

-- The fuel of the loop is never used up: every turn but the last costs one of the attempts.
theorem wp_agentTurns (fuel : Nat) {message : String} (snap : Snapshot seen run) (draft : Drafting run)
    (fuelled : 0 < fuel) (enough : maxAttempts ≤ run.manifestValidationAttempts + fuel) :
    Async.wp pre granted (agentTurns config fuel run message) Done Held seen := by
  induction fuel generalizing seen run message with
  | zero => exact absurd fuelled (lt_irrefl 0)
  | succ fuel ih =>
    unfold agentTurns
    rw [Async.wp_bind]
    refine wp_holding ((quiet_agentTurn config run message).wp ?_ (fun _ _ hs => snap.mono hs))
    intro s output hs
    have snap := snap.mono hs
    have held : ∀ s' (e : ServiceError), s <+: s' → Snapshot s' run := fun _ _ hs' => snap.mono hs'
    cases output with
    | assistantMessage text =>
      refine wp_holding (wp_endTurn snap (fun now => .endTurn _ _ draft ?_ (Or.inr rfl))
        (fun _ _ => trivial) held)
      exact unreserved_of_keys ["message"] rfl (by decide)
    | toolSummary name summary =>
      refine wp_holding (wp_endTurn snap (fun now => .endTurn _ _ draft ?_ (Or.inr rfl))
        (fun _ _ => trivial) held)
      exact unreserved_of_keys ["tool_name", "summary"] rfl (by decide)
    | componentPayload id version payload =>
      dsimp only
      rw [Async.wp_bind]
      refine wp_holding ((quiet_ofExcept _).wp ?_ held)
      intro s' data hs'
      refine wp_holding (wp_endTurn (snap.mono hs') (fun now => .endTurn _ _ draft ?_ (Or.inl rfl))
        (fun _ _ => trivial) (fun _ _ h => snap.mono (hs'.trans h)))
      exact unreserved_of_keys ["component"] rfl (by decide)
    | clarificationQuestion question =>
      dsimp only
      rw [Async.wp_bind]
      exact wp_holding (wp_suspendRun snap draft (fun _ _ _ => trivial) held)
    | error code message retryable => exact snap
    | manifestDraft text manifest =>
      dsimp only
      rw [Async.wp_bind]
      refine wp_holding (wp_createManifest config ?_ held)
      intro s' response reply hs' exchange accepted hreply
      have snap := snap.mono hs'
      have held : ∀ s'' (e : ServiceError), s' <+: s'' → Snapshot s'' run :=
        fun _ _ h => snap.mono h
      cases reply with
      | rejected errors =>
        dsimp only
        split
        · rename_i hmax
          refine wp_holding ?_
          unfold failRun
          rw [Async.wp_bind]
          refine wp_mutateRun snap ?_ (fun _ _ _ _ _ _ => trivial) held
          intro now change h
          cases h
          exact .exhaust draft hmax
        · rename_i hmax
          have hlt : run.manifestValidationAttempts + 1 < maxAttempts := not_le.mp hmax
          rw [Async.wp_bind]
          refine wp_holding (wp_mutateHeld snap (fun _ => .retry draft hlt) ?_ held)
          intro s'' env _ snap'
          refine ih snap' ⟨draft.state, draft.pending⟩ ?_ ?_
          · omega
          · simp only [writtenRun_manifestValidationAttempts, attemptsChange, Option.getD_some]
            omega
      | stored version =>
        dsimp only
        rw [Async.wp_bind]
        refine wp_holding ((Async.wp_ofExcept _).mpr ?_)
        cases hshown : manifestComponents manifest run.id version with
        | error e => exact snap
        | ok components =>
          refine wp_holding (wp_endTurn snap ?_ (fun _ _ => trivial) held)
          exact fun _ => .ready config text manifest version components response draft exchange hreply
            accepted hshown

theorem wp_dispatchBody (snap : Snapshot seen run) (draft : Drafting run) :
    Async.wp pre granted (dispatchBody config run) Done Held seen := by
  unfold dispatchBody
  split
  · exact snap
  · have turns : ∀ s r, Snapshot s r → Drafting r →
        Async.wp pre granted (agentTurns config maxAttempts r (r.agentInput.getD r.prompt)) Done Held s :=
      fun s r hs hd => wp_agentTurns config maxAttempts hs hd (by decide) (Nat.le_add_left _ _)
    cases hsession : run.agentSessionId with
    | some sessionId => exact turns seen run snap draft
    | none =>
      dsimp only
      rw [Async.wp_bind]
      refine wp_holding ((quiet_createAgentSession config run).wp ?_ (fun _ _ hs => snap.mono hs))
      intro s sessionId hs
      rw [Async.wp_bind]
      refine wp_holding (wp_mutateHeld (snap.mono hs) (fun _ => .link sessionId draft hsession) ?_
        (fun _ _ hs' => snap.mono (hs.trans hs')))
      exact fun s' env _ snap' => turns s' _ snap' ⟨draft.state, draft.pending⟩

theorem wp_stillAt {Q : Seen → Option ProvisioningRun → Prop} {E : Seen → ServiceError → Prop}
    (none : ∀ s, seen <+: s → Q s none)
    (some : ∀ s row, seen <+: s → Snapshot s row → row.id = run.id →
      row.stateVersion = run.stateVersion → row.state.isTerminal = false → Q s (some row))
    (hE : ∀ s e, seen <+: s → E s e) : Async.wp pre granted (stillAt run) Q E seen := by
  unfold stillAt
  rw [Async.wp_bind]
  refine wp_getRun ?_ hE
  intro s row hs snap hid _
  split
  · exact none s hs
  · rename_i h
    simp only [not_or, not_not, Bool.not_eq_true] at h
    exact some s row hs snap hid h.1 h.2

theorem wp_dispatchAgent (snap : Snapshot seen run) (draft : Drafting run) {E : Seen → ServiceError → Prop}
    (hE : ∀ s e, seen <+: s → E s e) :
    Async.wp pre granted (dispatchAgent config run) Done E seen := by
  unfold dispatchAgent
  rw [Async.wp_handle]
  refine Async.wp_mono (wp_dispatchBody config snap draft) (fun _ _ _ _ => trivial) ?_
  rintro s ⟨error, held⟩ hs (snap : Snapshot s held)
  dsimp only
  rw [Async.wp_bind]
  refine quiet_stopping.wp ?_ (fun _ e h => hE _ e (hs.trans h))
  intro s' stop hs'
  have err : ∀ s'' e, s' <+: s'' → E s'' e := fun _ e h => hE _ e (hs.trans (hs'.trans h))
  cases stop with
  | true => trivial
  | false =>
    refine (?_ : Async.wp pre granted (if error.isConflict then _ else _) Done E s')
    split
    · trivial
    · rw [Async.wp_bind]
      refine wp_stillAt (fun _ _ => trivial) ?_ err
      intro s'' row hs'' _ _ _ _
      have snap'' := snap.mono (hs'.trans hs'')
      have err' : ∀ s₃ e, s'' <+: s₃ → E s₃ e := fun _ e h => err _ e (hs''.trans h)
      have fail : Async.wp pre granted (do
          let timedOut ← aborted
          failRun held (errorUpdates (if timedOut then "AGENT_TIMEOUT" else "AGENT_FAILED")
            (if timedOut then "Agent request timed out after 120 seconds."
              else "The agent could not complete this request. Please try again."))) Done E s'' := by
        rw [Async.wp_bind]
        refine quiet_aborted.wp ?_ err'
        intro s₃ timedOut hs₃
        exact wp_failRun (snap''.mono hs₃) (fun _ _ => trivial) (fun _ e h => err' _ e (hs₃.trans h))
      cases error with
      | componentPayload type version issues =>
        exact wp_endTurn snap'' (fun _ => .rejectComponent type version issues) (fun _ _ => trivial) err'
      | _ => exact fail

theorem wp_generateIacBody (snap : Snapshot seen run) (generating : run.state = .iacGenerating) :
    Async.wp pre granted (generateIacBody config run) Done Held seen := by
  unfold generateIacBody
  rw [Async.wp_bind]
  refine wp_holding ((quiet_ofExcept _).wp ?_ (fun _ _ h => snap.mono h))
  intro s _ hs
  have snap := snap.mono hs
  rw [Async.wp_bind]
  refine wp_holding ((quiet_attempt (.selectManifestId run.id run.manifestVersion run.workspaceId) _
    fun _ => trivial).wp ?_ (fun _ _ h => snap.mono h))
  intro s found hs
  have snap := snap.mono hs
  cases found with
  | none => exact snap
  | some manifestId =>
    dsimp only
    rw [Async.wp_bind]
    refine wp_holding (wp_mutateHeld snap (fun _ => .progress _ _ _ generating) ?_
      (fun _ _ h => snap.mono h))
    intro s env hs snap
    rw [Async.wp_bind]
    refine wp_holding ((quiet_generateIac config _ manifestId).wp ?_ (fun _ _ h => snap.mono h))
    intro s response hs
    have snap := snap.mono hs
    rw [Async.wp_bind]
    refine wp_holding (quiet_aborted.wp ?_ (fun _ _ h => snap.mono h))
    intro s stopped hs
    have snap := snap.mono hs
    split
    · exact snap
    · rw [Async.wp_bind]
      refine wp_holding (wp_mutateHeld snap (fun _ => .progress _ _ _ generating) ?_
        (fun _ _ h => snap.mono h))
      intro s env hs snap
      rw [Async.wp_bind]
      refine wp_holding ((Async.wp_ofExcept _).mpr ?_)
      cases verified : verifyIacArtifact response _ manifestId with
      | error e => exact snap
      | ok artifact =>
        refine (Async.outcome_ok artifact).mpr ?_
        rw [Async.wp_bind]
        exact wp_holding (wp_mutateHeld snap
          (fun _ => .artifact manifestId artifact response generating verified)
          (fun _ _ _ _ => trivial) (fun _ _ h => snap.mono h))

theorem wp_generateIac (snap : Snapshot seen run) (generating : run.state = .iacGenerating)
    {E : Seen → ServiceError → Prop} (hE : ∀ s e, seen <+: s → E s e) :
    Async.wp pre granted (generateIac config run) Done E seen := by
  unfold generateIac
  rw [Async.wp_handle]
  refine Async.wp_mono (wp_generateIacBody config snap generating) (fun _ _ _ _ => trivial) ?_
  rintro s ⟨error, held⟩ hs (snap : Snapshot s held)
  dsimp only
  rw [Async.wp_bind]
  refine quiet_stopping.wp ?_ (fun _ e h => hE _ e (hs.trans h))
  intro s' stop hs'
  have err : ∀ s'' e, s' <+: s'' → E s'' e := fun _ e h => hE _ e (hs.trans (hs'.trans h))
  split
  · trivial
  · rw [Async.wp_bind]
    refine wp_getRun ?_ err
    intro s'' current hs'' _ _ _
    split
    · trivial
    · have err' : ∀ s₃ e, s'' <+: s₃ → E s₃ e := fun _ e h => err _ e (hs''.trans h)
      rw [Async.wp_bind]
      refine quiet_aborted.wp ?_ err'
      intro s₃ timedOut hs₃
      rw [Async.wp_handle]
      refine wp_failRun (snap.mono (hs'.trans (hs''.trans hs₃))) (fun _ _ => trivial) ?_
      intro s₄ failure hs₄
      split
      · trivial
      · exact err' s₄ _ (hs₃.trans hs₄)

theorem wp_advanceAt {state : WorkflowState} {step : ProvisioningRun → Action ProvisioningRun}
    {Q : Seen → ProvisioningRun → Prop} (stay : run.state ≠ state → Q seen run)
    (advance : run.state = state → Async.wp pre granted (step run) Q (fun s _ => Snapshot s run) seen) :
    Async.wp pre granted (advanceAt state step run) Q Held seen := by
  unfold advanceAt
  split
  · rename_i h
    exact wp_holding (advance h)
  · rename_i h
    exact stay h

variable {Q : Seen → ProvisioningRun → Prop} {E : Seen → ServiceError → Prop}

theorem wp_receive (snap : Snapshot seen run) (received : run.state = .received)
    (hQ : ∀ s row, seen <+: s → Snapshot s row → Q s row) (hE : ∀ s e, seen <+: s → E s e) :
    Async.wp pre granted (receive run) Q E seen := by
  refine wp_mutateRun snap ?_ (fun s _ _ hs _ h => hQ s _ hs h) hE
  intro now _ h
  cases h
  exact .receive received

theorem wp_loadPolicy (snap : Snapshot seen run) (state : run.state = .policyLoaded)
    (hQ : ∀ s row, seen <+: s → Snapshot s row → Q s row) (hE : ∀ s e, seen <+: s → E s e) :
    Async.wp pre granted (loadPolicy config run) Q E seen := by
  unfold loadPolicy
  rw [Async.wp_bind]
  refine (quiet_attempt (.selectSettings run.workspaceId) _ fun _ => trivial).wp ?_ hE
  intro s settings hs
  have err : ∀ s' e, s <+: s' → E s' e := fun _ e h => hE _ e (hs.trans h)
  cases settings with
  | none => exact hE _ _ hs
  | some enabled =>
    have write : ∀ s' requirements, s <+: s' → Async.wp pre granted (do
        let now ← clock
        transitionState run.id run.workspaceId run.stateVersion .cloudContextLoaded orchestrator
          (policyUpdates requirements now)) Q E s' := by
      intro s' requirements hs'
      rw [Async.wp_bind]
      refine quiet_clock.wp ?_ (fun _ e h => err _ e (hs'.trans h))
      intro s'' now hs''
      have hp := hs'.trans hs''
      refine wp_mutateRun (snap.mono (hs.trans hp)) ?_ ?_ (fun _ e h => err _ e (hp.trans h))
      · intro _ _ h
        cases h
        exact .policy requirements now state
      · exact fun s₃ _ _ h _ hsnap => hQ s₃ _ (hs.trans (hp.trans h)) hsnap
    cases enabled with
    | false => exact write s policyOff (List.prefix_refl s)
    | true =>
      refine (Async.wp_bind _ _).mpr ?_
      exact (quiet_getPolicyRequirements config run.workspaceId).wp (fun s' r h => write s' r h) err

theorem wp_loadContext (snap : Snapshot seen run) (state : run.state = .cloudContextLoaded)
    (hQ : ∀ s row, seen <+: s → Snapshot s row → Q s row) (hE : ∀ s e, seen <+: s → E s e) :
    Async.wp pre granted (loadContext config run) Q E seen := by
  unfold loadContext
  rw [Async.wp_bind]
  refine (quiet_loadCloudContext config run).wp ?_ hE
  intro s loaded hs
  rw [Async.wp_bind]
  refine (quiet_parse _).wp ?_ (fun _ e h => hE _ e (hs.trans h))
  intro s' context hs'
  rw [Async.wp_bind]
  have hp := hs.trans hs'
  refine quiet_clock.wp ?_ (fun _ e h => hE _ e (hp.trans h))
  intro s'' now hs''
  have hp := hp.trans hs''
  refine wp_mutateRun (snap.mono hp) ?_ ?_ (fun _ e h => hE _ e (hp.trans h))
  · intro _ _ h
    cases h
    exact .context context now state
  · exact fun s₃ _ _ h _ hsnap => hQ s₃ _ (hp.trans h) hsnap

theorem wp_advanceRun (snap : Snapshot seen run) :
    Async.wp pre granted (advanceRun config run) Done Held seen := by
  unfold advanceRun
  have generate : ∀ s r, Snapshot s r → Async.wp pre granted
      (do if r.state = .iacGenerating then holding r (generateIac config r) : Working Unit) Done Held s := by
    intro s r snap
    split
    · rename_i h
      exact wp_holding (wp_generateIac config snap h (fun _ _ hs => snap.mono hs))
    · trivial
  have dispatch : ∀ s r, Snapshot s r → Async.wp pre granted (do
      if r.state = .manifestCreating ∧ r.agentTurnPending then holding r (dispatchAgent config r)
      if r.state = .iacGenerating then holding r (generateIac config r) : Working Unit) Done Held s := by
    intro s r snap
    dsimp only
    by_cases h : r.state = .manifestCreating ∧ r.agentTurnPending = true
    · rw [if_pos h]
      refine (Async.wp_bind _ _).mpr (wp_holding ?_)
      refine Async.wp_mono (wp_dispatchAgent config snap ⟨h.1, h.2⟩ (fun _ _ hs => snap.mono hs)) ?_
        (fun _ _ _ h => h)
      exact fun s' _ hs _ => generate s' r (snap.mono hs)
    · rw [if_neg h]
      exact generate s r snap
  rw [Async.wp_bind]
  have third : ∀ s r, Snapshot s r → Async.wp pre granted (do
      let run ← advanceAt .cloudContextLoaded (loadContext config) r
      if run.state = .manifestCreating ∧ run.agentTurnPending then holding run (dispatchAgent config run)
      if run.state = .iacGenerating then holding run (generateIac config run) : Working Unit)
      Done Held s := by
    intro s r snap
    rw [Async.wp_bind]
    refine wp_advanceAt (fun _ => dispatch s r snap) fun h => ?_
    exact wp_loadContext config snap h (fun s' row _ hs => dispatch s' row hs) (fun _ _ hs => snap.mono hs)
  have second : ∀ s r, Snapshot s r → Async.wp pre granted (do
      let run ← advanceAt .policyLoaded (loadPolicy config) r
      let run ← advanceAt .cloudContextLoaded (loadContext config) run
      if run.state = .manifestCreating ∧ run.agentTurnPending then holding run (dispatchAgent config run)
      if run.state = .iacGenerating then holding run (generateIac config run) : Working Unit)
      Done Held s := by
    intro s r snap
    rw [Async.wp_bind]
    refine wp_advanceAt (fun _ => third s r snap) fun h => ?_
    exact wp_loadPolicy config snap h (fun s' row _ hs => third s' row hs) (fun _ _ hs => snap.mono hs)
  refine wp_advanceAt (fun _ => second seen run snap) fun h => ?_
  exact wp_receive snap h (fun s' row _ hs => second s' row hs) (fun _ _ hs => snap.mono hs)

theorem wp_workRun (snap : Snapshot seen run) {E : Seen → ServiceError → Prop}
    (hE : ∀ s e, seen <+: s → E s e) : Async.wp pre granted (workRun config run) Done E seen := by
  unfold workRun
  rw [Async.wp_handle]
  refine Async.wp_mono (wp_advanceRun config snap) (fun _ _ _ _ => trivial) ?_
  rintro s ⟨error, held⟩ hs (snap : Snapshot s held)
  dsimp only
  rw [Async.wp_bind]
  refine quiet_stopping.wp ?_ (fun _ e h => hE _ e (hs.trans h))
  intro s' stop hs'
  have err : ∀ s'' e, s' <+: s'' → E s'' e := fun _ e h => hE _ e (hs.trans (hs'.trans h))
  cases stop with
  | true => trivial
  | false =>
    refine (?_ : Async.wp pre granted (if error.isConflict then _ else _) Done E s')
    split
    · trivial
    · rw [Async.wp_bind]
      refine wp_stillAt (fun _ _ => trivial) ?_ err
      intro s'' row hs'' _ _ _ _
      exact wp_failRun (snap.mono (hs'.trans hs'')) (fun _ _ => trivial)
        (fun _ e h => err _ e (hs''.trans h))

theorem wp_processLocked (clients : Option PlanningConfig) (id workspaceId : String) :
    Async.wp pre granted (processLocked clients id workspaceId) Done Done seen := by
  unfold processLocked
  rw [Async.wp_bind]
  refine wp_getRun ?_ (fun _ _ _ => trivial)
  intro s run hs snap _ _
  split
  · cases run.clarificationExpiresAt with
    | none => trivial
    | some expiresAt =>
      dsimp only
      rw [Async.wp_bind]
      refine quiet_clock.wp ?_ (fun _ _ _ => trivial)
      intro s' now hs'
      split
      · rw [Async.wp_bind]
        exact wp_cancel (fun _ _ _ => trivial) (fun _ _ _ => trivial)
      · trivial
  · cases clients with
    | none => trivial
    | some config =>
      dsimp only
      split
      · trivial
      · exact wp_workRun config snap (fun _ _ _ => trivial)

theorem wp_processRun (clients : Option PlanningConfig) (id workspaceId : String) :
    Async.wp pre granted (processRun clients id workspaceId) Done Done seen := by
  unfold processRun
  rw [Async.wp_bind]
  refine (quiet_attempt (.tryLock id) _ fun _ => trivial).wp ?_ (fun _ _ _ => trivial)
  intro s locked _
  split
  · trivial
  · rw [Async.wp_finally]
    have unlock : ∀ {α : Type} (s : Seen) (a : α), Async.wp pre granted
        (Async.attempt (.unlock id) fun r => r : Action Unit) (fun s' _ => Done s' a) Done s :=
      fun s _ => (quiet_attempt (.unlock id) (fun r => r) fun _ => trivial).wp (fun _ _ _ => trivial)
        (fun _ _ _ => trivial)
    exact Async.wp_mono (wp_processLocked clients id workspaceId) (fun s a _ _ => unlock s a)
      (fun s e _ _ => unlock s e)

theorem wp_processEach (clients : Option PlanningConfig) (rows : List (String × String)) :
    Async.wp pre granted (processEach clients rows) Done Done seen := by
  induction rows generalizing seen with
  | nil => trivial
  | cons row rows ih =>
    obtain ⟨id, workspaceId⟩ := row
    unfold processEach
    rw [Async.wp_bind]
    refine quiet_stopping.wp ?_ (fun _ _ _ => trivial)
    intro s stop _
    split
    · trivial
    · rw [Async.wp_bind]
      exact Async.wp_mono (wp_processRun clients id workspaceId) (fun _ _ _ _ => ih) (fun _ _ _ _ => trivial)

theorem wp_expireEach (rows : List (String × String × Nat)) :
    Async.wp pre granted (expireEach rows) Done Done seen := by
  induction rows generalizing seen with
  | nil => trivial
  | cons row rows ih =>
    obtain ⟨id, workspaceId, version⟩ := row
    unfold expireEach
    rw [Async.wp_bind]
    refine quiet_stopping.wp ?_ (fun _ _ _ => trivial)
    intro s stop _
    split
    · trivial
    · rw [Async.wp_bind, Async.wp_handle, Async.wp_bind]
      refine wp_cancel (fun _ _ _ => ih) ?_
      intro s' error _
      split
      · exact ih
      · trivial

end Worker

end Provisr.Orchestrator
