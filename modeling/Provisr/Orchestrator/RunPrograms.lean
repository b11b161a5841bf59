import Provisr.Orchestrator.RunDiscipline

namespace Provisr.Orchestrator

open Provisr.Foundation RunsService

def Snapshot (seen : Seen) (run : ProvisioningRun) : Prop := ∃ x ∈ seen, observed x = some run

theorem Snapshot.mono {seen seen' : Seen} {run : ProvisioningRun} (h : Snapshot seen run)
    (hp : seen <+: seen') : Snapshot seen' run := by
  obtain ⟨x, hx, ho⟩ := h
  exact ⟨x, hp.subset hx, ho⟩

theorem Snapshot.eq {seen : Seen} {run locked : ProvisioningRun} (h : Snapshot seen run)
    (consistent : Consistent seen locked) (id : locked.id = run.id)
    (version : locked.stateVersion = run.stateVersion) : locked = run := by
  obtain ⟨x, hx, ho⟩ := h
  exact (consistent x hx run ho id.symm version.symm).symm

theorem snapshot_last {seen : Seen} {x : Obs Ret} {run : ProvisioningRun} (h : observed x = some run) :
    Snapshot (seen ++ [x]) run :=
  ⟨x, by simp, h⟩

theorem unreserved_of_keys {payload : JsFields} (keys : List String)
    (h : payload.map Prod.fst = keys) (free : ∀ k ∈ reservedKeys, k ∉ keys) : Unreserved payload := by
  subst h
  exact free

section Programs

variable [Platform] [ComponentRegistry]

section Quiet

variable {ε α β : Type}

def Quiet (p : Async Ret ε α) : Prop :=
  ∀ seen, Async.wp pre granted p (fun _ _ => True) (fun _ _ => True) seen

theorem Quiet.wp {p : Async Ret ε α} (h : Quiet p) {seen : Seen} {Q : Seen → α → Prop}
    {E : Seen → ε → Prop} (hQ : ∀ s a, seen <+: s → Q s a) (hE : ∀ s e, seen <+: s → E s e) :
    Async.wp pre granted p Q E seen :=
  Async.wp_mono (h seen) (fun s a hs _ => hQ s a hs) (fun s e hs _ => hE s e hs)

theorem Quiet.bind {p : Async Ret ε α} {f : α → Async Ret ε β} (hp : Quiet p)
    (hf : ∀ a, Quiet (f a)) : Quiet (p >>= f) := by
  intro seen
  rw [Async.wp_bind]
  exact hp.wp (fun s a _ => hf a s) (fun _ _ _ => trivial)

theorem quiet_pure (a : α) : Quiet (pure a : Async Ret ε α) := fun _ => trivial

theorem quiet_throw (e : ε) : Quiet (throw e : Async Ret ε α) := fun _ => trivial

theorem quiet_ofExcept (r : Except ε α) : Quiet (Async.ofExcept r : Async Ret ε α) := by
  intro seen
  rw [Async.wp_ofExcept]
  cases r <;> trivial

theorem quiet_attempt (o : Op) (f : Ret o → Except ε α) (h : ∀ seen, pre seen o) :
    Quiet (Async.attempt o f) := by
  intro seen
  rw [Async.wp_attempt]
  refine ⟨h seen, ?_⟩
  intro r _
  cases f r <;> trivial

theorem Quiet.handle {δ : Type} {p : Async Ret ε α} {f : ε → Async Ret δ α} (hp : Quiet p)
    (hf : ∀ e, Quiet (f e)) : Quiet (Async.handle p f) := by
  intro seen
  rw [Async.wp_handle]
  exact hp.wp (fun _ _ _ => trivial) (fun s e _ => hf e s)

theorem quiet_ite {c : Prop} [Decidable c] {p q : Async Ret ε α} (hp : Quiet p) (hq : Quiet q) :
    Quiet (if c then p else q) := by
  split
  · exact hp
  · exact hq

theorem quiet_clock : Quiet clock := fun _ => ⟨trivial, fun _ _ => trivial⟩

theorem quiet_randomUUID : Quiet randomUUID := fun _ => ⟨trivial, fun _ _ => trivial⟩

theorem quiet_aborted : Quiet aborted := fun _ => ⟨trivial, fun _ _ => trivial⟩

theorem quiet_stopping : Quiet stopping := fun _ => ⟨trivial, fun _ _ => trivial⟩

theorem quiet_parse (r : Zod.Checked α) : Quiet (PlanningClients.parse r) := quiet_ofExcept _

theorem quiet_fetch (q : HttpRequest) : Quiet (PlanningClients.fetch q) :=
  quiet_attempt (.fetch q) id fun _ => trivial

theorem quiet_assertMembership (workspaceId userId : String) :
    Quiet (assertMembership workspaceId userId) := by
  unfold assertMembership
  refine (quiet_attempt (.membership workspaceId userId) id fun _ => trivial).bind ?_
  intro member
  exact quiet_ite (quiet_throw _) (quiet_pure _)

variable (config : PlanningConfig)

theorem quiet_request (service : Service) (path : String) (run : ProvisioningRun) (body : JsJson) :
    Quiet (PlanningClients.request config service path run body) := by
  unfold PlanningClients.request
  refine (quiet_fetch _).bind ?_
  intro response
  refine quiet_ite ((quiet_throw _).bind ?_) ?_
  · intro _
    split
    · exact quiet_pure _
    · exact quiet_throw _
  · split
    · exact quiet_pure _
    · exact quiet_throw _

theorem quiet_getPolicyRequirements (workspaceId : String) :
    Quiet (PlanningClients.getPolicyRequirements config workspaceId) := by
  unfold PlanningClients.getPolicyRequirements
  refine (quiet_fetch _).bind ?_
  intro response
  refine quiet_ite ((quiet_throw _).bind fun _ => ?_) ?_ <;>
  · split
    · exact quiet_throw _
    · exact quiet_ofExcept _
    · exact quiet_throw _

theorem quiet_loadCloudContext (run : ProvisioningRun) :
    Quiet (PlanningClients.loadCloudContext config run) := by
  unfold PlanningClients.loadCloudContext
  refine (quiet_request _ _ _ _ _).bind fun reply => (quiet_parse _).bind ?_
  rintro ⟨workspaceId, found⟩
  refine quiet_ite ((quiet_throw _).bind fun _ => ?_) ?_ <;>
  · refine quiet_ite ((quiet_throw _).bind fun _ => ?_) ?_ <;>
    · exact quiet_parse _

theorem quiet_createAgentSession (run : ProvisioningRun) :
    Quiet (PlanningClients.createAgentSession config run) := by
  unfold PlanningClients.createAgentSession
  exact (quiet_request _ _ _ _ _).bind fun _ => quiet_parse _

theorem quiet_agentTurn (run : ProvisioningRun) (message : String) :
    Quiet (PlanningClients.agentTurn config run message) := by
  unfold PlanningClients.agentTurn
  split
  · exact quiet_throw _
  · refine (quiet_request _ _ _ _ _).bind fun reply => (quiet_parse _).bind fun result => ?_
    refine quiet_ite ((quiet_throw _).bind fun _ => ?_) ?_ <;>
    · exact quiet_parse _

theorem quiet_generateIac (run : ProvisioningRun) (manifestId : String) :
    Quiet (PlanningClients.generateIac config run manifestId) := by
  unfold PlanningClients.generateIac
  refine (quiet_parse _).bind fun context => Quiet.handle ?_ fun _ => quiet_throw _
  refine (quiet_parse _).bind fun manifest => (quiet_fetch _).bind fun response => ?_
  refine quiet_ite ((quiet_throw _).bind fun _ => ?_) ?_ <;>
  · split
    · exact quiet_pure _
    · exact quiet_throw _

end Quiet

section Requests

variable {ε : Type} {seen : Seen} {id workspaceId actorId : String} {run : ProvisioningRun}

theorem wp_getRun {actor : Option String} {Q : Seen → ProvisioningRun → Prop}
    {E : Seen → ServiceError → Prop}
    (hQ : ∀ s row, seen <+: s → Snapshot s row → row.id = id → row.workspaceId = workspaceId → Q s row)
    (hE : ∀ s e, seen <+: s → E s e) : Async.wp pre granted (getRun id workspaceId actor) Q E seen := by
  have read : ∀ s (answer : Option ProvisioningRun → Action ProvisioningRun), seen <+: s →
      answer none = throw (.notFound "Run not found") → (∀ row, answer (some row) = pure row) →
      Async.wp pre granted (Async.attempt (.selectRun id workspaceId) (fun r => r) >>= answer) Q E s := by
    intro s answer hs missing given
    rw [Async.wp_bind]
    refine (Async.wp_attempt _ _).mpr ⟨trivial, ?_⟩
    intro r hr
    have hp : seen <+: s ++ [⟨Op.selectRun id workspaceId, r⟩] := hs.trans (List.prefix_append _ _)
    rcases r with e | _ | row
    · exact hE _ e hp
    · change Async.wp pre granted (answer none) Q E _
      rw [missing]
      exact hE _ _ hp
    · change Async.wp pre granted (answer (some row)) Q E _
      rw [given]
      obtain ⟨hid, hws⟩ := hr row rfl
      exact hQ _ row hp (snapshot_last rfl) hid hws
  unfold getRun
  cases actor with
  | none => exact read seen _ (List.prefix_refl seen) rfl fun _ => rfl
  | some actor =>
    rw [Async.wp_bind]
    exact (quiet_assertMembership workspaceId actor).wp (fun s _ hs => read s _ hs rfl fun _ => rfl) hE

theorem wp_mutateRun {operation : Operation} {Q : Seen → ProvisioningRun → Prop}
    {E : Seen → ServiceError → Prop} (snap : Snapshot seen run)
    (intent : ∀ now change, operation run now = .ok change →
      Intent (exchanged seen) run now actorId change)
    (hQ : ∀ s env change, seen <+: s → operation run ⟨env.dateNow, env.uuid⟩ = .ok change →
      Snapshot s (writtenRun env run change) → Q s (writtenRun env run change))
    (hE : ∀ s e, seen <+: s → E s e) :
    Async.wp pre granted (mutateRun run.id run.workspaceId run.stateVersion actorId operation) Q E
      seen := by
  refine (Async.wp_attempt _ _).mpr ⟨?_, ?_⟩
  · intro locked now change hid _ hv consistent hop
    obtain rfl := snap.eq consistent hid hv
    exact intent now change hop
  · intro r hr
    have hp := List.prefix_append seen
      [(⟨.mutate run.id run.workspaceId run.stateVersion actorId operation, r⟩ : Obs Ret)]
    match r with
    | .error e => exact hE _ e hp
    | .ok row =>
      obtain ⟨env, locked, change, hid, -, hv, consistent, hop, rfl⟩ := hr row rfl
      obtain rfl := snap.eq consistent hid hv
      exact hQ _ env change hp hop (snapshot_last rfl)

theorem wp_mutateHeld {change : Change} {Q : Seen → ProvisioningRun → Prop}
    {E : Seen → ServiceError → Prop} (snap : Snapshot seen run)
    (intent : ∀ now, Intent (exchanged seen) run now orchestrator change)
    (hQ : ∀ s env, seen <+: s → Snapshot s (writtenRun env run change) → Q s (writtenRun env run change))
    (hE : ∀ s e, seen <+: s → E s e) :
    Async.wp pre granted (mutateHeld run change) Q E seen := by
  refine wp_mutateRun snap ?_ ?_ hE
  · intro now _ h
    cases h
    exact intent now
  · intro s env _ hs h hsnap
    cases h
    exact hQ s env hs hsnap

theorem wp_cancel {version : Nat} {Q : Seen → ProvisioningRun → Prop} {E : Seen → ServiceError → Prop}
    (hQ : ∀ s row, seen <+: s → Q s row) (hE : ∀ s e, seen <+: s → E s e) :
    Async.wp pre granted (transitionState id workspaceId version .cancelled actorId {}) Q E seen := by
  refine (Async.wp_attempt _ _).mpr ⟨?_, ?_⟩
  · intro locked now change _ _ _ _ h
    cases h
    exact .cancel _
  · intro r _
    have hp := List.prefix_append seen [(⟨.mutate id workspaceId version actorId
      fun _ _ => .ok (transitionChange .cancelled {}), r⟩ : Obs Ret)]
    match r with
    | .error e => exact hE _ e hp
    | .ok row => exact hQ _ row hp

theorem wp_failRun {code message : String} {Q : Seen → Unit → Prop} {E : Seen → ServiceError → Prop}
    (snap : Snapshot seen run) (hQ : ∀ s, seen <+: s → Q s ()) (hE : ∀ s e, seen <+: s → E s e) :
    Async.wp pre granted (failRun run (errorUpdates code message)) Q E seen := by
  unfold failRun
  rw [Async.wp_bind]
  refine wp_mutateRun snap ?_ (fun s _ _ hs _ _ => hQ s hs) hE
  intro now _ h
  cases h
  exact .fail code message

end Requests

end Programs

end Provisr.Orchestrator
