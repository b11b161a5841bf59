import Provisr.Orchestrator.Mutations

namespace Provisr.Orchestrator

open Provisr.Foundation RunsService

namespace WorkflowState

-- PLAN_CREATING and beyond.
def planned : WorkflowState → Bool
  | .planCreating | .policyChecking | .confirming | .approving | .executing | .completed => true
  | _ => false

-- IAC_GENERATING and beyond.
def consented (s : WorkflowState) : Bool := s == .iacGenerating || s.planned

def drafted : WorkflowState → Bool
  | .clarifying | .manifestCreating | .manifestValidating => true
  | s => s.consented

end WorkflowState

structure PolicyLoaded (r : ProvisioningRun) : Prop where
  requirements : r.policyRequirements.isSome = true
  loadedAt : r.policyRequirementsLoadedAt.isSome = true

structure ContextLoaded (r : ProvisioningRun) : Prop where
  policy : PolicyLoaded r
  context : r.cloudContext.isSome = true
  loadedAt : r.cloudContextLoadedAt.isSome = true

structure Suspended (r : ProvisioningRun) : Prop where
  question : r.currentQuestion.isSome = true
  expires : r.clarificationExpiresAt.isSome = true
  idle : r.agentTurnPending = false

structure Proposed (r : ProvisioningRun) : Prop where
  idle : r.agentTurnPending = false
  version : r.manifestVersion.isSome = true
  validated : r.manifestValidatedVersion = r.manifestVersion
  unconfirmed : r.manifestConfirmedVersion = none

structure Consented (r : ProvisioningRun) : Prop where
  version : r.manifestVersion.isSome = true
  validated : r.manifestValidatedVersion = r.manifestVersion
  confirmed : r.manifestConfirmedVersion = r.manifestVersion

structure RunInvariant (r : ProvisioningRun) : Prop where
  policy : r.state = .cloudContextLoaded → PolicyLoaded r
  loaded : r.state.drafted = true → ContextLoaded r
  suspended : r.state = .clarifying → Suspended r
  active : r.state.isTerminal = false → r.state ≠ .clarifying →
    r.currentQuestion = none ∧ r.clarificationExpiresAt = none
  proposed : r.state = .manifestValidating → Proposed r
  attempts : r.manifestValidationAttempts ≤ 3
  attemptsLeft : r.manifestValidationAttempts = 3 → r.state = .failed
  consented : r.state.consented = true → Consented r
  planned : r.state.planned = true → r.state = .planCreating ∧ r.iacArtifactId.isSome = true

theorem RunInvariant.initial (env : TxEnv) (c : CreateRun) : RunInvariant (initialRun env c) where
  policy h := by cases h
  loaded h := by cases h
  suspended h := by cases h
  active _ _ := ⟨rfl, rfl⟩
  proposed h := by cases h
  attempts := Nat.zero_le 3
  attemptsLeft h := by cases h
  consented h := by cases h
  planned h := by cases h

section Landing

variable {r : ProvisioningRun}

structure Unasked (r : ProvisioningRun) : Prop where
  question : r.currentQuestion = none
  expires : r.clarificationExpiresAt = none

theorem RunInvariant.of_terminal (h : r.state = .failed ∨ r.state = .cancelled)
    (attempts : r.manifestValidationAttempts ≤ 3)
    (left : r.manifestValidationAttempts = 3 → r.state = .failed) : RunInvariant r := by
  rcases h with h | h <;>
  · refine ⟨?_, ?_, ?_, ?_, ?_, attempts, left, ?_, ?_⟩ <;>
    · rw [h]
      intro h
      cases h

theorem RunInvariant.of_loading (h : r.state = .policyLoaded ∨ r.state = .cloudContextLoaded)
    (policy : r.state = .cloudContextLoaded → PolicyLoaded r) (unasked : Unasked r)
    (few : r.manifestValidationAttempts < 3) : RunInvariant r := by
  refine ⟨policy, ?_, ?_, fun _ _ => ⟨unasked.question, unasked.expires⟩, ?_, few.le,
    fun he => absurd he few.ne, ?_, ?_⟩ <;>
  · rcases h with h | h <;>
    · rw [h]
      intro h
      cases h

theorem RunInvariant.of_creating (h : r.state = .manifestCreating) (loaded : ContextLoaded r)
    (unasked : Unasked r) (few : r.manifestValidationAttempts < 3) : RunInvariant r := by
  refine ⟨?_, fun _ => loaded, ?_, fun _ _ => ⟨unasked.question, unasked.expires⟩, ?_, few.le,
    fun he => absurd he few.ne, ?_, ?_⟩ <;>
  · rw [h]
    intro h
    cases h

theorem RunInvariant.of_clarifying (h : r.state = .clarifying) (loaded : ContextLoaded r)
    (suspended : Suspended r) (few : r.manifestValidationAttempts < 3) : RunInvariant r := by
  refine ⟨?_, fun _ => loaded, fun _ => suspended, fun _ hne => absurd h hne, ?_, few.le,
    fun he => absurd he few.ne, ?_, ?_⟩ <;>
  · rw [h]
    intro h
    cases h

theorem RunInvariant.of_validating (h : r.state = .manifestValidating) (loaded : ContextLoaded r)
    (unasked : Unasked r) (proposed : Proposed r) (few : r.manifestValidationAttempts < 3) :
    RunInvariant r := by
  refine ⟨?_, fun _ => loaded, ?_, fun _ _ => ⟨unasked.question, unasked.expires⟩, fun _ => proposed,
    few.le, fun he => absurd he few.ne, ?_, ?_⟩ <;>
  · rw [h]
    intro h
    cases h

theorem RunInvariant.of_generating (h : r.state = .iacGenerating) (loaded : ContextLoaded r)
    (unasked : Unasked r) (consented : Consented r) (few : r.manifestValidationAttempts < 3) :
    RunInvariant r := by
  refine ⟨?_, fun _ => loaded, ?_, fun _ _ => ⟨unasked.question, unasked.expires⟩, ?_, few.le,
    fun he => absurd he few.ne, fun _ => consented, ?_⟩ <;>
  · rw [h]
    intro h
    cases h

theorem RunInvariant.of_planCreating (h : r.state = .planCreating) (loaded : ContextLoaded r)
    (unasked : Unasked r) (consented : Consented r) (artifact : r.iacArtifactId.isSome = true)
    (few : r.manifestValidationAttempts < 3) : RunInvariant r := by
  refine ⟨?_, fun _ => loaded, ?_, fun _ _ => ⟨unasked.question, unasked.expires⟩, ?_, few.le,
    fun he => absurd he few.ne, fun _ => consented, fun _ => ⟨h, artifact⟩⟩ <;>
  · rw [h]
    intro h
    cases h

theorem RunInvariant.unasked (h : RunInvariant r) (active : r.state.isTerminal = false)
    (hs : r.state ≠ .clarifying) : Unasked r :=
  ⟨(h.active active hs).1, (h.active active hs).2⟩

end Landing

theorem RunInvariant.attempts_lt {r : ProvisioningRun} (h : RunInvariant r)
    (active : r.state.isTerminal = false) : r.manifestValidationAttempts < 3 := by
  have hle := h.attempts
  have hne : r.manifestValidationAttempts ≠ 3 := by
    intro he
    rw [h.attemptsLeft he] at active
    cases active
  omega

section Step

variable [Platform] [ComponentRegistry] {known : HttpRequest → Reply HttpResponse → Prop}
  {r : ProvisioningRun} {now : Ambient} {actorId : String} {change : Change}

theorem RunInvariant.step (h : RunInvariant r) (intent : Intent known r now actorId change)
    (env : TxEnv) (checked : checkChange env r change = .ok ()) :
    RunInvariant (writtenRun env r change) := by
  have active := checkChange_active checked
  have few := h.attempts_lt active
  cases intent with
  | receive hs =>
    obtain ⟨hq, he⟩ := h.unasked active (by rw [hs]; decide)
    exact .of_loading (Or.inl rfl) (fun h => by cases h) ⟨hq, he⟩ few
  | policy requirements at_ hs =>
    obtain ⟨hq, he⟩ := h.unasked active (by rw [hs]; decide)
    exact .of_loading (Or.inr rfl) (fun _ => ⟨rfl, rfl⟩) ⟨hq, he⟩ few
  | context context at_ hs =>
    obtain ⟨hq, he⟩ := h.unasked active (by rw [hs]; decide)
    obtain ⟨hp, hpl⟩ := h.policy hs
    exact .of_creating rfl ⟨⟨hp, hpl⟩, rfl, rfl⟩ ⟨hq, he⟩ few
  | fail code message => exact .of_terminal (Or.inl rfl) h.attempts (fun _ => rfl)
  | cancel => exact .of_terminal (Or.inr rfl) h.attempts (fun he => absurd he few.ne)
  | confirm _ version _ positive hc =>
    obtain ⟨hs, hm, hv, rfl⟩ := confirmChange_ok hc
    obtain ⟨⟨hp, hpl⟩, hx, hxl⟩ := h.loaded (by rw [hs]; rfl)
    obtain ⟨hq, he⟩ := h.unasked active (by rw [hs]; decide)
    exact .of_generating rfl ⟨⟨hp, hpl⟩, hx, hxl⟩ ⟨hq, he⟩
      ⟨by simp [confirmedChange, hm], by simp [confirmedChange, hm, hv],
        by simp [confirmedChange, hm]⟩ few
  | suspend question _ draft hc =>
    obtain ⟨data, rfl⟩ := suspendChange_ok hc
    obtain ⟨⟨hp, hpl⟩, hx, hxl⟩ := h.loaded (by rw [draft.state]; rfl)
    exact .of_clarifying rfl ⟨⟨hp, hpl⟩, hx, hxl⟩ ⟨rfl, rfl, rfl⟩ few
  | answer _ answers key _ question given asked valid fresh hc =>
    obtain ⟨_, _, hs, -, -, -, rfl⟩ := answerChange_ok hc
    obtain ⟨⟨hp, hpl⟩, hx, hxl⟩ := h.loaded (by rw [hs]; rfl)
    exact .of_creating rfl ⟨⟨hp, hpl⟩, hx, hxl⟩ ⟨rfl, rfl⟩ few
  | revise _ prompt hs idle =>
    have hd : r.state.drafted = true := by rcases hs with hs | hs <;> rw [hs] <;> rfl
    have hne : r.state ≠ .clarifying := by rcases hs with hs | hs <;> rw [hs] <;> decide
    obtain ⟨⟨hp, hpl⟩, hx, hxl⟩ := h.loaded hd
    obtain ⟨hq, he⟩ := h.unasked active hne
    have hstate : (writtenRun env r (revisionChange r prompt)).state = .manifestCreating := by
      rcases hs with hs | hs <;> simp [revisionChange, hs]
    exact .of_creating hstate ⟨⟨hp, hpl⟩, hx, hxl⟩ ⟨hq, he⟩ (by simp [revisionChange])
  | reject _ reason hs =>
    have hplan := (h.planned (by rw [hs]; rfl)).1
    rw [hs] at hplan
    cases hplan
  | progress manifestId stage message hs =>
    obtain ⟨⟨hp, hpl⟩, hx, hxl⟩ := h.loaded (by rw [hs]; rfl)
    obtain ⟨hq, he⟩ := h.unasked active (by rw [hs]; decide)
    obtain ⟨hm, hv, hc⟩ := h.consented (by rw [hs]; rfl)
    exact .of_generating hs ⟨⟨hp, hpl⟩, hx, hxl⟩ ⟨hq, he⟩ ⟨hm, hv, hc⟩ few
  | artifact manifestId artifact response hs verified =>
    obtain ⟨⟨hp, hpl⟩, hx, hxl⟩ := h.loaded (by rw [hs]; rfl)
    obtain ⟨hq, he⟩ := h.unasked active (by rw [hs]; decide)
    obtain ⟨hm, hv, hc⟩ := h.consented (by rw [hs]; rfl)
    exact .of_planCreating rfl ⟨⟨hp, hpl⟩, hx, hxl⟩ ⟨hq, he⟩ ⟨hm, hv, hc⟩ rfl few
  | link sessionId draft hs =>
    obtain ⟨⟨hp, hpl⟩, hx, hxl⟩ := h.loaded (by rw [draft.state]; rfl)
    obtain ⟨hq, he⟩ := h.unasked active (by rw [draft.state]; decide)
    exact .of_creating draft.state ⟨⟨hp, hpl⟩, hx, hxl⟩ ⟨hq, he⟩ few
  | retry draft hn =>
    obtain ⟨⟨hp, hpl⟩, hx, hxl⟩ := h.loaded (by rw [draft.state]; rfl)
    obtain ⟨hq, he⟩ := h.unasked active (by rw [draft.state]; decide)
    exact .of_creating draft.state ⟨⟨hp, hpl⟩, hx, hxl⟩ ⟨hq, he⟩ hn
  | exhaust draft hn => exact .of_terminal (Or.inl rfl) few (fun _ => rfl)
  | ready config message manifest version components response draft exchange reply accepted shown =>
    obtain ⟨⟨hp, hpl⟩, hx, hxl⟩ := h.loaded (by rw [draft.state]; rfl)
    obtain ⟨hq, he⟩ := h.unasked active (by rw [draft.state]; decide)
    exact .of_validating rfl ⟨⟨hp, hpl⟩, hx, hxl⟩ ⟨hq, he⟩ ⟨rfl, rfl, rfl, rfl⟩ few
  | endTurn eventType payload draft free kind =>
    obtain ⟨⟨hp, hpl⟩, hx, hxl⟩ := h.loaded (by rw [draft.state]; rfl)
    obtain ⟨hq, he⟩ := h.unasked active (by rw [draft.state]; decide)
    exact .of_creating draft.state ⟨⟨hp, hpl⟩, hx, hxl⟩ ⟨hq, he⟩ few
  | rejectComponent type version issues =>
    exact .of_terminal (Or.inl rfl) h.attempts (fun _ => rfl)

theorem Intent.session_kept (intent : Intent known r now actorId change) (env : TxEnv)
    {sessionId : String} (h : r.agentSessionId = some sessionId) :
    (writtenRun env r change).agentSessionId = some sessionId := by
  cases intent with
  | confirm _ _ _ _ hc =>
    obtain ⟨-, -, -, rfl⟩ := confirmChange_ok hc
    exact h
  | suspend _ _ _ hc =>
    obtain ⟨data, rfl⟩ := suspendChange_ok hc
    exact h
  | answer _ _ _ _ _ _ _ _ _ hc =>
    obtain ⟨_, _, -, -, -, -, rfl⟩ := answerChange_ok hc
    exact h
  | link _ _ hn =>
    rw [h] at hn
    cases hn
  | _ => exact h

end Step

end Provisr.Orchestrator
