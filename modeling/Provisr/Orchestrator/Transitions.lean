import Mathlib.Data.List.Basic

namespace Provisr.Orchestrator

inductive WorkflowState where
  | received
  | policyLoaded
  | cloudContextLoaded
  | clarifying
  | manifestCreating
  | manifestValidating
  | iacGenerating
  | planCreating
  | policyChecking
  | confirming
  | approving
  | executing
  | completed
  | failed
  | cancelled
  deriving DecidableEq, Repr, Inhabited

namespace WorkflowState

def label : WorkflowState → String
  | .received => "RECEIVED"
  | .policyLoaded => "POLICY_LOADED"
  | .cloudContextLoaded => "CLOUD_CONTEXT_LOADED"
  | .clarifying => "CLARIFYING"
  | .manifestCreating => "MANIFEST_CREATING"
  | .manifestValidating => "MANIFEST_VALIDATING"
  | .iacGenerating => "IAC_GENERATING"
  | .planCreating => "PLAN_CREATING"
  | .policyChecking => "POLICY_CHECKING"
  | .confirming => "CONFIRMING"
  | .approving => "APPROVING"
  | .executing => "EXECUTING"
  | .completed => "COMPLETED"
  | .failed => "FAILED"
  | .cancelled => "CANCELLED"

def isTerminal : WorkflowState → Bool
  | .completed | .failed | .cancelled => true
  | _ => false

end WorkflowState

inductive EntryAction where
  | none
  | loadPolicyRequirements
  | loadCloudContext
  | requestClarification
  | createManifest
  | validateManifest
  | generateIac
  | createPlan
  | checkPolicy
  | requestConfirmation
  | requestApproval
  | executeIac
  | publishCompletion
  deriving DecidableEq, Repr

structure TransitionConditions where
  policiesEnabled : Bool
  policyRequirementsLoaded : Bool
  cloudContextLoaded : Bool
  clarificationCompleted : Bool
  manifestCreated : Bool
  manifestValidationPassed : Bool
  manifestConfirmed : Bool
  iacGenerated : Bool
  planCreated : Bool
  policyCheckPassed : Bool
  confirmationCompleted : Bool
  approvalRequired : Bool
  approvalCompleted : Bool

def emptyTransitionConditions : TransitionConditions where
  policiesEnabled := false
  policyRequirementsLoaded := false
  cloudContextLoaded := false
  clarificationCompleted := false
  manifestCreated := false
  manifestValidationPassed := false
  manifestConfirmed := false
  iacGenerated := false
  planCreated := false
  policyCheckPassed := false
  confirmationCompleted := false
  approvalRequired := false
  approvalCompleted := false

-- keyof TransitionConditions
inductive Condition where
  | policiesEnabled
  | policyRequirementsLoaded
  | cloudContextLoaded
  | clarificationCompleted
  | manifestCreated
  | manifestValidationPassed
  | manifestConfirmed
  | iacGenerated
  | planCreated
  | policyCheckPassed
  | confirmationCompleted
  | approvalRequired
  | approvalCompleted
  deriving DecidableEq, Repr

def Condition.label : Condition → String
  | .policiesEnabled => "policiesEnabled"
  | .policyRequirementsLoaded => "policyRequirementsLoaded"
  | .cloudContextLoaded => "cloudContextLoaded"
  | .clarificationCompleted => "clarificationCompleted"
  | .manifestCreated => "manifestCreated"
  | .manifestValidationPassed => "manifestValidationPassed"
  | .manifestConfirmed => "manifestConfirmed"
  | .iacGenerated => "iacGenerated"
  | .planCreated => "planCreated"
  | .policyCheckPassed => "policyCheckPassed"
  | .confirmationCompleted => "confirmationCompleted"
  | .approvalRequired => "approvalRequired"
  | .approvalCompleted => "approvalCompleted"

def TransitionConditions.get (c : TransitionConditions) : Condition → Bool
  | .policiesEnabled => c.policiesEnabled
  | .policyRequirementsLoaded => c.policyRequirementsLoaded
  | .cloudContextLoaded => c.cloudContextLoaded
  | .clarificationCompleted => c.clarificationCompleted
  | .manifestCreated => c.manifestCreated
  | .manifestValidationPassed => c.manifestValidationPassed
  | .manifestConfirmed => c.manifestConfirmed
  | .iacGenerated => c.iacGenerated
  | .planCreated => c.planCreated
  | .policyCheckPassed => c.policyCheckPassed
  | .confirmationCompleted => c.confirmationCompleted
  | .approvalRequired => c.approvalRequired
  | .approvalCompleted => c.approvalCompleted

structure TransitionDefinition where
  target : WorkflowState
  onEntry : EntryAction
  requiredConditions : List Condition

def exitToFailureOrCancellation : List TransitionDefinition :=
  [⟨.failed, .none, []⟩, ⟨.cancelled, .none, []⟩]

def allowedTransitions : WorkflowState → List TransitionDefinition
  | .received =>
    [⟨.policyLoaded, .loadPolicyRequirements, []⟩, ⟨.cloudContextLoaded, .loadCloudContext, []⟩] ++
      exitToFailureOrCancellation
  | .policyLoaded =>
    ⟨.cloudContextLoaded, .loadCloudContext, [.policyRequirementsLoaded]⟩ ::
      exitToFailureOrCancellation
  | .cloudContextLoaded =>
    [⟨.clarifying, .requestClarification, [.cloudContextLoaded]⟩,
      ⟨.manifestCreating, .createManifest, [.policyRequirementsLoaded, .cloudContextLoaded]⟩] ++
      exitToFailureOrCancellation
  | .clarifying =>
    [⟨.clarifying, .requestClarification, []⟩,
      ⟨.manifestCreating, .createManifest,
        [.policyRequirementsLoaded, .cloudContextLoaded, .clarificationCompleted]⟩] ++
      exitToFailureOrCancellation
  | .manifestCreating =>
    [⟨.clarifying, .requestClarification, [.cloudContextLoaded]⟩,
      ⟨.manifestValidating, .validateManifest, [.manifestCreated]⟩] ++
      exitToFailureOrCancellation
  | .manifestValidating =>
    [⟨.manifestCreating, .createManifest, [.policyRequirementsLoaded, .cloudContextLoaded]⟩,
      ⟨.iacGenerating, .generateIac, [.manifestValidationPassed, .manifestConfirmed]⟩] ++
      exitToFailureOrCancellation
  | .iacGenerating =>
    ⟨.planCreating, .createPlan, [.iacGenerated]⟩ :: exitToFailureOrCancellation
  | .planCreating =>
    ⟨.policyChecking, .checkPolicy, [.planCreated]⟩ :: exitToFailureOrCancellation
  | .policyChecking =>
    ⟨.confirming, .requestConfirmation, [.policyCheckPassed]⟩ :: exitToFailureOrCancellation
  | .confirming =>
    [⟨.approving, .requestApproval, [.confirmationCompleted, .approvalRequired]⟩,
      ⟨.executing, .executeIac, [.confirmationCompleted]⟩] ++ exitToFailureOrCancellation
  | .approving =>
    [⟨.manifestCreating, .createManifest, [.policyRequirementsLoaded, .cloudContextLoaded]⟩,
      ⟨.executing, .executeIac, [.confirmationCompleted, .approvalRequired, .approvalCompleted]⟩] ++
      exitToFailureOrCancellation
  | .executing => [⟨.completed, .publishCompletion, []⟩, ⟨.failed, .none, []⟩]
  | .completed => []
  | .failed => []
  | .cancelled => []

inductive WorkflowError where
  | illegal (source target : WorkflowState)
  | unsatisfiedGate (source target : WorkflowState) (missing : List Condition)
  deriving DecidableEq, Repr

def WorkflowError.message : WorkflowError → String
  | .illegal a b => "Illegal workflow transition: " ++ a.label ++ " -> " ++ b.label
  | .unsatisfiedGate a b missing =>
    "Workflow transition " ++ a.label ++ " -> " ++ b.label ++ " is blocked by: " ++
      ", ".intercalate (missing.map Condition.label)

def getTransition (a b : WorkflowState) : Except WorkflowError TransitionDefinition :=
  match (allowedTransitions a).find? (fun candidate => candidate.target == b) with
  | some transition => .ok transition
  | none => .error (.illegal a b)

def missingConditions (t : TransitionDefinition) (b : WorkflowState) (conditions : TransitionConditions) :
    List Condition :=
  t.requiredConditions.filter (fun condition => !conditions.get condition) ++
    (if b == .manifestCreating && conditions.policiesEnabled && !conditions.policyRequirementsLoaded then
      [.policyRequirementsLoaded] else []) ++
    (if b == .executing && !conditions.policyCheckPassed then [.policyCheckPassed] else []) ++
    (if b == .executing && conditions.approvalRequired && !conditions.approvalCompleted then
      [.approvalCompleted] else [])

-- [...new Set(missing)] keeps the first of each.
def distinct {α : Type} [BEq α] (xs : List α) : List α :=
  xs.foldl (fun acc x => if acc.contains x then acc else acc ++ [x]) []

def assertTransition (a b : WorkflowState) (conditions : TransitionConditions) :
    Except WorkflowError TransitionDefinition :=
  match getTransition a b with
  | .error e => .error e
  | .ok transition =>
    match missingConditions transition b conditions with
    | [] => .ok transition
    | missing => .error (.unsatisfiedGate a b (distinct missing))

theorem getTransition_mem {a b : WorkflowState} {t : TransitionDefinition}
    (h : getTransition a b = .ok t) : t ∈ allowedTransitions a ∧ t.target = b := by
  unfold getTransition at h
  split at h
  · rename_i t' ht
    cases h
    exact ⟨List.mem_of_find?_eq_some ht, by simpa using List.find?_some ht⟩
  · cases h

theorem assertTransition_ok {a b : WorkflowState} {c : TransitionConditions}
    {t : TransitionDefinition} (h : assertTransition a b c = .ok t) :
    t ∈ allowedTransitions a ∧ t.target = b ∧ ∀ x ∈ t.requiredConditions, c.get x = true := by
  unfold assertTransition at h
  cases hg : getTransition a b with
  | error e => simp [hg] at h
  | ok t' =>
    simp only [hg] at h
    split at h
    · rename_i hm
      cases h
      obtain ⟨hmem, htarget⟩ := getTransition_mem hg
      refine ⟨hmem, htarget, ?_⟩
      intro x hx
      by_contra hx'
      have hfalse : c.get x = false := by simpa using hx'
      have hfilter : x ∈ missingConditions t b c := by
        unfold missingConditions
        simp [hx, hfalse]
      rw [hm] at hfilter
      cases hfilter
    · cases h

theorem terminal_absorbing {a b : WorkflowState} (h : a.isTerminal = true)
    (c : TransitionConditions) : assertTransition a b c = .error (.illegal a b) := by
  cases a <;> first | rfl | cases h

end Provisr.Orchestrator
