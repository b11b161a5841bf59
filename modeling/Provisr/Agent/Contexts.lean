import Provisr.Agent.PolicyModels
import Provisr.Contracts.Manifest

namespace Provisr.Agent

open Provisr.Foundation
open Provisr.Contracts (Provider)

-- A Python text, or None, is true unless it is empty.
def truthy (s : Option String) : Bool := s.any (· != "")

structure CloudAccountContext where
  workspaceId : String
  provider : Provider
  supportedRegions : List String
  resourceCounts : Option (List (String × Int))
  quotaLimits : Option (List (String × JsNumber))
  regions_some : supportedRegions ≠ []

structure ExistingResourceContext where
  provider : Option Provider
  region : Option String
  name : Option String
  id : Option String
  validate_identity : truthy name || truthy id

structure CloudContext where
  connectedProviders : List Provider
  providers : List Provider
  regions : List String
  existingResources : List ExistingResourceContext
  defaultRegion : Option String
  activeAccounts : List CloudAccountContext
  connected : connectedProviders ≠ []
  same_providers : providers ≠ [] → ∀ p, p ∈ providers ↔ p ∈ connectedProviders
  same_accounts : activeAccounts ≠ [] → ∀ p, p ∈ connectedProviders ↔ ∃ a ∈ activeAccounts, a.provider = p
  regions_some : regions ≠ []
  default_verified : truthy defaultRegion → ∀ r ∈ defaultRegion, r ∈ regions

structure ExecutionContext where
  workspaceId : String
  policyContext : PolicyRequirements
  cloudContext : CloudContext
  validate_accounts : ∀ a ∈ cloudContext.activeAccounts, a.workspaceId = workspaceId

structure AnsweredQuestion where
  questionId : String
  fieldMapping : String
  answer : String
  deriving DecidableEq, Repr

inductive Role where
  | user
  | assistant
  deriving DecidableEq, Repr, Inhabited

structure ConversationMessage where
  role : Role
  content : String
  deriving DecidableEq, Repr

inductive ClarificationInputType where
  | text
  | select
  | multiSelect
  | boolean
  | confirmation
  deriving DecidableEq, Repr, Inhabited

structure ValidationError where
  field : String
  deriving DecidableEq, Repr

structure ClarificationQuestion where
  questionId : String
  questionText : String
  inputType : ClarificationInputType
  options : List String
  required : Bool
  fieldMapping : String
  deriving DecidableEq, Repr

namespace ClarificationQuestion

def bounds (q : ClarificationQuestion) : List (String × Bool) :=
  [("question_id", 1 ≤ q.questionId.length && q.questionId.length ≤ 64),
    ("question_text", 1 ≤ q.questionText.length && q.questionText.length ≤ 500),
    ("options", q.options.length ≤ 50),
    ("field_mapping", 1 ≤ q.fieldMapping.length && q.fieldMapping.length ≤ 128)]

def create (q : ClarificationQuestion) : Except ValidationError ClarificationQuestion :=
  match q.bounds.find? (fun b => !b.2) with
  | some b => .error ⟨b.1⟩
  | none => .ok q

theorem create_ok_iff {q a : ClarificationQuestion} : q.create = .ok a ↔ a = q ∧ ∀ b ∈ q.bounds, b.2 = true := by
  unfold create
  cases found : q.bounds.find? (fun b => !b.2) with
  | some b =>
    have broken := List.find?_some found
    have mem := List.mem_of_find?_eq_some found
    simp only [reduceCtorEq, false_iff, not_and]
    intro _ all
    simp [all b mem] at broken
  | none =>
    have all := List.find?_eq_none.mp found
    simp only [Except.ok.injEq]
    constructor
    · rintro rfl
      exact ⟨rfl, fun b mem => by simpa using all b mem⟩
    · rintro ⟨rfl, -⟩
      rfl

end ClarificationQuestion

end Provisr.Agent
