import Provisr.Backend.PolicyProjection
import Provisr.Agent.PolicyModels
import Provisr.Foundation.JsonOrder

namespace Provisr.System.PolicyBoundary

open Provisr.Foundation
open Provisr.Orchestrator (nullishOr distinct)
open Provisr.Backend.Policy

section Orchestrator

open Provisr.Orchestrator.PlanningClients

theorem lookup_texts (key k : String) (values : List String) :
    (texts key values).lookup k = if k = key ∧ values ≠ [] then some (.arr (values.map .str)) else none := by
  unfold texts
  by_cases empty : values = []
  · simp [empty]
  · rw [if_neg empty, List.lookup_cons]
    by_cases same : k = key
    · simp [same, empty]
    · simp [same, beq_false_of_ne same]

theorem mapM_kept {α : Type} {f : α → Option α} (kept : ∀ a, f a = some a) (xs : List α) : xs.mapM f = some xs := by
  rw [show f = fun a => pure a from funext kept, List.mapM_pure, List.map_id']
  rfl

theorem textArray_texts (values : List String) : textArray (some (.arr (values.map .str))) = some values := by
  rw [textArray, List.mapM_map]
  exact mapM_kept (fun _ => rfl) values

theorem textArray_of_texts (values : List String) :
    textArray (some (nullishOr (if values ≠ [] then some (.arr (values.map .str)) else none) (.arr []))) =
      some values := by
  by_cases empty : values = []
  · rw [empty]
    rfl
  · rw [if_pos empty]
    exact textArray_texts values

def malformedBudget (n : JsNumber) : Bool := n.negative || n.digits.isEmpty

def context (reqs : PolicyRequirements) : Provisr.Orchestrator.PolicyRequirements where
  enabled := true
  allowedRegions := reqs.allowedRegions.getD []
  maxBudget := reqs.maxMonthlyBudgetUSD
  requiredTags := (distinct reqs.requiredTags).map fun tag => (tag, anyTagValue)
  prohibitedResourceTypes := reqs.prohibitedResourceTypes
  requiredEncryption := reqs.requiredEncryption
  requiredBackup := false

section Lookups

variable (reqs : PolicyRequirements)

theorem lookup_allowed_regions :
    reqs.fields.lookup "allowed_regions" = reqs.allowedRegions.map fun regions => .arr (regions.map .str) := by
  unfold PolicyRequirements.fields
  cases reqs.allowedRegions <;> cases reqs.maxMonthlyBudgetUSD <;> cases reqs.requiredEncryption <;>
    simp [List.lookup_append, List.lookup_cons, lookup_texts]

theorem lookup_budget : reqs.fields.lookup "max_monthly_budget_usd" = reqs.maxMonthlyBudgetUSD.map .num := by
  unfold PolicyRequirements.fields
  cases reqs.allowedRegions <;> cases reqs.maxMonthlyBudgetUSD <;> cases reqs.requiredEncryption <;>
    simp [List.lookup_append, List.lookup_cons, lookup_texts]

theorem lookup_encryption :
    reqs.fields.lookup "required_encryption" = if reqs.requiredEncryption then some (.bool true) else none := by
  unfold PolicyRequirements.fields
  cases reqs.allowedRegions <;> cases reqs.maxMonthlyBudgetUSD <;> cases reqs.requiredEncryption <;>
    simp [List.lookup_append, List.lookup_cons, lookup_texts]

theorem lookup_required_tags : reqs.fields.lookup "required_tags" =
    if reqs.requiredTags ≠ [] then some (.arr (reqs.requiredTags.map .str)) else none := by
  unfold PolicyRequirements.fields
  cases reqs.allowedRegions <;> cases reqs.maxMonthlyBudgetUSD <;> cases reqs.requiredEncryption <;>
    simp [List.lookup_append, List.lookup_cons, lookup_texts]

theorem lookup_prohibited : reqs.fields.lookup "prohibited_resource_types" =
    if reqs.prohibitedResourceTypes ≠ [] then some (.arr (reqs.prohibitedResourceTypes.map .str)) else none := by
  unfold PolicyRequirements.fields
  cases reqs.allowedRegions <;> cases reqs.maxMonthlyBudgetUSD <;> cases reqs.requiredEncryption <;>
    simp [List.lookup_append, List.lookup_cons, lookup_texts]

theorem lookup_warnings : reqs.fields.lookup "warnings" =
    if reqs.warnings ≠ [] then some (.arr (reqs.warnings.map .str)) else none := by
  unfold PolicyRequirements.fields
  cases reqs.allowedRegions <;> cases reqs.maxMonthlyBudgetUSD <;> cases reqs.requiredEncryption <;>
    simp [List.lookup_append, List.lookup_cons, lookup_texts]

end Lookups

theorem projectPolicy_fields {reqs : PolicyRequirements} (restricted : reqs.allowedRegions ≠ some []) :
    projectPolicy reqs.fields =
      if reqs.maxMonthlyBudgetUSD.any malformedBudget then .error malformed else .ok (context reqs) := by
  have encrypted : encryption (reqs.fields.lookup "required_encryption") = some reqs.requiredEncryption := by
    rw [lookup_encryption]
    cases reqs.requiredEncryption <;> rfl
  have warned : ((reqs.fields.lookup "warnings").isSome && (textArray (reqs.fields.lookup "warnings")).isNone) = false := by
    rw [lookup_warnings]
    split
    · rw [textArray_texts]
      rfl
    · rfl
  have allowed : ((reqs.fields.lookup "allowed_regions").isSome && (reqs.allowedRegions.getD []).isEmpty) = false := by
    rw [lookup_allowed_regions]
    cases hr : reqs.allowedRegions with
    | none => rfl
    | some regions =>
      have : regions ≠ [] := fun e => restricted (by rw [hr, e])
      simpa using this
  have limited : budget (reqs.fields.lookup "max_monthly_budget_usd") =
      if reqs.maxMonthlyBudgetUSD.any malformedBudget then none else some reqs.maxMonthlyBudgetUSD := by
    rw [lookup_budget]
    cases reqs.maxMonthlyBudgetUSD with
    | none => rfl
    | some maxUSD => rfl
  unfold projectPolicy
  rw [encrypted, limited, lookup_required_tags, lookup_prohibited, textArray_of_texts, textArray_of_texts]
  cases hr : reqs.allowedRegions with
  | none =>
    rw [hr] at allowed
    rw [lookup_allowed_regions, hr] at allowed ⊢
    dsimp only [Option.map_none]
    by_cases refused : reqs.maxMonthlyBudgetUSD.any malformedBudget = true
    · rw [if_pos refused, if_pos refused]
    · rw [if_neg refused, if_neg refused]
      dsimp only
      rw [warned, if_neg Bool.false_ne_true, if_neg (by decide), context, hr]
      rfl
  | some regions =>
    rw [hr] at allowed
    rw [lookup_allowed_regions, hr] at allowed ⊢
    dsimp only [Option.map_some, Option.getD_some] at allowed ⊢
    rw [textArray_texts]
    by_cases refused : reqs.maxMonthlyBudgetUSD.any malformedBudget = true
    · rw [if_pos refused, if_pos refused]
    · rw [if_neg refused, if_neg refused]
      dsimp only
      rw [warned, if_neg Bool.false_ne_true, if_neg (ne_true_of_eq_false allowed), context, hr]
      rfl

end Orchestrator

section Agent

open Provisr.Agent (isRegion isResourceType)
open Provisr.Agent.PolicyRequirements

variable (p : Provisr.Orchestrator.PolicyRequirements)

theorem strings_texts (values : List String) : strings (some (.arr (values.map .str))) = some values := by
  rw [strings, List.mapM_map]
  exact mapM_kept (fun _ => rfl) values

theorem normalize_texts {κ : Type} [LinearOrder κ] (rank : String → κ) (values : List String) :
    Json.normalize rank (.arr (values.map .str) : JsJson) = .arr (values.map .str) := by
  rw [Json.normalize, Json.normalizeItems_eq_map, List.map_map]
  rfl

def storedTags : List (String × String) := Json.sortFields Json.jsonbRank p.requiredTags

theorem dict_tags : dict (some (Json.jsonb (.obj (p.requiredTags.map fun t => (t.1, .str t.2))))) =
    some (storedTags p) := by
  have normal : Json.normalizeFields Json.jsonbRank (p.requiredTags.map fun t => (t.1, (.str t.2 : JsJson))) =
      p.requiredTags.map (Prod.map id .str) := by
    rw [Json.normalizeFields_eq_map, List.map_map]
    rfl
  rw [Json.jsonb, Json.normalize, normal, Json.sortFields_map, dict, List.mapM_map]
  exact mapM_kept (fun _ => rfl) (storedTags p)

theorem validate_storedTags (nodup : (p.requiredTags.map Prod.fst).Nodup) :
    validate_tags (storedTags p) = true ↔
      ∀ t ∈ p.requiredTags, Agent.isBlank t.1 = false ∧ Agent.isBlank t.2 = false := by
  unfold validate_tags storedTags
  rw [List.all_eq_true]
  simp only [Json.mem_sortFields_iff Json.jsonbRank_injective nodup, Bool.and_eq_true, Bool.not_eq_true']

def members : JsFields :=
  [("enabled", .bool p.enabled), ("allowed_regions", .arr (p.allowedRegions.map .str)),
    ("max_budget", (p.maxBudget.map Json.num).getD .null),
    ("required_tags", .obj (p.requiredTags.map fun t => (t.1, .str t.2))),
    ("prohibited_resource_types", .arr (p.prohibitedResourceTypes.map .str)),
    ("required_encryption", .bool p.requiredEncryption), ("required_backup", .bool p.requiredBackup)]

def storedMembers : JsFields := Json.sortFields Json.jsonbRank (Json.normalizeFields Json.jsonbRank (members p))

theorem jsonb_toJson : Json.jsonb p.toJson = .obj (storedMembers p) := by
  rw [Json.jsonb, Orchestrator.PolicyRequirements.toJson, Json.normalize]
  rfl

theorem lookup_storedMembers (k : String) :
    (storedMembers p).lookup k = ((members p).lookup k).map (Json.normalize Json.jsonbRank) := by
  have keys : ((members p).map Prod.fst).Nodup := by
    rw [show (members p).map Prod.fst = known from rfl]
    decide
  exact Json.lookup_normalized Json.jsonbRank_injective keys k

theorem storedMembers_known : (storedMembers p).all (fun f => known.contains f.1) = true := by
  rw [List.all_eq_true]
  intro f hf
  obtain ⟨v, mem, -⟩ := Json.mem_normalizeFields (Json.mem_sortFields hf)
  rw [List.contains_iff_mem, show known = (members p).map Prod.fst from rfl]
  exact List.mem_map.mpr ⟨_, mem, rfl⟩

theorem positive_stored (maxBudget : Option JsNumber) :
    positive (some (Json.normalize Json.jsonbRank ((maxBudget.map Json.num).getD .null))) =
      if maxBudget.any malformedBudget then none else some maxBudget := by
  cases maxBudget with
  | none => rfl
  | some maxUSD => rfl

theorem model_validate_jsonb (nodup : (p.requiredTags.map Prod.fst).Nodup) :
    (model_validate (Json.jsonb p.toJson)).isSome = true ↔
      validate_regions p.allowedRegions = true ∧ p.maxBudget.any malformedBudget = false ∧
        (∀ t ∈ p.requiredTags, Agent.isBlank t.1 = false ∧ Agent.isBlank t.2 = false) ∧
        validate_resource_types p.prohibitedResourceTypes = true := by
  have enabled : boolean true ((storedMembers p).lookup "enabled") = some p.enabled := by
    rw [lookup_storedMembers]
    rfl
  have regions : strings ((storedMembers p).lookup "allowed_regions") = some p.allowedRegions := by
    rw [lookup_storedMembers, ← strings_texts, ← normalize_texts Json.jsonbRank]
    rfl
  have maxBudget : positive ((storedMembers p).lookup "max_budget") =
      if p.maxBudget.any malformedBudget then none else some p.maxBudget := by
    rw [lookup_storedMembers, ← positive_stored]
    rfl
  have tags : dict ((storedMembers p).lookup "required_tags") = some (storedTags p) := by
    rw [lookup_storedMembers, ← dict_tags]
    rfl
  have prohibited : strings ((storedMembers p).lookup "prohibited_resource_types") =
      some p.prohibitedResourceTypes := by
    rw [lookup_storedMembers, ← strings_texts, ← normalize_texts Json.jsonbRank]
    rfl
  have encryption : boolean false ((storedMembers p).lookup "required_encryption") = some p.requiredEncryption := by
    rw [lookup_storedMembers]
    rfl
  have backup : boolean false ((storedMembers p).lookup "required_backup") = some p.requiredBackup := by
    rw [lookup_storedMembers]
    rfl
  rw [jsonb_toJson, model_validate, enabled, regions, maxBudget, tags, prohibited, encryption, backup,
    storedMembers_known, ← validate_storedTags p nodup]
  simp only [Option.filter_some, Option.bind_eq_bind, Option.bind_some, if_true]
  cases validate_regions p.allowedRegions <;> cases p.maxBudget.any malformedBudget <;>
    cases validate_tags (storedTags p) <;> cases validate_resource_types p.prohibitedResourceTypes <;> simp

end Agent

-- The orchestrator takes the requirements, or denies every region, and the agent takes the context made of them.
def Accepted (reqs : PolicyRequirements) : Prop :=
  match Orchestrator.PlanningClients.projectPolicy reqs.fields with
  | .ok p => (Agent.PolicyRequirements.model_validate (Json.jsonb p.toJson)).isSome = true
  | .error e => e = .policyDeniesAllRegions

structure Portable (rules : List PolicyRule) : Prop where
  blocks : ∀ rule ∈ rules, rule.ruleKey ≠ "no_public_s3"
  budget : ∀ rule ∈ rules, rule.ruleKey = "budget_max" → rule.params.lookup "max_usd" ≠ some (.num 0)
  tags : ∀ rule ∈ rules, rule.ruleKey = "required_tags" → ∀ tag ∈ tagsOf rule, Agent.isBlank tag = false
  regions : (∃ rule ∈ rules, rule.ruleKey = "allowed_regions") → ∀ region,
    (∀ rule ∈ rules, rule.ruleKey = "allowed_regions" → region ∈ regionsOf rule) → Agent.isRegion region = true

theorem malformedBudget_iff {n : JsNumber} (sign : n.negative = false) : malformedBudget n = true ↔ n = 0 := by
  rw [malformedBudget, sign, Bool.false_or, List.isEmpty_iff, zero_digits]

theorem context_tags (reqs : PolicyRequirements) : ((context reqs).requiredTags.map Prod.fst).Nodup := by
  rw [context, List.map_map]
  change ((distinct reqs.requiredTags).map id).Nodup
  rw [List.map_id]
  exact nodup_distinct _

theorem accepted_iff {reqs : PolicyRequirements} (restricted : reqs.allowedRegions ≠ some []) :
    Accepted reqs ↔ reqs.maxMonthlyBudgetUSD.any malformedBudget = false ∧
      Agent.PolicyRequirements.validate_regions (reqs.allowedRegions.getD []) = true ∧
      (∀ tag ∈ reqs.requiredTags, Agent.isBlank tag = false) ∧
      Agent.PolicyRequirements.validate_resource_types reqs.prohibitedResourceTypes = true := by
  have tags : (∀ t ∈ (context reqs).requiredTags, Agent.isBlank t.1 = false ∧ Agent.isBlank t.2 = false) ↔
      ∀ tag ∈ reqs.requiredTags, Agent.isBlank tag = false := by
    have any : Agent.isBlank Orchestrator.PlanningClients.anyTagValue = false := by decide
    simp only [context, List.forall_mem_map, mem_distinct, any, and_true]
  unfold Accepted
  rw [projectPolicy_fields restricted]
  cases refused : reqs.maxMonthlyBudgetUSD.any malformedBudget with
  | true => simp [Orchestrator.PlanningClients.malformed]
  | false =>
    rw [if_neg Bool.false_ne_true]
    dsimp only
    rw [model_validate_jsonb _ (context_tags reqs), tags]
    simp only [context, refused, true_and]

theorem validate_requirements {allowed : List String} :
    Agent.PolicyRequirements.validate_regions ((distinct allowed).insertionSort (· ≤ ·)) = true ↔
      ∀ region ∈ allowed, Agent.isRegion region = true := by
  have perm := List.perm_insertionSort (· ≤ ·) (distinct allowed)
  unfold Agent.PolicyRequirements.validate_regions
  rw [Bool.and_eq_true, decide_eq_true_iff, perm.nodup_iff, List.all_eq_true]
  simp only [nodup_distinct, true_and, perm.mem_iff, mem_distinct]

theorem publicBlock_refused : Agent.PolicyRequirements.validate_resource_types [publicBlock] = false := by
  decide

section Projected

variable {rules : List PolicyRule} {p : Projection} (gathered : Gathered rules p)

include gathered

theorem restricted_requirements : p.requirements.allowedRegions ≠ some [] := by
  intro h
  obtain ⟨allowed, some, empty⟩ := Option.map_eq_some_iff.mp h
  obtain ⟨nonempty, -⟩ := gathered.regions allowed some
  obtain ⟨region, mem⟩ := List.exists_mem_of_ne_nil _ nonempty
  have perm := List.perm_insertionSort (· ≤ ·) (distinct allowed)
  rw [empty] at perm
  exact absurd (perm.mem_iff.mpr ((mem_distinct allowed).mpr mem)) List.not_mem_nil

theorem budget_requirements : p.requirements.maxMonthlyBudgetUSD.any malformedBudget = false ↔
    ∀ rule ∈ rules, rule.ruleKey = "budget_max" → rule.params.lookup "max_usd" ≠ some (.num 0) := by
  have zero : p.maxMonthlyBudgetUSD.any malformedBudget = true ↔ p.maxMonthlyBudgetUSD = some 0 := by
    cases limited : p.maxMonthlyBudgetUSD with
    | none => simp
    | some least => simp [malformedBudget_iff (gathered.budget least limited)]
  rw [← Bool.not_eq_true, Projection.requirements, zero, gathered.free]
  simp only [not_exists, not_and, ne_eq]

theorem regions_requirements :
    Agent.PolicyRequirements.validate_regions (p.requirements.allowedRegions.getD []) = true ↔
      ((∃ rule ∈ rules, rule.ruleKey = "allowed_regions") → ∀ region,
        (∀ rule ∈ rules, rule.ruleKey = "allowed_regions" → region ∈ regionsOf rule) →
          Agent.isRegion region = true) := by
  rw [Projection.requirements]
  cases allowed : p.allowedRegions with
  | none =>
    have unrestricted := gathered.unrestricted.mp allowed
    constructor
    · rintro - ⟨rule, mem, key⟩
      exact absurd key (unrestricted rule mem)
    · exact fun _ => rfl
  | some regions =>
    obtain ⟨-, all⟩ := gathered.regions regions allowed
    have restricted : ∃ rule ∈ rules, rule.ruleKey = "allowed_regions" := by
      by_contra none
      have := gathered.unrestricted.mpr fun rule mem key => none ⟨rule, mem, key⟩
      rw [allowed] at this
      cases this
    rw [Option.map_some, Option.getD_some, validate_requirements]
    simp only [all, restricted, forall_const]

theorem tags_requirements : (∀ tag ∈ p.requirements.requiredTags, Agent.isBlank tag = false) ↔
    ∀ rule ∈ rules, rule.ruleKey = "required_tags" → ∀ tag ∈ tagsOf rule, Agent.isBlank tag = false := by
  rw [Projection.requirements]
  simp only [gathered.tags]
  constructor
  · exact fun h rule mem key tag htag => h tag ⟨rule, mem, key, htag⟩
  · rintro h tag ⟨rule, mem, key, htag⟩
    exact h rule mem key tag htag

theorem prohibited_requirements :
    Agent.PolicyRequirements.validate_resource_types p.requirements.prohibitedResourceTypes = true ↔
      ∀ rule ∈ rules, rule.ruleKey ≠ "no_public_s3" := by
  rw [Projection.requirements]
  rcases gathered.prohibited with ⟨empty, absent⟩ | ⟨block, rule, mem, key⟩
  · rw [empty]
    exact ⟨fun _ => absent, fun _ => rfl⟩
  · rw [block, publicBlock_refused]
    exact ⟨fun h => absurd h Bool.false_ne_true, fun h => absurd key (h rule mem)⟩

end Projected

theorem requirements_accepted_iff {rules : List PolicyRule} {p : Projection} (gathered : Gathered rules p) :
    Accepted p.requirements ↔ Portable rules := by
  rw [accepted_iff (restricted_requirements gathered), budget_requirements gathered, regions_requirements gathered,
    tags_requirements gathered, prohibited_requirements gathered]
  constructor
  · rintro ⟨budget, regions, tags, blocks⟩
    exact ⟨blocks, budget, tags, regions⟩
  · rintro ⟨blocks, budget, tags, regions⟩
    exact ⟨budget, regions, tags, blocks⟩

theorem policy_requirements_accepted_iff {rules : List PolicyRule} (valid : ∀ rule ∈ rules, Valid rule)
    {reqs : PolicyRequirements} (h : ProjectPolicyRequirements rules = .ok reqs) : Accepted reqs ↔ Portable rules := by
  unfold ProjectPolicyRequirements at h
  cases gathered : rules.foldlM Projection.project {} with
  | error e =>
    rw [gathered] at h
    cases h
  | ok p =>
    rw [gathered] at h
    cases h
    exact requirements_accepted_iff (gathered_rules valid gathered)

section Examples

def limits : List PolicyRule :=
  [⟨"budget_max", [("max_usd", .num (JsNumber.ofNat 100))]⟩,
    ⟨"allowed_regions", [("regions", .arr [.str "us-east-1", .str "eu-west-1"])]⟩,
    ⟨"allowed_regions", [("regions", .arr [.str "us-east-1"])]⟩, ⟨"required_tags", [("tags", .arr [.str "owner"])]⟩]

def privateBuckets : List PolicyRule := [⟨"no_public_s3", []⟩]

theorem valid_limits : ∀ rule ∈ limits, Valid rule := by
  simp only [limits, List.mem_cons, List.not_mem_nil, or_false]
  rintro rule (rfl | rfl | rfl | rfl) <;> rfl

theorem portable_limits : Portable limits where
  blocks := by decide
  budget := by
    simp only [limits, List.mem_cons, List.not_mem_nil, or_false]
    rintro rule (rfl | rfl | rfl | rfl) key <;> decide
  tags := by
    simp only [limits, List.mem_cons, List.not_mem_nil, or_false]
    rintro rule (rfl | rfl | rfl | rfl) key <;> revert key <;> decide
  regions := by
    rintro - region common
    have east := common ⟨"allowed_regions", [("regions", .arr [.str "us-east-1"])]⟩ (by simp [limits]) rfl
    obtain rfl := List.mem_singleton.mp east
    decide

theorem policy_requirements_accepted_limits :
    ∃ reqs, ProjectPolicyRequirements limits = .ok reqs ∧ Accepted reqs :=
  ⟨_, rfl, (policy_requirements_accepted_iff valid_limits rfl).mpr portable_limits⟩

theorem policy_requirements_refused : ¬ ∀ rules : List PolicyRule, (∀ rule ∈ rules, Valid rule) →
    ∀ reqs, ProjectPolicyRequirements rules = .ok reqs → Accepted reqs := by
  intro claim
  have valid : ∀ rule ∈ privateBuckets, Valid rule := by
    intro rule mem
    rw [List.mem_singleton.mp mem]
    rfl
  have portable := (requirements_accepted_iff (gathered_rules valid rfl)).mp (claim privateBuckets valid _ rfl)
  exact portable.blocks _ (List.mem_singleton_self _) rfl

end Examples

end Provisr.System.PolicyBoundary
