import Provisr.Agent.Compliance
import Provisr.Foundation.JsonOrder

namespace Provisr.Agent

open Provisr.Foundation Contracts

section Canonical

inductive FieldSourceKind where
  | userPrompt
  | policyDefault
  | cloudState
  | aiAssumption
  deriving DecidableEq, Repr

-- A decimal with two places.
def hundredths (n : Nat) : PyFloat :=
  .finite (JsNumber.ofDigits false (Nat.toDigits 10 n) (JsNumber.all_isDigit_toDigits n)
    ((Nat.toDigits 10 n).length - 2))

structure FieldSource where
  source : FieldSourceKind
  confidence : Such isConfidence

structure ResourceAssumption where
  field : Such (lengthIn 1 128)
  assumedValue : Such (lengthIn 1 256)
  confidence : Such isConfidence
  reason : Such (lengthIn 1 512)

structure UnknownField where
  field : Such (lengthIn 1 128)
  reason : Such (lengthIn 1 512)

-- The fields of a canonical resource that are not left at their defaults.
structure CanonicalFields where
  logicalName : String
  type : String
  providerConfig : PyFields
  tags : List (String × String)
  policyRefs : List String
  unknowns : List UnknownField
  assumptions : List ResourceAssumption
  sourceMetadata : FieldSource

def CanonicalFields.bounds (r : CanonicalFields) : List (String × Bool) :=
  [("logical_name", isPlainName r.logicalName), ("type", lengthIn 1 64 r.type), ("tags", placeholderFree r.tags),
    ("policy_refs", r.policyRefs.length ≤ 20), ("unknowns", r.unknowns.length ≤ 20),
    ("assumptions", r.assumptions.length ≤ 20)]

def isCanonical (r : CanonicalFields) : Bool := r.bounds.all Prod.snd

abbrev CanonicalResource := Such isCanonical

structure ManifestMetadata where
  requestId : String
  workspaceId : String
  userPrompt : String

def ManifestMetadata.bounds (m : ManifestMetadata) : List (String × Bool) :=
  [("request_id", lengthIn 1 128 m.requestId), ("workspace_id", lengthIn 1 128 m.workspaceId),
    ("user_prompt", lengthIn 1 20000 m.userPrompt)]

structure CanonicalManifestFields where
  provider : Provider
  region : String
  cloudAccount : String
  environment : Environment
  metadata : ManifestMetadata
  tags : List (String × String)
  monthlyBudgetUsd : Option PyFloat
  resources : List CanonicalResource
  regionSource : FieldSource
  environmentSource : FieldSource
  providerSource : FieldSource

def CanonicalManifestFields.bounds (m : CanonicalManifestFields) : List (String × Bool) :=
  [("provider", m.provider == .aws), ("region", lengthIn 3 32 m.region),
    ("cloud_account", lengthIn 0 128 m.cloudAccount), ("metadata", m.metadata.bounds.all Prod.snd),
    ("tags", placeholderFree m.tags), ("monthly_budget_usd", m.monthlyBudgetUsd.all positiveFloat),
    ("resources", sized 1 50 m.resources)]

def CanonicalManifestFields.valid (m : CanonicalManifestFields) : Bool := m.bounds.all Prod.snd

abbrev CanonicalManifest := Such CanonicalManifestFields.valid

inductive DraftError where
  | policyViolation (violations : List String)
  | validation (fields : List String)
  deriving DecidableEq

def failing (bounds : List (String × Bool)) : List String := (bounds.filter fun b => !b.2).map Prod.fst

def create {α : Type} (test : α → Bool) (bounds : α → List (String × Bool)) (a : α) : Except DraftError (Such test) :=
  match Such.of test a with
  | some valid => .ok valid
  | none => .error (.validation (failing (bounds a)))

def CanonicalResource.create : CanonicalFields → Except DraftError CanonicalResource :=
  Agent.create isCanonical CanonicalFields.bounds

def CanonicalManifest.create : CanonicalManifestFields → Except DraftError CanonicalManifest :=
  Agent.create CanonicalManifestFields.valid CanonicalManifestFields.bounds

theorem create_iff {α : Type} {test : α → Bool} {bounds : α → List (String × Bool)} {a : α} :
    (∃ c, create test bounds a = .ok c) ↔ test a = true := by
  unfold create
  cases holds : test a with
  | true =>
    have read : Such.of test a = some ⟨a, holds⟩ := Such.of_eq_some.mpr rfl
    simp [read]
  | false => simp [Such.of, holds]

end Canonical

structure PolicyConstraints where
  allowedRegions : List String
  maxBudget : Option JsNumber
  requiredTags : List (String × String)
  prohibitedResourceTypes : List String

structure DraftingContext where
  requestId : String
  workspaceId : String
  userPrompt : String
  policy : PolicyConstraints
  cloudAccount : String
  cloudDefaultRegion : Option String

section Preflight

variable [PyUnicode] [PyFormat]

def collectRegionViolations (region : String) (policy : PolicyConstraints) : List String :=
  if !policy.allowedRegions.isEmpty && !policy.allowedRegions.contains region then
    ["Region '" ++ region ++ "' is not in the policy-allowed set: " ++ ", ".intercalate policy.allowedRegions ++ "."]
  else []

def collectBudgetViolations (budget : Option PyFloat) (policy : PolicyConstraints) : List String :=
  match policy.maxBudget, budget with
  | some limit, some budget =>
    if (PyFloat.finite limit).lt budget then
      ["Requested budget $" ++ PyFormat.fixed budget ++ "/mo exceeds policy maximum of $" ++
        PyFormat.fixed (.finite limit) ++ "/mo."]
    else []
  | _, _ => []

def collectProhibitedTypeViolations (resources : List Resource) (policy : PolicyConstraints) : List String :=
  (resources.filter fun r => policy.prohibitedResourceTypes.contains r.type).map fun r =>
    "Resource type '" ++ r.type ++ "' is prohibited by workspace policy."

def checkPolicyPreflight (raw : DraftedManifest) (policy : PolicyConstraints) : List String :=
  collectRegionViolations raw.region policy ++ collectBudgetViolations (monthlyBudget raw) policy ++
    collectProhibitedTypeViolations raw.manifest.val.resources.val policy

end Preflight

section Build

variable [PyUnicode]

def imageReason : String :=
  "Image alias will be resolved to a region-specific AMI ID at execution time. Confirm the alias is correct."

def countReason : String := "Single instance assumed; confirm if high availability is required."

def storageReason : String := "Minimum storage assumed; confirm if larger data volume is expected."

omit [PyUnicode] in
theorem image_fits (image : Such (lengthIn 1 128)) : lengthIn 1 256 image.val = true := by
  have fits := image.property
  simp only [lengthIn, Bool.and_eq_true, decide_eq_true_eq] at fits ⊢
  omega

def imageValue (image : Such (lengthIn 1 128)) : Such (lengthIn 1 256) := ⟨image.val, image_fits image⟩

def inferAssumptions : Resource → List ResourceAssumption
  | .ec2 r =>
    (if startsWith "ami-" r.image.val then []
      else [⟨⟨"image", by decide⟩, imageValue r.image, ⟨hundredths 85, by decide +kernel⟩,
        ⟨imageReason, lengthIn_of String.length_ofList (by decide)⟩⟩]) ++
    (if r.count.val = 1 then
      [⟨⟨"count", by decide⟩, ⟨"1", by decide⟩, ⟨hundredths 80, by decide +kernel⟩, ⟨countReason, lengthIn_of String.length_ofList (by decide)⟩⟩]
      else [])
  | .rds r =>
    if r.allocatedStorageGb.val = 20 then
      [⟨⟨"allocated_storage_gb", by decide⟩, ⟨"20", by decide⟩, ⟨hundredths 75, by decide +kernel⟩,
        ⟨storageReason, lengthIn_of String.length_ofList (by decide)⟩⟩]
    else []
  | _ => []

def detectUnknowns : Resource → List UnknownField
  | .ec2 r =>
    if r.instanceType.val = "" then
      [⟨⟨"instance_type", by decide⟩,
        ⟨"EC2 instance type was not specified and cannot be inferred safely.", by decide⟩⟩]
    else []
  | .rds r =>
    if r.instanceClass.val = "" then
      [⟨⟨"instance_class", by decide⟩, ⟨"RDS instance class was not specified.", by decide⟩⟩]
    else []
  | _ => []

def buildPolicyRefs (type : String) (policy : PolicyConstraints) : List String :=
  (if policy.allowedRegions.isEmpty then [] else ["policy:allowed_regions"]) ++
    (if policy.requiredTags.isEmpty then [] else ["policy:required_tags"]) ++
    (if policy.prohibitedResourceTypes.contains type then ["policy:prohibited_resource_types"] else []) ++
    (if policy.maxBudget.isSome then ["policy:max_budget"] else [])

def certain (source : FieldSourceKind) : FieldSource := ⟨source, ⟨hundredths 100, by decide +kernel⟩⟩

variable [Pydantic]

def extractProviderConfig (raw : Resource) : PyFields :=
  raw.modelFields.filter fun f => !(["type", "name"].contains f.1)

def buildCanonicalResource (raw : Resource) (manifestTags : List (String × String)) (policy : PolicyConstraints) :
    Except DraftError CanonicalResource :=
  CanonicalResource.create ⟨raw.name, raw.type, extractProviderConfig raw, manifestTags,
    buildPolicyRefs raw.type policy, detectUnknowns raw, inferAssumptions raw, certain .userPrompt⟩

def annotateRegion (region : String) (policy : PolicyConstraints) (cloudDefaultRegion : Option String) : FieldSource :=
  if policy.allowedRegions.contains region then certain .policyDefault
  else if cloudDefaultRegion = some region then certain .cloudState
  else ⟨.userPrompt, ⟨hundredths 95, by decide +kernel⟩⟩

def mandatoryTags (policy : PolicyConstraints) : List (String × String) :=
  policy.requiredTags.filter fun t => t.2 != anyTagValue

-- {**tags, **mandatory}
def mergedTags (tags mandatory : List (String × String)) : List (String × String) :=
  tags.map (fun t => (t.1, (mandatory.lookup t.1).getD t.2)) ++
    mandatory.filter fun t => !(tags.map Prod.fst).contains t.1

def buildManifest (raw : DraftedManifest) (context : DraftingContext) : Except DraftError CanonicalManifest := do
  let tags := mergedTags raw.manifest.val.tags.val (mandatoryTags context.policy)
  let resources ← raw.manifest.val.resources.val.mapM fun r => buildCanonicalResource r tags context.policy
  CanonicalManifest.create ⟨raw.manifest.val.provider, raw.region, context.cloudAccount, raw.manifest.val.environment,
    ⟨context.requestId, context.workspaceId, context.userPrompt⟩, tags, monthlyBudget raw, resources,
    annotateRegion raw.region context.policy context.cloudDefaultRegion, certain .userPrompt, certain .userPrompt⟩

variable [PyFormat]

def draftManifest (raw : DraftedManifest) (context : DraftingContext) : Except DraftError CanonicalManifest :=
  match checkPolicyPreflight raw context.policy with
  | [] => buildManifest raw context
  | violations => .error (.policyViolation violations)

end Build

section Turn

variable [PyUnicode] [PyFormat]

inductive TurnError where
  | invalidModelResponse (detail : String)
  | validation (fields : List String)
  deriving DecidableEq

def policyConstraints : Option PolicyRequirements → PolicyConstraints
  | none => ⟨[], none, [], []⟩
  | some p => ⟨p.allowedRegions, p.maxBudget, p.requiredTags, p.prohibitedResourceTypes⟩

def violationDetails (violations : List PolicyViolation) : String :=
  "; ".intercalate (violations.map fun v => v.message ++ " Alternatives: " ++ " ".intercalate v.alternatives)

def checkDraft (session : AgentSession) (data : ManifestDraftData) : Except TurnError ManifestDraft :=
  match session.policyRequirements with
  | none => .error (.invalidModelResponse "Manifest draft was produced before policy requirements were loaded")
  | some requirements =>
    let result := applyWorkspaceRegionDefault data.draft session
    match manifestCloudContextError result.drafted session.executionContext with
    | some error => .error (.invalidModelResponse error)
    | none =>
      match validateManifestPolicy result.drafted requirements with
      | [] => .ok result
      | violations => .error (.invalidModelResponse
          ("Manifest draft conflicts with policy requirements: " ++ violationDetails violations))

def AgentSession.replied (session : AgentSession) (message : String) : AgentSession :=
  { session with messages := session.messages ++ [⟨.assistant, message⟩] }

variable [Pydantic]

def draftCanonical (session : AgentSession) (envelope : ManifestDraft) (userPrompt : Such (lengthIn 1 20000)) :
    Except TurnError CanonicalManifest :=
  (draftManifest envelope.drafted ⟨session.requestId.val, session.organizationId.val, userPrompt.val,
    policyConstraints session.policyRequirements, "", workspaceDefaultRegion session⟩).mapError fun
      | .policyViolation violations => .invalidModelResponse ("; ".intercalate violations)
      | .validation fields => .validation fields

end Turn

section Merging

theorem placeholderFree_iff {tags : List (String × String)} :
    placeholderFree tags = true ↔ ∀ t ∈ tags, PyText.strip t.2 ≠ anyTagValue := by
  simp [placeholderFree]

theorem mergedTags_free {tags mandatory : List (String × String)} (free : placeholderFree tags = true)
    (distinct : (mandatory.map Prod.fst).Nodup) :
    placeholderFree (mergedTags tags mandatory) = true ↔ placeholderFree mandatory = true := by
  simp only [placeholderFree_iff] at free ⊢
  constructor
  · intro merged t mem
    cases known : (tags.map Prod.fst).contains t.1 with
    | true =>
      obtain ⟨own, among, same⟩ := List.mem_map.mp (List.contains_iff_mem.mp known)
      have found : mandatory.lookup own.1 = some t.2 := (Json.lookup_eq_some_iff distinct).mpr (by rwa [same])
      have value := merged (own.1, (mandatory.lookup own.1).getD own.2)
        (List.mem_append_left _ (List.mem_map_of_mem among))
      rwa [found] at value
    | false => exact merged t (List.mem_append_right _ (List.mem_filter.mpr ⟨mem, by rw [known]; rfl⟩))
  · intro all t mem
    rcases List.mem_append.mp mem with kept | added
    · obtain ⟨own, among, rfl⟩ := List.mem_map.mp kept
      cases found : mandatory.lookup own.1 with
      | none => exact free own among
      | some value => exact all _ ((Json.lookup_eq_some_iff distinct).mp found)
    · exact all t (List.mem_filter.mp added).1

theorem mandatory_free_iff {p : PolicyRequirements} :
    placeholderFree (mandatoryTags (policyConstraints (some p))) = true ↔
      ∀ t ∈ p.requiredTags, t.2 ≠ anyTagValue → PyText.strip t.2 ≠ anyTagValue := by
  simp [placeholderFree_iff, mandatoryTags, policyConstraints]

theorem policyRefs_bounded (type : String) (policy : PolicyConstraints) :
    (buildPolicyRefs type policy).length ≤ 20 := by
  unfold buildPolicyRefs
  grind

theorem violation_nil_iff {broken : Bool} {code message : String} {alternatives : List String} :
    violation broken code message alternatives = [] ↔ broken = false := by
  cases broken <;> simp [violation]

theorem mem_sorted {x : String} {xs : List String} : x ∈ sorted xs ↔ x ∈ xs := by
  rw [sorted, fromKeys, List.mem_mergeSort, List.mem_eraseDups]

theorem budget_clean_iff [PyFormat] {budget : Option PyFloat} {p : PolicyRequirements} :
    collectBudgetViolations budget (policyConstraints (some p)) = [] ↔
      ∀ limit ∈ p.maxBudget, ∀ b ∈ budget, (PyFloat.finite limit).lt b = false := by
  simp only [collectBudgetViolations, policyConstraints]
  cases p.maxBudget <;> cases budget <;> simp

end Merging

section Within

variable [PyUnicode]

structure Within (p : PolicyRequirements) (d : DraftedManifest) : Prop where
  region : p.allowedRegions = [] ∨ d.region ∈ p.allowedRegions
  budget : ∀ limit ∈ p.maxBudget, ∀ budget ∈ monthlyBudget d, (PyFloat.finite limit).lt budget = false
  types : ∀ r ∈ d.manifest.val.resources.val, r.type ∉ p.prohibitedResourceTypes
  tags : ∀ t ∈ p.requiredTags, t.2 ≠ anyTagValue → PyText.strip t.2 ≠ anyTagValue

theorem region_clean_iff {d : DraftedManifest} {p : PolicyRequirements} :
    collectRegionViolations d.region (policyConstraints (some p)) = [] ↔
      p.allowedRegions = [] ∨ d.region ∈ p.allowedRegions := by
  simp [collectRegionViolations, policyConstraints, Classical.or_iff_not_imp_left]

theorem types_clean_iff {resources : List Resource} {p : PolicyRequirements} :
    collectProhibitedTypeViolations resources (policyConstraints (some p)) = [] ↔
      ∀ r ∈ resources, r.type ∉ p.prohibitedResourceTypes := by
  simp [collectProhibitedTypeViolations, policyConstraints]

variable [PyFormat]

theorem within_iff {p : PolicyRequirements} {d : DraftedManifest} :
    Within p d ↔ checkPolicyPreflight d (policyConstraints (some p)) = [] ∧
      placeholderFree (mandatoryTags (policyConstraints (some p))) = true := by
  unfold checkPolicyPreflight
  rw [List.append_eq_nil_iff, List.append_eq_nil_iff, region_clean_iff, budget_clean_iff, types_clean_iff,
    mandatory_free_iff]
  constructor
  · intro within
    exact ⟨⟨⟨within.region, within.budget⟩, within.types⟩, within.tags⟩
  · rintro ⟨⟨⟨region, budget⟩, types⟩, tags⟩
    exact ⟨region, budget, types, tags⟩

theorem compliant_within {d : DraftedManifest} {p : PolicyRequirements} (enabled : p.enabled = true)
    (clean : validateManifestPolicy d p = []) : Within p d := by
  unfold validateManifestPolicy at clean
  rw [if_pos enabled] at clean
  simp only [List.append_eq_nil_iff] at clean
  obtain ⟨⟨⟨⟨⟨⟨-, regions⟩, budgets⟩, tags⟩, types⟩, -⟩, -⟩ := clean
  refine ⟨?_, ?_, ?_, ?_⟩
  · rw [regionViolations, violation_nil_iff] at regions
    simpa [Classical.or_iff_not_imp_left] using regions
  · intro limit limited budget given
    rw [Option.mem_def] at limited given
    simp only [budgetViolations, limited, given] at budgets
    exact violation_nil_iff.mp budgets
  · intro r mem prohibited
    rw [typeViolations, violation_nil_iff, Bool.not_eq_false', List.isEmpty_iff] at types
    have listed : r.type ∈ sorted ((d.manifest.val.resources.val.map Resource.type).filter fun t =>
        p.prohibitedResourceTypes.contains t) := by
      rw [mem_sorted, List.mem_filter]
      exact ⟨List.mem_map_of_mem mem, List.contains_iff_mem.mpr prohibited⟩
    rw [types] at listed
    cases listed
  · intro t mem own placeholder
    rw [tagViolations, violation_nil_iff, Bool.not_eq_false', List.isEmpty_iff, List.filter_eq_nil_iff] at tags
    have present : d.manifest.val.tags.val.lookup t.1 = some t.2 := by
      simpa [missingTag, own] using tags t mem
    obtain ⟨before, after, split, -⟩ := List.lookup_eq_some_iff.mp present
    have stated : (t.1, t.2) ∈ d.manifest.val.tags.val := by simp [split]
    exact placeholderFree_iff.mp d.manifest.val.tags.property _ stated placeholder

theorem checkDraft_ok {s : AgentSession} {data : ManifestDraftData} {envelope : ManifestDraft}
    (accepted : checkDraft s data = .ok envelope) : ∃ p, s.policyRequirements = some p ∧
      validateManifestPolicy envelope.drafted p = [] := by
  unfold checkDraft at accepted
  split at accepted
  · cases accepted
  · rename_i p loaded
    simp only at accepted
    split at accepted
    · cases accepted
    · split at accepted
      · rename_i clean
        obtain rfl := Except.ok.inj accepted
        exact ⟨p, loaded, clean⟩
      · cases accepted

end Within

section Spec

variable [PyUnicode]

theorem type_bounded (r : Resource) : lengthIn 1 64 r.type = true := by
  cases r <;> simp only [Resource.type] <;> decide

theorem unknowns_bounded (r : Resource) : (detectUnknowns r).length ≤ 20 := by
  unfold detectUnknowns
  grind

theorem assumptions_bounded (r : Resource) : (inferAssumptions r).length ≤ 20 := by
  unfold inferAssumptions
  grind

theorem budget_positive (d : DraftedManifest) : (monthlyBudget d).all positiveFloat = true := by
  unfold monthlyBudget
  cases d.manifest.val.monthlyBudgetUsd with
  | none => rfl
  | some budget => exact budget.property

theorem resources_sized {d : DraftedManifest} {rs : List CanonicalResource}
    (same : rs.length = d.manifest.val.resources.val.length) : sized 1 50 rs = true := by
  have fits := d.manifest.val.resources.property
  unfold sized at fits ⊢
  rwa [same]

variable [Pydantic]

theorem resource_built_iff {r : Resource} {tags : List (String × String)} {policy : PolicyConstraints} :
    (∃ c, buildCanonicalResource r tags policy = .ok c) ↔ isPlainName r.name = true ∧ placeholderFree tags = true := by
  unfold buildCanonicalResource CanonicalResource.create
  rw [create_iff]
  simp [isCanonical, CanonicalFields.bounds, type_bounded, policyRefs_bounded, unknowns_bounded, assumptions_bounded]

theorem manifest_built_iff {d : DraftedManifest} {c : DraftingContext}
    (ids : lengthIn 1 128 c.requestId = true ∧ lengthIn 1 128 c.workspaceId = true ∧
      lengthIn 1 20000 c.userPrompt = true)
    (account : c.cloudAccount = "") (distinct : (c.policy.requiredTags.map Prod.fst).Nodup) :
    (∃ m, buildManifest d c = .ok m) ↔ d.manifest.val.provider = .aws ∧ lengthIn 3 32 d.region = true ∧
      (∀ r ∈ d.manifest.val.resources.val, isPlainName r.name = true) ∧
      placeholderFree (mandatoryTags c.policy) = true := by
  have merged : placeholderFree (mergedTags d.manifest.val.tags.val (mandatoryTags c.policy)) = true ↔
      placeholderFree (mandatoryTags c.policy) = true :=
    mergedTags_free d.manifest.val.tags.property (distinct.sublist (List.filter_sublist.map _))
  have created : ∀ rs : List CanonicalResource, rs.length = d.manifest.val.resources.val.length →
      ((∃ m, CanonicalManifest.create ⟨d.manifest.val.provider, d.region, c.cloudAccount, d.manifest.val.environment,
        ⟨c.requestId, c.workspaceId, c.userPrompt⟩, mergedTags d.manifest.val.tags.val (mandatoryTags c.policy),
        monthlyBudget d, rs, annotateRegion d.region c.policy c.cloudDefaultRegion, certain .userPrompt,
        certain .userPrompt⟩ = .ok m) ↔ d.manifest.val.provider = .aws ∧ lengthIn 3 32 d.region = true ∧
          placeholderFree (mandatoryTags c.policy) = true) := by
    intro rs same
    unfold CanonicalManifest.create
    rw [create_iff, ← merged]
    have empty : lengthIn 0 128 c.cloudAccount = true := by
      rw [account]
      decide
    simp [CanonicalManifestFields.valid, CanonicalManifestFields.bounds, ManifestMetadata.bounds, ids, empty,
      budget_positive, resources_sized same]
  have resources : (∃ rs, (d.manifest.val.resources.val.mapM fun r => buildCanonicalResource r
      (mergedTags d.manifest.val.tags.val (mandatoryTags c.policy)) c.policy) = .ok rs ∧ ∀ r ∈ rs, True) ↔ _ :=
    mapM_ok_iff
  constructor
  · rintro ⟨m, run⟩
    obtain ⟨rs, built, made⟩ := except_bind_ok.mp run
    obtain ⟨provider, region, tags⟩ := (created rs (mapM_ok_length built)).mp ⟨m, made⟩
    refine ⟨provider, region, fun r mem => ?_, tags⟩
    obtain ⟨resource, one, -⟩ := resources.mp ⟨rs, built, fun _ _ => trivial⟩ r mem
    exact (resource_built_iff.mp ⟨resource, one⟩).1
  · rintro ⟨provider, region, names, tags⟩
    obtain ⟨rs, built, -⟩ := resources.mpr fun r mem => by
      obtain ⟨resource, one⟩ := resource_built_iff.mpr ⟨names r mem, merged.mpr tags⟩
      exact ⟨resource, one, trivial⟩
    obtain ⟨m, made⟩ := (created rs (mapM_ok_length built)).mpr ⟨provider, region, tags⟩
    exact ⟨m, except_bind_ok.mpr ⟨rs, built, made⟩⟩

variable [PyFormat]

theorem draftManifest_iff {d : DraftedManifest} {c : DraftingContext} :
    (∃ m, draftManifest d c = .ok m) ↔ checkPolicyPreflight d c.policy = [] ∧ ∃ m, buildManifest d c = .ok m := by
  unfold draftManifest
  split
  · rename_i clean
    simp [clean]
  · rename_i found
    constructor
    · rintro ⟨m, run⟩
      cases run
    · rintro ⟨clean, -⟩
      exact absurd clean found

theorem canonical_iff {s : AgentSession} {envelope : ManifestDraft} {userPrompt : Such (lengthIn 1 20000)} :
    (∃ m, draftCanonical s envelope userPrompt = .ok m) ↔
      ∃ m, draftManifest envelope.drafted ⟨s.requestId.val, s.organizationId.val, userPrompt.val,
        policyConstraints s.policyRequirements, "", workspaceDefaultRegion s⟩ = .ok m := by
  unfold draftCanonical
  generalize draftManifest _ _ = drafted
  cases drafted <;> simp [Except.mapError]

-- A draft that the turn has taken is drafted, unless it is one of those that only the drafter refuses.
theorem accepted_draft_canonical_iff {s : AgentSession} {data : ManifestDraftData} {envelope : ManifestDraft}
    (accepted : checkDraft s data = .ok envelope) (userPrompt : Such (lengthIn 1 20000)) :
    (∃ m, draftCanonical (s.replied envelope.message.val) envelope userPrompt = .ok m) ↔
      envelope.drafted.manifest.val.provider = .aws ∧ lengthIn 3 32 envelope.drafted.region = true ∧
      (∀ r ∈ envelope.drafted.manifest.val.resources.val, isPlainName r.name = true) ∧
      ∀ p ∈ s.policyRequirements, p.enabled = false → Within p envelope.drafted := by
  obtain ⟨p, loaded, clean⟩ := checkDraft_ok accepted
  have within : (∀ q ∈ s.policyRequirements, q.enabled = false → Within q envelope.drafted) ↔
      Within p envelope.drafted := by
    constructor
    · intro all
      cases enabled : p.enabled with
      | true => exact compliant_within enabled clean
      | false => exact all p loaded enabled
    · intro holds q given _
      rw [Option.mem_def, loaded] at given
      exact Option.some.inj given ▸ holds
  have ids : lengthIn 1 128 s.requestId.val = true := by
    have uuid := s.requestId.property
    simp only [lengthIn, Bool.and_eq_true, decide_eq_true_eq] at uuid ⊢
    omega
  have built := manifest_built_iff (d := envelope.drafted)
    (c := ⟨s.requestId.val, s.organizationId.val, userPrompt.val, policyConstraints s.policyRequirements, "",
      workspaceDefaultRegion (s.replied envelope.message.val)⟩)
    ⟨ids, s.organizationId.property, userPrompt.property⟩ rfl (by rw [loaded]; exact s.unique_tags p loaded)
  have policy : policyConstraints (some p) = policyConstraints s.policyRequirements := by rw [loaded]
  rw [within, within_iff, policy]
  refine canonical_iff.trans (draftManifest_iff.trans ((and_congr_right fun _ => built).trans ?_))
  constructor
  · rintro ⟨clean, provider, region, names, tags⟩
    exact ⟨provider, region, names, clean, tags⟩
  · rintro ⟨provider, region, names, clean, tags⟩
    exact ⟨clean, provider, region, names, tags⟩

end Spec

section Example

variable [PyUnicode]

-- The texts of ASCII, with numbers as they are.
abbrev plainFormat : PyFormat where
  repr s := "'" ++ s ++ "'"
  general n := String.ofList n.text
  fixed
    | .finite n => String.ofList n.text
    | .infinite _ => "inf"
    | .nan => "nan"
  casefold s := String.ofList (s.toList.map Char.toLower)

def bucketData (fields : ManifestFields) (integral : fields.resourceIntegrity = true) : ManifestDraftData :=
  ⟨⟨"A bucket for the site.", bucketText_fits⟩, ⟨fields, integral⟩⟩

def dottedFields : ManifestFields :=
  { bucketFields with resources := ⟨[.s3 ⟨⟨"site.assets", by decide⟩, true⟩], rfl⟩ }

def bucketPrompt : Such (lengthIn 1 20000) := ⟨"A staging bucket in US-EAST-1 please", by decide⟩

omit [PyUnicode] in
theorem accepted_draft_canonical_bucket :
    letI : PyUnicode := asciiPython
    letI : PyFormat := plainFormat
    letI : Pydantic := plainPydantic
    ∃ envelope, checkDraft shoutingSession (bucketData bucketFields (by decide)) = .ok envelope ∧
      ((∃ m, draftCanonical (shoutingSession.replied envelope.message.val) envelope bucketPrompt = .ok m) ↔
        envelope.drafted.manifest.val.provider = .aws ∧ lengthIn 3 32 envelope.drafted.region = true ∧
        (∀ r ∈ envelope.drafted.manifest.val.resources.val, isPlainName r.name = true) ∧
        ∀ p ∈ shoutingSession.policyRequirements, p.enabled = false → Within p envelope.drafted) := by
  let _ : PyUnicode := asciiPython
  let _ : PyFormat := plainFormat
  let _ : Pydantic := plainPydantic
  have taken : (checkDraft shoutingSession (bucketData bucketFields (by decide))).isOk = true := by
    decide +kernel
  cases accepted : checkDraft shoutingSession (bucketData bucketFields (by decide +kernel)) with
  | ok envelope => exact ⟨envelope, rfl, accepted_draft_canonical_iff accepted bucketPrompt⟩
  | error e =>
    rw [accepted] at taken
    cases taken

omit [PyUnicode] in
theorem dotted_bucket_rejected :
    ¬ ∀ [PyUnicode] [PyFormat] [Pydantic] (s : AgentSession) (data : ManifestDraftData) (envelope : ManifestDraft)
      (userPrompt : Such (lengthIn 1 20000)), checkDraft s data = .ok envelope →
        ∃ m, draftCanonical (s.replied envelope.message.val) envelope userPrompt = .ok m := by
  intro claim
  let _ : PyUnicode := asciiPython
  let _ : PyFormat := plainFormat
  let _ : Pydantic := plainPydantic
  have refused : (match checkDraft shoutingSession (bucketData dottedFields (by decide)) with
      | .ok envelope => !(draftCanonical (shoutingSession.replied envelope.message.val) envelope bucketPrompt).isOk
      | .error _ => false) = true := by
    decide +kernel
  split at refused
  · rename_i envelope accepted
    obtain ⟨m, run⟩ := claim shoutingSession _ envelope bucketPrompt accepted
    rw [run] at refused
    cases refused
  · cases refused

end Example

end Provisr.Agent
