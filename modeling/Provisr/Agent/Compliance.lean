import Provisr.Agent.RegionDefault

namespace Provisr.Agent

open Provisr.Foundation Contracts

-- What the texts of a turn are made with: `!r`, `:g`, `:.2f` and `str.casefold`.
class PyFormat where
  repr : String → String
  general : JsNumber → String
  fixed : PyFloat → String
  casefold : String → String

variable [PyUnicode] [PyFormat]

section Policy

structure PolicyViolation where
  code : String
  message : String
  alternatives : List String
  deriving DecidableEq

-- sorted(set(xs))
def sorted (xs : List String) : List String := (fromKeys xs).mergeSort fun a b => decide (a ≤ b)

def demanded (holds : Bool) (name : PolicyConstraintName) : List PolicyConstraintName := if holds then [name] else []

def expectedReferences (p : PolicyRequirements) : List PolicyConstraintName :=
  demanded (!p.allowedRegions.isEmpty) .allowedRegions ++ demanded p.maxBudget.isSome .maxBudget ++
    demanded (!p.requiredTags.isEmpty) .requiredTags ++
    demanded (!p.prohibitedResourceTypes.isEmpty) .prohibitedResourceTypes ++
    demanded p.requiredEncryption .requiredEncryption ++ demanded p.requiredBackup .requiredBackup

def violation (broken : Bool) (code message : String) (alternatives : List String) : List PolicyViolation :=
  if broken then [⟨code, message, alternatives⟩] else []

def referenceViolations (m : DraftedManifest) (p : PolicyRequirements) : List PolicyViolation :=
  let missing := (expectedReferences p).filter fun c => !m.manifest.val.appliedConstraints.contains c
  violation (!missing.isEmpty) "policy_reference_missing"
    "The manifest does not reference every applied workspace policy constraint."
    ["Reference these policy constraints in policy.applied_constraints: " ++
      ", ".intercalate (sorted (missing.map PolicyConstraintName.label))]

def regionViolations (m : DraftedManifest) (p : PolicyRequirements) : List PolicyViolation :=
  violation (!p.allowedRegions.isEmpty && !p.allowedRegions.contains m.region) "region_not_allowed"
    ("Region " ++ PyFormat.repr m.region ++ " is not allowed by workspace policy.")
    (p.allowedRegions.map fun region => "Use allowed region " ++ PyFormat.repr region ++ ".")

def monthlyBudget (m : DraftedManifest) : Option PyFloat := m.manifest.val.monthlyBudgetUsd.map Subtype.val

def budgetViolations (m : DraftedManifest) (p : PolicyRequirements) : List PolicyViolation :=
  match p.maxBudget with
  | none => []
  | some limit =>
    match monthlyBudget m with
    | none => violation true "budget_limit_missing"
        "The manifest does not reference the workspace policy budget limit."
        ["Set a monthly budget no greater than " ++ PyFormat.general limit ++ " USD."]
    | some budget => violation ((PyFloat.finite limit).lt budget) "budget_exceeded"
        "The manifest budget exceeds the workspace policy limit."
        ["Use a monthly budget no greater than " ++ PyFormat.general limit ++ " USD.",
          "Reduce resource capacity or choose lower-cost compliant resources."]

def missingTag (tags : List (String × String)) (t : String × String) : Bool :=
  if t.2 = anyTagValue then PyText.strip ((tags.lookup t.1).getD "") == "" else tags.lookup t.1 != some t.2

def tagViolations (m : DraftedManifest) (p : PolicyRequirements) : List PolicyViolation :=
  let missing := p.requiredTags.filter (missingTag m.manifest.val.tags.val)
  let keys := sorted (missing.map Prod.fst)
  violation (!missing.isEmpty) "required_tags_missing" "The manifest is missing required workspace policy tags."
    ["Add these required tags: " ++ ", ".intercalate (keys.map fun key =>
      let value := (missing.lookup key).getD ""
      if value = anyTagValue then key else key ++ "=" ++ value)]

def typeViolations (m : DraftedManifest) (p : PolicyRequirements) : List PolicyViolation :=
  let prohibited := sorted ((m.manifest.val.resources.val.map Resource.type).filter fun t =>
    p.prohibitedResourceTypes.contains t)
  violation (!prohibited.isEmpty) "resource_type_prohibited"
    "The manifest contains resource types prohibited by workspace policy."
    ["Remove or replace these prohibited resource types: " ++ ", ".intercalate prohibited]

def encryptionViolations (m : DraftedManifest) (p : PolicyRequirements) : List PolicyViolation :=
  violation (p.requiredEncryption && !m.manifest.val.encryptionEnabled) "encryption_required"
    "Workspace policy requires encryption for this manifest." ["Enable encryption in the manifest security settings."]

def backupViolations (m : DraftedManifest) (p : PolicyRequirements) : List PolicyViolation :=
  violation (p.requiredBackup && !m.manifest.val.backupEnabled) "backup_required"
    "Workspace policy requires backups for this manifest." ["Enable backups in the manifest backup settings."]

def validateManifestPolicy (m : DraftedManifest) (p : PolicyRequirements) : List PolicyViolation :=
  if p.enabled then
    referenceViolations m p ++ regionViolations m p ++ budgetViolations m p ++ tagViolations m p ++
      typeViolations m p ++ encryptionViolations m p ++ backupViolations m p
  else []

end Policy

section Cloud

def providerRegions (provider : Provider) (cloud : CloudContext) : List String :=
  (cloud.activeAccounts.filter fun a => a.provider == provider).flatMap CloudAccountContext.supportedRegions

-- `getattr(resource, "count", 1)`
def requestedCount : Resource → Int
  | .ec2 r => r.count.val
  | _ => 1

def requestedByType (resources : List Resource) : List (String × Int) :=
  (fromKeys (resources.map Resource.type)).map fun t =>
    (t, ((resources.filter fun r => r.type == t).map requestedCount).sum)

def exceedsQuota (requested : List (String × Int)) (a : CloudAccountContext) : Bool :=
  match a.quotaLimits with
  | none => false
  | some limits => requested.any fun r =>
    match limits.lookup r.1 with
    | none => false
    | some quota => (PyFloat.finite quota).ltInt (((a.resourceCounts.getD []).lookup r.1).getD 0 + r.2)

def existingNames (m : DraftedManifest) (cloud : CloudContext) : List String :=
  (cloud.existingResources.filter fun r => truthy r.name && r.provider.all (· == m.manifest.val.provider) &&
    r.region.all (· == m.region)).filterMap fun r => r.name.map PyFormat.casefold

def cloudError (m : DraftedManifest) (cloud : CloudContext) : Option String :=
  let provider := m.manifest.val.provider
  let resources := m.manifest.val.resources.val
  let verified := orElse (providerRegions provider cloud) cloud.regions
  if !cloud.connectedProviders.contains provider then some "The proposed provider is not connected to this workspace."
  else if !verified.isEmpty && !verified.contains m.region then
    some "The proposed region is not verified for the connected workspace account."
  else if resources.any fun r => (existingNames m cloud).contains (PyFormat.casefold r.name) then
    some "The proposed manifest reuses a resource name that already exists in this workspace."
  else if cloud.activeAccounts.any fun a => a.provider == provider && exceedsQuota (requestedByType resources) a then
    some "The proposed resource count exceeds a reported workspace quota."
  else none

def manifestCloudContextError (m : DraftedManifest) (context : Option ExecutionContext) : Option String :=
  context.bind fun c => cloudError m c.cloudContext

end Cloud

end Provisr.Agent
